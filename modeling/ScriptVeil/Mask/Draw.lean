import ScriptVeil.Mask.Reserved

namespace ScriptVeil.Mask

/-- The characters of masks: ASCII letters without `d`, and the underscore. -/
def alphabet : Text := "abcefghijklmnopqrstuvwxyzABCDEFGHIJKLMNOPQRSTUVWXYZ_".toList

abbrev Letter := Fin alphabet.length

/-- A supply of alphabet letters with states of type `σ`; it may run dry. -/
structure Source (σ : Type) where
  next : σ → Option (Letter × σ)

variable {σ : Type}

def Source.word (source : Source σ) : Nat → σ → Option (Text × σ)
  | 0, s => some ([], s)
  | n + 1, s => do
    let (i, s) ← source.next s
    let (rest, s) ← source.word n s
    return (alphabet.get i :: rest, s)

/-- The first word of `n` letters that is not reserved, within a number of attempts. -/
def Source.mask (source : Source σ) (n : Nat) : Nat → σ → Option (Text × σ)
  | 0, _ => none
  | attempts + 1, s => do
    let (word, s) ← source.word n s
    if isReserved word then source.mask n attempts s else return (word, s)

def attemptLimit : Nat := 4096

/-- The letter of a 64-bit draw: the high half of its product with the alphabet's size, refused if
the low half falls into the part that would favour some letters. -/
def letterOfDraw? (draw : UInt64) : Option Letter :=
  let product := draw.toNat * alphabet.length
  if product % Nat.pow 2 64 ≤ alphabet.length * Nat.pow 2 58 - 1 then
    some ⟨product / Nat.pow 2 64, Nat.div_lt_of_lt_mul
      (Nat.mul_lt_mul_of_pos_right draw.toNat_lt (by decide))⟩
  else none

/-- The first accepted draw at or after a position, and the position behind it. -/
def acceptedDraw (draws : Nat → UInt64) : Nat → Nat → Option (Letter × Nat)
  | 0, _ => none
  | attempts + 1, i =>
    match letterOfDraw? (draws i) with
    | some letter => some (letter, i + 1)
    | none => acceptedDraw draws attempts (i + 1)

/-- The letters of an infinite sequence of draws; a state is the position of the next draw. -/
def Source.ofDraws (draws : Nat → UInt64) : Source Nat where
  next := acceptedDraw draws attemptLimit

end ScriptVeil.Mask
