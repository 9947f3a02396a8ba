import Mathlib.Data.Nat.Digits.Lemmas
import ScriptVeil.Literal.Digit

namespace ScriptVeil.Literal

/-- The place of a character among the sixteen digits, in either case. -/
def digitOf (c : Char) : Nat :=
  "0123456789abcdef".toList.idxOf c.toLower

/-- The number that digits spell, the last of them standing for the ones. -/
def number (base : Nat) (digits : Text) : Nat :=
  Nat.ofDigits base (digits.reverse.map digitOf)

/-- The code point of one unit or of a surrogate pair. -/
def codeOfUnits? : Units → Option Nat
  | [u] => some u.toNat
  | [hi, lo] =>
    if 0xD800 ≤ hi.toNat ∧ hi.toNat < 0xDC00 ∧ 0xDC00 ≤ lo.toNat ∧ lo.toNat < 0xE000 then
      some (0x10000 + (hi.toNat - 0xD800) * 0x400 + (lo.toNat - 0xDC00))
    else none
  | _ => none

variable {base code : Nat} {s t : Text} {c : Char} {us : Units}

theorem not_le_of_large {c d : Char} (hc : ¬ c.toNat < 128) (hd : d.toNat < 128) : ¬ c ≤ d :=
  fun h => hc (Nat.lt_of_le_of_lt (UInt32.le_iff_toNat_le.1 h) hd)

theorem isHexDigit_of_large (hc : ¬ c.toNat < 128) : isHexDigit c = false := by
  have h9 : ¬ c ≤ '9' := not_le_of_large hc (by decide)
  have hf : ¬ c ≤ 'f' := not_le_of_large hc (by decide)
  have hF : ¬ c ≤ 'F' := not_le_of_large hc (by decide)
  simp [isHexDigit, h9, hf, hF]

theorem isOctalDigit_of_large (hc : ¬ c.toNat < 128) : isOctalDigit c = false := by
  have h7 : ¬ c ≤ '7' := not_le_of_large hc (by decide)
  simp [isOctalDigit, h7]

theorem hexValue?_eq (c : Char) :
    hexValue? c = if isHexDigit c then some (digitOf c) else none := by
  by_cases hc : c.toNat < 128
  · have hall : ∀ n < 128, hexValue? (Char.ofNat n)
        = if isHexDigit (Char.ofNat n) then some (digitOf (Char.ofNat n)) else none := by decide
    rw [← Char.ofNat_toNat c]
    exact hall _ hc
  · have h9 : ¬ c ≤ '9' := not_le_of_large hc (by decide)
    have hf : ¬ c ≤ 'f' := not_le_of_large hc (by decide)
    have hF : ¬ c ≤ 'F' := not_le_of_large hc (by decide)
    simp [hexValue?, isHexDigit_of_large hc, h9, hf, hF]

theorem digitOf_lt_of_isHexDigit (h : isHexDigit c = true) : digitOf c < 16 := by
  by_cases hc : c.toNat < 128
  · have hall : ∀ n < 128, isHexDigit (Char.ofNat n) = true → digitOf (Char.ofNat n) < 16 := by
      decide
    rw [← Char.ofNat_toNat c] at h ⊢
    exact hall _ hc h
  · rw [isHexDigit_of_large hc] at h
    contradiction

theorem digitOf_lt_of_isOctalDigit (h : isOctalDigit c = true) :
    digitOf c < 8 ∧ isHexDigit c = true := by
  by_cases hc : c.toNat < 128
  · have hall : ∀ n < 128, isOctalDigit (Char.ofNat n) = true →
        digitOf (Char.ofNat n) < 8 ∧ isHexDigit (Char.ofNat n) = true := by decide
    rw [← Char.ofNat_toNat c] at h ⊢
    exact hall _ hc h
  · rw [isOctalDigit_of_large hc] at h
    contradiction

theorem exists_digit? (h : isHexDigit c = true) (hlt : digitOf c < base) :
    ∃ d, digit? base c = some d ∧ d.toNat = digitOf c := by
  refine ⟨(digitOf c).toUInt32, ?_, ?_⟩
  · rw [digit?, hexValue?_eq, if_pos h]
    simp [Option.filter, hlt]
  · have := digitOf_lt_of_isHexDigit h
    exact UInt32.toNat_ofNat_of_lt' (Nat.lt_trans this (by decide))

theorem digit?_eq_none (h : isHexDigit c = false) : digit? base c = none := by
  rw [digit?, hexValue?_eq, h]
  rfl

theorem number_append (base : Nat) (s t : Text) :
    number base (s ++ t) = number base s * Nat.pow base t.length + number base t := by
  rw [number, number, number, List.reverse_append, List.map_append, Nat.ofDigits_append,
    List.length_map, List.length_reverse, Nat.mul_comm, Nat.add_comm]
  rfl

theorem number_concat (base : Nat) (s : Text) (c : Char) :
    number base (s ++ [c]) = number base s * base + digitOf c := by
  rw [number_append, List.length_singleton]
  simp [number]

theorem number_le_append (hbase : 0 < base) (s t : Text) :
    number base s ≤ number base (s ++ t) := by
  rw [number_append]
  exact Nat.le_trans (Nat.le_mul_of_pos_right _ (Nat.pow_pos hbase)) (Nat.le_add_right _ _)

theorem number_lt (hbase : 1 < base) (h : ∀ c ∈ s, digitOf c < base) :
    number base s < Nat.pow base s.length := by
  have hlt := Nat.ofDigits_lt_base_pow_length (b := base) (l := s.reverse.map digitOf) hbase (by
    intro d hd
    obtain ⟨c, hc, rfl⟩ := List.mem_map.1 hd
    exact h c (List.mem_reverse.1 hc))
  rwa [List.length_map, List.length_reverse] at hlt

theorem number_hex_lt (h : s.all isHexDigit = true) : number 16 s < Nat.pow 16 s.length :=
  number_lt (by decide) fun c hc => digitOf_lt_of_isHexDigit (List.all_eq_true.1 h c hc)

theorem number_octal_lt (h : s.all isOctalDigit = true) : number 8 s < Nat.pow 8 s.length :=
  number_lt (by decide) fun c hc => (digitOf_lt_of_isOctalDigit (List.all_eq_true.1 h c hc)).1

theorem digitsValue_eq_number (base : Nat) (h : s.all isHexDigit = true) :
    digitsValue base s = number base s := by
  induction s using List.reverseRecOn with
  | nil => rfl
  | append_singleton s c ih =>
    rw [List.all_append, Bool.and_eq_true, List.all_cons, List.all_nil, Bool.and_true] at h
    have hvalue : (hexValue? c).getD 0 = digitOf c := by rw [hexValue?_eq, if_pos h.2]; rfl
    rw [number_concat, ← ih h.1, ← hvalue, digitsValue, List.foldl_append]
    rfl

theorem codeOfUnits?_unitsOfCode (h : code ≤ 0x10FFFF) :
    codeOfUnits? (unitsOfCode code) = some code := by
  have hnat {n : Nat} (hn : n < 0x10000) : n.toUInt16.toNat = n := UInt16.toNat_ofNat_of_lt' hn
  rw [unitsOfCode]
  split
  · next hlt => rw [codeOfUnits?, hnat hlt]
  · next hge =>
    have hhi : (0xD800 + (code - 0x10000) / 0x400).toUInt16.toNat
        = 0xD800 + (code - 0x10000) / 0x400 := hnat (by omega)
    have hlo : (0xDC00 + (code - 0x10000) % 0x400).toUInt16.toNat
        = 0xDC00 + (code - 0x10000) % 0x400 := hnat (by omega)
    rw [codeOfUnits?, hhi, hlo, if_pos (by omega), Option.some.injEq]
    omega

theorem codeOfUnits?_eq_some_iff :
    codeOfUnits? us = some code ↔ code ≤ 0x10FFFF ∧ us = unitsOfCode code := by
  refine ⟨fun h => ?_, fun ⟨hle, hus⟩ => hus ▸ codeOfUnits?_unitsOfCode hle⟩
  match us, h with
  | [u], h =>
    obtain rfl := Option.some.inj h
    have hlt : u.toNat < 0x10000 := u.toNat_lt
    rw [unitsOfCode, if_pos hlt]
    exact ⟨by omega, by simp⟩
  | [hi, lo], h =>
    rw [codeOfUnits?] at h
    split at h
    · obtain rfl := Option.some.inj h
      refine ⟨by omega, ?_⟩
      rw [unitsOfCode, if_neg (by omega)]
      dsimp only
      rw [show 0xD800 + (0x10000 + (hi.toNat - 0xD800) * 0x400 + (lo.toNat - 0xDC00) - 0x10000)
          / 0x400 = hi.toNat by omega,
        show 0xDC00 + (0x10000 + (hi.toNat - 0xD800) * 0x400 + (lo.toNat - 0xDC00) - 0x10000)
          % 0x400 = lo.toNat by omega]
      simp
    · contradiction

theorem codeOfUnits?_char (c : Char) : codeOfUnits? (Text.units [c]) = some c.toNat := by
  have hle : c.toNat ≤ 0x10FFFF := by
    change c.val.toNat ≤ 0x10FFFF
    rcases c.valid with h | ⟨-, h⟩
    · exact Nat.le_of_lt (Nat.lt_trans h (by decide))
    · exact Nat.le_of_lt_succ h
  rw [Text.units, List.flatMap_singleton, codeOfUnits?_unitsOfCode hle]

end ScriptVeil.Literal
