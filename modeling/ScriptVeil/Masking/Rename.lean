import ScriptVeil.Candidate
import ScriptVeil.Mask.Draw

namespace ScriptVeil

structure Rename where
  name : Text
  mask : Text
  category : Category
deriving DecidableEq, Repr

namespace Masking

variable {σ : Type}

def drawRenames (source : Mask.Source σ) (attempts : Nat) :
    List Declaration → σ → Option (List Rename × σ)
  | [], s => some ([], s)
  | d :: ds, s => do
    let (mask, s) ← source.mask d.name.length attempts s
    let (rest, s) ← drawRenames source attempts ds s
    return (⟨d.name, mask, d.category⟩ :: rest, s)

/-- Longer names first; names of equal length keep their order. -/
def longestFirst (renames : List Rename) : List Rename :=
  renames.mergeSort fun a b => b.name.length ≤ a.name.length

/-- The rename map of a list of declarations. The first declaration of a name decides its category;
masks are drawn in the order of declaration, each within a number of attempts. -/
def plan (source : Mask.Source σ) (declarations : List Declaration) (s : σ)
    (attempts : Nat := Mask.attemptLimit) : Option (List Rename × σ) := do
  let (renames, s) ← drawRenames source attempts (firstsBy Declaration.name declarations) s
  return (longestFirst renames, s)

end Masking

end ScriptVeil
