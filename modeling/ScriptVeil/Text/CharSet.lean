import ScriptVeil.Text.Basic

namespace ScriptVeil

/-- Closed ranges of code points, in increasing order. -/
abbrev CharSet := List (Nat × Nat)

def CharSet.has (s : CharSet) (c : Char) : Bool :=
  s.any fun r => r.1 ≤ c.toNat && c.toNat ≤ r.2

end ScriptVeil
