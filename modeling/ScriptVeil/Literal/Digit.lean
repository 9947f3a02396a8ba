import ScriptVeil.Literal.Units

namespace ScriptVeil.Literal

def isHexDigit (c : Char) : Bool :=
  ('0' ≤ c && c ≤ '9') || ('a' ≤ c && c ≤ 'f') || ('A' ≤ c && c ≤ 'F')

def isOctalDigit (c : Char) : Bool :=
  '0' ≤ c ∧ c ≤ '7'

def hexValue? (c : Char) : Option Nat :=
  if '0' ≤ c ∧ c ≤ '9' then some (c.toNat - '0'.toNat)
  else if 'a' ≤ c ∧ c ≤ 'f' then some (c.toNat - 'a'.toNat + 10)
  else if 'A' ≤ c ∧ c ≤ 'F' then some (c.toNat - 'A'.toNat + 10)
  else none

/-- The number that digits spell in base `base`; a character that is no digit counts as zero. -/
def digitsValue (base : Nat) (digits : Text) : Nat :=
  digits.foldl (fun n c => n * base + (hexValue? c).getD 0) 0

def digit? (base : Nat) (c : Char) : Option UInt32 :=
  ((hexValue? c).filter (· < base)).map Nat.toUInt32

def checkedMul? (a b : UInt32) : Option UInt32 :=
  if a.toNat * b.toNat < UInt32.size then some (a * b) else none

def checkedAdd? (a b : UInt32) : Option UInt32 :=
  if a.toNat + b.toNat < UInt32.size then some (a + b) else none

/-- The digits of an octal escape: up to three if the first is at most 3, else up to two. -/
def octalDigits (first : Char) (t : Text) : Text :=
  (t.take (if first ≤ '3' then 2 else 1)).takeWhile isOctalDigit

end ScriptVeil.Literal
