import ScriptVeil.Literal.Digit

namespace ScriptVeil.Script

/-- The number `digits · 10 ^ exponent`. -/
structure Decimal where
  digits : Nat
  exponent : Int
deriving DecidableEq, Repr

namespace Decimal

def plain (d : Decimal) : Text :=
  let digits := Nat.toDigits 10 d.digits
  if d.exponent ≥ 0 then digits ++ List.replicate d.exponent.toNat '0'
  else
    let places := (-d.exponent).toNat
    let padded := List.replicate (places + 1 - digits.length) '0' ++ digits
    let whole := padded.take (padded.length - places)
    let fraction := ((padded.drop whole.length).reverse.dropWhile (· = '0')).reverse
    if fraction = [] then whole else whole ++ '.' :: fraction

def quotient (d : Decimal) : Nat × Nat :=
  if d.exponent ≥ 0 then (d.digits * Nat.pow 10 d.exponent.toNat, 1)
  else (d.digits, Nat.pow 10 (-d.exponent).toNat)

end Decimal

/-- The quotient rounded to the nearest integer, a tie to the even one. -/
def roundDiv (num den : Nat) : Nat :=
  let q := num / den
  let r := num % den
  if 2 * r < den then q
  else if 2 * r = den then q + q % 2
  else q + 1

/-- The double-precision number `significand · 2 ^ exponent`. -/
structure Binary64 where
  significand : Nat
  exponent : Int
deriving DecidableEq, Repr

namespace Binary64

def quotient (x : Binary64) : Nat × Nat :=
  if x.exponent ≥ 0 then (x.significand * Nat.pow 2 x.exponent.toNat, 1)
  else (x.significand, Nat.pow 2 (-x.exponent).toNat)

def scaled (num den : Nat) (e : Int) : Nat × Nat :=
  if e ≥ 0 then (num, den * Nat.pow 2 e.toNat) else (num * Nat.pow 2 (-e).toNat, den)

/-- The number nearest to a positive quotient, or nothing beyond the largest finite one. -/
def nearest? (num den : Nat) : Option Binary64 :=
  let guess : Int := (num.log2 : Int) - (den.log2 : Int) - 52
  let fits (e : Int) : Bool := let (n, d) := scaled num den e; n / d < Nat.pow 2 53
  let e := if fits (guess - 1) then guess - 1 else if fits guess then guess else guess + 1
  let e := max e (-1074)
  let (n, d) := scaled num den e
  let m := roundDiv n d
  let (m, e) := if m = Nat.pow 2 53 then (Nat.pow 2 52, e + 1) else (m, e)
  if e > 971 then none else some ⟨m, e⟩

/-- Whether a decimal rounds to `x`: it lies between the midpoints to the neighbours of `x`, which
belong to `x` if its significand is even. -/
def covers (x : Binary64) (d : Decimal) : Bool :=
  let (dn, dd) := d.quotient
  -- four times the significand, so that the midpoints are integers
  let unit : Binary64 := ⟨1, x.exponent - 2⟩
  let (un, ud) := unit.quotient
  let below := if x.significand = Nat.pow 2 52 ∧ x.exponent > -1074 then 1 else 2
  let low := (4 * x.significand - below) * un
  let high := (4 * x.significand + 2) * un
  if x.significand % 2 = 0 then low * dd ≤ dn * ud && dn * ud ≤ high * dd
  else low * dd < dn * ud && dn * ud < high * dd

/-- The decimals with `n` digits on either side of `x`, where `magnitude` is the number of digits
before the point; the nearer one first. -/
def neighbours (x : Binary64) (magnitude : Int) (n : Nat) : List Decimal :=
  let e := magnitude - n
  let (xn, xd) := x.quotient
  let (num, den) :=
    if e ≥ 0 then (xn, xd * Nat.pow 10 e.toNat) else (xn * Nat.pow 10 (-e).toNat, xd)
  let k := num / den
  if 2 * (num % den) ≤ den then [⟨k, e⟩, ⟨k + 1, e⟩] else [⟨k + 1, e⟩, ⟨k, e⟩]

/-- The number of decimal digits before the point; for numbers below one, minus the number of
zeros behind it. -/
def magnitude (x : Binary64) : Int :=
  let (num, den) := x.quotient
  if num ≥ den then (Nat.toDigits 10 (num / den)).length
  else
    let inverse := (den + num - 1) / num
    let places := (Nat.toDigits 10 inverse).length
    if inverse = Nat.pow 10 (places - 1) then 2 - (places : Int) else 1 - (places : Int)

def shortest (x : Binary64) : Decimal :=
  let tries := (List.range 17).flatMap fun i => x.neighbours x.magnitude (i + 1)
  match tries.find? x.covers with
  | some d => d
  | none => ⟨0, 0⟩

end Binary64

def Decimal.valueText (d : Decimal) : Text :=
  let size : Int := (Nat.toDigits 10 d.digits).length + d.exponent
  if d.digits = 0 ∨ size < -400 then ['0']
  else if size > 400 then "inf".toList
  else
    let (num, den) := d.quotient
    match Binary64.nearest? num den with
    | none => "inf".toList
    | some x => if x.significand = 0 then ['0'] else x.shortest.plain

def splitExponent (t : Text) : Text × Int :=
  let isMark (c : Char) : Bool := c = 'e' || c = 'E'
  match t.dropWhile (!isMark ·) with
  | _ :: '-' :: digits => (t.takeWhile (!isMark ·), -(Literal.digitsValue 10 digits : Int))
  | _ :: '+' :: digits => (t.takeWhile (!isMark ·), Literal.digitsValue 10 digits)
  | _ :: digits => (t.takeWhile (!isMark ·), Literal.digitsValue 10 digits)
  | [] => (t, 0)

def markedValue? : Text → Option Nat
  | '0' :: 'x' :: t | '0' :: 'X' :: t => some (Literal.digitsValue 16 t)
  | '0' :: 'o' :: t | '0' :: 'O' :: t => some (Literal.digitsValue 8 t)
  | '0' :: 'b' :: t | '0' :: 'B' :: t => some (Literal.digitsValue 2 t)
  | _ => none

def legacyOctalValue? : Text → Option Nat
  | '0' :: c :: t =>
    if (c :: t).all Literal.isOctalDigit then some (Literal.digitsValue 8 (c :: t)) else none
  | _ => none

/-- The value of a number as it is written, in plain decimal notation. -/
def numeralText (raw : Text) : Text :=
  let raw := raw.filter (· ≠ '_')
  match (markedValue? raw).or (legacyOctalValue? raw) with
  | some n => Decimal.valueText ⟨n, 0⟩
  | none =>
    let (mantissa, exponent) := splitExponent raw
    let whole := mantissa.takeWhile (· ≠ '.')
    let fraction := (mantissa.dropWhile (· ≠ '.')).drop 1
    Decimal.valueText ⟨Literal.digitsValue 10 (whole ++ fraction), exponent - fraction.length⟩

/-- The value of a big integer as it is written, without its mark. Leading zeros do not make it
octal. -/
def bigNumeralText (raw : Text) : Text :=
  let raw := raw.filter (· ≠ '_')
  Nat.toDigits 10 ((markedValue? raw).getD (Literal.digitsValue 10 raw))

end ScriptVeil.Script
