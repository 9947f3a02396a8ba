import ScriptVeil.Literal.Digit
import ScriptVeil.Script.Cursor

namespace ScriptVeil.Script

def isDigitOf (radix : Nat) (c : Char) : Bool :=
  (Literal.hexValue? c).any (· < radix)

/-- A run of digits as far as it has been read: how many digits it has, their value, the number of
misplaced separators and the place behind it. -/
structure DigitRun where
  count : Nat
  value : Nat
  misplaced : Nat
  after : Cursor
deriving DecidableEq, Repr

/-- Reads on in a run until it is full or no digit follows. A separator has to stand between digits,
though right behind another separator only the digit after it counts. -/
def digitRunFrom (radix : Nat) (isFull : DigitRun → Bool) : Text → DigitRun → DigitRun
  | [], run => run
  | c :: t, run =>
    if isFull run then run
    else if c = '_' then
      let fits := run.count ≠ 0 && t.head?.any (isDigitOf radix)
      digitRunFrom radix isFull t
        { run with
          misplaced := run.misplaced + (if fits then 0 else 1), after := run.after.advance 1 }
    else
      match (Literal.hexValue? c).filter (· < radix) with
      | some digit =>
        digitRunFrom radix isFull t
          { run with
            count := run.count + 1, value := radix * run.value + digit,
            after := run.after.advance 1 }
      | none => run

def digitRun (radix : Nat) (isFull : DigitRun → Bool) (c : Cursor) : DigitRun :=
  digitRunFrom radix isFull c.rest ⟨0, 0, 0, c⟩

def DigitRun.notes (run : DigitRun) (start : Cursor) : List Diagnostic :=
  List.replicate run.misplaced ⟨.misplacedSeparator, start.offset⟩

end ScriptVeil.Script
