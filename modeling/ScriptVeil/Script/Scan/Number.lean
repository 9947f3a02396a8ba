import ScriptVeil.Script.NameChar
import ScriptVeil.Script.Scan.DigitRun
import ScriptVeil.Script.Token

namespace ScriptVeil.Script

/-- All the digits of a number that follow, with the mistakes among them; one of them is
required. -/
def digitsAt (radix : Nat) (c : Cursor) : Reading Unit :=
  let run := digitRun radix (fun _ => false) c
  if run.count = 0 then
    .failed ⟨.digitExpected radix, ⟨c.offset, run.after.offset⟩⟩ run.after (run.notes c)
  else .done () run.after (run.notes c)

/-- No identifier may start right behind a number. -/
def endNumber (token : Token) (after : Cursor) : Reading Token :=
  if after.rest.head?.any isNameStart then
    .failed ⟨.nameAfterNumber, ⟨after.offset, after.offset⟩⟩ after []
  else .done token after []

def radixNumber (radix : Nat) (start : Cursor) : Reading Token :=
  (digitsAt radix (start.advance 2)).andThen fun _ after =>
    if after.rest.head? = some 'n' then .done (.bigNumber (start.textTo after)) (after.advance 1) []
    else endNumber (.number (start.textTo after)) after

def exponentAt (start c : Cursor) : Reading Token :=
  if c.rest.head? = some 'e' ∨ c.rest.head? = some 'E' then
    let c := c.advance 1
    if c.rest = [] then .failed ⟨.exponentExpected, ⟨c.offset, c.offset⟩⟩ c []
    else
      let signed := c.rest.head? = some '+' ∨ c.rest.head? = some '-'
      (digitsAt 10 (if signed then c.advance 1 else c)).andThen fun _ after =>
        endNumber (.number (start.textTo after)) after
  else endNumber (.number (start.textTo c)) c

def fractionAt (start c : Cursor) : Reading Token :=
  if c.rest.head? = some '.' then
    let point := c.advance 1
    let run := digitRun 10 (fun _ => false) point
    (exponentAt start run.after).behind (run.notes point)
  else exponentAt start c

/-- A number without a radix mark that starts with a digit. More digits behind a leading zero make
it octal, or a legacy decimal if 8 or 9 is among them. -/
def decimalNumber (strict : Bool) (start : Cursor) : Reading Token :=
  (digitsAt 10 start).andThen fun _ after =>
    let digits := start.textTo after
    let strictNote (cause : Cause) : List Diagnostic :=
      if strict then [⟨cause, start.offset⟩] else []
    if after.rest.head? = some 'n' then .done (.bigNumber digits) (after.advance 1) []
    else if digits.head? ≠ some '0' ∨ digits.length = 1 then fractionAt start after
    else if digits.any fun ch => ch = '8' || ch = '9' then
      (fractionAt start after).behind (strictNote .legacyDecimal)
    else
      (endNumber (.number digits) after).andThen fun token after =>
        .done token after (strictNote .legacyOctal)

def numberAt (strict : Bool) (c : Cursor) : Reading Token :=
  match c.rest with
  | '0' :: 'x' :: _ | '0' :: 'X' :: _ => radixNumber 16 c
  | '0' :: 'o' :: _ | '0' :: 'O' :: _ => radixNumber 8 c
  | '0' :: 'b' :: _ | '0' :: 'B' :: _ => radixNumber 2 c
  | '.' :: _ => fractionAt c c
  | _ => decimalNumber strict c

end ScriptVeil.Script
