import ScriptVeil.Script.Scan.DigitRun
import ScriptVeil.Script.Scan.Gap

namespace ScriptVeil.Script

def charOfCode? (code : Nat) : Option Char :=
  if Nat.isValidChar code then some (Char.ofNat code) else none

/-- A braced Unicode escape, read from behind its brace. A code point that is no character, that is
half of a surrogate pair, stays as it is written, up to six characters of it. -/
def bracedEscapeAt (c : Cursor) : Reading Text :=
  let run := digitRun 16 (fun run => run.value ≥ Nat.pow 2 32) c
  let notes := run.notes c
  let fault (form : EscapeForm) : Reading Text :=
    .failed ⟨.badEscape form, ⟨run.after.offset, run.after.offset⟩⟩ run.after notes
  if run.count = 0 ∨ run.value ≥ Nat.pow 2 32 then fault .braced
  else if run.value > 0x10FFFF then fault .bracedInRange
  else
    let (chars, after) := match charOfCode? run.value with
      | some ch => ([ch], run.after)
      | none =>
        let written := (c.rest.takeWhile (· ≠ '\x7d')).take 6
        ("\\u\x7b".toList ++ written ++ ['\x7d'], c.advance written.length)
    if after.rest.head? = some '\x7d' then .done chars (after.advance 1) notes
    else .failed ⟨.unclosedEscape, ⟨c.offset, after.offset⟩⟩ after notes

/-- A Unicode escape of four digits, read from behind its `u`. A code point that is no character
stays as it is written. -/
def fourDigitEscapeAt (c : Cursor) : Reading Text :=
  let run := digitRun 16 (fun run => run.count = 4) c
  if run.count < 4 then
    .failed ⟨.badEscape .four, ⟨run.after.offset, run.after.offset⟩⟩ run.after (run.notes c)
  else
    match charOfCode? run.value with
    | some ch => .done [ch] run.after (run.notes c)
    | none => .done ("\\u".toList ++ c.rest.take 4) (c.advance 4) (run.notes c)

/-- A Unicode escape, read from behind its `u`. A bad one is at fault where reading stops. -/
def unicodeEscapeAt (c : Cursor) : Reading Text :=
  match c.rest with
  | '{' :: _ => bracedEscapeAt (c.advance 1)
  | _ => fourDigitEscapeAt c

/-- A hexadecimal escape, read from behind its `x`; the flaw lies from the backslash on. -/
def hexEscapeAt (backslash : Nat) (c : Cursor) : Reading Text :=
  let run := digitRun 16 (fun run => run.count = 2) c
  if run.count < 2 then
    .failed ⟨.badEscape .two, ⟨backslash, run.after.offset⟩⟩ run.after (run.notes c)
  else .done [Char.ofNat run.value] run.after (run.notes c)

/-- The escape of an octal code, read from its first digit. It is a mistake in strict code and
a flaw in templates; a zero alone is neither. -/
def octalEscapeAt (strict inTemplate : Bool) (backslash : Nat) (first : Char) (c : Cursor) :
    Reading Text :=
  let more := Literal.octalDigits first (c.rest.drop 1)
  let after := c.advance (1 + more.length)
  let value := [Char.ofNat (Literal.digitsValue 8 (first :: more))]
  if first = '0' ∧ more = [] then .done value after []
  else if inTemplate then .failed ⟨.legacyOctal, ⟨backslash, after.offset⟩⟩ after []
  else .done value after (if strict then [⟨.legacyOctal, backslash⟩] else [])

def escapeAt (strict inTemplate : Bool) (c : Cursor) : Reading Text :=
  let body := c.advance 1
  match body.rest with
  | [] => .failed ⟨.danglingBackslash, ⟨c.offset, c.offset⟩⟩ body []
  | 'n' :: _ => .done ['\n'] (body.advance 1) []
  | 'r' :: _ => .done ['\r'] (body.advance 1) []
  | 't' :: _ => .done ['\t'] (body.advance 1) []
  | 'b' :: _ => .done ['\x08'] (body.advance 1) []
  | 'v' :: _ => .done ['\x0b'] (body.advance 1) []
  | 'f' :: _ => .done ['\x0c'] (body.advance 1) []
  | '\r' :: '\n' :: _ => .done [] (body.advance 2) []
  | 'x' :: _ => hexEscapeAt c.offset (body.advance 1)
  | 'u' :: _ =>
    match unicodeEscapeAt (body.advance 1) with
    | .failed flaw after notes => .failed ⟨flaw.cause, ⟨c.offset, after.offset⟩⟩ after notes
    | result => result
  | ch :: _ =>
    if isLineEnd ch then .done [] (body.advance 1) []
    else if Literal.isOctalDigit ch then octalEscapeAt strict inTemplate c.offset ch body
    else .done [ch] (body.advance 1) []

end ScriptVeil.Script
