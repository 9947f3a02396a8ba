import ScriptVeil.Script.Scan.Name
import ScriptVeil.Script.Token

namespace ScriptVeil.Script

/-- Reads the body of a string behind `seen` (backwards), for at most `steps` characters and
escapes. The value says whether the closing quote was found. -/
def stringFrom (strict : Bool) (quote : Char) : Nat → Text → Cursor → Reading (Text × Bool)
  | 0, seen, c => .done (seen.reverse, false) c []
  | steps + 1, seen, c =>
    match c.rest with
    | [] => .done (seen.reverse, false) c []
    | ch :: _ =>
      if ch = quote then .done (seen.reverse, true) (c.advance 1) []
      else if ch = '\n' ∨ ch = '\r' then .done (seen.reverse, false) c []
      else if ch = '\\' then
        (escapeAt strict false c).andThen fun chars after =>
          stringFrom strict quote steps (chars.reverse ++ seen) after
      else stringFrom strict quote steps (ch :: seen) (c.advance 1)

/-- The string literal at a cursor. Without a closing quote it ends with its line. -/
def stringAt (strict : Bool) (quote : Char) (c : Cursor) : Reading Token :=
  (stringFrom strict quote (c.rest.length + 1) [] (c.advance 1)).andThen
    fun (value, closed) after =>
    .done (.string value (c.textTo after)) after
      (if closed then [] else [⟨.unterminatedString, c.offset⟩])

def regexLength? (escaped inClass : Bool) : Text → Option Nat
  | [] => none
  | c :: t =>
    if isLineEnd c then none
    else if escaped then (regexLength? false inClass t).map (· + 1)
    else if c = '/' ∧ !inClass then some 0
    else
      (regexLength? (c = '\\') (if c = '[' then true else if c = ']' then false else inClass) t).map
        (· + 1)

/-- A regular expression, read from behind its opening slash at `slash`. Its flags are written like
a name. -/
def regexAt (slash : Nat) (c : Cursor) : Reading Token :=
  match regexLength? false false c.rest with
  | none =>
    let after := c.skipWhile (!isLineEnd ·)
    .failed ⟨.unterminatedRegex, ⟨slash, after.offset⟩⟩ after []
  | some n =>
    let body := c.rest.take n
    let flags := c.advance (n + 1)
    if flags.rest.head?.any isNameStart then
      (nameAt flags).andThen fun flags after => .done (.regex body flags.name) after []
    else .done (.regex body []) flags []

def templateMark? : Text → Option Mark
  | '\x60' :: _ => some .backtick
  | '$' :: '{' :: _ => some .placeholder
  | _ => none

/-- Reads the text of a template for at most `steps` characters and escapes, up to the mark behind
it. The value is the last flaw of its escapes. -/
def templateTextFrom : Nat → Option Flaw → Cursor → Reading (Option Flaw)
  | 0, flaw, c => .done flaw c []
  | steps + 1, flaw, c =>
    match c.rest with
    | [] => .done flaw c []
    | ch :: _ =>
      if (templateMark? c.rest).isSome then .done flaw c []
      else if ch = '\\' then
        match escapeAt false true c with
        | .failed new after notes => (templateTextFrom steps (some new) after).behind notes
        | .done _ after notes => (templateTextFrom steps flaw after).behind notes
      else templateTextFrom steps flaw (c.advance 1)

def templateTextAt (start : Nat) (c : Cursor) : Reading Token :=
  (templateTextFrom (c.rest.length + 1) none c).andThen fun flaw after =>
    if after.rest = [] then .failed ⟨.unterminatedTemplate, ⟨start, after.offset⟩⟩ after []
    else .done (.template (c.textTo after) flaw) after []

end ScriptVeil.Script
