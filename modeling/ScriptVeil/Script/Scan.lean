import ScriptVeil.Literal.Decoding
import ScriptVeil.Script.Scan.Name
import ScriptVeil.Script.Scan.Number
import ScriptVeil.Script.Scan.Quoted
import ScriptVeil.Script.Scan.Surroundings

namespace ScriptVeil.Script

/-- What the parsed code around a token decides: whether it is strict, and which words are reserved
there. -/
structure ScanMode where
  strict : Bool
  reserved : Text → Bool

structure Scan where
  lexeme : Option Lexeme
  after : Cursor
  notes : List Diagnostic

/-- The word at a cursor. A reserved word must not be written with escapes. -/
def wordAt (mode : ScanMode) (c : Cursor) : Reading Token :=
  (nameAt c).andThen fun word after =>
    if word.escaped && mode.reserved word.name then
      .failed ⟨.escapedReservedWord word.name, ⟨c.offset, after.offset⟩⟩ after []
    else .done (.word word.name) after []

def punctuatorAt (c : Cursor) : Reading Token :=
  match punctuators.find? fun p => p.1.isPrefixOf c.rest with
  | some (text, token) => .done token (c.advance text.length) []
  | none =>
    match c.rest with
    | [] => .failed ⟨.endOfText, ⟨c.offset, c.offset⟩⟩ c []
    | ch :: _ => .failed ⟨.strayCharacter ch, ⟨c.offset, c.offset⟩⟩ (c.advance 1) []

/-- The conflict marker in front of a common ancestor, at a cursor. Unlike the other ones it spoils
a token, which reaches over the gap behind it. -/
def ancestorMarkerAt (c : Cursor) : Reading Token :=
  let gap := gapFrom .lineComment ⟨false, none, []⟩ c.offset c.rest
  .failed ⟨.conflictMarker, ⟨c.offset, c.offset + 7⟩⟩ gap.after
    (⟨.conflictMarker, c.offset⟩ :: gap.notes)

def tokenAt (mode : ScanMode) (newline : Bool) (c : Cursor) : Reading Token :=
  match c.rest with
  | [] => punctuatorAt c
  | ch :: t =>
    if Literal.isQuote ch then stringAt mode.strict ch c
    else if isDigitOf 10 ch || (ch = '.' && t.head?.any (isDigitOf 10)) then numberAt mode.strict c
    else if isNameStart ch || ch = '\\' then wordAt mode c
    else if newline && "||||||| ".toList.isPrefixOf c.rest then ancestorMarkerAt c
    else punctuatorAt c

/-- A token that was read, good or bad, as a lexeme that starts at `start`. -/
def Reading.scan (newline : Bool) (start : Nat) : Reading Token → Scan
  | .done token after notes => ⟨some ⟨token, ⟨start, after.offset⟩, newline⟩, after, notes⟩
  | .failed flaw after notes => ⟨some ⟨.bad flaw, ⟨start, after.offset⟩, newline⟩, after, notes⟩

/-- Skips the gap at a cursor and reads the token behind it. Behind an HTML-like comment or a
conflict marker a token starts where that does. -/
def scan (mode : ScanMode) (atStart : Bool) (c : Cursor) : Scan :=
  let gap := gapAt atStart c
  if gap.after.rest = [] then ⟨none, gap.after, gap.notes⟩
  else
    ((tokenAt mode gap.newline gap.after).behind gap.notes).scan gap.newline
      (gap.markupStart.getD gap.after.offset)

/-- Reads a token inside a template: a text, even an empty one, and then the mark behind it. -/
def scanTemplate (around : Surroundings) (c : Cursor) : Scan :=
  let token : Reading Token := match around.previous, templateMark? c.rest with
    | some (.template _ _), some m => .done (.mark m) (c.advance m.text.length) []
    | _, _ => templateTextAt around.templateStart c
  if c.rest = [] then ⟨none, c, []⟩ else token.scan false c.offset

end ScriptVeil.Script
