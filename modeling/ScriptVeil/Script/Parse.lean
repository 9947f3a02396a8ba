import ScriptVeil.Script.Parser.Nesting
import ScriptVeil.Text.Position

namespace ScriptVeil.Script

def byteOrderMark : Char := '\uFEFF'

def withoutMark : Text → Text
  | [] => []
  | c :: t => if c = byteOrderMark then t else c :: t

structure Fault where
  cause : Cause
  position : Position
deriving DecidableEq, Repr

/-- A fault in a script of the given name, in the form `name:line:column: text`. -/
def Fault.shown (path : Text) (f : Fault) : Text :=
  path ++ ':' :: Nat.toDigits 10 f.position.line ++ ':' :: Nat.toDigits 10 f.position.column
    ++ ": ".toList ++ f.cause.message.toList

def Diagnostic.locate (t : Text) (d : Diagnostic) : Fault :=
  ⟨d.cause, t.position d.offset⟩

/-- The statements of a script or the fault that ended parsing, the tokens that were taken, and the
mistakes that were tolerated on the way, both in the order in which they were met. -/
structure Outcome where
  body : Except Fault (List TopLevel)
  tokens : List Lexeme
  mistakes : List Fault

/-- The state in front of a text. A first line that starts with `#!` is skipped. -/
def initialState (t : Text) : State :=
  let start : Cursor := ⟨t, 0⟩
  let cursor := if "#!".toList.isPrefixOf t then start.skipWhile (!isLineEnd ·) else start
  { cursor, atStart := true, surroundings := .ofScript, ahead := none, second := none,
    last := ⟨0, cursor.offset⟩, taken := [], openRegex := none, notes := [] }

/-- Parses a script. A byte order mark at its start is skipped and not counted in offsets. -/
def parse (source : Text) : Outcome :=
  let t := withoutMark source
  let script := Parser.statements (Parser.grammar (Parser.depthFor t)) .topLevel false true
  match script { limit := t.length + 2 } (initialState t) with
  | .ok body s => ⟨.ok body, s.taken.reverse, s.notes.reverse.map (·.locate t)⟩
  | .error fault s =>
    ⟨.error (fault.locate t), s.taken.reverse, s.notes.reverse.map (·.locate t)⟩

end ScriptVeil.Script
