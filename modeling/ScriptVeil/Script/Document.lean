import ScriptVeil.Script.Finding
import ScriptVeil.Script.Parse
import ScriptVeil.Script.Site

namespace ScriptVeil.Script

/-- The text of a script behind the byte order mark that it may start with, and the statements of
that text. -/
structure Document where
  marked : Bool
  source : Text
  body : List TopLevel

/-- What comes of reading a script: the document or the fault that ended it, and the tokens and
mistakes met on the way. -/
structure ReadResult where
  document : Except Fault Document
  tokens : List Lexeme
  mistakes : List Fault

namespace Document

def read (input : Text) : ReadResult :=
  let source := withoutMark input
  let outcome := parse source
  ⟨outcome.body.map fun body => ⟨input.head? = some byteOrderMark, source, body⟩,
    outcome.tokens, outcome.mistakes⟩

def mark (d : Document) : Text :=
  if d.marked then [byteOrderMark] else []

def stmts (d : Document) : List Stmt :=
  d.body.map TopLevel.stmt

def sites (d : Document) : List Site :=
  sitesOfStmts d.stmts

def candidates (d : Document) : Candidates :=
  candidatesOf d.source (findingsOfStmts d.stmts)

/-- The candidates as a run collects them: offsets that do not fit the source break it off. -/
def candidates? (d : Document) : Option Candidates :=
  candidatesOf? d.source (findingsOfStmts d.stmts)

end Document

end ScriptVeil.Script
