import ScriptVeil.Mask.Keystream
import ScriptVeil.Masking.Strategy
import ScriptVeil.Text.Terminal

namespace ScriptVeil

inductive Level where
  | warn
  | debug
  | trace
deriving DecidableEq, Repr

def Level.text : Level → String
  | .warn => "WARN"
  | .debug => "DEBUG"
  | .trace => "TRACE"

inductive Event where
  | mistake (fault : Script.Fault)
  | collected (functions vars literals : Nat)
  | declaration (d : Declaration)
  | literal (q : Quotation)
  | rename (r : Rename)
deriving DecidableEq, Repr

inductive EventValue where
  | number (n : Nat)
  | text (t : Text)
deriving DecidableEq, Repr

def EventValue.shown : EventValue → Text
  | .number n => Nat.toDigits 10 n
  | .text t => t

def Category.text : Category → String
  | .function => "Function"
  | .variable => "Variable"

def Span.shown (s : Span) : Text :=
  Nat.toDigits 10 s.start ++ "..".toList ++ Nat.toDigits 10 s.stop

namespace Event

def level : Event → Level
  | mistake _ => .warn
  | collected _ _ _ => .debug
  | declaration _ | literal _ | rename _ => .trace

def message : Event → String
  | mistake fault => "recovered from syntax error: " ++ fault.cause.message
  | collected _ _ _ => "collected candidates"
  | declaration _ => "declaration"
  | literal _ => "literal"
  | rename _ => "rename"

def fields : Event → List (String × EventValue)
  | mistake fault => [("line", .number fault.position.line),
    ("column", .number fault.position.column)]
  | collected functions vars literals =>
    [("functions", .number functions), ("variables", .number vars),
      ("literals", .number literals)]
  | declaration d =>
    [("name", .text d.name), ("category", .text d.category.text.toList),
      ("at", .text d.span.shown)]
  | literal q => [("raw", .text q.raw), ("at", .text q.span.shown)]
  | rename r => [("name", .text r.name), ("token", .text r.mask)]

def line (e : Event) : Text :=
  e.level.text.toList ++ ' ' :: Text.withControlsShown e.message.toList
    ++ e.fields.flatMap (fun (name, value) => ' ' :: name.toList ++ '=' :: value.shown) ++ ['\n']

end Event

/-- Why a script cannot be obfuscated: it has a syntax error, no mask could be drawn for one of its
names, or the run was broken off where offsets of the tree do not fit the text. -/
inductive Refusal where
  | syntaxError (fault : Script.Fault)
  | noMask
  | panic
deriving DecidableEq, Repr

structure Obfuscation where
  events : List Event
  result : Except Refusal Text

namespace Obfuscation

def renamesFor (seed : UInt64) (c : Candidates) (attempts : Nat := Mask.attemptLimit) :
    Option (List Rename) :=
  (Masking.plan (Mask.Source.ofDraws (Mask.seededDraw seed)) c.declarations 0 attempts).map
    Prod.fst

def candidateEvents (c : Candidates) : List Event :=
  .collected c.functions.length c.vars.length c.literals.length
    :: c.declarations.map .declaration ++ c.literals.map .literal

def ofDocument (strategy : Strategy) (seed : UInt64) (d : Script.Document)
    (attempts : Nat := Mask.attemptLimit) : Obfuscation :=
  match d.candidates? with
  | none => ⟨[], .error .panic⟩
  | some c =>
    match renamesFor seed c attempts with
    | none => ⟨candidateEvents c, .error .noMask⟩
    | some renames =>
      ⟨candidateEvents c ++ renames.map .rename,
        match Masking.run? strategy d renames c.literals with
        | none => .error .panic
        | some t => .ok t⟩

end Obfuscation

/-- The run over a script. Each mask is drawn within a number of attempts. -/
def obfuscate (strategy : Strategy) (seed : UInt64) (input : Text)
    (attempts : Nat := Mask.attemptLimit) : Obfuscation :=
  let r := Script.Document.read input
  let mistakes := r.mistakes.map Event.mistake
  match r.document with
  | .error fault => ⟨mistakes, .error (.syntaxError fault)⟩
  | .ok d =>
    let run := Obfuscation.ofDocument strategy seed d attempts
    ⟨mistakes ++ run.events, run.result⟩

/-- A refusal in two parts: what could not be done with the script of a given name, and why. -/
def Refusal.shown (path : Text) : Refusal → Text × Text
  | .syntaxError fault => ("Failed to parse ".toList ++ path, fault.shown path)
  | .noMask => ("Failed to mask ".toList ++ path, "no unreserved word was drawn".toList)
  | .panic => ("Broken off at ".toList ++ path, "a range is not on character boundaries".toList)

end ScriptVeil
