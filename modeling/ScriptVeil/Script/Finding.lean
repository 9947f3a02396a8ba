import ScriptVeil.Candidate
import ScriptVeil.Literal.Decoding
import ScriptVeil.Script.Tree

namespace ScriptVeil.Script

inductive Finding where
  | declared (category : Category) (id : Ident)
  | quoted (lit : StringLit)
deriving DecidableEq, Repr

/-- The string literals that stand directly in a list of arguments. -/
def quotedArguments (args : List Expr) : List Finding :=
  args.filterMap fun
    | .string lit => some (.quoted lit)
    | _ => none

/-- The string literals of an initial value: itself, or the arguments of a constructor call. -/
def quotedInitial : Expr → List Finding
  | .string lit => [.quoted lit]
  | .new _ _ args => quotedArguments args
  | _ => []

/-- What a variable statement declares, if it declares exactly one plain name. -/
def declaredVariable : List Expr → List Finding
  | [.name id] => [.declared .variable id]
  | [.withDefault (.name id) value] => .declared .variable id :: quotedInitial value
  | _ => []

mutual

/-- The findings of a statement, in source order. Statements are reached through blocks, branches,
clauses, loop bodies, labels and the bodies of function declarations; loop heads, classes and
functions in expressions are not entered. -/
def Stmt.findings : Stmt → List Finding
  | .expr (.call _ args) => quotedArguments args
  | .vars declarators => declaredVariable declarators
  | .functionDecl name _ body => .declared .function name :: findingsOfStmts body
  | .block body => findingsOfStmts body
  | .tryCatch body _ handler finalizer =>
    findingsOfStmts body ++ findingsOfStmts handler ++ findingsOfStmts finalizer
  | .ifElse _ yes no => yes.findings ++ no.findings
  | .switch _ clauses => findingsOfStmts clauses
  | .clause _ body => findingsOfStmts body
  | .while _ body => body.findings
  | .doWhile body _ => body.findings
  | .forLoop _ _ _ body => body.findings
  | .forEach _ _ body => body.findings
  | .labelled _ body => body.findings
  | .withObject _ body => body.findings
  | .empty | .debugger | .expr _ | .using _ | .classDecl _ _ _ | .breakTo _ | .continueTo _
  | .returns _
  | .throws _ | .recovered _ => []

def findingsOfStmts : List Stmt → List Finding
  | [] => []
  | s :: ss => s.findings ++ findingsOfStmts ss

end

def Finding.Cuts (source : Text) : Finding → Prop
  | .declared _ _ => True
  | .quoted lit => lit.span.Cuts source

instance Finding.decidableCuts (source : Text) (f : Finding) : Decidable (f.Cuts source) :=
  match f with
  | .declared _ _ => inferInstanceAs (Decidable True)
  | .quoted lit => inferInstanceAs (Decidable (lit.span.Cuts source))

/-- A string literal as it stands in the source. Where its text is not a well-formed literal, the
value that the reader made of it counts. -/
def StringLit.quotation (source : Text) (lit : StringLit) : Quotation :=
  let raw := source.slice lit.span
  ⟨raw, (Literal.decode raw).getD (Text.units lit.value), lit.span⟩

/-- What has been collected on the way through a script: the first of each name in either category
and the first of each raw text. -/
structure Collector where
  functions : Firsts Declaration
  vars : Firsts Declaration
  literals : Firsts Quotation

namespace Collector

def empty : Collector :=
  ⟨.empty, .empty, .empty⟩

def add (source : Text) (c : Collector) : Finding → Collector
  | .declared .function id =>
    { c with functions := c.functions.insert Declaration.name ⟨id.name, .function, id.span⟩ }
  | .declared .variable id =>
    { c with vars := c.vars.insert Declaration.name ⟨id.name, .variable, id.span⟩ }
  | .quoted lit => { c with literals := c.literals.insert Quotation.raw (lit.quotation source) }

def add? (source : Text) (c : Collector) (f : Finding) : Option Collector :=
  if f.Cuts source then some (c.add source f) else none

def candidates (c : Collector) : Candidates :=
  ⟨c.functions.elements, c.vars.elements, c.literals.elements⟩

end Collector

def candidatesOf (source : Text) (findings : List Finding) : Candidates :=
  (findings.foldl (Collector.add source) .empty).candidates

def candidatesOf? (source : Text) (findings : List Finding) : Option Candidates :=
  (findings.foldlM (Collector.add? source) .empty).map Collector.candidates

end ScriptVeil.Script
