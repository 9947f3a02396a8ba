import ScriptVeil.Script.Parser.Basic

namespace ScriptVeil.Script

/-- Where a statement stands: at the top level, in a list of statements, or alone as the body of
another one, where declarations are not allowed. -/
inductive StatementPlace where
  | topLevel
  | list
  | single
deriving DecidableEq, Repr

structure Grammar where
  statement : StatementPlace → Parser Stmt
  /-- Assignments separated by commas. -/
  expression : Parser Expr
  assignment : Parser Expr
  unary : Parser Expr
  /-- The binary operators behind an operand that bind more tightly than a level. -/
  operators : Expr → Nat → Parser Expr
  /-- A member access or a constructor call, without calls. -/
  construction : Parser Expr
  /-- A binding pattern or name; `let` may be ruled out as a name. -/
  binding : Bool → Parser Expr

end ScriptVeil.Script
