import ScriptVeil.Script.Operator
import ScriptVeil.Text.Basic

namespace ScriptVeil.Script

/-- A use of an identifier: its name with escapes resolved, and the range as written. -/
structure Ident where
  name : Text
  span : Span
deriving DecidableEq, Repr

/-- A string literal: its value as far as a text can hold it, and its range. -/
structure StringLit where
  value : Text
  span : Span
deriving DecidableEq, Repr

/-- Expressions without parts that masking could touch. `hole` is a left-out array element;
`superRef` and `importRef` stand only at the head of calls and member accesses. -/
inductive Atom where
  | this
  | literal
  | metaProperty
  | superRef
  | importRef
  | hole
  | invalid
deriving DecidableEq, Repr

mutual

/-- An expression or, in the place of a target, a pattern. An `optional` access is `direct` if it
has a question mark of its own and not only one in its owner. -/
inductive Expr where
  | name (id : Ident)
  | string (lit : StringLit)
  | atom (kind : Atom) (start : Nat)
  | privateName (start : Nat) (word : Ident)
  | template (start : Nat) (parts : List Expr)
  | tagged (tag : Expr) (parts : List Expr)
  | array (start : Nat) (items : List Expr) (comma : Option Nat)
  | object (start : Nat) (members : List Member) (comma : Option Nat)
  | function (start : Nat) (name : Option Ident) (params : List Expr) (body : List Stmt)
  | arrow (start : Nat) (params : List Expr) (body : List Stmt)
  | classExpr (start : Nat) (name : Option Ident) (base : Option Expr) (members : List Member)
  | unary (start : Nat) (operand : Expr)
  | update (start : Nat) (operand : Expr)
  | await (start : Nat) (operand : Expr)
  | yield (start : Nat) (operand : Option Expr)
  | binary (op : BinaryOp) (left right : Expr)
  | assign (plain : Bool) (target value : Expr)
  | conditional (test yes no : Expr)
  | call (callee : Expr) (args : List Expr)
  | new (start : Nat) (callee : Expr) (args : List Expr)
  | newBare (start : Nat) (callee : Expr)
  | member (owner : Expr) (key : Key)
  | optional (direct : Bool) (inner : Expr)
  | sequence (first : Expr) (rest : List Expr)
  | paren (start : Nat) (inner : Expr)
  | spread (start : Nat) (value : Expr)
  | arrayPattern (start : Nat) (items : List Expr)
  | objectPattern (start : Nat) (members : List Member)
  | withDefault (target value : Expr)
  | rest (start : Nat) (target : Expr)

/-- The name of a member. Only a computed one is an expression; the word of a private name stands
behind a hash. -/
inductive Key where
  | word (id : Ident)
  | string (lit : StringLit)
  | number
  | privateWord (id : Ident)
  | computed (value : Expr)

/-- A member of an object literal, an object pattern or a class; accessors are methods. A
`shorthandTarget` binds the property it names, a `shorthandDefault` is the same form left in an
object literal. -/
inductive Member where
  | shorthand (id : Ident)
  | shorthandDefault (id : Ident) (value : Expr)
  | shorthandTarget (id : Ident) (value : Option Expr)
  | pair (start : Nat) (key : Key) (value : Expr)
  | method (start : Nat) (key : Key) (params : List Expr) (body : List Stmt)
  | spread (start : Nat) (value : Expr)
  | field (key : Key) (value : Option Expr)
  | staticBlock (body : List Stmt)

/-- A statement. Declarators are targets, with their initial value as default; the body of an
arrow function that is an expression returns it. Missing clauses are empty ones. `clause` is
a part of a `switch`, `recovered` a clause without its statement. -/
inductive Stmt where
  | empty
  | debugger
  | expr (value : Expr)
  | vars (declarators : List Expr)
  | using (declarators : List Expr)
  | functionDecl (name : Ident) (params : List Expr) (body : List Stmt)
  | classDecl (name : Ident) (base : Option Expr) (members : List Member)
  | block (body : List Stmt)
  | tryCatch (body : List Stmt) (param : Option Expr) (handler finalizer : List Stmt)
  | ifElse (test : Expr) (yes no : Stmt)
  | switch (subject : Expr) (clauses : List Stmt)
  | clause (test : Option Expr) (body : List Stmt)
  | while (test : Expr) (body : Stmt)
  | doWhile (body : Stmt) (test : Expr)
  | forLoop (head : Stmt) (test update : Option Expr) (body : Stmt)
  | forEach (head : Stmt) (subject : Expr) (body : Stmt)
  | labelled (label : Ident) (body : Stmt)
  | breakTo (label : Option Ident)
  | continueTo (label : Option Ident)
  | returns (value : Option Expr)
  | throws (value : Expr)
  | withObject (object : Expr) (body : Stmt)
  | recovered (span : Span)

end

def Key.name? : Key → Option Ident
  | .word id => some id
  | _ => none

def Key.isConstructor : Key → Bool
  | .word id => id.name = "constructor".toList
  | .string lit => lit.value = "constructor".toList
  | .number | .privateWord _ | .computed _ => false

structure TopLevel where
  span : Span
  stmt : Stmt

def Expr.start : Expr → Nat
  | .name id => id.span.start
  | .string lit => lit.span.start
  | .tagged tag _ => tag.start
  | .binary _ left _ => left.start
  | .assign _ target _ => target.start
  | .conditional test _ _ => test.start
  | .call callee _ => callee.start
  | .member owner _ => owner.start
  | .optional _ inner => inner.start
  | .sequence first _ => first.start
  | .withDefault target _ => target.start
  | .atom _ start | .privateName start _ | .template start _ | .array start _ _ | .object start _ _
  | .function start _ _ _ | .arrow start _ _ | .classExpr start _ _ _ | .unary start _
  | .update start _ | .await start _ | .yield start _ | .new start _ _ | .newBare start _
  | .paren start _ | .spread start _ | .arrayPattern start _ | .objectPattern start _
  | .rest start _ => start

end ScriptVeil.Script
