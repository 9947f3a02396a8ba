import ScriptVeil.Literal.Units

namespace ScriptVeil

inductive Category where
  | function
  | variable
deriving DecidableEq, Repr

structure Declaration where
  name : Text
  category : Category
  span : Span
deriving DecidableEq, Repr

/-- A string literal: its text with the quotes, its value and its place. -/
structure Quotation where
  raw : Text
  units : Units
  span : Span
deriving DecidableEq, Repr

/-- Names are unique in each list, quotations by their raw text. -/
structure Candidates where
  functions : List Declaration
  vars : List Declaration
  literals : List Quotation
deriving DecidableEq, Repr

def Candidates.declarations (c : Candidates) : List Declaration :=
  c.functions ++ c.vars

/-- Keeps the first of the elements with the same key. -/
def firstsBy {α κ : Type} [DecidableEq κ] (key : α → κ) : List α → List α
  | [] => []
  | a :: l => a :: (firstsBy key l).filter fun b => key b ≠ key a

structure Firsts (α : Type) where
  keys : List Text
  elements : List α

namespace Firsts

variable {α : Type}

def empty : Firsts α :=
  ⟨[], []⟩

def insert (key : α → Text) (f : Firsts α) (a : α) : Firsts α :=
  if f.keys.contains (key a) then f else ⟨key a :: f.keys, f.elements ++ [a]⟩

end Firsts

end ScriptVeil
