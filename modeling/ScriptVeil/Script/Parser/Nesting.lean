import ScriptVeil.Script.Parser.Statement

namespace ScriptVeil.Script.Parser

def tooDeep {α : Type} : Parser α := do
  throw ⟨.tooDeep, ← lastStop⟩

/-- The rules for code with at most the given number of levels. A rule looks at the levels further
in only when it runs. -/
def grammar : Nat → Grammar
  | 0 => {
      statement := fun _ => tooDeep
      expression := tooDeep
      assignment := tooDeep
      unary := tooDeep
      operators := fun _ _ => tooDeep
      construction := tooDeep
      binding := fun _ => tooDeep }
  | depth + 1 => {
      statement := fun place c => statement (grammar depth) place c
      expression := fun c => expression (grammar depth) c
      assignment := fun c => assignment (grammar depth) c
      unary := fun c => unary (grammar depth) c
      operators := fun left level c => operators (grammar depth) left level c
      construction := fun c => construction (grammar depth) (leftHandSide (grammar depth)) c
      binding := fun denyLet c => binding (grammar depth) denyLet c }

/-- Levels enough for a text: no rule opens more than a few of them without taking a token. -/
def depthFor (t : Text) : Nat :=
  16 * (t.length + 2)

end ScriptVeil.Script.Parser
