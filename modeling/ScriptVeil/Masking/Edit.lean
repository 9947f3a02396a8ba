import ScriptVeil.Text.Basic

namespace ScriptVeil

structure Edit where
  span : Span
  text : Text
deriving DecidableEq, Repr

namespace Masking

def lastFirst (edits : List Edit) : List Edit :=
  edits.mergeSort fun a b => b.span.start ≤ a.span.start

/-- Applies edits from the end of the text to its start, so that the offsets of those still to come
stay valid. -/
def applyEdits (t : Text) (edits : List Edit) : Text :=
  (lastFirst edits).foldl (fun t e => t.splice e.span e.text) t

/-- Applies edits as a run does: a range that the text does not have breaks it off. -/
def applyEdits? (t : Text) (edits : List Edit) : Option Text :=
  (lastFirst edits).foldlM (fun t e => t.splice? e.span e.text) t

end Masking

end ScriptVeil
