import ScriptVeil.Masking.Ranged
import ScriptVeil.Masking.Textual
import ScriptVeil.Script.Document

namespace ScriptVeil

/-- How the places to replace are found: as words of the text, or as positions in the tree. -/
inductive Strategy where
  | textual
  | ranged
deriving DecidableEq, Repr

def Masking.run (strategy : Strategy) (d : Script.Document) (renames : List Rename)
    (literals : List Quotation) : Text :=
  d.mark ++
    match strategy with
    | .textual => textual d.source renames literals
    | .ranged => ranged d.source d.sites renames literals

/-- The masked text as a run makes it, unless the run is broken off. -/
def Masking.run? (strategy : Strategy) (d : Script.Document) (renames : List Rename)
    (literals : List Quotation) : Option Text :=
  match strategy with
  | .textual => some (d.mark ++ textual d.source renames literals)
  | .ranged => (ranged? d.source d.sites renames literals).map (d.mark ++ ·)

end ScriptVeil
