import ScriptVeil.Literal.Encoding
import ScriptVeil.Masking.Edit
import ScriptVeil.Masking.Rename
import ScriptVeil.Script.Site

namespace ScriptVeil.Masking

open Script

/-- Of several renames of a name, the last one counts. -/
def maskOf (renames : List Rename) (name : Text) : Option Text :=
  (renames.reverse.find? fun r => r.name = name).map Rename.mask

def encodingOf (literals : List Quotation) (raw : Text) : Option Text :=
  (literals.reverse.find? fun l => l.raw = raw).map fun l => Literal.encode l.units

/-- The edit at a site, if there is one. The property that a shorthand names keeps its name. -/
def editAt (source : Text) (renames : List Rename) (literals : List Quotation) :
    Site → Option Edit
  | .reference id => (maskOf renames id.name).map fun mask => ⟨id.span, mask⟩
  | .shorthand id =>
    (maskOf renames id.name).map fun mask => ⟨id.span, id.name ++ ": ".toList ++ mask⟩
  | .string lit =>
    (encodingOf literals (source.slice lit.span)).map fun code => ⟨lit.span, code⟩

def editsAt (source : Text) (sites : List Site) (renames : List Rename)
    (literals : List Quotation) : List Edit :=
  sites.filterMap (editAt source renames literals)

/-- The edit at a site as a run makes it. A string is cut out of the source to be looked up, which
breaks the run off if its range does not fit. -/
def editAt? (source : Text) (renames : List Rename) (literals : List Quotation) (s : Site) :
    Option (Option Edit) :=
  if s.Cuts source then some (editAt source renames literals s) else none

def editsAt? (source : Text) (sites : List Site) (renames : List Rename)
    (literals : List Quotation) : Option (List Edit) :=
  (sites.mapM (editAt? source renames literals)).map (List.filterMap id)

/-- Masking by position: only identifiers and string literals of the tree are replaced. -/
def ranged (source : Text) (sites : List Site) (renames : List Rename)
    (literals : List Quotation) : Text :=
  applyEdits source (editsAt source sites renames literals)

def ranged? (source : Text) (sites : List Site) (renames : List Rename)
    (literals : List Quotation) : Option Text :=
  (editsAt? source sites renames literals).bind (applyEdits? source)

end ScriptVeil.Masking
