import ScriptVeil.Literal.Encoding
import ScriptVeil.Masking.Rename
import ScriptVeil.Masking.Words

namespace ScriptVeil.Masking

/-- Applies one rename. The names of variables are kept where they are member names or keys. -/
def applyRename (t : Text) (r : Rename) : Text :=
  replaceWord r.name r.mask (r.category = .variable) t

def applyRenames (renames : List Rename) (t : Text) : Text :=
  renames.foldl applyRename t

/-- Longer raw texts first, so that no literal is replaced inside another. -/
def longestRawFirst (literals : List Quotation) : List Quotation :=
  literals.mergeSort fun a b => b.raw.byteSize ≤ a.raw.byteSize

def applyLiterals (literals : List Quotation) (t : Text) : Text :=
  (longestRawFirst literals).foldl (fun t l => t.replaceAll l.raw (Literal.encode l.units)) t

def textual (t : Text) (renames : List Rename) (literals : List Quotation) : Text :=
  applyLiterals literals (applyRenames renames t)

end ScriptVeil.Masking
