import ScriptVeil.Literal.Units

namespace ScriptVeil.Literal

def encodingHead : Text := "String.fromCharCode.apply(null, [".toList

def encodingTail : Text := "])".toList

def numerals (units : Units) : Text :=
  List.intercalate [','] (units.map fun u => Nat.toDigits 10 u.toNat)

/-- The expression whose value is the string of the given units. -/
def encode (units : Units) : Text :=
  encodingHead ++ numerals units ++ encodingTail

end ScriptVeil.Literal
