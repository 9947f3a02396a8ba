import ScriptVeil.Text.Basic

namespace ScriptVeil.Mask

/-- Keywords, literals and names that strict code restricts. -/
def currentReserved : List String :=
  ["arguments", "await", "break", "case", "catch", "class", "const", "continue", "debugger",
   "default", "delete", "do", "else", "enum", "eval", "export", "extends", "false", "finally",
   "for", "function", "if", "implements", "import", "in", "instanceof", "interface", "let",
   "new", "null", "package", "private", "protected", "public", "return", "static", "super",
   "switch", "this", "throw", "true", "try", "typeof", "var", "void", "while", "with", "yield"]

/-- Words that the third edition of the language set aside. -/
def formerlyReserved : List String :=
  ["abstract", "boolean", "byte", "char", "double", "final", "float", "goto", "int", "long",
   "native", "short", "synchronized", "throws", "transient", "volatile"]

def fixedGlobals : List String :=
  ["Infinity", "NaN", "undefined"]

def reservedWords : List Text :=
  (currentReserved ++ formerlyReserved ++ fixedGlobals).map String.toList

def isReserved (word : Text) : Bool :=
  reservedWords.contains word

end ScriptVeil.Mask
