import ScriptVeil.Text.Basic

namespace ScriptVeil.Script

def alwaysReserved : List Text :=
  ["break", "case", "catch", "class", "const", "continue", "debugger", "default", "delete", "do",
   "else", "enum", "export", "extends", "false", "finally", "for", "function", "if", "import",
   "in", "instanceof", "new", "null", "return", "super", "switch", "this", "throw", "true", "try",
   "typeof", "var", "void", "while", "with"].map String.toList

def reservedInStrict : List Text :=
  ["implements", "interface", "let", "package", "private", "protected", "public", "yield"].map
    String.toList

/-- The words with a grammatical role of their own, whether or not they can also be names. -/
def keywords : List Text :=
  (alwaysReserved.filter (· ≠ "enum".toList)) ++ ["await", "let", "yield"].map String.toList

def isKeyword (word : Text) : Bool :=
  keywords.contains word

def operandKeywords : List Text :=
  ["await", "case", "default", "delete", "do", "else", "extends", "in", "instanceof", "new",
   "return", "throw", "typeof", "void", "yield"].map String.toList

end ScriptVeil.Script
