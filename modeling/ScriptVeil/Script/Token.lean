import ScriptVeil.Script.Diagnostic
import ScriptVeil.Script.Numeral
import ScriptVeil.Script.Operator

namespace ScriptVeil.Script

/-- Punctuation other than operators between two operands. -/
inductive Mark where
  | parenOpen | parenClose | bracketOpen | bracketClose | braceOpen | braceClose
  | semicolon | comma | colon | dot | ellipsis | question | arrow
  | tilde | bang | increment | decrement | hash | atSign | backtick | placeholder
deriving DecidableEq, Repr

def Mark.text : Mark → String
  | parenOpen => "("
  | parenClose => ")"
  | bracketOpen => "["
  | bracketClose => "]"
  | braceOpen => "\x7b"
  | braceClose => "\x7d"
  | semicolon => ";"
  | comma => ","
  | colon => ":"
  | dot => "."
  | ellipsis => "..."
  | question => "?"
  | arrow => "=>"
  | tilde => "~"
  | bang => "!"
  | increment => "++"
  | decrement => "--"
  | hash => "#"
  | atSign => "@"
  | backtick => "`"
  | placeholder => "$\x7b"

/-- A token. Keywords are words; `assign` is `=`, alone or after an operator; `bad` is a place
where no token can be read. The text of a template may have a flaw that only a tag makes good. -/
inductive Token where
  | word (name : Text)
  | mark (m : Mark)
  | binary (op : BinaryOp)
  | assign (op : Option BinaryOp)
  | string (value raw : Text)
  | number (raw : Text)
  | bigNumber (raw : Text)
  | regex (body flags : Text)
  | template (raw : Text) (flaw : Option Flaw)
  | bad (flaw : Flaw)
deriving DecidableEq, Repr

def Token.shown : Token → Text
  | .word name => name
  | .mark m => m.text.toList
  | .binary op => op.text.toList
  | .assign none => ['=']
  | .assign (some op) => op.text.toList ++ ['=']
  | .string value raw => "string literal (".toList ++ value ++ ", ".toList ++ raw ++ [')']
  | .number raw => "numeric literal (".toList ++ numeralText raw ++ ", ".toList ++ raw ++ [')']
  | .bigNumber raw =>
    "bigint literal (".toList ++ bigNumeralText raw ++ ", ".toList ++ raw ++ "n)".toList
  | .regex body flags => "regexp literal (".toList ++ body ++ ", ".toList ++ flags ++ [')']
  | .template raw _ => "template token (".toList ++ raw ++ [')']
  | .bad flaw => flaw.shown

def endOfTextShown : Text := "<eof>".toList

/-- Every operator and mark, no shorter one before a longer one it begins. -/
def punctuators : List (Text × Token) :=
  [(">>>=", .assign (some .shiftRightZero)),
   ("...", .mark .ellipsis), ("===", .binary .strictEqual), ("!==", .binary .strictNotEqual),
   (">>>", .binary .shiftRightZero), ("<<=", .assign (some .shiftLeft)),
   (">>=", .assign (some .shiftRight)), ("**=", .assign (some .power)),
   ("&&=", .assign (some .and)), ("||=", .assign (some .or)), ("??=", .assign (some .coalesce)),
   ("=>", .mark .arrow), ("==", .binary .equal), ("!=", .binary .notEqual),
   ("<=", .binary .lessEqual), (">=", .binary .greaterEqual), ("<<", .binary .shiftLeft),
   (">>", .binary .shiftRight), ("**", .binary .power), ("&&", .binary .and),
   ("||", .binary .or), ("??", .binary .coalesce), ("++", .mark .increment),
   ("--", .mark .decrement), ("+=", .assign (some .add)), ("-=", .assign (some .subtract)),
   ("*=", .assign (some .multiply)), ("/=", .assign (some .divide)),
   ("%=", .assign (some .remainder)), ("&=", .assign (some .bitAnd)),
   ("|=", .assign (some .bitOr)), ("^=", .assign (some .bitXor)),
   ("(", .mark .parenOpen), (")", .mark .parenClose), ("[", .mark .bracketOpen),
   ("]", .mark .bracketClose), ("\x7b", .mark .braceOpen), ("\x7d", .mark .braceClose),
   (";", .mark .semicolon), (",", .mark .comma), (":", .mark .colon), (".", .mark .dot),
   ("?", .mark .question), ("~", .mark .tilde), ("!", .mark .bang), ("#", .mark .hash),
   ("@", .mark .atSign), ("`", .mark .backtick), ("=", .assign none), ("<", .binary .less),
   (">", .binary .greater), ("+", .binary .add), ("-", .binary .subtract),
   ("*", .binary .multiply), ("/", .binary .divide), ("%", .binary .remainder),
   ("&", .binary .bitAnd), ("|", .binary .bitOr), ("^", .binary .bitXor)].map
    fun (s, t) => (s.toList, t)

/-- A token, its range, and whether a line ends between it and the token before. The first token
counts as standing on a new line. -/
structure Lexeme where
  token : Token
  span : Span
  newline : Bool
deriving DecidableEq, Repr

end ScriptVeil.Script
