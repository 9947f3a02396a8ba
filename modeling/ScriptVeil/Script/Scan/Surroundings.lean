import ScriptVeil.Script.Keyword
import ScriptVeil.Script.Token

namespace ScriptVeil.Script

def Token.precedesOperand : Token → Bool
  | .word w => operandKeywords.contains w
  | .mark m =>
    [Mark.arrow, .ellipsis, .bang, .parenOpen, .bracketOpen, .braceOpen, .semicolon, .comma, .colon,
      .placeholder, .question, .tilde].contains m
  | .binary _ | .assign _ => true
  | _ => false

/-- Something that is open where a token stands: the braces of statements or members, those of an
object, parentheses, among them those behind a statement's keyword, a template, an expression in it,
and a function or class in an expression. -/
inductive Enclosure where
  | statements
  | object
  | parens
  | condition
  | loopHead
  | template
  | substitution
  | functionExpr
  | classExpr
deriving DecidableEq, Repr

/-- Whether the end of an enclosure ends an operand. -/
def Enclosure.isOperand : Enclosure → Bool
  | statements | condition | loopHead => false
  | _ => true

/-- What is open, the innermost first, within the statements of the script; the last token and
whether it stands on a new line; whether an operand may follow; and the start of the last
template. -/
structure Surroundings where
  enclosures : List Enclosure
  previous : Option Token
  newline : Bool
  operandNext : Bool
  templateStart : Nat
deriving DecidableEq, Repr

namespace Surroundings

def ofScript : Surroundings :=
  ⟨[], none, true, true, 0⟩

def innermost (s : Surroundings) : Enclosure :=
  s.enclosures.headD .statements

/-- Whether the next token is a text of a template or the mark behind one. -/
def inTemplate (s : Surroundings) : Bool :=
  s.innermost = .template

def isBehindWord (s : Surroundings) (words : List String) : Bool :=
  words.any fun w => s.previous = some (.word w.toList)

/-- Whether braces, on a new line or not, would be those of statements here. -/
def opensStatements (s : Surroundings) (newline : Bool) : Bool :=
  if s.isBehindWord ["return", "yield"] then newline
  else if s.isBehindWord ["else"] then true
  else match s.previous with
    | none | some (.mark .semicolon) | some (.mark .parenClose) | some (.mark .arrow)
    | some (.binary .less) | some (.binary .greater) => true
    | some (.mark .braceOpen) => s.innermost = .statements
    | some (.mark .colon) =>
      s.innermost = .statements || (s.innermost ≠ .object && !s.operandNext)
    | _ => !s.operandNext

def openedParens (s : Surroundings) : Enclosure :=
  if s.isBehindWord ["for"] then .loopHead
  else if s.isBehindWord ["if", "while", "with"] then .condition
  else .parens

/-- What a closing parenthesis or brace leaves open, and whether an operand may follow it. -/
def closed (s : Surroundings) : List Enclosure × Bool :=
  match s.enclosures with
  | [] => ([], true)
  | .statements :: .functionExpr :: outer | .statements :: .classExpr :: outer => (outer, false)
  | .substitution :: outer => (outer, outer.head? ≠ some .template)
  | inner :: outer => (outer, !inner.isOperand)

/-- What a word leaves open, and whether an operand may follow it. Functions and classes that begin
where a statement may do not stay open. A key named `function` or `class` is taken for such a
function or class, so that braces behind it may close less than they seem to. -/
def afterWord (s : Surroundings) (word : Text) (newline : Bool) : List Enclosure × Bool :=
  let isExpr := s.operandNext && !s.opensStatements newline
  if isKeyword word && s.previous = some (.mark .dot) then (s.enclosures, false)
  else if word = "function".toList then
    (if isExpr then .functionExpr :: s.enclosures else s.enclosures, false)
  else if word = "class".toList then
    (if isExpr then .classExpr :: s.enclosures else s.enclosures, false)
  else if word = "of".toList && s.innermost = .loopHead then
    (s.enclosures, !s.previous.any Token.precedesOperand)
  else if isKeyword word then (s.enclosures, operandKeywords.contains word)
  else (s.enclosures, s.newline && s.isBehindWord ["const", "let", "var"])

def step (s : Surroundings) (l : Lexeme) : List Enclosure × Bool :=
  match l.token with
  | .word w => s.afterWord w l.newline
  | .mark .parenOpen => (s.openedParens :: s.enclosures, true)
  | .mark .braceOpen =>
    ((if s.opensStatements l.newline then .statements else .object) :: s.enclosures, true)
  | .mark .parenClose | .mark .braceClose => s.closed
  | .mark .backtick =>
    (if s.inTemplate then s.enclosures.tail else .template :: s.enclosures, false)
  | .mark .placeholder => (.substitution :: s.enclosures, true)
  | .mark .increment | .mark .decrement => (s.enclosures, s.operandNext)
  | t => (s.enclosures, t.precedesOperand)

def after (s : Surroundings) (l : Lexeme) : Surroundings :=
  let (enclosures, operandNext) := s.step l
  { enclosures, operandNext, previous := some l.token, newline := l.newline,
    templateStart :=
      if l.token = .mark .backtick ∧ !s.inTemplate then l.span.start else s.templateStart }

end Surroundings

end ScriptVeil.Script
