import ScriptVeil.Script.Keyword
import ScriptVeil.Script.Scan
import ScriptVeil.Script.Tree

namespace ScriptVeil.Script

/-- What the code around a place allows there, and the number of tokens that no list in it can
exceed. -/
structure Context where
  limit : Nat
  strict : Bool := false
  inAsync : Bool := false
  inGenerator : Bool := false
  inFunction : Bool := false
  inOwnFunction : Bool := false
  inParameters : Bool := false
  inClass : Bool := false
  inField : Bool := false
  inStaticBlock : Bool := false
  allowIn : Bool := false
  allowSuper : Bool := false
  allowBreak : Bool := false
  allowContinue : Bool := false
  inLoopHead : Bool := false
  inAwaitLoopHead : Bool := false
  labels : List Text := []
  arrowStart : Option Nat := none

def Context.isReserved (c : Context) (word : Text) : Bool :=
  alwaysReserved.contains word
    || (c.strict && reservedInStrict.contains word)
    || (c.inGenerator && word = "yield".toList)
    || ((c.inAsync || c.inStaticBlock || c.strict) && word = "await".toList)

def Context.scanMode (c : Context) : ScanMode :=
  ⟨c.strict, c.isReserved⟩

/-- A regular expression to be read: the offset of its opening slash and the place behind that. -/
structure OpenRegex where
  slash : Nat
  body : Cursor
deriving DecidableEq, Repr

def OpenRegex.reading (r : OpenRegex) : Reading Token :=
  regexAt r.slash r.body

def OpenRegex.isFaulty (r : OpenRegex) : Bool :=
  match r.reading with
  | .done _ _ _ => false
  | .failed _ _ _ => true

/-- Where parsing stands: the unread text and what it stands in, up to two tokens read ahead, the
range of the last token taken, all tokens taken and the mistakes met so far, both with the latest
first. An open regular expression is read as the next token, and if it cannot be read, it stays open
and spoils all tokens behind it. -/
structure State where
  cursor : Cursor
  atStart : Bool
  surroundings : Surroundings
  ahead : Option Lexeme
  second : Option Lexeme
  last : Span
  taken : List Lexeme
  openRegex : Option OpenRegex
  notes : List Diagnostic

abbrev Parser := ReaderT Context (EStateM Diagnostic State)

namespace Parser

variable {α : Type}

def scanNext : Parser (Option Lexeme) := do
  let s ← get
  let c ← read
  let around := s.surroundings
  let r := match s.openRegex with
    | some r => r.reading.scan around.newline s.cursor.offset
    | none =>
      if around.inTemplate then scanTemplate around s.cursor
      else scan c.scanMode s.atStart s.cursor
  set { s with
    cursor := r.after, atStart := false, surroundings := (r.lexeme.map around.after).getD around,
    openRegex := s.openRegex.filter OpenRegex.isFaulty, notes := r.notes.reverse ++ s.notes }
  return r.lexeme

def ahead : Parser (Option Lexeme) := do
  let s ← get
  match s.ahead with
  | some l => return some l
  | none =>
    let l ← match s.second with
      | some l => pure (some l)
      | none => scanNext
    modify ({ · with ahead := l, second := none })
    return l

def secondAhead : Parser (Option Lexeme) := do
  let _ ← ahead
  match (← get).second with
  | some l => return some l
  | none =>
    let l ← scanNext
    modify ({ · with second := l })
    return l

def take : Parser Unit := do
  match ← ahead with
  | some l => modify fun s => { s with ahead := none, last := l.span, taken := l :: s.taken }
  | none => return

def record (d : Diagnostic) : Parser Unit :=
  modify fun s => { s with notes := d :: s.notes }

/-- Records a mistake and goes on. If the next token is bad, its flaw is a mistake too, and the
token is skipped. -/
def note (offset : Nat) (cause : Cause) : Parser Unit := do
  if let some ⟨.bad flaw, _, _⟩ := ← ahead then
    take
    record flaw.diagnostic
  record ⟨cause, offset⟩

/-- The start of the next token, or the end of the last one at the end of the text. -/
def here : Parser Nat := do
  match ← ahead with
  | some l => return l.span.start
  | none => return (← get).last.stop

/-- The start of the token that a message points to: the one read ahead, else the last one taken. -/
def pointed : Parser Nat := do
  let s ← get
  match s.ahead with
  | some l => return l.span.start
  | none => return s.last.start

def lastStart : Parser Nat := do
  return (← get).last.start

def lastStop : Parser Nat := do
  return (← get).last.stop

/-- Gives up for the given cause. If the next token is bad, its flaw is a mistake too, noted like
any other once the token is skipped. -/
def failAt (offset : Nat) (cause : Cause) : Parser α := do
  if let some ⟨.bad flaw, _, _⟩ := ← ahead then
    take
    note flaw.span.start flaw.cause
  throw ⟨cause, offset⟩

def fail (cause : Cause) : Parser α := do
  failAt (← pointed) cause

/-- The next token, if there is one; a bad token is a fault. -/
def current? : Parser (Option Token) := do
  match ← ahead with
  | some ⟨.bad flaw, _, _⟩ =>
    take
    throw flaw.diagnostic
  | some l => return some l.token
  | none => return none

def current : Parser Token := do
  match ← current? with
  | some t => return t
  | none => throw ⟨.endOfText, (← get).cursor.offset⟩

def shownAhead : Parser Text := do
  match ← ahead with
  | some l => return l.token.shown
  | none => return endOfTextShown

def sees (p : Token → Bool) : Parser Bool := do
  match ← ahead with
  | some l => return p l.token
  | none => return false

/-- Whether the next token and the one behind it have the given properties. The second one is read
only if the first one fits. -/
def seesPair (p : Token → Bool) (q : Lexeme → Bool) : Parser Bool := do
  if ← sees p then return (← secondAhead).any q else return false

def isNext (t : Token) : Parser Bool :=
  sees (· = t)

def isMark (m : Mark) : Parser Bool :=
  isNext (.mark m)

def isWord (w : String) : Parser Bool :=
  isNext (.word w.toList)

def areWords (w v : String) : Parser Bool :=
  seesPair (· = .word w.toList) fun l => l.token = .word v.toList && !l.newline

def token? : Parser (Option Token) := do
  return (← ahead).map Lexeme.token

def atEnd : Parser Bool := do
  return (← ahead).isNone

def eat (t : Token) : Parser Bool := do
  if ← isNext t then
    take
    return true
  else return false

def eatMark (m : Mark) : Parser Bool :=
  eat (.mark m)

def eatWord (w : String) : Parser Bool :=
  eat (.word w.toList)

def expect (t : Token) : Parser Unit := do
  if ← eat t then return
  else fail (.expected t.shown (← shownAhead))

def expectMark (m : Mark) : Parser Unit :=
  expect (.mark m)

def expectWord (w : String) : Parser Unit :=
  expect (.word w.toList)

def unexpected (wanted : String) : Parser α := do
  fail (.unexpected (← shownAhead) wanted)

/-- Whether a line ends before the next token. The end of the text ends a line. -/
def afterNewline : Parser Bool := do
  match ← ahead with
  | some l => return l.newline
  | none => return true

def isStatementEnd : Parser Bool := do
  match ← ahead with
  | none | some ⟨.mark .semicolon, _, _⟩ | some ⟨.mark .braceClose, _, _⟩ => return true
  | some l => return l.newline

def eatStatementEnd : Parser Bool := do
  if ← isStatementEnd then
    let _ ← eatMark .semicolon
    return true
  else return false

def expectStatementEnd : Parser Unit := do
  if ← eatStatementEnd then return
  else fail (.expected [';'] (← shownAhead))

/-- Repeats a step that hands on a state until it gives nothing, for at most `limit` rounds. -/
def repeatedFrom {σ : Type} (step : σ → Parser (Option (α × σ))) :
    Nat → List α → σ → Parser (List α × σ)
  | 0, _, _ => do throw ⟨.tooDeep, ← lastStop⟩
  | limit + 1, found, s => do
    match ← step s with
    | some (a, s) => repeatedFrom step limit (a :: found) s
    | none => return (found.reverse, s)

/-- Repeats a step that takes a token each time until it gives nothing. There are at most as many
rounds as tokens. -/
def repeatedWith {σ : Type} (s : σ) (step : σ → Parser (Option (α × σ))) : Parser (List α × σ) := do
  repeatedFrom step (← read).limit [] s

def repeated (step : Parser (Option α)) : Parser (List α) := do
  let (found, _) ← repeatedWith () fun _ => return (← step).map (·, ())
  return found

def iterated (a : α) (step : α → Parser (Option α)) : Parser α := do
  let (_, a) ← repeatedWith a fun a => return (← step a).map ((), ·)
  return a

def within (change : Context → Context) (p : Parser α) : Parser α :=
  fun c => p (change c)

def allowingIn (p : Parser α) : Parser α :=
  within ({ · with allowIn := true }) p

end Parser

end ScriptVeil.Script
