import ScriptVeil.Text.Basic

namespace ScriptVeil

/-- What the characters before a place in a text have opened: nothing, an escape, an escape with
intermediate characters, a control sequence, a command for the system, or another string of
characters that are not shown. -/
inductive TerminalState where
  | ground
  | escape
  | intermediate
  | sequence
  | command
  | string
deriving DecidableEq, Repr

namespace TerminalState

def isSpaceControl (c : Char) : Bool :=
  c = '\t' || c = '\n' || c = '\x0c' || c = '\r'

def isControl (c : Char) : Bool :=
  c.toNat < 0x20 || c.toNat = 0x7F

def afterEscape (c : Char) : TerminalState :=
  if c = '[' then sequence
  else if c = ']' then command
  else if c = 'P' ∨ c = 'X' ∨ c = '^' ∨ c = '_' then string
  else if 0x30 ≤ c.toNat ∧ c.toNat < 0x7F then ground
  else if 0x20 ≤ c.toNat ∧ c.toNat < 0x30 then intermediate
  else escape

/-- The state behind a character and whether the character is shown. Blank control characters are
shown even within a sequence, which they end. -/
def step (s : TerminalState) (c : Char) : TerminalState × Bool :=
  if c = '\x1b' then (escape, false)
  else if c = '\x18' ∨ c = '\x1a' then (ground, false)
  else
    match s with
    | ground => (ground, !isControl c || isSpaceControl c)
    | command => (if c = '\x07' then ground else command, false)
    | string => (string, false)
    | escape =>
      if isControl c then (if isSpaceControl c then ground else escape, isSpaceControl c)
      else (afterEscape c, false)
    | intermediate | sequence =>
      if isControl c then (if isSpaceControl c then ground else s, isSpaceControl c)
      else
        let final := (if s = intermediate then 0x30 else 0x40) ≤ c.toNat && c.toNat < 0x7F
        (if final then ground else s, false)

def shownFrom : TerminalState → Text → Text
  | _, [] => []
  | s, c :: t =>
    let (next, isShown) := s.step c
    if isShown then c :: shownFrom next t else shownFrom next t

end TerminalState

namespace Text

/-- A text without escape sequences and control characters, blank ones apart. -/
def withoutEscapes (t : Text) : Text :=
  TerminalState.shownFrom .ground t

/-- The number of characters of the colour change at the front: an escape, a bracket, digits and
semicolons, and an `m`. -/
def colourLength? (t : Text) : Option Nat :=
  match t with
  | '\x1b' :: '[' :: t =>
    let parameters := t.takeWhile fun c => c.isDigit || c = ';'
    if (t.drop parameters.length).head? = some 'm' then some (parameters.length + 3) else none
  | _ => none

def withoutColoursFrom : Nat → Text → Text
  | _, [] => []
  | skip + 1, _ :: t => withoutColoursFrom skip t
  | 0, c :: t =>
    match colourLength? (c :: t) with
    | some n => withoutColoursFrom (n - 1) t
    | none => c :: withoutColoursFrom 0 t

def withoutColours (t : Text) : Text :=
  withoutColoursFrom 0 t

/-- A text in which the control characters that could steer a terminal are spelled out. -/
def withControlsShown (t : Text) : Text :=
  t.flatMap fun c =>
    if c = '\x1b' ∨ c = '\x07' ∨ c = '\x08' ∨ c = '\x0c' ∨ c = '\x7f' then
      "\\x".toList ++ (if c.toNat < 16 then ['0'] else []) ++ Nat.toDigits 16 c.toNat
    else if 0x80 ≤ c.toNat ∧ c.toNat ≤ 0x9F then
      "\\u\x7b".toList ++ Nat.toDigits 16 c.toNat ++ ['\x7d']
    else [c]

end Text

end ScriptVeil
