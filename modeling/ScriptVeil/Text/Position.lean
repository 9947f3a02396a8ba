import ScriptVeil.Text.Width

namespace ScriptVeil

structure Position where
  line : Nat
  column : Nat
deriving DecidableEq, Repr

namespace Text

/-- Whether a line starts behind the character `c`, where `t` is the text that follows it. -/
def endsLine (c : Char) (t : Text) : Bool :=
  t ≠ [] && (c = '\n' || (c = '\r' && t.head? ≠ some '\n'))

/-- The position `n` bytes on, counted from a place on `line` that is `width` columns in. A line end
that closes the text starts no further line. -/
def positionFrom (line width : Nat) : Nat → Text → Position
  | _, [] => ⟨line, width + 1⟩
  | n, c :: t =>
    if n = 0 then ⟨line, width + 1⟩
    else if endsLine c t then positionFrom (line + 1) 0 (n - c.utf8Size) t
    else positionFrom line (width + columns c) (n - c.utf8Size) t

def position (t : Text) (offset : Nat) : Position :=
  positionFrom 1 0 offset t

end Text

end ScriptVeil
