import ScriptVeil.Script.Diagnostic

namespace ScriptVeil.Script

/-- The text still to be read and the byte offset at which it starts. -/
structure Cursor where
  rest : Text
  offset : Nat
deriving DecidableEq, Repr

namespace Cursor

def advance (c : Cursor) (n : Nat) : Cursor :=
  ⟨c.rest.drop n, c.offset + Text.byteSize (c.rest.take n)⟩

def skipWhile (c : Cursor) (p : Char → Bool) : Cursor :=
  ⟨c.rest.dropWhile p, c.offset + Text.byteSize (c.rest.takeWhile p)⟩

def textTo (c later : Cursor) : Text :=
  Text.takeBytes (later.offset - c.offset) c.rest

end Cursor

/-- The outcome of reading one thing: a value or a flaw, the place where reading goes on and the
mistakes that were tolerated on the way. -/
inductive Reading (α : Type) where
  | done (value : α) (after : Cursor) (notes : List Diagnostic)
  | failed (flaw : Flaw) (after : Cursor) (notes : List Diagnostic)

namespace Reading

variable {α β : Type}

def andThen (r : Reading α) (f : α → Cursor → Reading β) : Reading β :=
  match r with
  | .failed flaw after notes => .failed flaw after notes
  | .done value after notes =>
    match f value after with
    | .done value after more => .done value after (notes ++ more)
    | .failed flaw after more => .failed flaw after (notes ++ more)

def behind (notes : List Diagnostic) : Reading α → Reading α
  | .done value after more => .done value after (notes ++ more)
  | .failed flaw after more => .failed flaw after (notes ++ more)

end Reading

end ScriptVeil.Script
