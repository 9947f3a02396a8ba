namespace ScriptVeil

abbrev Text := List Char

/-- A half-open range of byte offsets. -/
structure Span where
  start : Nat
  stop : Nat
deriving DecidableEq, Repr

namespace Text

def byteSize (t : Text) : Nat :=
  t.foldr (fun c size => c.utf8Size + size) 0

def dropBytes : Nat → Text → Text
  | _, [] => []
  | n, c :: t => if n = 0 then c :: t else dropBytes (n - c.utf8Size) t

/-- The characters that start before byte offset `n`. -/
def takeBytes : Nat → Text → Text
  | _, [] => []
  | n, c :: t => if n = 0 then [] else c :: takeBytes (n - c.utf8Size) t

theorem takeBytes_append_dropBytes (n : Nat) (t : Text) :
    takeBytes n t ++ dropBytes n t = t := by
  induction t generalizing n with
  | nil => rfl
  | cons c t ih =>
    by_cases h : n = 0
    · simp [takeBytes, dropBytes, h]
    · simp [takeBytes, dropBytes, h, ih]

/-- Whether an offset falls between two characters or on an end of the text. -/
def IsBoundary (t : Text) (n : Nat) : Prop :=
  (takeBytes n t).byteSize = n

instance (t : Text) (n : Nat) : Decidable (IsBoundary t n) :=
  inferInstanceAs (Decidable ((takeBytes n t).byteSize = n))

end Text

/-- Whether a range can be cut out of a text: its ends are in order and on boundaries. -/
structure Span.Cuts (t : Text) (r : Span) : Prop where
  start_le_stop : r.start ≤ r.stop
  isBoundary_start : t.IsBoundary r.start
  isBoundary_stop : t.IsBoundary r.stop

instance (t : Text) (r : Span) : Decidable (r.Cuts t) :=
  decidable_of_iff (r.start ≤ r.stop ∧ t.IsBoundary r.start ∧ t.IsBoundary r.stop)
    ⟨fun h => ⟨h.1, h.2.1, h.2.2⟩, fun h => ⟨h.1, h.2, h.3⟩⟩

namespace Text

def slice (t : Text) (r : Span) : Text :=
  takeBytes (r.stop - r.start) (dropBytes r.start t)

def splice (t : Text) (r : Span) (new : Text) : Text :=
  takeBytes r.start t ++ new ++ dropBytes r.stop t

/-- Replaces a range, which breaks the run off unless the range can be cut out. -/
def splice? (t : Text) (r : Span) (new : Text) : Option Text :=
  if r.Cuts t then some (t.splice r new) else none

/-- Replaces the leftmost disjoint occurrences of a non-empty pattern. The first argument counts
the characters that still belong to the last occurrence. -/
def replaceFrom (pattern new : Text) : Nat → Text → Text
  | _, [] => []
  | skip + 1, _ :: t => replaceFrom pattern new skip t
  | 0, c :: t =>
    if pattern.isPrefixOf (c :: t) then new ++ replaceFrom pattern new (pattern.length - 1) t
    else c :: replaceFrom pattern new 0 t

/-- Replaces the leftmost disjoint occurrences of a pattern. The empty pattern occurs before every
character and at the end. -/
def replaceAll (t pattern new : Text) : Text :=
  if pattern = [] then new ++ t.flatMap (fun c => c :: new) else replaceFrom pattern new 0 t

@[simp]
theorem byteSize_nil : byteSize [] = 0 := rfl

@[simp]
theorem byteSize_cons (c : Char) (t : Text) : byteSize (c :: t) = c.utf8Size + byteSize t := rfl

theorem byteSize_append (s t : Text) : byteSize (s ++ t) = byteSize s + byteSize t := by
  induction s with
  | nil => simp
  | cons c s ih => simp [ih, Nat.add_assoc]

end Text

end ScriptVeil
