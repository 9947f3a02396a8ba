import Mathlib.Data.List.Basic
import ScriptVeil.Masking.Textual
import ScriptVeil.Proofs.Text.Span

namespace ScriptVeil.Masking

/-- A part of a text while its literals are replaced: a character that is still there, or the code
that stands for a part of the text. -/
inductive Tile where
  | kept (c : Char)
  | code (raw new : Text)
deriving DecidableEq

namespace Tile

def before : Tile → Text
  | kept c => [c]
  | code raw _ => raw

def after : Tile → Text
  | kept c => [c]
  | code _ new => new

end Tile

def sourceOf (ts : List Tile) : Text :=
  ts.flatMap Tile.before

def textOf (ts : List Tile) : Text :=
  ts.flatMap Tile.after

def keptText (t : Text) : List Tile :=
  t.map .kept

def width (ts : List Tile) : Nat :=
  (sourceOf ts).byteSize

variable {ts us vs ws : List Tile}

section

@[simp]
theorem sourceOf_nil : sourceOf [] = [] := rfl

@[simp]
theorem sourceOf_cons (x : Tile) (ts : List Tile) : sourceOf (x :: ts) = x.before ++ sourceOf ts :=
  rfl

@[simp]
theorem sourceOf_append (ts us : List Tile) : sourceOf (ts ++ us) = sourceOf ts ++ sourceOf us :=
  List.flatMap_append

@[simp]
theorem sourceOf_keptText (t : Text) : sourceOf (keptText t) = t := by
  induction t with
  | nil => rfl
  | cons c t ih => exact congrArg (c :: ·) ih

@[simp]
theorem textOf_nil : textOf [] = [] := rfl

@[simp]
theorem textOf_cons (x : Tile) (ts : List Tile) : textOf (x :: ts) = x.after ++ textOf ts := rfl

@[simp]
theorem textOf_append (ts us : List Tile) : textOf (ts ++ us) = textOf ts ++ textOf us :=
  List.flatMap_append

@[simp]
theorem textOf_keptText (t : Text) : textOf (keptText t) = t := by
  induction t with
  | nil => rfl
  | cons c t ih => exact congrArg (c :: ·) ih

@[simp]
theorem width_nil : width [] = 0 := rfl

@[simp]
theorem width_cons (x : Tile) (ts : List Tile) :
    width (x :: ts) = x.before.byteSize + width ts := by
  simp [width, Text.byteSize_append]

@[simp]
theorem width_append (ts us : List Tile) : width (ts ++ us) = width ts + width us := by
  simp [width, Text.byteSize_append]

@[simp]
theorem width_keptText (t : Text) : width (keptText t) = t.byteSize := by
  simp [width]

end

def Filled (ts : List Tile) : Prop :=
  ∀ x ∈ ts, x.before ≠ [] ∧ x.after ≠ []

theorem Filled.of_subset (h : Filled ts) (hs : us ⊆ ts) : Filled us :=
  fun x hx => h x (hs hx)

theorem Filled.width_pos (h : Filled ts) (hn : ts ≠ []) : 0 < width ts := by
  obtain ⟨x, us, rfl⟩ := List.exists_cons_of_ne_nil hn
  obtain ⟨c, t, hx⟩ := List.exists_cons_of_ne_nil (h x List.mem_cons_self).1
  have hc := c.utf8Size_pos
  rw [width, sourceOf_cons, hx, List.cons_append, Text.byteSize_cons]
  omega

theorem Filled.exists_append (hf : Filled us) (h : us ++ vs = ts ++ ws)
    (hle : width us ≤ width ts) :
    ∃ xs, ts = us ++ xs ∧ vs = xs ++ ws := by
  rcases List.append_eq_append_iff.1 h with ⟨xs, hts, hvs⟩ | ⟨xs, hus, hws⟩
  · exact ⟨xs, hts, hvs⟩
  · cases xs with
    | nil =>
      rw [List.append_nil] at hus
      exact ⟨[], by rw [hus, List.append_nil], hws.symm⟩
    | cons x xs =>
      have hfx : Filled (x :: xs) := hf.of_subset (by simp [hus])
      have hpos := hfx.width_pos (List.cons_ne_nil x xs)
      rw [hus, width_append] at hle
      omega

theorem Filled.eq_of_width_eq (hf : Filled (us ++ vs)) (h : us ++ vs = ts ++ ws)
    (he : width us = width ts) :
    us = ts := by
  obtain ⟨xs, rfl, rfl⟩ := Filled.exists_append (hf.of_subset (List.subset_append_left us vs)) h
    he.le
  have hfx : Filled xs := hf.of_subset (by simp)
  have hxs : xs = [] := by
    by_contra hne
    have hpos := hfx.width_pos hne
    rw [width_append] at he
    omega
  rw [hxs, List.append_nil]

end ScriptVeil.Masking
