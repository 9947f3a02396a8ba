import ScriptVeil.Proofs.Masking.Independent
import ScriptVeil.Proofs.Masking.Splice

namespace ScriptVeil.Masking

/-- A word of a text, and whether it is in the place of a member name or an object key. -/
structure Word where
  span : Span
  text : Text
  inKeyPlace : Bool
deriving DecidableEq, Repr

def wordsFrom (back : Text) : List Text → List Word
  | [] => []
  | p :: ps =>
    let others := wordsFrom (p.reverse ++ back) ps
    if IsWord p then
      ⟨⟨back.byteSize, back.byteSize + p.byteSize⟩, p, isKeyPlace back ps.flatten⟩ :: others
    else others

def words (t : Text) : List Word :=
  wordsFrom [] (pieces t)

structure Word.In (w : Word) (t : Text) : Prop where
  isWord : IsWord w.text
  exists_append : ∃ a b, t = a ++ (w.text ++ b)
    ∧ w.span = ⟨a.byteSize, a.byteSize + w.text.byteSize⟩

def wordEdit? (renames : List Rename) (w : Word) : Option Edit :=
  match renameOf renames w.text with
  | some r =>
    if r.category = .variable ∧ w.inKeyPlace = true then none else some ⟨w.span, r.mask⟩
  | none => none

def Word.IsMasked (renames : List Rename) (w : Word) : Prop :=
  ∃ r ∈ renames, r.name = w.text ∧ ¬ (r.category = .variable ∧ w.inKeyPlace = true)

instance (renames : List Rename) (w : Word) : Decidable (w.IsMasked renames) :=
  inferInstanceAs (Decidable (∃ r ∈ renames, _))

variable {t back : Text} {ps : List Text} {renames : List Rename} {w : Word} {e : Edit}

theorem IsWord.byteSize_pos {p : Text} (h : IsWord p) : 0 < p.byteSize := by
  obtain ⟨c, v, rfl, -⟩ := h.exists_cons
  have hc := c.utf8Size_pos
  rw [Text.byteSize_cons]
  omega

namespace Word.In

theorem within (h : w.In t) : w.span.Within t := by
  obtain ⟨a, b, rfl, hs⟩ := h.exists_append
  have hpos := h.isWord.byteSize_pos
  rw [hs]
  refine ⟨Nat.lt_add_of_pos_right hpos, Text.isBoundary_append _ _, ?_⟩
  rw [← List.append_assoc, ← Text.byteSize_append]
  exact Text.isBoundary_append _ _

theorem slice_eq (h : w.In t) : t.slice w.span = w.text := by
  obtain ⟨a, b, rfl, hs⟩ := h.exists_append
  rw [hs, Text.slice_append]

end Word.In

theorem eq_reverse_append {p : Text} (ht : t = back.reverse ++ (p :: ps).flatten) :
    t = (p.reverse ++ back).reverse ++ ps.flatten := by
  rw [ht, List.flatten_cons, List.reverse_append, List.reverse_reverse, List.append_assoc]

theorem mem_wordsFrom (ht : t = back.reverse ++ ps.flatten) (hw : w ∈ wordsFrom back ps) :
    w.In t ∧ back.byteSize ≤ w.span.start := by
  induction ps generalizing back with
  | nil => contradiction
  | cons p ps ih =>
    have hothers (hw : w ∈ wordsFrom (p.reverse ++ back) ps) :
        w.In t ∧ back.byteSize ≤ w.span.start := by
      obtain ⟨hin, hle⟩ := ih (eq_reverse_append ht) hw
      rw [Text.byteSize_append] at hle
      exact ⟨hin, by omega⟩
    rw [wordsFrom] at hw
    by_cases hp : IsWord p
    · rw [if_pos hp] at hw
      rcases List.mem_cons.1 hw with rfl | hw
      · refine ⟨⟨hp, back.reverse, ps.flatten, ht, ?_⟩, le_rfl⟩
        rw [Text.byteSize_reverse]
      · exact hothers hw
    · rw [if_neg hp] at hw
      exact hothers hw

theorem wordsFrom_pairwise (ht : t = back.reverse ++ ps.flatten) :
    (wordsFrom back ps).Pairwise fun v w => v.span.Before w.span := by
  induction ps generalizing back with
  | nil => exact .nil
  | cons p ps ih =>
    have hothers := ih (eq_reverse_append ht)
    rw [wordsFrom]
    by_cases hp : IsWord p
    · rw [if_pos hp]
      refine .cons (fun w hw => ?_) hothers
      have hle := (mem_wordsFrom (eq_reverse_append ht) hw).2
      rw [Text.byteSize_append, Text.byteSize_reverse, Nat.add_comm] at hle
      exact hle
    · rw [if_neg hp]
      exact hothers

theorem span_wordEdit? (h : wordEdit? renames w = some e) : e.span = w.span := by
  rw [wordEdit?] at h
  split at h
  · obtain ⟨-, h⟩ := Option.ite_none_left_eq_some.1 h
    cases h
    rfl
  · contradiction

theorem ordered_wordEdits (ht : t = back.reverse ++ ps.flatten) :
    Ordered t ((wordsFrom back ps).filterMap (wordEdit? renames)) := by
  constructor
  · intro e he
    obtain ⟨w, hw, he⟩ := List.mem_filterMap.1 he
    rw [span_wordEdit? he]
    exact (mem_wordsFrom ht hw).1.within
  · refine List.pairwise_filterMap.2 ((wordsFrom_pairwise ht).imp fun h e he f hf => ?_)
    rw [span_wordEdit? he, span_wordEdit? hf]
    exact h

theorem le_start_wordEdits (ht : t = back.reverse ++ ps.flatten) :
    ∀ e ∈ (wordsFrom back ps).filterMap (wordEdit? renames), back.byteSize ≤ e.span.start := by
  intro e he
  obtain ⟨w, hw, he⟩ := List.mem_filterMap.1 he
  rw [span_wordEdit? he]
  exact (mem_wordsFrom ht hw).2

theorem weave_piece {p u : Text} {edits : List Edit} (ht : t = back.reverse ++ (p ++ u))
    (ho : Ordered t edits) (hle : ∀ e ∈ edits, back.byteSize + p.byteSize ≤ e.span.start) :
    weave t back.byteSize edits = p ++ weave t (back.byteSize + p.byteSize) edits := by
  have hslice : t.slice ⟨back.byteSize, back.byteSize + p.byteSize⟩ = p := by
    rw [ht, ← Text.byteSize_reverse back, Text.slice_append]
  have hstart : t.IsBoundary back.byteSize := by
    rw [ht, ← Text.byteSize_reverse back]
    exact Text.isBoundary_append _ _
  have hstop : t.IsBoundary (back.byteSize + p.byteSize) := by
    rw [ht, ← List.append_assoc, ← Text.byteSize_reverse back, ← Text.byteSize_append]
    exact Text.isBoundary_append _ _
  rw [← slice_append_weave ho hstart hstop (Nat.le_add_right _ _) hle, hslice]

theorem maskedWord_eq_wordEdit? (renames : List Rename) (w : Word) :
    maskedWord renames w.inKeyPlace w.text
      = ((wordEdit? renames w).map Edit.text).getD w.text := by
  rw [maskedWord, wordEdit?]
  cases renameOf renames w.text with
  | none => rfl
  | some r =>
    by_cases hk : r.category = .variable ∧ w.inKeyPlace = true
    · simp only [if_pos hk, Option.map_none, Option.getD_none]
    · simp only [if_neg hk, Option.map_some, Option.getD_some]

/-- A pass over pieces puts the edits at their words in place. -/
theorem weave_wordsFrom (ht : t = back.reverse ++ ps.flatten) :
    weave t back.byteSize ((wordsFrom back ps).filterMap (wordEdit? renames))
      = (mapWordsFrom (fun back word after => maskedWord renames (isKeyPlace back after) word) back
        ps).flatten := by
  induction ps generalizing back with
  | nil =>
    rw [ht]
    exact Text.dropBytes_append (Text.byteSize_reverse back) _
  | cons p ps ih =>
    have ht' := eq_reverse_append ht
    have hsize : Text.byteSize (p.reverse ++ back) = back.byteSize + p.byteSize := by
      rw [Text.byteSize_append, Text.byteSize_reverse, Nat.add_comm]
    have ho : Ordered t ((wordsFrom (p.reverse ++ back) ps).filterMap (wordEdit? renames)) :=
      ordered_wordEdits ht'
    have hcopy := weave_piece ht ho (hsize ▸ le_start_wordEdits ht')
    have hih := ih ht'
    rw [hsize] at hih
    rw [wordsFrom, mapWordsFrom, List.flatten_cons, ← hih]
    by_cases hp : IsWord p
    · rw [if_pos hp, if_pos hp]
      let w : Word := ⟨⟨back.byteSize, back.byteSize + p.byteSize⟩, p, isKeyPlace back ps.flatten⟩
      have hw := maskedWord_eq_wordEdit? renames w
      cases he : wordEdit? renames w with
      | none =>
        rw [he] at hw
        rw [List.filterMap_cons_none he, hcopy]
        exact congrArg (· ++ _) hw.symm
      | some e =>
        rw [he] at hw
        -- The edit starts where the text before ends, so there is nothing to copy.
        have hempty : t.slice ⟨back.byteSize, back.byteSize⟩ = [] := by
          rw [Text.slice, Nat.sub_self, Text.takeBytes_zero]
        rw [List.filterMap_cons_some he, weave, span_wordEdit? he, hempty]
        exact congrArg (· ++ _) hw.symm
    · rw [if_neg hp, if_neg hp]
      exact hcopy

theorem ordered_words (renames : List Rename) (t : Text) :
    Ordered t ((words t).filterMap (wordEdit? renames)) :=
  ordered_wordEdits (flatten_pieces t).symm

theorem mem_words (h : w ∈ words t) : w.In t :=
  (mem_wordsFrom (flatten_pieces t).symm h).1

theorem renamePass_eq_weave (renames : List Rename) (t : Text) :
    renamePass renames t = weave t 0 ((words t).filterMap (wordEdit? renames)) :=
  (weave_wordsFrom (flatten_pieces t).symm).symm

theorem wordEdit?_eq_some_iff (h : renames.Pairwise fun r s => r.name ≠ s.name) :
    wordEdit? renames w = some e ↔ ∃ r ∈ renames, r.name = w.text
      ∧ ¬ (r.category = .variable ∧ w.inKeyPlace = true) ∧ ⟨w.span, r.mask⟩ = e := by
  rw [wordEdit?]
  constructor
  · intro he
    split at he
    · next r hr =>
      obtain ⟨hk, he⟩ := Option.ite_none_left_eq_some.1 he
      obtain ⟨hmem, hname⟩ := (renameOf_eq_some_iff h).1 hr
      exact ⟨r, hmem, hname, hk, Option.some.inj he⟩
    · contradiction
  · rintro ⟨r, hmem, hname, hk, rfl⟩
    rw [(renameOf_eq_some_iff h).2 ⟨hmem, hname⟩]
    exact if_neg hk

end ScriptVeil.Masking
