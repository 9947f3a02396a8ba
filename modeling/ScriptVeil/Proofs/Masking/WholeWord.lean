import ScriptVeil.Proofs.Masking.Agreement
import ScriptVeil.Proofs.Script.Scan.Boundary

namespace ScriptVeil.Masking

open Script

variable {t a b p back : Text} {ps qs : List Text} {w : Word}

def wordBetween (back p after : Text) : Word :=
  ⟨⟨back.byteSize, back.byteSize + p.byteSize⟩, p, isKeyPlace back after⟩

theorem pieces_append (hp : IsWord p) (ha : StartsNoWord a.reverse) (hb : StartsNoWord b) :
    pieces (a ++ (p ++ b)) = pieces a ++ p :: pieces b := by
  have hword {x : Char} (hx : x ∈ p) {y : Char} (hy : isWordChar y = false) :
      joined x y = false := by
    rw [joined, hp.2 x hx, hy]
    rfl
  have hleft : ∀ x ∈ a.getLast?, ∀ y ∈ (p ++ b).head?, joined x y = false := by
    intro x hx y hy
    obtain ⟨c, v, rfl, -⟩ := hp.exists_cons
    obtain rfl := Option.some.inj hy
    have hx : isWordChar x = false := ha x (by rwa [List.head?_reverse])
    rw [joined, hp.2 c List.mem_cons_self, hx]
    rfl
  have hright : ∀ x ∈ p.getLast?, ∀ y ∈ b.head?, joined x y = false :=
    fun x hx y hy => hword (List.mem_of_mem_getLast? hx) (hb y hy)
  rw [pieces, List.splitBy_append hleft, List.splitBy_append hright,
    List.splitBy_of_isChain hp.1 (isChain_of_isWord_or_isGap (.inl hp))]
  rfl

theorem Alternating.before_word (h : Alternating (qs ++ p :: ps)) (hp : IsWord p) :
    StartsNoWord qs.flatten.reverse := by
  have hreverse := h.reverse.drop ps.length
  rw [List.map_append, List.map_cons, List.reverse_append, List.reverse_cons, List.append_assoc,
    List.drop_left' (by simp), List.singleton_append] at hreverse
  rw [List.reverse_flatten]
  exact hreverse.after_word (isWord_reverse.2 hp)

theorem mem_wordsFrom_iff : w ∈ wordsFrom back ps ↔ ∃ qs p rs, ps = qs ++ p :: rs ∧ IsWord p
    ∧ w = wordBetween (qs.flatten.reverse ++ back) p rs.flatten := by
  induction ps generalizing back with
  | nil => simp [wordsFrom]
  | cons p ps ih =>
    have hhead : w ∈ wordsFrom back (p :: ps) ↔ IsWord p ∧ w = wordBetween back p ps.flatten
        ∨ w ∈ wordsFrom (p.reverse ++ back) ps := by
      rw [wordsFrom]
      split
      · next hp => rw [List.mem_cons, and_iff_right hp, wordBetween]
      · next hp => rw [or_iff_right fun h => hp h.1]
    rw [hhead, ih]
    constructor
    · rintro (⟨hp, rfl⟩ | ⟨qs, q, rs, rfl, hq, rfl⟩)
      · exact ⟨[], p, ps, rfl, hp, rfl⟩
      · refine ⟨p :: qs, q, rs, rfl, hq, ?_⟩
        rw [List.flatten_cons, List.reverse_append, List.append_assoc]
    · rintro ⟨qs, q, rs, hps, hq, rfl⟩
      cases qs with
      | nil =>
        cases hps
        exact .inl ⟨hq, rfl⟩
      | cons p' qs =>
        cases hps
        refine .inr ⟨qs, q, rs, rfl, hq, ?_⟩
        rw [List.flatten_cons, List.reverse_append, List.append_assoc]

/-- The words of a text are the runs of word characters with none around. -/
theorem mem_words_iff : w ∈ words t ↔ ∃ a p b, t = a ++ (p ++ b) ∧ IsWord p
    ∧ StartsNoWord a.reverse ∧ StartsNoWord b ∧ w = wordBetween a.reverse p b := by
  rw [words, mem_wordsFrom_iff]
  constructor
  · rintro ⟨qs, p, rs, hps, hp, rfl⟩
    have ht : t = (qs ++ p :: rs).flatten := by rw [← hps, flatten_pieces]
    have halternating : Alternating (qs ++ p :: rs) := hps ▸ alternating_pieces t
    refine ⟨qs.flatten, p, rs.flatten, by rw [ht, List.flatten_append, List.flatten_cons], hp,
      halternating.before_word hp, ?_, by rw [List.append_nil]⟩
    have hdrop := halternating.drop qs.length
    rw [List.drop_left] at hdrop
    exact hdrop.after_word hp
  · rintro ⟨a, p, b, rfl, hp, ha, hb, rfl⟩
    refine ⟨pieces a, p, pieces b, pieces_append hp ha hb, hp, ?_⟩
    rw [flatten_pieces, flatten_pieces, List.append_nil]

def maskEdits (r : Rename) (t : Text) : List Edit :=
  (words t).filterMap (wordEdit? [r])

def IsMaskedAt (r : Rename) (t : Text) (place : Span) : Prop :=
  ⟨place, r.mask⟩ ∈ maskEdits r t

instance (r : Rename) (t : Text) (place : Span) : Decidable (IsMaskedAt r t place) :=
  inferInstanceAs (Decidable (_ ∈ maskEdits r t))

/-- Whether a name stands at a place, with no word going on before or behind it, and in no place of
a member name or an object key. -/
def StandsFree (name t : Text) (place : Span) : Prop :=
  ∃ a b, t = a ++ (name ++ b) ∧ place = ⟨a.byteSize, a.byteSize + name.byteSize⟩
    ∧ StartsNoWord a.reverse ∧ StartsNoWord b ∧ isKeyPlace a.reverse b = false

variable {r : Rename} {place : Span}

theorem textual_singleton (r : Rename) (t : Text) :
    textual t [r] [] = weave t 0 (maskEdits r t) := by
  have hpass : applyRenames [r] t = renamePass [r] t := by
    rw [applyRenames, List.foldl_cons, List.foldl_nil, applyRename, replaceWord_eq_flatten,
      renamePass]
    congr 2
    funext back word after
    rw [replacement, maskedWord]
    by_cases hw : r.name = word
    · subst hw
      have hfind : renameOf [r] r.name = some r := List.find?_cons_of_pos (decide_eq_true rfl)
      rw [hfind]
      by_cases hkept : r.category = .variable ∧ isKeyPlace back after = true
      · simp [hkept.1, hkept.2]
      · simp [hkept]
    · have hfind : renameOf [r] word = none :=
        renameOf_eq_none fun s hs => List.mem_singleton.1 hs ▸ Ne.symm hw
      rw [hfind]
      simp [Ne.symm hw]
  rw [textual_nil, hpass, renamePass_eq_weave, maskEdits]

/-- A single rename edits the words that are its name, unless it keeps them for their place. -/
theorem mem_maskEdits_iff {e : Edit} : e ∈ maskEdits r t ↔ IsWord r.name
    ∧ ∃ a b, t = a ++ (r.name ++ b) ∧ StartsNoWord a.reverse ∧ StartsNoWord b
      ∧ ¬ (r.category = .variable ∧ isKeyPlace a.reverse b = true)
      ∧ e = ⟨⟨a.byteSize, a.byteSize + r.name.byteSize⟩, r.mask⟩ := by
  rw [maskEdits, List.mem_filterMap]
  constructor
  · rintro ⟨w, hw, he⟩
    obtain ⟨a, p, b, ht, hp, ha, hb, rfl⟩ := mem_words_iff.1 hw
    obtain ⟨s, hs, rfl, hkey, hedit⟩ := (wordEdit?_eq_some_iff (List.pairwise_singleton _ _)).1 he
    obtain rfl : s = r := List.mem_singleton.1 hs
    refine ⟨hp, a, b, ht, ha, hb, hkey, ?_⟩
    rw [← hedit, wordBetween, Text.byteSize_reverse]
  · rintro ⟨hword, a, b, ht, ha, hb, hkey, rfl⟩
    refine ⟨wordBetween a.reverse r.name b, mem_words_iff.2 ⟨a, _, b, ht, hword, ha, hb, rfl⟩, ?_⟩
    refine (wordEdit?_eq_some_iff (List.pairwise_singleton _ _)).2
      ⟨r, List.mem_singleton_self r, rfl, hkey, ?_⟩
    rw [wordBetween, Text.byteSize_reverse]

theorem isMaskedAt_iff (hr : r.category = .variable) :
    IsMaskedAt r t place ↔ IsWord r.name ∧ StandsFree r.name t place := by
  rw [IsMaskedAt, mem_maskEdits_iff]
  refine and_congr_right fun _ => exists_congr fun a => exists_congr fun b => ?_
  rw [Edit.mk.injEq, and_iff_right hr, Bool.not_eq_true, and_iff_left rfl]
  tauto

end ScriptVeil.Masking
