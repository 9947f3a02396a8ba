import Mathlib.Data.List.Forall2
import ScriptVeil.Proofs.Masking.Pieces
import ScriptVeil.Proofs.Text.CharClass

namespace ScriptVeil.Masking

/-- Texts that differ only in their words, where `same` tells which words stand for each other. -/
inductive Alike (same : Text → Text → Prop) : Text → Text → Prop where
  | nil : Alike same [] []
  | other {c : Char} {t u : Text} (hc : isWordChar c = false) (h : Alike same t u) :
      Alike same (c :: t) (c :: u)
  | word {v w t u : Text} (hv : IsWord v) (hw : IsWord w) (hs : same v w)
      (ht : ∀ c ∈ t.head?, isWordChar c = false) (hu : ∀ c ∈ u.head?, isWordChar c = false)
      (h : Alike same t u) : Alike same (v ++ t) (w ++ u)

variable {same : Text → Text → Prop} {t u : Text}

theorem IsWord.exists_cons {w : Text} (h : IsWord w) :
    ∃ c v, w = c :: v ∧ isWordChar c = true := by
  obtain ⟨c, v, rfl⟩ := List.exists_cons_of_ne_nil h.1
  exact ⟨c, v, rfl, h.2 c List.mem_cons_self⟩

theorem IsWord.trimStart_append {w : Text} (h : IsWord w) (t : Text) :
    Text.trimStart (w ++ t) = w ++ t := by
  obtain ⟨c, v, rfl, hc⟩ := h.exists_cons
  exact List.dropWhile_cons_of_neg (by rw [isBlank_eq_false_of_isWordChar hc]; decide)

namespace Alike

theorem gap {g : Text} (hg : ∀ c ∈ g, isWordChar c = false) (h : Alike same t u) :
    Alike same (g ++ t) (g ++ u) := by
  induction g with
  | nil => exact h
  | cons c g ih =>
    exact .other (hg c List.mem_cons_self) (ih fun d hd => hg d (List.mem_cons_of_mem _ hd))

theorem trimStart (h : Alike same t u) : Alike same t.trimStart u.trimStart := by
  induction h with
  | nil => exact .nil
  | @other c t u hc h ih =>
    by_cases hb : isBlank c = true
    · simpa only [Text.trimStart, List.dropWhile_cons_of_pos hb] using ih
    · simpa only [Text.trimStart, List.dropWhile_cons_of_neg hb] using Alike.other hc h
  | word hv hw hs ht hu h ih =>
    rw [hv.trimStart_append, hw.trimStart_append]
    exact .word hv hw hs ht hu h

theorem eq_nil_iff (h : Alike same t u) : t = [] ↔ u = [] := by
  cases h with
  | nil => rfl
  | other hc h => exact iff_of_false (List.cons_ne_nil _ _) (List.cons_ne_nil _ _)
  | word hv hw hs ht hu h =>
    exact iff_of_false (List.append_ne_nil_of_left_ne_nil hv.1 _)
      (List.append_ne_nil_of_left_ne_nil hw.1 _)

theorem prefix_iff {p : Text} (hp : p.any isWordChar = false) (h : Alike same t u) :
    p <+: t ↔ p <+: u := by
  induction p generalizing t u with
  | nil => simp only [List.nil_prefix]
  | cons c p ih =>
    obtain ⟨hc, hp⟩ := Bool.or_eq_false_iff.1 hp
    cases h with
    | nil => rfl
    | other hd h => rw [List.cons_prefix_cons, List.cons_prefix_cons, ih hp h]
    | word hv hw hs ht hu h =>
      obtain ⟨d, v, rfl, hd⟩ := hv.exists_cons
      obtain ⟨e, w, rfl, he⟩ := hw.exists_cons
      simp only [List.cons_append, List.cons_prefix_cons]
      refine iff_of_false (fun hcd => ?_) (fun hce => ?_)
      · rw [← hcd.1, hc] at hd
        contradiction
      · rw [← hce.1, hc] at he
        contradiction

theorem tail {c : Char} (hc : isWordChar c = false) (h : Alike same (c :: t) (c :: u)) :
    Alike same t u := by
  generalize hx : c :: t = x at h
  generalize hy : c :: u = y at h
  cases h with
  | nil => contradiction
  | other hd h =>
    obtain ⟨rfl, rfl⟩ := List.cons.inj hx
    obtain ⟨-, rfl⟩ := List.cons.inj hy
    exact h
  | word hv hw hs ht hu h =>
    obtain ⟨d, v, rfl, hd⟩ := hv.exists_cons
    rw [(List.cons.inj hx).1, hd] at hc
    contradiction

end Alike

theorem isMemberName_iff (back : Text) :
    isMemberName back = true ↔
      ['.'] <+: back.trimStart ∧ ¬ ['.', '.', '.'] <+: back.trimStart := by
  rw [isMemberName]
  generalize back.trimStart = t
  split
  · simp
  · next hne =>
    simp only [List.cons_prefix_cons, List.nil_prefix, true_and, and_true, true_iff]
    rintro ⟨u, rfl⟩
    exact hne u rfl
  · next hne =>
    apply iff_of_false (by decide)
    intro h
    obtain ⟨u, rfl⟩ := h.1
    exact hne u rfl

theorem opensBlock_iff (back : Text) :
    opensBlock back = true ↔
      back.trimStart = [] ∨ ['>', '='] <+: back.trimStart
        ∨ (∃ c ∈ [')', ';', '{', '}'], [c] <+: back.trimStart)
        ∨ (back.trimStart.takeWhile isWordChar).reverse ∈ blockOpeners := by
  rw [opensBlock]
  generalize back.trimStart = t
  split
  · simp
  · next u => simp
  · next c u hne =>
    have hgt : ¬ ['>', '='] <+: c :: u := by
      rintro ⟨v, hv⟩
      obtain ⟨rfl, rfl⟩ := List.cons.inj hv
      exact hne v rfl rfl
    simp only [Bool.or_eq_true, List.contains_iff_mem, reduceCtorEq, hgt, false_or,
      List.cons_prefix_cons, List.nil_prefix, and_true, exists_eq_right]

theorem isObjectKey_iff (back after : Text) :
    isObjectKey back after = true ↔
      [':'] <+: after.trimStart ∧ ([','] <+: back.trimStart
        ∨ ['{'] <+: back.trimStart ∧ opensBlock back.trimStart.tail = false) := by
  rw [isObjectKey]
  generalize back.trimStart = t
  generalize after.trimStart = u
  rw [Bool.and_eq_true, decide_eq_true_eq]
  refine and_congr ?_ ?_
  · cases u <;> simp [eq_comm]
  · split
    · simp
    · next c v hne =>
      have hc : ¬ '{' = c := fun hc => hne hc.symm
      simp only [decide_eq_true_eq, List.cons_prefix_cons, List.nil_prefix, and_true, hc, false_and,
        or_false]
      exact eq_comm
    · simp

def SameOpener (v w : Text) : Prop :=
  v.reverse ∈ blockOpeners ↔ w.reverse ∈ blockOpeners

theorem Alike.takeWhile_mem (h : Alike SameOpener t u) :
    (t.takeWhile isWordChar).reverse ∈ blockOpeners
      ↔ (u.takeWhile isWordChar).reverse ∈ blockOpeners := by
  cases h with
  | nil => rfl
  | other hc h =>
    rw [List.takeWhile_cons_of_neg (by simp [hc]), List.takeWhile_cons_of_neg (by simp [hc])]
  | @word v w t u hv hw hs ht hu h =>
    rw [takeWhile_append_word hv.2 ht, takeWhile_append_word hw.2 hu]
    exact hs

theorem opensBlock_congr (h : Alike SameOpener t u) : opensBlock t = opensBlock u := by
  have h := h.trimStart
  have hmark : [')', ';', '{', '}'].any isWordChar = false := by decide
  rw [Bool.eq_iff_iff, opensBlock_iff, opensBlock_iff, h.eq_nil_iff,
    h.prefix_iff (p := ['>', '=']) (by decide), h.takeWhile_mem]
  refine or_congr_right (or_congr_right (or_congr_left ?_))
  refine exists_congr fun c => and_congr_right fun hc => h.prefix_iff ?_
  simpa using List.any_eq_false.1 hmark c hc

theorem isMemberName_congr (h : Alike same t u) : isMemberName t = isMemberName u := by
  have h := h.trimStart
  rw [Bool.eq_iff_iff, isMemberName_iff, isMemberName_iff, h.prefix_iff (p := ['.']) (by decide),
    h.prefix_iff (p := ['.', '.', '.']) (by decide)]

theorem isObjectKey_congr {same' : Text → Text → Prop} {t' u' : Text} (h : Alike SameOpener t u)
    (h' : Alike same' t' u') : isObjectKey t t' = isObjectKey u u' := by
  have h := h.trimStart
  rw [Bool.eq_iff_iff, isObjectKey_iff, isObjectKey_iff, h'.trimStart.prefix_iff (p := [':'])
    (by decide), h.prefix_iff (p := [',']) (by decide)]
  refine and_congr_right fun _ => or_congr_right ?_
  have hiff := h.prefix_iff (p := ['{']) (by decide)
  have htail (hb : ['{'] <+: t.trimStart) :
      opensBlock t.trimStart.tail = opensBlock u.trimStart.tail := by
    obtain ⟨v, hv⟩ := hb
    obtain ⟨w, hw⟩ := hiff.1 ⟨v, hv⟩
    rw [← hv, ← hw] at h ⊢
    exact opensBlock_congr (h.tail (by decide))
  rw [hiff]
  exact and_congr_right fun hb => by rw [htail (hiff.2 hb)]

theorem isKeyPlace_congr {same' : Text → Text → Prop} {t' u' : Text} (h : Alike SameOpener t u)
    (h' : Alike same' t' u') : isKeyPlace t t' = isKeyPlace u u' := by
  rw [isKeyPlace, isKeyPlace, isMemberName_congr h, isObjectKey_congr h h']

/-- Pieces that may stand for each other: equal ones, and words that open no block. -/
def Exchangeable (p q : Text) : Prop :=
  p = q ∨ IsWord p ∧ IsWord q ∧ p ∉ blockOpeners ∧ q ∉ blockOpeners

variable {ps qs : List Text}

theorem Exchangeable.matching {p q : Text} (h : Exchangeable p q) : Matching p q :=
  h.imp id fun h => ⟨h.1, h.2.1⟩

theorem alike_flatten (h : Alternating ps)
    (hm : List.Forall₂ (fun p q => Matching p q ∧ (IsWord p → same p q)) ps qs) :
    Alike same ps.flatten qs.flatten := by
  induction hm with
  | nil => exact .nil
  | @cons p q ps qs hpq hm ih =>
    obtain ⟨hpq, hs⟩ := hpq
    have hq : Alternating (q :: qs) := h.of_matching (.cons hpq (hm.imp fun _ _ h => h.1))
    by_cases hp : IsWord p
    · have hq' := hpq.isWord_iff.1 hp
      exact .word hp hq' (hs hp) (h.after_word hp) (hq.after_word hq') (ih h.tail)
    · obtain rfl : p = q := hpq.resolve_right fun hw => hp hw.1
      exact (ih h.tail).gap (h.head.resolve_left hp).2

theorem alike_of_exchangeable (h : Alternating ps) (hm : List.Forall₂ Exchangeable ps qs) :
    Alike (fun _ _ => True) ps.flatten qs.flatten :=
  alike_flatten h (hm.imp fun _ _ h => ⟨h.matching, fun _ => trivial⟩)

theorem Exchangeable.sameOpener {p q : Text} (h : Exchangeable p q) :
    SameOpener p.reverse q.reverse := by
  rw [SameOpener, List.reverse_reverse, List.reverse_reverse]
  rcases h with rfl | ⟨-, -, hp, hq⟩
  · rfl
  · exact iff_of_false hp hq

theorem Matching.reverse {p q : Text} (h : Matching p q) : Matching p.reverse q.reverse := by
  rcases h with rfl | ⟨hp, hq⟩
  · exact .inl rfl
  · exact .inr ⟨isWord_reverse.2 hp, isWord_reverse.2 hq⟩

theorem alike_reverse_of_exchangeable (h : Alternating ps) (hm : List.Forall₂ Exchangeable ps qs) :
    Alike SameOpener ps.flatten.reverse qs.flatten.reverse := by
  rw [List.reverse_flatten, List.reverse_flatten]
  apply alike_flatten h.reverse
  rw [List.forall₂_reverse_iff, List.forall₂_map_left_iff, List.forall₂_map_right_iff]
  exact hm.imp fun _ _ h => ⟨h.matching.reverse, fun _ => h.sameOpener⟩

/-- Exchanging words for others leaves every place what it is. -/
theorem isKeyPlace_of_exchangeable (h : Alternating ps) (hm : List.Forall₂ Exchangeable ps qs)
    (i : Nat) :
    isKeyPlace (textBefore ps i) (textAfter ps i) = isKeyPlace (textBefore qs i) (textAfter qs i) :=
  isKeyPlace_congr (alike_reverse_of_exchangeable (h.take i) (List.forall₂_take i hm))
    (alike_of_exchangeable (h.drop (i + 1)) (List.forall₂_drop (i + 1) hm))

end ScriptVeil.Masking
