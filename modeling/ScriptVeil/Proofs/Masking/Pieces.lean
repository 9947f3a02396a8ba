import Mathlib.Data.List.SplitBy
import ScriptVeil.Masking.Words

namespace ScriptVeil.Masking

def joined (a b : Char) : Bool :=
  isWordChar a == isWordChar b

/-- The maximal runs of word characters and of other characters, in order. -/
def pieces (t : Text) : List Text :=
  t.splitBy joined

def IsWord (p : Text) : Prop :=
  p ≠ [] ∧ ∀ c ∈ p, isWordChar c = true

def IsGap (p : Text) : Prop :=
  p ≠ [] ∧ ∀ c ∈ p, isWordChar c = false

instance (p : Text) : Decidable (IsWord p) :=
  decidable_of_iff (p ≠ [] ∧ p.all isWordChar = true) (and_congr_right fun _ => List.all_eq_true)

def Alternating (ps : List Text) : Prop :=
  (∀ p ∈ ps, IsWord p ∨ IsGap p) ∧ ps.IsChain fun p q => IsWord p ↔ ¬ IsWord q

def isKeyPlace (back after : Text) : Bool :=
  isMemberName back || isObjectKey back after

variable {p : Text} {ps : List Text}

theorem IsWord.not_isGap (h : IsWord p) : ¬ IsGap p := by
  intro hg
  obtain ⟨c, hc⟩ := List.exists_mem_of_ne_nil p h.1
  have := h.2 c hc
  rw [hg.2 c hc] at this
  contradiction

theorem IsWord.ne_nil (h : IsWord p) : p ≠ [] := h.1

theorem IsGap.ne_nil (h : IsGap p) : p ≠ [] := h.1

@[simp]
theorem isWord_reverse : IsWord p.reverse ↔ IsWord p := by
  simp only [IsWord, ne_eq, List.reverse_eq_nil_iff, List.mem_reverse]

@[simp]
theorem isGap_reverse : IsGap p.reverse ↔ IsGap p := by
  simp only [IsGap, ne_eq, List.reverse_eq_nil_iff, List.mem_reverse]

theorem isWordChar_of_mem {c : Char} (h : IsWord p ∨ IsGap p) (hc : c ∈ p) :
    isWordChar c = true ↔ IsWord p := by
  rcases h with h | h
  · exact iff_of_true (h.2 c hc) h
  · exact iff_of_false (by rw [h.2 c hc]; decide) fun hw => hw.not_isGap h

namespace Alternating

theorem tail (h : Alternating (p :: ps)) : Alternating ps :=
  ⟨fun q hq => h.1 q (List.mem_cons_of_mem _ hq), h.2.tail⟩

theorem head (h : Alternating (p :: ps)) : IsWord p ∨ IsGap p :=
  h.1 p List.mem_cons_self

theorem head_flatten (h : Alternating (p :: ps)) {c : Char} (hc : ps.flatten.head? = some c) :
    isWordChar c = true ↔ ¬ IsWord p := by
  cases ps with
  | nil => simp at hc
  | cons q ps =>
    have hq := h.tail.head
    have hne : q ≠ [] := hq.elim IsWord.ne_nil IsGap.ne_nil
    have hcq : c ∈ q := by
      rw [List.flatten_cons, List.head?_append_of_ne_nil _ hne] at hc
      exact List.mem_of_mem_head? hc
    have hpq := (List.isChain_cons_cons.1 h.2).1
    rw [isWordChar_of_mem hq hcq]
    exact ⟨fun hw hp => hpq.1 hp hw, fun hp => Classical.not_not.1 fun hw => hp (hpq.2 hw)⟩

theorem after_word (h : Alternating (p :: ps)) (hp : IsWord p) :
    ∀ c ∈ ps.flatten.head?, isWordChar c = false := by
  intro c hc
  rw [← Bool.not_eq_true, h.head_flatten hc, Classical.not_not]
  exact hp

theorem reverse (h : Alternating ps) : Alternating (ps.map List.reverse).reverse := by
  refine ⟨?_, ?_⟩
  · intro q hq
    obtain ⟨p, hp, rfl⟩ := List.mem_map.1 (List.mem_reverse.1 hq)
    exact (h.1 p hp).imp isWord_reverse.2 isGap_reverse.2
  · rw [List.isChain_reverse, List.isChain_map]
    apply h.2.imp
    intro p q hpq
    rw [isWord_reverse, isWord_reverse]
    exact ⟨fun hq hp => hpq.1 hp hq, fun hp => Classical.not_not.1 fun hq => hp (hpq.2 hq)⟩

theorem nil_notMem (h : Alternating ps) : [] ∉ ps := by
  intro hmem
  rcases h.1 [] hmem with hw | hg
  · exact hw.1 rfl
  · exact hg.1 rfl

theorem take (h : Alternating ps) (n : Nat) : Alternating (ps.take n) :=
  ⟨fun p hp => h.1 p (List.mem_of_mem_take hp), h.2.take n⟩

theorem drop (h : Alternating ps) (n : Nat) : Alternating (ps.drop n) :=
  ⟨fun p hp => h.1 p (List.mem_of_mem_drop hp), h.2.drop n⟩

end Alternating

theorem joined_iff {a b : Char} : joined a b = true ↔ isWordChar a = isWordChar b := by
  simp only [joined, beq_iff_eq]

theorem isWordChar_eq_of_isChain {c d : Char} (h : (c :: p).IsChain fun a b => joined a b)
    (hd : d ∈ c :: p) : isWordChar d = isWordChar c := by
  induction p generalizing c with
  | nil =>
    rw [List.mem_singleton] at hd
    rw [hd]
  | cons b p ih =>
    obtain ⟨hcb, hp⟩ := List.isChain_cons_cons.1 h
    rcases List.mem_cons.1 hd with rfl | hd
    · rfl
    · rw [ih hp hd, joined_iff.1 hcb]

theorem isWord_or_isGap_of_isChain (hne : p ≠ []) (h : p.IsChain fun a b => joined a b) :
    IsWord p ∨ IsGap p := by
  cases p with
  | nil => contradiction
  | cons c p =>
    cases hc : isWordChar c with
    | true => exact .inl ⟨hne, fun d hd => (isWordChar_eq_of_isChain h hd).trans hc⟩
    | false => exact .inr ⟨hne, fun d hd => (isWordChar_eq_of_isChain h hd).trans hc⟩

theorem isChain_of_isWord_or_isGap (h : IsWord p ∨ IsGap p) :
    p.IsChain fun a b => joined a b := by
  apply List.Pairwise.isChain
  refine List.pairwise_of_forall_mem_list fun a ha b hb => joined_iff.2 ?_
  rw [Bool.eq_iff_iff, isWordChar_of_mem h ha, isWordChar_of_mem h hb]

theorem alternating_pieces (t : Text) : Alternating (pieces t) := by
  have hkind {p : Text} (hp : p ∈ pieces t) : IsWord p ∨ IsGap p :=
    isWord_or_isGap_of_isChain (List.ne_nil_of_mem_splitBy hp) (List.isChain_of_mem_splitBy hp)
  refine ⟨fun p hp => hkind hp, ?_⟩
  apply (List.isChain_getLast_head_splitBy joined t).imp_of_mem_imp
  intro p q hp hq hpq
  obtain ⟨hp', hq', hj⟩ := hpq
  rw [← isWordChar_of_mem (hkind hp) (List.getLast_mem hp'),
    ← isWordChar_of_mem (hkind hq) (List.head_mem hq')]
  rw [← Bool.not_eq_true, joined_iff] at hj
  rw [Bool.not_eq_true, Bool.eq_not.2 hj]
  rw [Bool.not_eq_true']

@[simp]
theorem flatten_pieces (t : Text) : (pieces t).flatten = t :=
  List.flatten_splitBy joined t

theorem pieces_flatten (h : Alternating ps) : pieces ps.flatten = ps := by
  refine List.splitBy_flatten h.nil_notMem (fun p hp => isChain_of_isWord_or_isGap (h.1 p hp)) ?_
  apply h.2.imp_of_mem_imp
  intro p q hp hq hpq
  have hp' := h.1 p hp
  have hq' := h.1 q hq
  refine ⟨hp'.elim IsWord.ne_nil IsGap.ne_nil, hq'.elim IsWord.ne_nil IsGap.ne_nil, ?_⟩
  rw [← Bool.not_eq_true, joined_iff, Bool.eq_iff_iff, isWordChar_of_mem hp' (List.getLast_mem _),
    isWordChar_of_mem hq' (List.head_mem _), hpq]
  exact fun h => iff_not_self h.symm

/-- Replaces each word by what `f` makes of it between the text before, backwards, and after it. -/
def mapWordsFrom (f : Text → Text → Text → Text) (back : Text) : List Text → List Text
  | [] => []
  | p :: ps => (if IsWord p then f back p ps.flatten else p) :: mapWordsFrom f
    (p.reverse ++ back) ps

def textBefore (ps : List Text) (i : Nat) : Text :=
  (ps.take i).flatten.reverse

def textAfter (ps : List Text) (i : Nat) : Text :=
  (ps.drop (i + 1)).flatten

theorem mapWordsFrom_eq_mapIdx (f : Text → Text → Text → Text) (back : Text) (ps : List Text) :
    mapWordsFrom f back ps = ps.mapIdx fun i p =>
      if IsWord p then f (textBefore ps i ++ back) p (textAfter ps i) else p := by
  induction ps generalizing back with
  | nil => rfl
  | cons p ps ih =>
    rw [mapWordsFrom, ih, List.mapIdx_cons]
    simp only [textBefore, textAfter, List.take_zero, List.flatten_nil, List.reverse_nil,
      List.nil_append, List.drop_succ_cons, List.drop_zero, List.take_succ_cons,
      List.flatten_cons, List.reverse_append, List.append_assoc]

def replacement (name mask : Text) (keepKeys : Bool) (back word after : Text) : Text :=
  if word = name && !(keepKeys && isKeyPlace back after) then mask else word

section Replace

variable {name mask back t : Text} {keepKeys : Bool}

theorem takeWhile_append_word (hp : ∀ c ∈ p, isWordChar c = true)
    (ht : ∀ c ∈ t.head?, isWordChar c = false) : (p ++ t).takeWhile isWordChar = p := by
  rw [List.takeWhile_append_of_pos hp]
  cases t with
  | nil => exact List.append_nil p
  | cons c t => rw [List.takeWhile_cons_of_neg (by simp [ht c rfl]), List.append_nil]

theorem dropWhile_append_word (hp : ∀ c ∈ p, isWordChar c = true)
    (ht : ∀ c ∈ t.head?, isWordChar c = false) : (p ++ t).dropWhile isWordChar = t := by
  rw [List.dropWhile_append_of_pos hp]
  cases t with
  | nil => rfl
  | cons c t => rw [List.dropWhile_cons_of_neg (by simp [ht c rfl])]

theorem replaceWordFrom_gap (h : ∀ c ∈ p, isWordChar c = false) :
    replaceWordFrom name mask keepKeys back (p ++ t)
      = p ++ replaceWordFrom name mask keepKeys (p.reverse ++ back) t := by
  induction p generalizing back with
  | nil => rfl
  | cons c p ih =>
    have hc := h c List.mem_cons_self
    have hp : ∀ d ∈ p, isWordChar d = false := fun d hd => h d (List.mem_cons_of_mem _ hd)
    rw [List.cons_append, replaceWordFrom, hc, ih hp]
    simp only [Bool.false_eq_true, if_false, List.cons_append, List.reverse_cons,
      List.append_assoc, List.nil_append]

theorem replaceWordFrom_word (h : IsWord p) (ht : ∀ c ∈ t.head?, isWordChar c = false) :
    replaceWordFrom name mask keepKeys back (p ++ t)
      = replacement name mask keepKeys back p t
        ++ replaceWordFrom name mask keepKeys (p.reverse ++ back) t := by
  obtain ⟨hne, hw⟩ := h
  cases p with
  | nil => contradiction
  | cons c p =>
    have hp : ∀ d ∈ p, isWordChar d = true := fun d hd => hw d (List.mem_cons_of_mem _ hd)
    rw [List.cons_append, replaceWordFrom, if_pos (hw c List.mem_cons_self)]
    rw [takeWhile_append_word hp ht, dropWhile_append_word hp ht]
    rfl

theorem replaceWordFrom_flatten (h : Alternating ps) :
    replaceWordFrom name mask keepKeys back ps.flatten
      = (mapWordsFrom (replacement name mask keepKeys) back ps).flatten := by
  induction ps generalizing back with
  | nil => simp [replaceWordFrom, mapWordsFrom]
  | cons p ps ih =>
    rw [List.flatten_cons, mapWordsFrom, List.flatten_cons, ← ih h.tail]
    rcases h.head with hp | hp
    · rw [if_pos hp]
      exact replaceWordFrom_word hp (h.after_word hp)
    · rw [if_neg fun hw => hw.not_isGap hp]
      exact replaceWordFrom_gap hp.2

theorem replaceWord_eq_flatten (name mask t : Text) (keepKeys : Bool) :
    replaceWord name mask keepKeys t
      = (mapWordsFrom (replacement name mask keepKeys) [] (pieces t)).flatten := by
  rw [← replaceWordFrom_flatten (alternating_pieces t), flatten_pieces]
  rfl

theorem mapWordsFrom_of_not_isWord (h : ¬ IsWord name) :
    mapWordsFrom (replacement name mask keepKeys) back ps = ps := by
  induction ps generalizing back with
  | nil => rfl
  | cons p ps ih =>
    rw [mapWordsFrom, ih]
    congr 1
    split
    · next hp =>
      have hne : p ≠ name := fun he => h (he ▸ hp)
      rw [replacement, if_neg (by simp [hne])]
    · rfl

theorem replaceWord_of_not_isWord (h : ¬ IsWord name) (mask t : Text) (keepKeys : Bool) :
    replaceWord name mask keepKeys t = t := by
  rw [replaceWord_eq_flatten, mapWordsFrom_of_not_isWord h, flatten_pieces]

end Replace

def Matching (p q : Text) : Prop :=
  p = q ∨ IsWord p ∧ IsWord q

theorem Matching.isWord_iff {q : Text} (h : Matching p q) : IsWord p ↔ IsWord q := by
  rcases h with rfl | ⟨hp, hq⟩
  · rfl
  · exact iff_of_true hp hq

theorem Alternating.of_matching {qs : List Text} (h : Alternating ps)
    (hm : List.Forall₂ Matching ps qs) : Alternating qs := by
  induction hm with
  | nil => exact h
  | @cons p q ps qs hpq hm ih =>
    have ht := ih h.tail
    refine ⟨?_, ?_⟩
    · intro r hr
      rcases List.mem_cons.1 hr with rfl | hr
      · rcases hpq with rfl | ⟨_, hq⟩
        · exact h.head
        · exact .inl hq
      · exact ht.1 r hr
    · cases hm with
      | nil => exact List.isChain_singleton _
      | @cons p' q' ps qs hpq' hm =>
        refine List.isChain_cons_cons.2 ⟨?_, ht.2⟩
        rw [← hpq.isWord_iff, ← hpq'.isWord_iff]
        exact (List.isChain_cons_cons.1 h.2).1

theorem matching_mapWordsFrom {f : Text → Text → Text → Text} {back : Text}
    (hf : ∀ back p after, IsWord p → IsWord (f back p after)) :
    List.Forall₂ Matching ps (mapWordsFrom f back ps) := by
  induction ps generalizing back with
  | nil => exact .nil
  | cons p ps ih =>
    rw [mapWordsFrom]
    refine .cons ?_ ih
    split
    · next hp => exact .inr ⟨hp, hf _ _ _ hp⟩
    · exact .inl rfl

/-- If the mask is a word, replacing a name replaces pieces and leaves their boundaries. -/
theorem pieces_replaceWord {mask : Text} (hm : IsWord mask) (name t : Text) (keepKeys : Bool) :
    pieces (replaceWord name mask keepKeys t)
      = mapWordsFrom (replacement name mask keepKeys) [] (pieces t) := by
  rw [replaceWord_eq_flatten]
  refine pieces_flatten ((alternating_pieces t).of_matching (matching_mapWordsFrom ?_))
  intro back p after hp
  rw [replacement]
  split
  · exact hm
  · exact hp

end ScriptVeil.Masking
