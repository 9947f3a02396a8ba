import Mathlib.Data.List.Basic
import ScriptVeil.Candidate

namespace ScriptVeil

section

variable {α κ : Type} [DecidableEq κ] {key : α → κ} {l : List α}

theorem firstsBy_subset : firstsBy key l ⊆ l := by
  induction l with
  | nil => exact List.nil_subset _
  | cons a l ih =>
    have hf : (firstsBy key l).filter (fun b => key b ≠ key a) ⊆ firstsBy key l :=
      List.filter_sublist.subset
    exact List.cons_subset_cons a (List.Subset.trans hf ih)

theorem firstsBy_eq_nil (h : firstsBy key l = []) : l = [] := by
  cases l with
  | nil => rfl
  | cons a l => contradiction

theorem firstsBy_pairwise : (firstsBy key l).Pairwise fun a b => key b ≠ key a := by
  induction l with
  | nil => exact .nil
  | cons a l ih =>
    refine .cons (fun b hb => ?_) (ih.filter _)
    exact of_decide_eq_true (List.mem_filter.1 hb).2

theorem eq_of_mem_firstsBy {a b : α} (ha : a ∈ firstsBy key l) (hb : b ∈ firstsBy key l)
    (h : key a = key b) :
    a = b := by
  have hp : (firstsBy key l).Pairwise fun a b => key b ≠ key a := firstsBy_pairwise
  exact List.Pairwise.forall_of_forall_of_flip (R := fun a b => key a = key b → a = b)
    (fun _ _ _ => rfl)
    (hp.imp fun hne he => absurd he.symm hne) (hp.imp fun hne he => absurd he hne) ha hb h

/-- Looking up a key among elements of different keys finds the one element that has it. -/
theorem find?_key_eq_some_iff {a : α} {k : κ} (h : l.Pairwise fun a b => key a ≠ key b) :
    (l.find? fun a => key a = k) = some a ↔ a ∈ l ∧ key a = k := by
  constructor
  · intro ha
    exact ⟨List.mem_of_find?_eq_some ha, by simpa using List.find?_some ha⟩
  · rintro ⟨ha, rfl⟩
    induction l with
    | nil => contradiction
    | cons b l ih =>
      rcases List.mem_cons.1 ha with rfl | ha
      · exact List.find?_cons_of_pos (decide_eq_true rfl)
      · have hne : key b ≠ key a := List.rel_of_pairwise_cons h ha
        rw [List.find?_cons_of_neg (by simpa using hne)]
        exact ih h.tail ha

/-- Of elements at the end, the first ones of the keys that are new are kept. -/
theorem firstsBy_append (l m : List α) :
    firstsBy key (l ++ m)
      = firstsBy key l ++ (firstsBy key m).filter fun b => key b ∉ l.map key := by
  induction l with
  | nil => simp [firstsBy]
  | cons a l ih =>
    rw [List.cons_append, firstsBy, ih, firstsBy, List.filter_append, List.filter_filter,
      List.cons_append]
    congr 2
    apply List.filter_congr
    intro b _
    rw [Bool.eq_iff_iff]
    simp

theorem firstsBy_append_singleton (l : List α) (a : α) :
    firstsBy key (l ++ [a])
      = if key a ∈ l.map key then firstsBy key l else firstsBy key l ++ [a] := by
  have hsingle : firstsBy key [a] = [a] := rfl
  rw [firstsBy_append, hsingle, List.filter_singleton]
  by_cases ha : key a ∈ l.map key
  · rw [if_pos ha, decide_eq_false (not_not_intro ha)]
    exact List.append_nil _
  · rw [if_neg ha, decide_eq_true ha]
    rfl

theorem firstsBy_filter (p : κ → Bool) (l : List α) :
    firstsBy key (l.filter fun a => p (key a)) = (firstsBy key l).filter fun a => p (key a) := by
  induction l with
  | nil => rfl
  | cons a l ih =>
    rw [firstsBy]
    by_cases ha : p (key a) = true
    · have hcons (l : List α) : (a :: l).filter (fun a => p (key a))
          = a :: l.filter fun a => p (key a) := List.filter_cons_of_pos ha
      rw [hcons, hcons, firstsBy, ih, List.filter_filter, List.filter_filter]
      simp only [Bool.and_comm]
    · have hcons (l : List α) : (a :: l).filter (fun a => p (key a))
          = l.filter fun a => p (key a) := List.filter_cons_of_neg ha
      rw [hcons, hcons, ih, List.filter_filter]
      apply List.filter_congr
      intro b _
      by_cases hb : key b = key a
      · simp [hb, ha]
      · simp [hb]

/-- The keys of the elements that are kept are all keys, each where it is met first. -/
theorem map_firstsBy [BEq κ] [LawfulBEq κ] (l : List α) :
    (firstsBy key l).map key = (l.map key).eraseDups := by
  induction hn : l.length using Nat.strongRecOn generalizing l with
  | ind n ih =>
    cases l with
    | nil => rfl
    | cons a l =>
      have hlt : (l.filter fun b => !key b == key a).length < n := by
        rw [← hn]
        exact Nat.lt_succ_of_le (List.length_filter_le _ l)
      have hfirsts : (firstsBy key l).filter (fun b => key b ≠ key a)
          = firstsBy key (l.filter fun b => !key b == key a) := by
        rw [firstsBy_filter (fun k => !k == key a) l]
        apply List.filter_congr
        intro b _
        rw [Bool.eq_iff_iff]
        simp
      rw [firstsBy, List.map_cons, List.map_cons, List.eraseDups_cons, hfirsts, ih _ hlt _ rfl,
        List.filter_map]
      rfl

theorem find?_of_mem_firstsBy {a : α} (h : a ∈ firstsBy key l) :
    (l.find? fun b => key b = key a) = some a := by
  induction l with
  | nil => contradiction
  | cons b l ih =>
    rcases List.mem_cons.1 h with rfl | h
    · exact List.find?_cons_of_pos (decide_eq_true rfl)
    · obtain ⟨h, hne⟩ := List.mem_filter.1 h
      have hne : key a ≠ key b := of_decide_eq_true hne
      rw [List.find?_cons_of_neg (by simpa using hne.symm)]
      exact ih h

theorem firstsBy_pairwise_idxOf [BEq κ] [LawfulBEq κ] (l : List α) :
    (firstsBy key l).Pairwise fun a b => (l.map key).idxOf (key a) < (l.map key).idxOf (key b) := by
  induction l with
  | nil => exact .nil
  | cons a l ih =>
    have hidx {b : α} (h : b ∈ (firstsBy key l).filter fun b => key b ≠ key a) :
        ((a :: l).map key).idxOf (key b) = (l.map key).idxOf (key b) + 1 := by
      have hne : key b ≠ key a := of_decide_eq_true (List.mem_filter.1 h).2
      rw [List.map_cons, List.idxOf_cons_ne _ hne.symm]
    refine .cons (fun b hb => ?_) ((ih.filter _).imp_of_mem fun hb hc hlt => ?_)
    · rw [hidx hb, List.map_cons, List.idxOf_cons_self]
      exact Nat.succ_pos _
    · rw [hidx hb, hidx hc]
      exact Nat.succ_lt_succ hlt

end

/-- What is found on the way through a list: the first of its elements of each key, with all keys
known. -/
structure Firsts.Of {α : Type} (key : α → Text) (l : List α) (f : Firsts α) : Prop where
  elements_eq : f.elements = firstsBy key l
  mem_keys : ∀ k, k ∈ f.keys ↔ k ∈ l.map key

namespace Firsts.Of

variable {α : Type} {key : α → Text} {l : List α} {f : Firsts α}

theorem nil : Of key [] Firsts.empty :=
  ⟨rfl, fun _ => Iff.rfl⟩

theorem append_nil (h : Of key l f) : Of key (l ++ []) f := by
  rwa [List.append_nil]

theorem insert (h : Of key l f) (a : α) : Of key (l ++ [a]) (f.insert key a) := by
  have hkeys := h.mem_keys (key a)
  by_cases ha : key a ∈ f.keys
  · have hl := hkeys.1 ha
    rw [Firsts.insert, if_pos (List.contains_iff_mem.2 ha)]
    refine ⟨?_, fun k => ?_⟩
    · rw [firstsBy_append_singleton, if_pos hl, h.elements_eq]
    · rw [h.mem_keys, List.map_append, List.mem_append, List.map_singleton, List.mem_singleton]
      exact ⟨.inl, fun hk => hk.elim id fun he => he ▸ hl⟩
  · have hl := mt hkeys.2 ha
    rw [Firsts.insert, if_neg (mt List.contains_iff_mem.1 ha)]
    refine ⟨?_, fun k => ?_⟩
    · rw [firstsBy_append_singleton, if_neg hl, h.elements_eq]
    · rw [List.mem_cons, h.mem_keys, List.map_append, List.mem_append, List.map_singleton,
        List.mem_singleton, or_comm]

end Firsts.Of

end ScriptVeil
