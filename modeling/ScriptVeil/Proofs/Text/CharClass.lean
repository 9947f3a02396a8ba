import ScriptVeil.Text.Blank
import ScriptVeil.Text.WordChar

namespace ScriptVeil

namespace CharSet

/-- No range of one set meets a range of the other. -/
def Apart (s t : CharSet) : Prop :=
  ∀ a ∈ s, ∀ b ∈ t, a.2 < b.1 ∨ b.2 < a.1

instance (s t : CharSet) : Decidable (Apart s t) :=
  inferInstanceAs (Decidable (∀ a ∈ s, ∀ b ∈ t, a.2 < b.1 ∨ b.2 < a.1))

def Inside (s t : CharSet) : Prop :=
  ∀ a ∈ s, ∃ b ∈ t, b.1 ≤ a.1 ∧ a.2 ≤ b.2

/-- The ranges of one set that are left when those in the ranges of the other are taken away, each
time from the front. -/
def uncovered (s : CharSet) : CharSet → CharSet
  | [] => s
  | b :: t => uncovered (s.dropWhile fun a => b.1 ≤ a.1 && a.2 ≤ b.2) t

theorem has_iff {s : CharSet} {c : Char} :
    s.has c = true ↔ ∃ r ∈ s, r.1 ≤ c.toNat ∧ c.toNat ≤ r.2 := by
  simp only [has, List.any_eq_true, Bool.and_eq_true, decide_eq_true_eq]

/-- The ranges are compared with numbers only, which is fast for long tables. -/
theorem Apart.of_all {s t : CharSet}
    (h : (s.all fun a => t.all fun b => Nat.blt a.2 b.1 || Nat.blt b.2 a.1) = true) :
    Apart s t := by
  intro a ha b hb
  have hab := List.all_eq_true.1 (List.all_eq_true.1 h a ha) b hb
  rwa [Bool.or_eq_true, Nat.blt_eq, Nat.blt_eq] at hab

theorem Apart.not_has {s t : CharSet} {c : Char} (h : Apart s t) (hc : s.has c = true) :
    t.has c = false := by
  rw [← Bool.not_eq_true]
  intro hc'
  obtain ⟨a, ha, ha₁, ha₂⟩ := has_iff.1 hc
  obtain ⟨b, hb, hb₁, hb₂⟩ := has_iff.1 hc'
  rcases h a ha b hb with hlt | hlt <;> omega

theorem Inside.of_uncovered {s t : CharSet} (h : uncovered s t = []) : Inside s t := by
  induction t generalizing s with
  | nil =>
    obtain rfl : s = [] := h
    exact nofun
  | cons b t ih =>
    intro a ha
    let p := fun a : Nat × Nat => b.1 ≤ a.1 && a.2 ≤ b.2
    rw [← List.takeWhile_append_dropWhile (p := p) (l := s), List.mem_append] at ha
    rcases ha with ha | ha
    · have hb : p a = true := List.all_eq_true.1 List.all_takeWhile a ha
      simp only [p, Bool.and_eq_true, decide_eq_true_eq] at hb
      exact ⟨b, List.mem_cons_self, hb⟩
    · obtain ⟨b', hb', hin⟩ := ih h a ha
      exact ⟨b', List.mem_cons_of_mem _ hb', hin⟩

theorem Inside.has {s t : CharSet} {c : Char} (h : Inside s t) (hc : s.has c = true) :
    t.has c = true := by
  obtain ⟨a, ha, hl, hr⟩ := has_iff.1 hc
  obtain ⟨b, hb, hbl, hbr⟩ := h a ha
  exact has_iff.2 ⟨b, hb, Nat.le_trans hbl hl, Nat.le_trans hr hbr⟩

def below (a b : Nat × Nat) : CharSet :=
  if a.1 < b.1 then [(a.1, min a.2 (b.1 - 1))] else []

/-- The ranges of a set below a range, and those that go on above it. -/
def cut (b : Nat × Nat) : CharSet → CharSet × CharSet
  | [] => ([], [])
  | a :: s =>
    if b.2 < a.1 then ([], a :: s)
    else if b.2 < a.2 then (below a b, (b.2 + 1, a.2) :: s)
    else (cut b s).map (below a b ++ ·) id

def without (s : CharSet) : CharSet → CharSet
  | [] => s
  | b :: t => match cut b s with
    | (front, rest) => front ++ without rest t

theorem has_cons {a : Nat × Nat} {s : CharSet} {c : Char} :
    has (a :: s) c = true ↔ a.1 ≤ c.toNat ∧ c.toNat ≤ a.2 ∨ has s c = true := by
  simp only [has, List.any_cons, Bool.or_eq_true, Bool.and_eq_true, decide_eq_true_eq]

theorem has_append {s t : CharSet} {c : Char} :
    has (s ++ t) c = true ↔ has s c = true ∨ has t c = true := by
  rw [has, List.any_append, Bool.or_eq_true]
  rfl

theorem has_below {a b : Nat × Nat} {c : Char} (hl : a.1 ≤ c.toNat) (hr : c.toNat ≤ a.2)
    (hb : c.toNat < b.1) : has (below a b) c = true := by
  rw [below, if_pos (by omega)]
  exact has_cons.2 (.inl ⟨hl, by dsimp only; omega⟩)

theorem has_cut {b : Nat × Nat} {s : CharSet} {c : Char} (h : s.has c = true)
    (hb : c.toNat < b.1 ∨ b.2 < c.toNat) :
    has (cut b s).1 c = true ∨ has (cut b s).2 c = true := by
  induction s with
  | nil => exact .inl h
  | cons a s ih =>
    rw [cut]
    split
    · exact .inr h
    · split
      · rcases has_cons.1 h with h | h
        · rcases hb with hb | hb
          · exact .inl (has_below h.1 h.2 hb)
          · exact .inr (has_cons.2 (.inl ⟨hb, h.2⟩))
        · exact .inr (has_cons.2 (.inr h))
      · rw [Prod.map_fst, Prod.map_snd, has_append]
        rcases has_cons.1 h with h | h
        · exact .inl (.inl (has_below h.1 h.2 (by omega)))
        · exact (ih h).imp_left .inr

theorem has_without {s t : CharSet} {c : Char} (h : s.has c = true) (ht : t.has c = false) :
    has (without s t) c = true := by
  induction t generalizing s with
  | nil => exact h
  | cons b t ih =>
    rw [← Bool.not_eq_true, has_cons, not_or] at ht
    rw [without, has_append]
    exact (has_cut h (by omega)).imp_right fun h => ih h (Bool.not_eq_true _ ▸ ht.2)

end CharSet

theorem isAsciiWordChar_toNat {c : Char} (h : isAsciiWordChar c = true) :
    36 ≤ c.toNat ∧ c.toNat ≤ 122 := by
  delta isAsciiWordChar Char.isAlphanum Char.isAlpha Char.isUpper Char.isLower Char.isDigit at h
  simp only [Bool.or_eq_true, Bool.and_eq_true, decide_eq_true_eq, UInt32.le_iff_toNat_le] at h
  rcases h with ((((h | h) | h) | rfl) | rfl)
  · exact ⟨Nat.le_trans (by decide) h.1, Nat.le_trans h.2 (by decide)⟩
  · exact ⟨Nat.le_trans (by decide) h.1, Nat.le_trans h.2 (by decide)⟩
  · exact ⟨Nat.le_trans (by decide) h.1, Nat.le_trans h.2 (by decide)⟩
  · decide
  · decide

def wordChars : CharSet :=
  (36, 122) :: wordCharsBeyondAscii

theorem wordChars_has {c : Char} (h : isWordChar c = true) : wordChars.has c = true := by
  rw [isWordChar] at h
  split at h
  · exact CharSet.has_iff.2 ⟨_, List.mem_cons_self, isAsciiWordChar_toNat h⟩
  · obtain ⟨r, hr, hc⟩ := CharSet.has_iff.1 h
    exact CharSet.has_iff.2 ⟨r, List.mem_cons_of_mem _ hr, hc⟩

theorem blanks_apart_wordChars : CharSet.Apart blanks wordChars := by
  decide +kernel

theorem isBlank_eq_false_of_isWordChar {c : Char} (h : isWordChar c = true) :
    isBlank c = false := by
  rw [← Bool.not_eq_true]
  intro hb
  have := blanks_apart_wordChars.not_has hb
  rw [wordChars_has h] at this
  contradiction

end ScriptVeil
