import ScriptVeil.Proofs.Masking.RenameMap
import ScriptVeil.Proofs.Text.Span

namespace ScriptVeil.Mask

def Source.ofLetters (letters : Nat → Letter) : Source Nat where
  next i := some (letters i, i + 1)

def block (letters : Nat → Letter) (n i : Nat) : Text :=
  (List.range n).map fun k => alphabet.get (letters (i + k))

/-- Whether, of the blocks of `n` letters from a position on, the one behind `k` others is the first
that is not reserved. -/
structure FirstFree (letters : Nat → Letter) (n i k : Nat) : Prop where
  free : isReserved (block letters n (i + k * n)) = false
  reserved : ∀ m < k, isReserved (block letters n (i + m * n)) = true

/-- Masks of given lengths that stand between two positions: each is the first block that is not
reserved, counted from the end of the one before it. -/
inductive Reads (letters : Nat → Letter) : Nat → List Nat → List Text → Nat → Prop where
  | nil (i : Nat) : Reads letters i [] [] i
  | cons {i j k n : Nat} {ns : List Nat} {words : List Text} (hk : FirstFree letters n i k)
      (h : Reads letters (i + k * n + n) ns words j) :
      Reads letters i (n :: ns) (block letters n (i + k * n) :: words) j

variable {letters : Nat → Letter} {n i j k attempts : Nat} {ns : List Nat} {w : Text}
  {words : List Text}

theorem block_succ (letters : Nat → Letter) (n i : Nat) :
    block letters (n + 1) i = alphabet.get (letters i) :: block letters n (i + 1) := by
  rw [block, List.range_succ_eq_map, List.map_cons, List.map_map, block]
  refine congrArg (alphabet.get (letters i) :: ·) (List.map_congr_left fun k _ => ?_)
  rw [Function.comp_apply, Nat.succ_eq_add_one, Nat.add_assoc, Nat.add_comm 1]

theorem word_ofLetters (letters : Nat → Letter) (n i : Nat) :
    (Source.ofLetters letters).word n i = some (block letters n i, i + n) := by
  induction n generalizing i with
  | zero => rfl
  | succ n ih =>
    rw [block_succ, Source.word]
    simp only [Source.ofLetters, Option.bind_eq_bind, Option.bind_some] at ih ⊢
    rw [ih, Nat.add_right_comm]
    rfl

theorem mask_ofLetters_succ (letters : Nat → Letter) (n attempts i : Nat) :
    (Source.ofLetters letters).mask n (attempts + 1) i
      = if isReserved (block letters n i) then (Source.ofLetters letters).mask n attempts (i + n)
        else some (block letters n i, i + n) := by
  rw [Source.mask, word_ofLetters]
  rfl

theorem add_zero_mul (i n : Nat) : i + 0 * n = i := by
  rw [Nat.zero_mul, Nat.add_zero]

theorem add_succ_mul (i k n : Nat) : i + (k + 1) * n = i + n + k * n := by
  rw [Nat.succ_mul, Nat.add_comm (k * n), Nat.add_assoc]

namespace FirstFree

theorem zero_iff : FirstFree letters n i 0 ↔ isReserved (block letters n i) = false := by
  constructor
  · intro h
    have hfree := h.free
    rwa [add_zero_mul] at hfree
  · intro h
    refine ⟨?_, nofun⟩
    rwa [add_zero_mul]

theorem succ_iff :
    FirstFree letters n i (k + 1)
      ↔ isReserved (block letters n i) = true ∧ FirstFree letters n (i + n) k := by
  constructor
  · rintro ⟨hfree, hreserved⟩
    have hzero := hreserved 0 (Nat.succ_pos k)
    rw [add_zero_mul] at hzero
    rw [add_succ_mul] at hfree
    refine ⟨hzero, hfree, fun m hm => ?_⟩
    have hm' := hreserved (m + 1) (Nat.succ_lt_succ hm)
    rwa [add_succ_mul] at hm'
  · rintro ⟨hzero, hfree, hreserved⟩
    constructor
    · rwa [add_succ_mul]
    · intro m hm
      cases m with
      | zero => rwa [add_zero_mul]
      | succ m =>
        rw [add_succ_mul]
        exact hreserved m (Nat.lt_of_succ_lt_succ hm)

theorem unique {k' : Nat} (h : FirstFree letters n i k) (h' : FirstFree letters n i k') :
    k = k' := by
  rcases Nat.lt_trichotomy k k' with hlt | heq | hlt
  · exact absurd (h'.reserved k hlt) (Bool.eq_false_iff.1 h.free)
  · exact heq
  · exact absurd (h.reserved k' hlt) (Bool.eq_false_iff.1 h'.free)

theorem exists_of_free (h : isReserved (block letters n (i + k * n)) = false) :
    ∃ k, FirstFree letters n i k := by
  have hex : ∃ k, isReserved (block letters n (i + k * n)) = false := ⟨k, h⟩
  refine ⟨Nat.find hex, Nat.find_spec hex, fun m hm => ?_⟩
  exact Bool.eq_true_of_not_eq_false (Nat.find_min hex hm)

end FirstFree

theorem mask_ofLetters_iff :
    (Source.ofLetters letters).mask n attempts i = some (w, j)
      ↔ ∃ k < attempts, FirstFree letters n i k ∧ w = block letters n (i + k * n)
        ∧ j = i + k * n + n := by
  induction attempts generalizing i with
  | zero =>
    constructor
    · exact nofun
    · rintro ⟨k, hk, -⟩
      exact absurd hk (Nat.not_lt_zero k)
  | succ attempts ih =>
    rw [mask_ofLetters_succ]
    by_cases hi : isReserved (block letters n i) = true
    · rw [if_pos hi, ih]
      constructor
      · rintro ⟨k, hk, hfirst, rfl, rfl⟩
        refine ⟨k + 1, Nat.succ_lt_succ hk, FirstFree.succ_iff.2 ⟨hi, hfirst⟩, ?_, ?_⟩
        · rw [add_succ_mul]
        · rw [add_succ_mul]
      · rintro ⟨k, hk, hfirst, rfl, rfl⟩
        cases k with
        | zero =>
          rw [FirstFree.zero_iff.1 hfirst] at hi
          contradiction
        | succ k =>
          refine ⟨k, Nat.lt_of_succ_lt_succ hk, (FirstFree.succ_iff.1 hfirst).2, ?_, ?_⟩
          · rw [add_succ_mul]
          · rw [add_succ_mul]
    · rw [if_neg hi]
      have hzero := FirstFree.zero_iff.2 (Bool.eq_false_iff.2 hi)
      constructor
      · intro h
        obtain ⟨rfl, rfl⟩ := Prod.mk.inj (Option.some.inj h)
        refine ⟨0, Nat.succ_pos attempts, hzero, ?_, ?_⟩
        · rw [add_zero_mul]
        · rw [add_zero_mul]
      · rintro ⟨k, -, hfirst, rfl, rfl⟩
        rw [hfirst.unique hzero, add_zero_mul]

theorem exists_mask_iff :
    (∃ attempts, (Source.ofLetters letters).mask n attempts i = some (w, j))
      ↔ ∃ k, FirstFree letters n i k ∧ w = block letters n (i + k * n) ∧ j = i + k * n + n := by
  constructor
  · rintro ⟨attempts, h⟩
    obtain ⟨k, -, hk⟩ := mask_ofLetters_iff.1 h
    exact ⟨k, hk⟩
  · rintro ⟨k, hk⟩
    exact ⟨k + 1, mask_ofLetters_iff.2 ⟨k, Nat.lt_succ_self k, hk⟩⟩

theorem reads_of_masks
    (h : (Source.ofLetters letters).masks attempts ns i = some (words, j)) :
    Reads letters i ns words j := by
  induction ns generalizing i words with
  | nil =>
    obtain ⟨rfl, rfl⟩ := Prod.mk.inj (Option.some.inj h)
    exact .nil i
  | cons n ns ih =>
    obtain ⟨mask, i', rest, hmask, hrest, rfl⟩ := masks_cons.1 h
    obtain ⟨k, -, hk, rfl, rfl⟩ := mask_ofLetters_iff.1 hmask
    exact .cons hk (ih hrest)

namespace Reads

theorem exists_attempts (h : Reads letters i ns words j) :
    ∃ least, ∀ attempts, least ≤ attempts →
      (Source.ofLetters letters).masks attempts ns i = some (words, j) := by
  induction h with
  | nil i => exact ⟨0, fun _ _ => rfl⟩
  | @cons i j k n ns words hk h ih =>
    obtain ⟨least, ih⟩ := ih
    refine ⟨max (k + 1) least, fun attempts hle => masks_cons.2 ?_⟩
    have hk' : k < attempts := (Nat.le_max_left _ _).trans hle
    exact ⟨_, _, _, mask_ofLetters_iff.2 ⟨k, hk', hk, rfl, rfl⟩,
      ih attempts ((Nat.le_max_right _ _).trans hle), rfl⟩

theorem unique {words' : List Text} {j' : Nat} (h : Reads letters i ns words j)
    (h' : Reads letters i ns words' j') : words = words' ∧ j = j' := by
  induction h generalizing words' with
  | nil i =>
    cases h' with
    | nil => exact ⟨rfl, rfl⟩
  | cons hk h ih =>
    cases h' with
    | cons hk' h' =>
      obtain rfl := hk.unique hk'
      obtain ⟨rfl, rfl⟩ := ih h'
      exact ⟨rfl, rfl⟩

theorem concat (h : Reads letters i ns words j) (hk : FirstFree letters n j k) :
    Reads letters i (ns ++ [n]) (words ++ [block letters n (j + k * n)]) (j + k * n + n) := by
  induction h with
  | nil i => exact .cons hk (.nil _)
  | cons hk' h ih => exact .cons hk' (ih hk)

theorem exists_places (h : Reads letters i ns words j) :
    ∃ places, Chain i places j
      ∧ List.Forall₂ (fun (r : Span) n => r.stop = r.start + n) places ns
      ∧ List.Forall₂ (fun (r : Span) w => w = block letters (r.stop - r.start) r.start)
        places words := by
  induction h with
  | nil i => exact ⟨[], Nat.le_refl i, .nil, .nil⟩
  | @cons i j k n ns words hk h ih =>
    obtain ⟨places, hchain, hlengths, hwords⟩ := ih
    refine ⟨⟨i + k * n, i + k * n + n⟩ :: places, ⟨?_, ?_, hchain⟩, .cons rfl hlengths,
      .cons ?_ hwords⟩
    · exact Nat.le_add_right i _
    · exact Nat.le_add_right _ n
    · rw [Nat.add_sub_cancel_left]

end Reads

theorem exists_masks_iff :
    (∃ attempts, (Source.ofLetters letters).masks attempts ns i = some (words, j))
      ↔ Reads letters i ns words j := by
  constructor
  · rintro ⟨attempts, h⟩
    exact reads_of_masks h
  · intro h
    obtain ⟨least, h⟩ := h.exists_attempts
    exact ⟨least, h least (Nat.le_refl least)⟩

theorem exists_masks_concat_iff (h : Reads letters i ns words j) :
    (∃ attempts r, (Source.ofLetters letters).masks attempts (ns ++ [n]) i = some r)
      ↔ ∃ k, isReserved (block letters n (j + k * n)) = false := by
  constructor
  · rintro ⟨attempts, ⟨all, j'⟩, hall⟩
    obtain ⟨front, i', rest, hfront, hrest, rfl⟩ := masks_append.1 hall
    obtain ⟨rfl, rfl⟩ := h.unique (reads_of_masks hfront)
    cases reads_of_masks hrest with
    | cons hk => exact ⟨_, hk.free⟩
  · rintro ⟨k, hk⟩
    obtain ⟨k, hk⟩ := FirstFree.exists_of_free hk
    obtain ⟨attempts, hall⟩ := exists_masks_iff.2 (h.concat hk)
    exact ⟨attempts, _, hall⟩

theorem free_of_length (h : ∀ r ∈ reservedWords, (∀ c ∈ r, c ∈ alphabet) → r.length ≠ n) :
    isReserved (block letters n i) = false := by
  obtain ⟨hlength, hchars⟩ := word_spec (word_ofLetters letters n i)
  apply Bool.eq_false_iff.2
  intro hr
  exact h _ (List.contains_iff_mem.1 hr) hchars hlength

theorem exists_mask_iff_of_free (h : isReserved (block letters n i) = false) :
    (∃ attempts, (Source.ofLetters letters).mask n attempts i = some (w, j))
      ↔ w = block letters n i ∧ j = i + n := by
  have hzero := FirstFree.zero_iff.2 h
  rw [exists_mask_iff]
  constructor
  · rintro ⟨k, hk, rfl, rfl⟩
    rw [hk.unique hzero, add_zero_mul]
    exact ⟨rfl, rfl⟩
  · rintro ⟨rfl, rfl⟩
    refine ⟨0, hzero, ?_, ?_⟩
    · rw [add_zero_mul]
    · rw [add_zero_mul]

theorem Reads.masks_spec (h : Reads letters i ns words j) :
    List.Forall₂ (fun n w => w.length = n ∧ (∀ c ∈ w, c ∈ alphabet ∧ c ≠ 'd')
      ∧ isReserved w = false) ns words := by
  obtain ⟨attempts, hmasks⟩ := exists_masks_iff.2 h
  refine (Mask.masks_spec hmasks).imp fun n w hw => ⟨hw.1, fun c hc => ⟨hw.2.1 c hc, ?_⟩, hw.2.2⟩
  have hd : 'd' ∉ alphabet := by decide
  exact fun he => hd (he ▸ hw.2.1 c hc)

/-- Masks of given lengths, read from an infinite sequence of letters. A call gives the first block
from its start on that is not reserved, if it may try as many blocks. With as many attempts as it
takes, it comes to an end just if there is such a block, and the next call starts right behind it.
So the masks stand in disjoint ranges one behind the other. A call for no letters reads none, and
one for a length that no reserved word of alphabet letters has reads a single block. -/
theorem masks_ofLetters (letters : Nat → Letter) (i : Nat) :
    (∀ n attempts w j, (Source.ofLetters letters).mask n attempts i = some (w, j)
        ↔ ∃ k < attempts, FirstFree letters n i k ∧ w = block letters n (i + k * n)
          ∧ j = i + k * n + n)
      ∧ (∀ ns words j,
        (∃ attempts, (Source.ofLetters letters).masks attempts ns i = some (words, j))
          ↔ Reads letters i ns words j)
      ∧ (∀ ns words j, Reads letters i ns words j →
        (∀ n, (∃ attempts r, (Source.ofLetters letters).masks attempts (ns ++ [n]) i = some r)
          ↔ ∃ k, isReserved (block letters n (j + k * n)) = false)
        ∧ (∃ places, Chain i places j
          ∧ List.Forall₂ (fun (r : Span) n => r.stop = r.start + n) places ns
          ∧ List.Forall₂ (fun (r : Span) w => w = block letters (r.stop - r.start) r.start)
            places words)
        ∧ List.Forall₂ (fun n w => w.length = n ∧ (∀ c ∈ w, c ∈ alphabet ∧ c ≠ 'd')
          ∧ isReserved w = false) ns words)
      ∧ (∀ w j, (∃ attempts, (Source.ofLetters letters).mask 0 attempts i = some (w, j))
        ↔ w = [] ∧ j = i)
      ∧ ∀ n, (∀ r ∈ reservedWords, (∀ c ∈ r, c ∈ alphabet) → r.length ≠ n) →
        ∀ w j, (∃ attempts, (Source.ofLetters letters).mask n attempts i = some (w, j))
          ↔ w = block letters n i ∧ j = i + n := by
  have hempty : isReserved [] = false := by decide +kernel
  refine ⟨fun n attempts w j => mask_ofLetters_iff, fun ns words j => exists_masks_iff,
    fun ns words j h => ?_, fun w j => exists_mask_iff_of_free hempty,
    fun n hn w j => exists_mask_iff_of_free (free_of_length hn)⟩
  exact ⟨fun n => exists_masks_concat_iff h, h.exists_places, h.masks_spec⟩

/-- The first two blocks of two letters are reserved, and so is one of three. -/
theorem masks_ofLetters_redrawn :
    let letters : Nat → Letter := fun k =>
      ("ifingaintabcx".toList.filterMap alphabet.finIdxOf?).getD k ⟨0, by decide⟩
    Reads letters 0 [2, 0, 3] ["ga".toList, [], "abc".toList] 12
      ∧ (∃ k, isReserved (block letters 1 (12 + k * 1)) = false)
      ∧ (∃ attempts r, (Source.ofLetters letters).masks attempts ([2, 0, 3] ++ [1]) 0 = some r)
      ∧ (∀ r ∈ reservedWords, (∀ c ∈ r, c ∈ alphabet) → r.length ≠ 1)
      ∧ ∃ attempts, (Source.ofLetters letters).mask 1 attempts 0 = some (['i'], 1) := by
  intro letters
  obtain ⟨-, hruns, hcalls, -, hlengths⟩ := masks_ofLetters letters 0
  have hreads := (hruns [2, 0, 3] ["ga".toList, [], "abc".toList] 12).1 ⟨3, by decide +kernel⟩
  have hfree : ∃ k, isReserved (block letters 1 (12 + k * 1)) = false := ⟨0, by decide +kernel⟩
  have hlonger : ∀ r ∈ reservedWords, r.length ≠ 1 := by decide +kernel
  have hone : ∀ r ∈ reservedWords, (∀ c ∈ r, c ∈ alphabet) → r.length ≠ 1 := by
    intro r hr _
    exact hlonger r hr
  exact ⟨hreads, hfree, ((hcalls _ _ _ hreads).1 1).2 hfree, hone,
    (hlengths 1 hone _ _).2 ⟨by decide +kernel, rfl⟩⟩

end ScriptVeil.Mask
