import Mathlib.Data.FinEnum
import Mathlib.Data.Fintype.BigOperators
import Mathlib.Order.Interval.Finset.Nat
import ScriptVeil.Proofs.Masking.Drawn

namespace ScriptVeil.Mask

open Finset

def withDraws (draws : Nat → UInt64) (i : Nat) (taken : List UInt64) : Nat → UInt64 :=
  fun k => if k < i then draws k else taken[k - i]?.getD (draws k)

/-- The ways in which `m` draws from a position on can come out so that a round that starts there
reads a word and stops behind them. -/
def roundDraws (draws : Nat → UInt64) (i m : Nat) (w : Text) : Finset (Fin m → UInt64) :=
  {t | (Source.ofDraws (withDraws draws i (List.ofFn t))).word w.length i = some (w, i + m)}

variable {draws : Nat → UInt64} {i j n attempts : Nat} {v : UInt64} {letter : Letter} {w : Text}

theorem card_draws : Fintype.card UInt64 = 2 ^ 64 := by
  rw [← Fintype.card_fin (2 ^ 64)]
  exact Fintype.card_congr ⟨UInt64.toFin, UInt64.ofFin, fun _ => rfl, fun _ => rfl⟩

theorem length_alphabet : alphabet.length = 52 := by decide

theorem alphabet_get_injective : Function.Injective alphabet.get :=
  List.nodup_iff_injective_get.1 (by decide)

theorem map_letterOfDraw? (v : UInt64) :
    (letterOfDraw? v).map Fin.val
      = if 52 * v.toNat % 2 ^ 64 ≤ 52 * 2 ^ 58 - 1 then some (52 * v.toNat / 2 ^ 64) else none := by
  simp only [letterOfDraw?, length_alphabet, Nat.mul_comm _ 52, Nat.pow_eq]
  split
  · rfl
  · rfl

theorem letterOfDraw?_eq_some_iff :
    letterOfDraw? v = some letter
      ↔ 52 * v.toNat % 2 ^ 64 ≤ 52 * 2 ^ 58 - 1 ∧ 52 * v.toNat / 2 ^ 64 = letter.val := by
  rw [← (Option.map_injective Fin.val_injective).eq_iff, map_letterOfDraw?, Option.map_some]
  simp

/-- The draws of a letter are `2 ^ 58` numbers in a row. -/
theorem letterOfDraw?_eq_some_iff_mem :
    letterOfDraw? v = some letter
      ↔ v.toNat ∈ Ico ((letter.val * 2 ^ 64 + 51) / 52)
        ((letter.val * 2 ^ 64 + 51) / 52 + 2 ^ 58) := by
  rw [letterOfDraw?_eq_some_iff, mem_Ico]
  generalize letter.val = a
  generalize v.toNat = v
  constructor
  · rintro ⟨hmod, rfl⟩
    omega
  · intro h
    have hdiv : 52 * v / 2 ^ 64 = a := by
      apply Nat.div_eq_of_lt_le
      · omega
      · omega
    omega

theorem card_letter (letter : Letter) :
    #{v : UInt64 | letterOfDraw? v = some letter} = 2 ^ 58 := by
  have hletter : letter.val < 52 := letter.isLt
  calc
    #{v : UInt64 | letterOfDraw? v = some letter}
      = #(Ico ((letter.val * 2 ^ 64 + 51) / 52) ((letter.val * 2 ^ 64 + 51) / 52 + 2 ^ 58)) := by
        apply card_nbij UInt64.toNat
        · intro v hv
          exact letterOfDraw?_eq_some_iff_mem.1 (mem_filter.1 hv).2
        · intro v _ v' _ h
          exact UInt64.toNat_inj.1 h
        · intro k hk
          have hlt : k < 2 ^ 64 := by
            have := (mem_Ico.1 hk).2
            omega
          have hofNat : (UInt64.ofNat k).toNat = k := UInt64.toNat_ofNat_of_lt' hlt
          refine ⟨UInt64.ofNat k, mem_filter.2 ⟨mem_univ _, ?_⟩, hofNat⟩
          rw [letterOfDraw?_eq_some_iff_mem, hofNat]
          exact hk
    _ = 2 ^ 58 := by rw [Nat.card_Ico, Nat.add_sub_cancel_left]

theorem map_get_eq_some_iff :
    (letterOfDraw? v).map alphabet.get = some (alphabet.get letter)
      ↔ letterOfDraw? v = some letter :=
  (Option.map_injective alphabet_get_injective).eq_iff' rfl

theorem card_char {c : Char} (hc : c ∈ alphabet) :
    #{v : UInt64 | (letterOfDraw? v).map alphabet.get = some c} = 2 ^ 58 := by
  obtain ⟨letter, rfl⟩ := List.mem_iff_get.1 hc
  simp only [map_get_eq_some_iff, card_letter]

def wordWithin (draws : Nat → UInt64) (attempts : Nat) : Nat → Nat → Option (Text × Nat)
  | 0, i => some ([], i)
  | n + 1, i => do
    let (letter, i) ← acceptedDraw draws attempts i
    let (rest, i) ← (Source.ofDraws draws).word n i
    return (alphabet.get letter :: rest, i)

theorem word_ofDraws (draws : Nat → UInt64) (n i : Nat) :
    (Source.ofDraws draws).word n i = wordWithin draws attemptLimit n i := by
  cases n with
  | zero => rfl
  | succ n => rfl

theorem wordWithin_of_none (h : letterOfDraw? (draws i) = none) :
    wordWithin draws (attempts + 1) (n + 1) i = wordWithin draws attempts (n + 1) (i + 1) := by
  simp only [wordWithin, acceptedDraw, h]

theorem wordWithin_of_some (h : letterOfDraw? (draws i) = some letter) :
    wordWithin draws (attempts + 1) (n + 1) i
      = ((Source.ofDraws draws).word n (i + 1)).map fun p => (alphabet.get letter :: p.1, p.2) := by
  simp only [wordWithin, acceptedDraw, h, Option.bind_eq_bind, Option.bind_some]
  cases (Source.ofDraws draws).word n (i + 1) with
  | none => rfl
  | some p => rfl

theorem lt_of_acceptedDraw (h : acceptedDraw draws attempts i = some (letter, j)) : i < j := by
  induction attempts generalizing i with
  | zero => contradiction
  | succ attempts ih =>
    rw [acceptedDraw] at h
    split at h
    · obtain ⟨-, rfl⟩ := Prod.mk.inj (Option.some.inj h)
      exact Nat.lt_succ_self i
    · exact (Nat.lt_succ_self i).trans (ih h)

theorem add_le_of_wordWithin (h : wordWithin draws attempts n i = some (w, j)) : i + n ≤ j := by
  induction n generalizing attempts i w with
  | zero =>
    obtain ⟨-, rfl⟩ := Prod.mk.inj (Option.some.inj h)
    exact Nat.le_refl i
  | succ n ih =>
    obtain ⟨⟨letter, i'⟩, hletter, h⟩ := Option.bind_eq_some_iff.1 h
    obtain ⟨⟨rest, j'⟩, hrest, h⟩ := Option.bind_eq_some_iff.1 h
    obtain ⟨-, rfl⟩ := Prod.mk.inj (Option.some.inj h)
    have hlt : i < i' := lt_of_acceptedDraw hletter
    have hle : i' + n ≤ j' := ih ((word_ofDraws draws n i').symm.trans hrest)
    omega

theorem map_cons_eq_some_iff {c : Char} {r : Option (Text × Nat)} :
    (r.map fun p => (alphabet.get letter :: p.1, p.2)) = some (c :: w, j)
      ↔ alphabet.get letter = c ∧ r = some (w, j) := by
  rw [Option.map_eq_some_iff]
  constructor
  · rintro ⟨p, rfl, h⟩
    obtain ⟨hcons, rfl⟩ := Prod.mk.inj h
    obtain ⟨hc, rfl⟩ := List.cons.inj hcons
    exact ⟨hc, rfl⟩
  · rintro ⟨rfl, rfl⟩
    exact ⟨_, rfl, rfl⟩

theorem word_full_iff :
    (Source.ofDraws draws).word w.length i = some (w, i + w.length)
      ↔ ∀ k < w.length, (letterOfDraw? (draws (i + k))).map alphabet.get = w[k]? := by
  induction w generalizing i with
  | nil => exact ⟨fun _ => nofun, fun _ => rfl⟩
  | cons c w ih =>
    have hstop : i + (w.length + 1) = i + 1 + w.length := by omega
    simp only [List.length_cons, Nat.forall_lt_succ_left, Nat.add_zero, List.getElem?_cons_zero,
      List.getElem?_cons_succ]
    obtain ⟨limit, hlimit⟩ := Nat.exists_eq_succ_of_ne_zero (by decide : attemptLimit ≠ 0)
    rw [word_ofDraws, hlimit]
    cases h : letterOfDraw? (draws i) with
    | none =>
      rw [wordWithin_of_none h]
      constructor
      · intro hw
        have hle := add_le_of_wordWithin hw
        omega
      · rintro ⟨hc, -⟩
        contradiction
    | some letter =>
      rw [wordWithin_of_some h, map_cons_eq_some_iff, hstop, ih, Option.map_some, Option.some.injEq]
      simp only [Nat.add_assoc, Nat.add_comm 1]

theorem withDraws_self (draws : Nat → UInt64) (i : Nat) (v : UInt64) (taken : List UInt64) :
    withDraws draws i (v :: taken) i = v := by
  simp [withDraws]

theorem withDraws_cons (draws : Nat → UInt64) (i : Nat) (v : UInt64) (taken : List UInt64) :
    withDraws draws i (v :: taken) = withDraws (Function.update draws i v) (i + 1) taken := by
  funext k
  rcases Nat.lt_trichotomy k i with hlt | rfl | hlt
  · simp [withDraws, hlt, hlt.ne, Nat.lt_succ_of_lt hlt]
  · simp [withDraws]
  · obtain ⟨d, rfl⟩ := Nat.exists_eq_add_of_lt hlt
    have hd : i + d + 1 - i = d + 1 := by omega
    have hd' : i + d + 1 - (i + 1) = d := by omega
    have hn : ¬ i + d + 1 < i := by omega
    have hn' : ¬ i + d + 1 < i + 1 := by omega
    simp only [withDraws, if_neg hn, if_neg hn', hd, hd', List.getElem?_cons_succ,
      Function.update_of_ne hlt.ne']

theorem withDraws_ofFn {m : Nat} (draws : Nat → UInt64) (i : Nat) (t : Fin m → UInt64) (k : Fin m) :
    withDraws draws i (List.ofFn t) (i + k) = t k := by
  simp [withDraws]

theorem card_filter_cons {α : Type} [Fintype α] {m : Nat} (P : List α → Prop) [DecidablePred P] :
    #{t : Fin (m + 1) → α | P (List.ofFn t)} = ∑ v, #{t : Fin m → α | P (v :: List.ofFn t)} := by
  simp only [card_filter]
  rw [← (Fin.consEquiv fun _ => α).sum_comp, Fintype.sum_prod_type]
  simp [Fin.consEquiv, List.ofFn_succ]

theorem wordWithin_withDraws_of_none {taken : List UInt64} (h : letterOfDraw? v = none) :
    wordWithin (withDraws draws i (v :: taken)) (attempts + 1) (n + 1) i
      = wordWithin (withDraws (Function.update draws i v) (i + 1) taken) attempts (n + 1)
        (i + 1) := by
  rw [wordWithin_of_none ((withDraws_self draws i v taken).symm ▸ h), withDraws_cons]

theorem wordWithin_withDraws_of_some {taken : List UInt64} (h : letterOfDraw? v = some letter) :
    wordWithin (withDraws draws i (v :: taken)) (attempts + 1) (n + 1) i
      = (wordWithin (withDraws (Function.update draws i v) (i + 1) taken) attemptLimit n
        (i + 1)).map fun p => (alphabet.get letter :: p.1, p.2) := by
  rw [wordWithin_of_some ((withDraws_self draws i v taken).symm ▸ h), withDraws_cons, word_ofDraws]

/-- A sum over the first draw, which is refused, or gives the letter that is wanted, or another. -/
theorem sum_first_draw {c : Char} {x y : Nat} (hc : c ∈ alphabet) (F : UInt64 → Nat)
    (hnone : ∀ v, letterOfDraw? v = none → F v = x)
    (hsome : ∀ v letter, letterOfDraw? v = some letter →
      F v = if alphabet.get letter = c then y else 0) :
    ∑ v, F v = #{v : UInt64 | letterOfDraw? v = none} * x + 2 ^ 58 * y := by
  have hF (v : UInt64) : F v = (if letterOfDraw? v = none then x else 0)
      + if (letterOfDraw? v).map alphabet.get = some c then y else 0 := by
    cases h : letterOfDraw? v with
    | none => simp [hnone v h]
    | some letter => simp [hsome v letter h]
  calc
    ∑ v, F v = ∑ v, ((if letterOfDraw? v = none then x else 0)
        + if (letterOfDraw? v).map alphabet.get = some c then y else 0) :=
      sum_congr rfl fun v _ => hF v
    _ = #{v : UInt64 | letterOfDraw? v = none} * x + 2 ^ 58 * y := by
      rw [sum_add_distrib, ← sum_filter, ← sum_filter, sum_const, sum_const, card_char hc,
        Nat.nsmul_eq_mul, Nat.nsmul_eq_mul]

/-- The number of ways in which `m` draws come out as a word of `n` letters, of which the first is
found within a number of attempts. -/
def ways : Nat → Nat → Nat → Nat
  | 0, 0, _ => 1
  | 0, _ + 1, _ => 0
  | _ + 1, 0, _ => 0
  | _ + 1, _ + 1, 0 => 0
  | m + 1, n + 1, attempts + 1 =>
    #{v : UInt64 | letterOfDraw? v = none} * ways m (n + 1) attempts
      + 2 ^ 58 * ways m n attemptLimit

theorem card_wordWithin (hw : ∀ c ∈ w, c ∈ alphabet) (draws : Nat → UInt64) (m i attempts : Nat) :
    #{t : Fin m → UInt64 |
      wordWithin (withDraws draws i (List.ofFn t)) attempts w.length i = some (w, i + m)}
        = ways m w.length attempts := by
  -- The first draw is put into the sequence, and the others are counted from behind it. A refused
  -- one leaves the whole word and one attempt fewer, an accepted one the rest of the word.
  induction m generalizing draws i attempts w with
  | zero =>
    cases w with
    | nil => simp [wordWithin, ways]
    | cons c w =>
      refine card_eq_zero.2 (filter_eq_empty_iff.2 fun t _ h => ?_)
      have hle := add_le_of_wordWithin h
      rw [List.length_cons] at hle
      omega
  | succ m ih =>
    cases w with
    | nil =>
      refine card_eq_zero.2 (filter_eq_empty_iff.2 fun t _ h => ?_)
      have hstop := (Prod.mk.inj (Option.some.inj h)).2
      omega
    | cons c w =>
      cases attempts with
      | zero =>
        refine card_eq_zero.2 (filter_eq_empty_iff.2 fun t _ h => ?_)
        contradiction
      | succ attempts =>
        have hstop : i + (m + 1) = i + 1 + m := by omega
        obtain ⟨hc, hw'⟩ := List.forall_mem_cons.1 hw
        rw [card_filter_cons fun taken =>
          wordWithin (withDraws draws i taken) (attempts + 1) (c :: w).length i
            = some (c :: w, i + (m + 1)), List.length_cons, ways]
        apply sum_first_draw hc
        · intro v hv
          simp only [wordWithin_withDraws_of_none hv, hstop]
          exact ih hw _ _ _
        · intro v letter hv
          simp only [wordWithin_withDraws_of_some hv, hstop, map_cons_eq_some_iff]
          by_cases hletter : alphabet.get letter = c
          · simp only [hletter, true_and]
            rw [ih hw', if_true]
          · simp only [hletter, false_and]
            simp

theorem mem_roundDraws_iff {t : Fin w.length → UInt64} :
    t ∈ roundDraws draws i w.length w
      ↔ ∀ k, (letterOfDraw? (t k)).map alphabet.get = some (w.get k) := by
  rw [roundDraws, mem_filter, word_full_iff]
  constructor
  · intro h k
    have hk := h.2 k k.isLt
    rwa [withDraws_ofFn, List.getElem?_eq_getElem k.isLt] at hk
  · intro h
    refine ⟨mem_univ t, fun k hk => ?_⟩
    rw [withDraws_ofFn draws i t ⟨k, hk⟩, List.getElem?_eq_getElem hk]
    exact h ⟨k, hk⟩

theorem card_roundDraws (hw : ∀ c ∈ w, c ∈ alphabet) :
    #(roundDraws draws i w.length w) = (2 ^ 58) ^ w.length := by
  calc
    #(roundDraws draws i w.length w)
      = #(Fintype.piFinset fun k =>
          univ.filter fun v : UInt64 => (letterOfDraw? v).map alphabet.get = some (w.get k)) := by
        congr 1
        ext t
        simp only [mem_roundDraws_iff, mem_filter, mem_univ, true_and, Fintype.mem_piFinset]
    _ = ∏ k : Fin w.length, 2 ^ 58 := by
        rw [Fintype.card_piFinset]
        exact prod_congr rfl fun k _ => card_char (hw _ (List.get_mem w k))
    _ = (2 ^ 58) ^ w.length := by rw [prod_const, card_univ, Fintype.card_fin]

theorem card_roundDraws_eq_ways (hw : ∀ c ∈ w, c ∈ alphabet) (m : Nat) :
    #(roundDraws draws i m w) = ways m w.length attemptLimit := by
  simp only [roundDraws, word_ofDraws, card_wordWithin hw]

/-- Where the draws are uniform, so are the words. An accepted draw gives the index of a letter of
the alphabet. The tuples of draws that a round reads a word from without a refusal are those that
are accepted in full and spell it, `(2 ^ 58) ^ n` for each word of `n` letters. Whatever was drawn
before and however many draws it takes, a round reads all words of a length in equally many ways. -/
theorem word_equidistributed (draws : Nat → UInt64) (i : Nat) :
    (∀ v : UInt64, (letterOfDraw? v).map Fin.val
        = if 52 * v.toNat % 2 ^ 64 ≤ 52 * 2 ^ 58 - 1 then some (52 * v.toNat / 2 ^ 64) else none)
      ∧ (∀ v : UInt64, 52 * v.toNat / 2 ^ 64 < alphabet.length)
      ∧ ∀ w : Text, (∀ c ∈ w, c ∈ alphabet) →
        (∀ t : Fin w.length → UInt64, t ∈ roundDraws draws i w.length w
          ↔ ∀ k, (letterOfDraw? (t k)).map alphabet.get = some (w.get k))
        ∧ #(roundDraws draws i w.length w) = (2 ^ 58) ^ w.length
        ∧ Fintype.card (Fin w.length → UInt64) = (2 ^ 64) ^ w.length
        ∧ ∀ w' : Text, w'.length = w.length → (∀ c ∈ w', c ∈ alphabet) →
          ∀ m, #(roundDraws draws i m w') = #(roundDraws draws i m w) := by
  refine ⟨map_letterOfDraw?, fun v => ?_, fun w hw => ⟨fun t => mem_roundDraws_iff,
    card_roundDraws hw, ?_, fun w' hl hw' m => ?_⟩⟩
  · have hv := v.toNat_lt
    rw [length_alphabet]
    omega
  · rw [Fintype.card_fun, card_draws, Fintype.card_fin]
  · rw [card_roundDraws_eq_ways hw, card_roundDraws_eq_ways hw', hl]

/-- A word that is reserved and one that is not, behind other draws. -/
theorem word_equidistributed_reserved :
    let draws : Nat → UInt64 := fun k => UInt64.ofNat (k * 2 ^ 58)
    (∀ c ∈ "ga".toList, c ∈ alphabet) ∧ (∀ c ∈ "if".toList, c ∈ alphabet)
      ∧ #(roundDraws draws 7 2 "ga".toList) = 2 ^ 116
      ∧ Fintype.card (Fin 2 → UInt64) = 2 ^ 128
      ∧ ∀ m, #(roundDraws draws 7 m "if".toList) = #(roundDraws draws 7 m "ga".toList) := by
  intro draws
  have hspelled (w : Text) (h : w.all alphabet.contains = true) : ∀ c ∈ w, c ∈ alphabet :=
    fun c hc => List.contains_iff_mem.1 (List.all_eq_true.1 h c hc)
  have hga := hspelled "ga".toList (by decide +kernel)
  have hif := hspelled "if".toList (by decide +kernel)
  obtain ⟨-, -, hwords⟩ := word_equidistributed draws 7
  obtain ⟨-, hcard, htuples, hsame⟩ := hwords _ hga
  exact ⟨hga, hif, hcard, htuples, hsame _ rfl hif⟩

end ScriptVeil.Mask
