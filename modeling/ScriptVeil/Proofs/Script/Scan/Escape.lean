import ScriptVeil.Proofs.Literal.Grammar
import ScriptVeil.Proofs.Script.Scan.Quoted

namespace ScriptVeil.Script

open Literal

variable {isFull : DigitRun → Bool} {P : Nat → Prop} {run : DigitRun} {t : Text} {c after : Cursor}
  {ch : Char}

theorem misplaced_le (radix : Nat) (isFull : DigitRun → Bool) (t : Text) (run : DigitRun) :
    run.misplaced ≤ (digitRunFrom radix isFull t run).misplaced := by
  induction t generalizing run with
  | nil => exact Nat.le_refl _
  | cons ch t ih =>
    rw [digitRunFrom]
    split
    · exact Nat.le_refl _
    · split
      · dsimp only
        exact Nat.le_trans (Nat.le_add_right _ _) (ih ⟨_, _, _, _⟩)
      · split
        · next digit _ =>
          exact ih { run with
            count := run.count + 1, value := radix * run.value + digit,
            after := run.after.advance 1 }
        · exact Nat.le_refl _

theorem isHexDigit_of_hexValue? {digit : Nat} (h : hexValue? ch = some digit) :
    isHexDigit ch = true := by
  rw [hexValue?_eq] at h
  by_contra hc
  rw [if_neg hc] at h
  contradiction

theorem filter_hexValue? (ch : Char) : (hexValue? ch).filter (· < 16) = hexValue? ch := by
  rw [hexValue?_eq]
  split
  · next h => simp [Option.filter, digitOf_lt_of_isHexDigit h]
  · rfl

structure DigitRun.Extends (run : DigitRun) (digits : Text) (r : DigitRun) : Prop where
  isHexDigit : digits.all isHexDigit = true
  count : r.count = run.count + digits.length
  value : r.value = digits.foldl (fun n c => n * 16 + (hexValue? c).getD 0) run.value

/-- Whether a run goes over digits alone, up to where it is full or no digit follows. -/
def DigitRun.Whole (isFull : DigitRun → Bool) (t : Text) (run r : DigitRun) : Prop :=
  ∃ digits, t = digits ++ r.after.rest ∧ run.Extends digits r
    ∧ (isFull r = true ∨ ∀ ch ∈ r.after.rest.head?, isHexDigit ch = false)

/-- Whether a run goes over a separator behind its first digits. -/
def DigitRun.Separated (P : Nat → Prop) (t : Text) (run r : DigitRun) : Prop :=
  ∃ digits later, t = digits ++ '_' :: (later ++ r.after.rest) ∧ digits.all isHexDigit = true
    ∧ run.count + digits.length ≠ 0 ∧ P (run.count + digits.length + 1)

theorem DigitRun.Extends.cons {digit : Nat} {digits : Text} {next r : DigitRun}
    (hv : hexValue? ch = some digit) (hc : next.count = run.count + 1)
    (hn : next.value = 16 * run.value + digit) (h : next.Extends digits r) :
    run.Extends (ch :: digits) r where
  isHexDigit := by
    rw [List.all_cons, isHexDigit_of_hexValue? hv, h.isHexDigit]
    rfl
  count := by
    rw [h.count, hc, List.length_cons]
    omega
  value := by
    rw [h.value, List.foldl_cons, hv, hn, Nat.mul_comm 16]
    rfl

theorem DigitRun.Whole.cons {digit : Nat} {next r : DigitRun} (hv : hexValue? ch = some digit)
    (hc : next.count = run.count + 1) (hn : next.value = 16 * run.value + digit)
    (h : next.Whole isFull t r) : run.Whole isFull (ch :: t) r := by
  obtain ⟨digits, ht, hd, hstop⟩ := h
  exact ⟨ch :: digits, congrArg (ch :: ·) ht, hd.cons hv hc hn, hstop⟩

theorem DigitRun.Separated.cons {digit : Nat} {next r : DigitRun} (hv : hexValue? ch = some digit)
    (hc : next.count = run.count + 1) (h : next.Separated P t r) :
    run.Separated P (ch :: t) r := by
  obtain ⟨digits, later, ht, hd, hne, hp⟩ := h
  have hsum : next.count + digits.length = run.count + (ch :: digits).length := by
    rw [hc, List.length_cons]
    omega
  refine ⟨ch :: digits, later, congrArg (ch :: ·) ht, ?_, hsum ▸ hne, hsum ▸ hp⟩
  rw [List.all_cons, isHexDigit_of_hexValue? hv, hd]
  rfl

/-- A misplaced separator would be counted. -/
theorem separator_fits {next : DigitRun} {fits : Bool}
    (hn : next.misplaced = run.misplaced + if fits then 0 else 1)
    (hm : (digitRunFrom 16 isFull t next).misplaced = run.misplaced) : fits = true := by
  by_contra hfits
  have hle := misplaced_le 16 isFull t next
  rw [hm, hn, if_neg hfits] at hle
  exact Nat.not_succ_le_self _ hle

theorem digitRunFrom_cases (hP : ∀ r, isFull r = false → P r.count → P (r.count + 1))
    (hp : P run.count) (hr : run.after.rest = t)
    (hm : (digitRunFrom 16 isFull t run).misplaced = run.misplaced) :
    P (digitRunFrom 16 isFull t run).count
      ∧ (run.Whole isFull t (digitRunFrom 16 isFull t run)
        ∨ run.Separated P t (digitRunFrom 16 isFull t run)) := by
  induction t generalizing run with
  | nil =>
    refine ⟨hp, .inl ⟨[], hr.symm, ⟨rfl, rfl, rfl⟩, .inr ?_⟩⟩
    change ∀ ch ∈ run.after.rest.head?, isHexDigit ch = false
    rw [hr]
    nofun
  | cons ch t ih =>
    have hnext : (run.after.advance 1).rest = t := by rw [Cursor.advance, hr]; rfl
    rw [digitRunFrom] at hm ⊢
    split
    · next hf => exact ⟨hp, .inl ⟨[], hr.symm, ⟨rfl, rfl, rfl⟩, .inl hf⟩⟩
    next hf =>
    rw [if_neg hf] at hm
    have hf : isFull run = false := by simpa using hf
    split
    · next hu =>
      rw [if_pos hu] at hm
      dsimp only at hm ⊢
      have hfits := separator_fits rfl hm
      rw [if_pos hfits] at hm ⊢
      have hcount : run.count ≠ 0 := of_decide_eq_true (Bool.and_eq_true_iff.1 hfits).1
      have hreach : (run.after.advance 1).Reaches (digitRunFrom 16 isFull t
          ⟨run.count, run.value, run.misplaced, run.after.advance 1⟩).after :=
        Cursor.Reaches.digitRunFrom (Cursor.Reaches.refl (run.after.advance 1)) 16 isFull t
      obtain ⟨later, hlater, -⟩ := hreach
      obtain ⟨hpcount, -⟩ :=
        @ih ⟨run.count, run.value, run.misplaced, run.after.advance 1⟩ hp hnext hm
      refine ⟨hpcount, .inr ⟨[], later, ?_, rfl, hcount, hP run hf hp⟩⟩
      exact congrArg₂ List.cons hu (hnext.symm.trans hlater)
    next hu =>
    rw [if_neg hu] at hm
    rw [filter_hexValue?] at hm ⊢
    cases hv : hexValue? ch with
    | none =>
      refine ⟨hp, .inl ⟨[], hr.symm, ⟨rfl, rfl, rfl⟩, .inr ?_⟩⟩
      rw [hr]
      rintro _ ⟨⟩
      rw [hexValue?_eq] at hv
      simpa using hv
    | some digit =>
      rw [hv] at hm
      obtain ⟨hcount, hcases⟩ := ih (hP run hf hp) hnext hm
      exact ⟨hcount, hcases.imp (.cons hv rfl rfl) (.cons hv rfl)⟩

theorem digitRun_cases {start : Cursor}
    (hP : ∀ r, isFull r = false → P r.count → P (r.count + 1)) (hp : P 0)
    (hn : (digitRun 16 isFull c).notes start = []) :
    P (digitRun 16 isFull c).count
      ∧ ((∃ digits, c.rest = digits ++ (digitRun 16 isFull c).after.rest
          ∧ digits.all isHexDigit = true ∧ (digitRun 16 isFull c).count = digits.length
          ∧ (digitRun 16 isFull c).value = digitsValue 16 digits
          ∧ (isFull (digitRun 16 isFull c) = true
            ∨ ∀ ch ∈ (digitRun 16 isFull c).after.rest.head?, isHexDigit ch = false))
        ∨ ∃ digits later, c.rest = digits ++ '_' :: (later ++ (digitRun 16 isFull c).after.rest)
          ∧ digits.all isHexDigit = true ∧ digits ≠ [] ∧ P (digits.length + 1)) := by
  rw [DigitRun.notes, List.replicate_eq_nil_iff] at hn
  obtain ⟨hcount, hcases⟩ := @digitRunFrom_cases isFull P ⟨0, 0, 0, c⟩ c.rest hP hp rfl hn
  refine ⟨hcount, hcases.imp ?_ ?_⟩
  · rintro ⟨digits, ht, hd, hstop⟩
    exact ⟨digits, ht, hd.isHexDigit, hd.count.trans (Nat.zero_add _), hd.value, hstop⟩
  · rintro ⟨digits, later, ht, hd, hne, hpd⟩
    rw [Nat.zero_add] at hne hpd
    exact ⟨digits, later, ht, hd, List.ne_nil_of_length_pos (Nat.pos_of_ne_zero hne), hpd⟩

theorem digitRun_full_cases {n : Nat} {start : Cursor}
    (hn : (digitRun 16 (fun run => run.count = n) c).notes start = [])
    (hcount : ¬ (digitRun 16 (fun run => run.count = n) c).count < n) :
    (∃ digits, c.rest = digits ++ (digitRun 16 (fun run => run.count = n) c).after.rest
        ∧ digits.all isHexDigit = true ∧ digits.length = n
        ∧ (digitRun 16 (fun run => run.count = n) c).value = digitsValue 16 digits)
      ∨ ∃ digits later,
        c.rest = digits ++ '_' :: (later ++ (digitRun 16 (fun run => run.count = n) c).after.rest)
        ∧ digits.all isHexDigit = true ∧ digits ≠ [] ∧ digits.length < n := by
  have hP (r : DigitRun) (hf : decide (r.count = n) = false) (hle : r.count ≤ n) :
      r.count + 1 ≤ n := by
    have hne := of_decide_eq_false hf
    omega
  obtain ⟨hle, ⟨digits, ht, hd, hc, hv, -⟩ | ⟨digits, later, ht, hd, hne, hlt⟩⟩ :=
    digitRun_cases (P := (· ≤ n)) hP (Nat.zero_le n) hn
  · exact .inl ⟨digits, ht, hd, by omega, hv⟩
  · exact .inr ⟨digits, later, ht, hd, hne, hlt⟩

/-- An escape of digits is an item or a broken escape. -/
def Spells (s rest : Text) : Prop :=
  (∀ bare, ∃ units, Item bare s units rest) ∨ BrokenEscape s

variable {chars : Text}

theorem hexEscapeAt_spells {backslash : Nat} (h : hexEscapeAt backslash c = .done chars after []) :
    ∃ s, c.rest = s ++ after.rest ∧ Spells ('\\' :: 'x' :: s) after.rest := by
  rw [hexEscapeAt] at h
  split at h
  · contradiction
  next hcount =>
  obtain ⟨-, rfl, hn⟩ := Reading.done.inj h
  rcases digitRun_full_cases hn hcount with
    ⟨digits, ht, hd, hl, -⟩ | ⟨digits, later, ht, hd, hne, hl⟩
  · exact ⟨digits, ht, .inl fun bare => Item.exists_hex bare hl hd _⟩
  · exact ⟨digits ++ '_' :: later, by rw [ht]; simp, .inr (.hex hne hd hl later)⟩

theorem fourDigitEscapeAt_spells (h : fourDigitEscapeAt c = .done chars after []) :
    ∃ s, c.rest = s ++ after.rest ∧ Spells ('\\' :: 'u' :: s) after.rest := by
  rw [fourDigitEscapeAt] at h
  split at h
  · contradiction
  next hcount =>
  split at h
  · obtain ⟨-, rfl, hn⟩ := Reading.done.inj h
    rcases digitRun_full_cases hn hcount with
      ⟨digits, ht, hd, hl, -⟩ | ⟨digits, later, ht, hd, hne, hl⟩
    · exact ⟨digits, ht, .inl fun bare => Item.exists_unicode bare hl hd _⟩
    · exact ⟨digits ++ '_' :: later, by rw [ht]; simp, .inr (.unicode hne hd hl later)⟩
  · -- Half of a surrogate pair is taken over with the first four characters.
    obtain ⟨-, rfl, hn⟩ := Reading.done.inj h
    refine ⟨c.rest.take 4, (List.take_append_drop 4 c.rest).symm, ?_⟩
    rcases digitRun_full_cases hn hcount with
      ⟨digits, ht, hd, hl, -⟩ | ⟨digits, later, ht, hd, hne, hl⟩
    · rw [ht, ← hl, List.take_left]
      exact .inl fun bare => Item.exists_unicode bare hl hd _
    · obtain ⟨k, hk⟩ := Nat.exists_eq_add_of_lt hl
      rw [ht, List.take_append, List.take_of_length_le (Nat.le_of_lt hl),
        show 4 - digits.length = k + 1 by omega, List.take_succ_cons]
      exact .inr (.unicode hne hd hl _)

theorem spells_braced {digits rest s tail : Text} (he : digits ++ rest = s ++ '}' :: tail)
    (hs : ∀ ch ∈ s, ch ≠ '}') (hn : digits ≠ []) (hd : digits.all isHexDigit = true)
    (hr : ∀ ch ∈ rest.head?, isHexDigit ch = false)
    (hv : s = digits → number 16 digits ≤ 0x10FFFF) :
    Spells ('\\' :: 'u' :: '{' :: (s ++ ['}'])) tail := by
  rcases List.append_eq_append_iff.1 he with ⟨a, rfl, ha⟩ | ⟨a, rfl, ha⟩
  · cases a with
    | nil =>
      rw [List.append_nil] at hv ⊢
      exact .inl fun bare => Item.exists_braced bare hn hd (hv rfl) tail
    | cons ch a =>
      have hhex := hr ch (by rw [ha]; rfl)
      have hbrace := hs ch (List.mem_append_right digits List.mem_cons_self)
      rw [List.append_assoc]
      exact .inr (.braced hn hd hhex hbrace _)
  · cases a with
    | nil =>
      rw [List.append_nil] at hn hd hv
      exact .inl fun bare => Item.exists_braced bare hn hd (hv rfl) tail
    | cons ch a =>
      obtain ⟨rfl, -⟩ := List.cons.inj ha
      have hhex := List.all_eq_true.1 hd '}' (by simp)
      contradiction

theorem exists_written {written : Text} (hw : written = (c.rest.takeWhile (· ≠ '}')).take 6)
    (hb : (c.advance written.length).rest.head? = some '}') :
    ∃ tail, c.rest = written ++ '}' :: tail ∧ (c.advance written.length).rest = '}' :: tail
      ∧ ∀ ch ∈ written, ch ≠ '}' := by
  have hmem : ∀ ch ∈ c.rest.takeWhile (· ≠ '}'), ch ≠ '}' := fun ch hch =>
    of_decide_eq_true (List.all_eq_true.1 List.all_takeWhile ch hch)
  have hp : written <+: c.rest := by
    rw [hw]
    exact (List.take_prefix _ _).trans (List.takeWhile_prefix _)
  obtain ⟨r, hr⟩ := hp
  have hrest : (c.advance written.length).rest = r := by
    rw [Cursor.advance, ← hr, List.drop_left]
  rw [hrest] at hb ⊢
  obtain ⟨tail, rfl⟩ := List.head?_eq_some_iff.1 hb
  refine ⟨tail, hr.symm, rfl, fun ch hch => hmem ch ?_⟩
  rw [hw] at hch
  exact List.mem_of_mem_take hch

theorem bracedDigits_cases {r : DigitRun}
    (hr : digitRun 16 (fun run => run.value ≥ Nat.pow 2 32) c = r)
    (hcount : r.count ≠ 0) (hvalue : r.value ≤ 0x10FFFF) (hn : r.notes c = []) :
    (∃ digits, c.rest = digits ++ r.after.rest ∧ digits.all isHexDigit = true ∧ digits ≠ []
        ∧ number 16 digits ≤ 0x10FFFF ∧ ∀ ch ∈ r.after.rest.head?, isHexDigit ch = false)
      ∨ ∃ digits later, c.rest = digits ++ '_' :: (later ++ r.after.rest)
        ∧ digits.all isHexDigit = true ∧ digits ≠ [] := by
  have hfull : ¬ r.value ≥ Nat.pow 2 32 := Nat.not_le_of_lt (Nat.lt_of_le_of_lt hvalue (by decide))
  subst hr
  refine (digitRun_cases (P := fun _ => True) (fun _ _ _ => trivial) trivial hn).2.imp ?_ ?_
  · rintro ⟨digits, ht, hd, hc, hv, hstop⟩
    rw [hc] at hcount
    rw [hv, digitsValue_eq_number 16 hd] at hvalue
    exact ⟨digits, ht, hd, fun hnil => hcount (congrArg List.length hnil), hvalue,
      hstop.resolve_left fun hf => hfull (of_decide_eq_true hf)⟩
  · rintro ⟨digits, later, ht, hd, hne, -⟩
    exact ⟨digits, later, ht, hd, hne⟩

theorem bracedEscapeAt_spells (h : bracedEscapeAt c = .done chars after []) :
    ∃ s, c.rest = s ++ after.rest ∧ Spells ('\\' :: 'u' :: '{' :: s) after.rest := by
  rw [bracedEscapeAt] at h
  dsimp only at h
  generalize hr : digitRun 16 (fun run => run.value ≥ Nat.pow 2 32) c = r at h
  split at h
  · contradiction
  next hcount =>
  split at h
  · contradiction
  next hvalue =>
  have hdigits := bracedDigits_cases hr (not_or.1 hcount).1 (Nat.le_of_not_gt hvalue)
  split at h <;> split at h
  · next hb =>
    obtain ⟨-, rfl, hn⟩ := Reading.done.inj h
    obtain ⟨tail, ht⟩ := List.head?_eq_some_iff.1 hb
    have htail : (r.after.advance 1).rest = tail := by rw [Cursor.advance, ht]; rfl
    rw [htail]
    rcases hdigits hn with ⟨digits, hc, hd, hne, hv, -⟩ | ⟨digits, later, hc, hd, hne⟩
    · exact ⟨digits ++ ['}'], by rw [hc, ht]; simp, .inl fun bare =>
        Item.exists_braced bare hne hd hv tail⟩
    · refine ⟨digits ++ '_' :: (later ++ ['}']), by rw [hc, ht]; simp, .inr ?_⟩
      exact .braced hne hd (by decide) (by decide) _
  · contradiction
  · next hb =>
    obtain ⟨-, rfl, hn⟩ := Reading.done.inj h
    obtain ⟨tail, ht, hrest, hw⟩ := exists_written rfl hb
    have htail {c : Cursor} (hc : c.rest = '}' :: tail) : (c.advance 1).rest = tail := by
      rw [Cursor.advance, hc]
      rfl
    rw [htail hrest]
    refine ⟨_ ++ ['}'], by rw [List.append_assoc]; exact ht, ?_⟩
    rcases hdigits hn with ⟨digits, hc, hd, hne, hv, hstop⟩ | ⟨digits, later, hc, hd, hne⟩
    · exact spells_braced (hc.symm.trans ht) hw hne hd hstop fun _ => hv
    · refine spells_braced (hc.symm.trans ht) hw hne hd (by rintro _ ⟨⟩; decide) fun he => ?_
      rw [he, hc] at ht
      have := (List.cons.inj (List.append_cancel_left ht)).1
      contradiction
  · contradiction

theorem unicodeEscapeAt_spells (h : unicodeEscapeAt c = .done chars after []) :
    ∃ s, c.rest = s ++ after.rest ∧ Spells ('\\' :: 'u' :: s) after.rest := by
  rw [unicodeEscapeAt] at h
  split at h
  · next hb =>
    obtain ⟨s, hs, hspells⟩ := bracedEscapeAt_spells h
    rw [Cursor.advance, hb] at hs
    exact ⟨'{' :: s, hb.trans (congrArg ('{' :: ·) hs), hspells⟩
  · exact fourDigitEscapeAt_spells h

theorem octalEscapeAt_spells {strict inTemplate : Bool} {backslash : Nat} {first : Char}
    (hf : isOctalDigit first = true) (hc : c.rest = first :: t)
    (h : octalEscapeAt strict inTemplate backslash first c = .done chars after []) :
    ∃ s, c.rest = s ++ after.rest ∧ Spells ('\\' :: s) after.rest := by
  have hafter : after = c.advance (1 + (octalDigits first (c.rest.drop 1)).length) := by
    rw [octalEscapeAt] at h
    split at h
    · exact (Reading.done.inj h).2.1.symm
    · split at h
      · contradiction
      · exact (Reading.done.inj h).2.1.symm
  have hrest : after.rest = t.drop (octalDigits first t).length := by
    rw [hafter, Cursor.advance, hc, Nat.add_comm]
    rfl
  refine ⟨first :: octalDigits first t, ?_, ?_⟩
  · rw [hrest, hc, List.cons_append, octalDigits_append_drop]
  · rw [hrest]
    exact .inl fun bare => Item.exists_octal bare hf t

theorem isLineEnd_or_mem_of_special (h : ch ∈ specialEscapes) :
    isLineEnd ch = true ∨ ch ∈ ['n', 't', 'r', 'b', 'f', 'v', 'x', 'u'] := by
  have hall : specialEscapes.all (fun ch => isLineEnd ch
      || ['n', 't', 'r', 'b', 'f', 'v', 'x', 'u'].contains ch) = true := by decide
  have hch := List.all_eq_true.1 hall ch h
  rwa [Bool.or_eq_true, List.contains_iff_mem] at hch

theorem isPlainEscape_of_other (hl : ¬ isLineEnd ch = true) (ho : ¬ isOctalDigit ch = true)
    (hn : ch ∉ ['n', 't', 'r', 'b', 'f', 'v', 'x', 'u']) : IsPlainEscape ch :=
  ⟨fun hm => hn ((isLineEnd_or_mem_of_special hm).resolve_left hl), by simpa using ho⟩

theorem item_continuation {bare : Char → Prop} {tail : Text} (hl : isLineEnd ch = true)
    (hcrlf : ∀ rest, ch = '\r' → tail ≠ '\n' :: rest) : Item bare ['\\', ch] [] tail := by
  refine .continuation ?_ ?_
  · simp only [isLineEnd, Bool.or_eq_true, decide_eq_true_eq] at hl
    rcases hl with ((rfl | rfl) | rfl) | rfl <;> decide
  · rintro hch _ hhead rfl
    obtain ⟨rest, rfl⟩ := List.head?_eq_some_iff.1 hhead
    exact hcrlf rest (List.cons.inj hch).1 rfl

/-- An escape that is read without a mistake. -/
theorem escapeAt_spells {strict : Bool} (hc : c.rest = '\\' :: t)
    (h : escapeAt strict false c = .done chars after []) :
    ∃ s, c.rest = s ++ after.rest ∧ Spells s after.rest := by
  have hbody : (c.advance 1).rest = t := by rw [Cursor.advance, hc]; rfl
  have hlonger {s : Text} {d : Cursor} (hs : (c.advance 1).rest = s ++ d.rest)
      (hd : ∃ s', d.rest = s' ++ after.rest ∧ Spells ('\\' :: (s ++ s')) after.rest) :
      ∃ s, c.rest = s ++ after.rest ∧ Spells s after.rest := by
    obtain ⟨s', hd, hs'⟩ := hd
    exact ⟨'\\' :: (s ++ s'), by rw [hc, ← hbody, hs, hd]; simp, hs'⟩
  have hitem {s rest : Text} (hs : (c.advance 1).rest = s ++ rest) (ha : after.rest = rest)
      (hi : ∀ bare, ∃ units, Item bare ('\\' :: s) units rest) :
      ∃ s, c.rest = s ++ after.rest ∧ Spells s after.rest := by
    subst ha
    exact hlonger hs ⟨[], rfl, .inl (by rwa [List.append_nil])⟩
  have hcontrol {ch : Char} {rest : Text} (hs : (c.advance 1).rest = ch :: rest)
      (hm : ch ∈ controlEscapes.map Prod.fst) (ha : after = (c.advance 1).advance 1) :
      ∃ s, c.rest = s ++ after.rest ∧ Spells s after.rest := by
    obtain ⟨⟨_, u⟩, hu, rfl⟩ := List.mem_map.1 hm
    exact hitem (s := [_]) hs (ha ▸ congrArg (List.drop 1) hs) fun _ => ⟨[u], .control hu rest⟩
  rw [escapeAt] at h
  split at h
  case h_1 => contradiction
  case h_2 he | h_3 he | h_4 he | h_5 he | h_6 he | h_7 he =>
    obtain ⟨-, rfl, -⟩ := Reading.done.inj h
    exact hcontrol he (by decide) rfl
  case h_8 he =>
    obtain ⟨-, rfl, -⟩ := Reading.done.inj h
    exact hitem (s := ['\r', '\n']) he (congrArg (List.drop 2) he) fun _ =>
      ⟨[], .continuation (by decide) fun h => absurd h (by decide)⟩
  case h_9 he =>
    have hx : (c.advance 1).rest = ['x'] ++ ((c.advance 1).advance 1).rest :=
      he.trans (congrArg ('x' :: ·) (congrArg (List.drop 1) he).symm)
    exact hlonger hx (hexEscapeAt_spells h)
  case h_10 he =>
    have hu : (c.advance 1).rest = ['u'] ++ ((c.advance 1).advance 1).rest :=
      he.trans (congrArg ('u' :: ·) (congrArg (List.drop 1) he).symm)
    split at h
    · contradiction
    · exact hlonger hu (unicodeEscapeAt_spells h)
  case h_11 ch tail hn hr ht hb hv hf hcrlf hx hu he =>
    split at h
    · next hl =>
      obtain ⟨-, rfl, -⟩ := Reading.done.inj h
      exact hitem (s := [ch]) he (congrArg (List.drop 1) he) fun _ =>
        ⟨[], item_continuation hl hcrlf⟩
    next hl =>
    split at h
    · next ho => exact hlonger (s := []) rfl (octalEscapeAt_spells ho he h)
    · next ho =>
      obtain ⟨-, rfl, -⟩ := Reading.done.inj h
      have hplain : IsPlainEscape ch := isPlainEscape_of_other hl ho (by
        simp only [List.mem_cons, List.not_mem_nil, or_false, not_or]
        exact ⟨hn, ht, hr, hb, hf, hv, hx, hu⟩)
      exact hitem (s := [ch]) he (congrArg (List.drop 1) he) fun _ =>
        ⟨_, .plain hplain (codeOfUnits?_char ch) tail⟩

/-- Whether a text between two quotes is the body of a literal, as far as it has no broken escape.
-/
def QuotedBody (quote : Char) (body : Text) : Prop :=
  (∃ units, Body (IsBare quote) body units)
    ∨ ∃ front units s, body = front ++ s ∧ Body (IsBare quote) front units ∧ BrokenEscape s

theorem QuotedBody.cons {quote : Char} {s body rest : Text}
    (hs : (∃ units, Item (IsBare quote) s units (body ++ rest)) ∨ BrokenEscape s)
    (h : QuotedBody quote body) : QuotedBody quote (s ++ body) := by
  rcases hs with ⟨us, hs⟩ | hs
  · have hs : Item (IsBare quote) s us body :=
      hs.of_head fun c hc => .inl (List.mem_head?_append_of_mem_head? hc)
    rcases h with ⟨vs, h⟩ | ⟨front, vs, s', rfl, h, hs'⟩
    · exact .inl ⟨us ++ vs, .cons hs h⟩
    · have hs : Item (IsBare quote) s us front :=
        hs.of_head fun c hc => .inl (List.mem_head?_append_of_mem_head? hc)
      exact .inr ⟨s ++ front, us ++ vs, s', (List.append_assoc _ _ _).symm, .cons hs h, hs'⟩
  · exact .inr ⟨[], [], s ++ body, rfl, .nil, hs.append body⟩

theorem quotedBody_stringFrom {strict : Bool} {quote : Char} {steps : Nat} {seen value : Text}
    (h : stringFrom strict quote steps seen c = .done (value, true) after []) :
    ∃ body, c.rest = body ++ quote :: after.rest ∧ QuotedBody quote body := by
  induction steps generalizing seen c with
  | zero => simp [stringFrom] at h
  | succ steps ih =>
    rw [stringFrom] at h
    split at h
    · simp at h
    next ch t hc =>
    have hnext : (c.advance 1).rest = t := by rw [Cursor.advance, hc]; rfl
    split at h
    · next hquote =>
      obtain ⟨-, rfl, -⟩ := Reading.done.inj h
      exact ⟨[], by rw [hc, hnext, hquote]; rfl, .inl ⟨[], .nil⟩⟩
    next hquote =>
    split at h
    · simp at h
    next hline =>
    split at h
    · next hb =>
      obtain ⟨chars, mid, n, m, he, hs, hn⟩ := Reading.andThen_eq_done h
      obtain ⟨rfl, rfl⟩ := List.append_eq_nil_iff.1 hn.symm
      obtain ⟨body, hbody, hquoted⟩ := ih hs
      obtain ⟨s, hcs, hspells⟩ := escapeAt_spells (hb ▸ hc) he
      rw [hbody] at hcs hspells
      have hitem := hspells.imp_left fun hi => hi (IsBare quote)
      exact ⟨s ++ body, by rw [hcs, List.append_assoc], .cons hitem hquoted⟩
    · next hb =>
      obtain ⟨body, hbody, hquoted⟩ := ih h
      rw [hnext] at hbody
      have hitem : Item (IsBare quote) [ch] (Text.units [ch]) (body ++ quote :: after.rest) :=
        .bare ⟨hquote, not_or.1 hline⟩ hb (codeOfUnits?_char ch) _
      exact ⟨[ch] ++ body, by rw [hc, hbody]; rfl, .cons (.inl ⟨_, hitem⟩) hquoted⟩

end ScriptVeil.Script
