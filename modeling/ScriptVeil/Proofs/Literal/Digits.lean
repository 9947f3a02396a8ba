import ScriptVeil.Literal.Decoding
import ScriptVeil.Proofs.Literal.Number

namespace ScriptVeil.Literal

variable {seen s t rest : Text} {code r : UInt32} {c : Char} {us : Units} {n count k : Nat}

theorem checkedMul?_eq_some_iff {a b : UInt32} :
    checkedMul? a b = some r ↔ r.toNat = a.toNat * b.toNat := by
  rw [checkedMul?]
  split
  · next h =>
    rw [Option.some.injEq, ← UInt32.toNat_inj, UInt32.toNat_mul, Nat.mod_eq_of_lt h]
    exact eq_comm
  · next h =>
    refine ⟨nofun, fun hr => absurd ?_ h⟩
    rw [← hr]
    exact r.toNat_lt

theorem checkedAdd?_eq_some_iff {a b : UInt32} :
    checkedAdd? a b = some r ↔ r.toNat = a.toNat + b.toNat := by
  rw [checkedAdd?]
  split
  · next h =>
    rw [Option.some.injEq, ← UInt32.toNat_inj, UInt32.toNat_add, Nat.mod_eq_of_lt h]
    exact eq_comm
  · next h =>
    refine ⟨nofun, fun hr => absurd ?_ h⟩
    rw [← hr]
    exact r.toNat_lt

theorem pushDigit?_eq_some_iff (hc : isHexDigit c = true) :
    pushDigit? code c = some r ↔ r.toNat = code.toNat * 16 + digitOf c := by
  obtain ⟨d, hd, hdigit⟩ := exists_digit? hc (digitOf_lt_of_isHexDigit hc)
  rw [pushDigit?, hd, ← hdigit]
  constructor
  · intro h
    obtain ⟨shifted, hs, h⟩ := Option.bind_eq_some_iff.1 h
    rw [checkedAdd?_eq_some_iff.1 h, checkedMul?_eq_some_iff.1 hs]
    rfl
  · intro h
    have hlt : code.toNat * 16 < UInt32.size :=
      Nat.lt_of_le_of_lt (Nat.le_add_right _ d.toNat) (h ▸ r.toNat_lt)
    have hs : checkedMul? code 16 = some (code * 16) := if_pos hlt
    rw [hs, Option.bind_some, Option.bind_some, checkedAdd?_eq_some_iff,
      checkedMul?_eq_some_iff.1 hs, h]
    rfl

theorem toNat_push (base : UInt32) {d : UInt32} (hcode : code.toNat = number base.toNat seen)
    (hd : d.toNat = digitOf c) (hfit : number base.toNat (seen ++ [c]) < UInt32.size) :
    (code * base + d).toNat = number base.toNat (seen ++ [c]) := by
  rw [number_concat] at hfit ⊢
  have hmul : (code * base).toNat = number base.toNat seen * base.toNat := by
    rw [UInt32.toNat_mul, hcode]
    exact Nat.mod_eq_of_lt (Nat.lt_of_le_of_lt (Nat.le_add_right _ _) hfit)
  rw [UInt32.toNat_add, hmul, hd, Nat.mod_eq_of_lt hfit]

theorem hexCode?_append (hcode : code.toNat = number 16 seen) (hs : s.all isHexDigit = true)
    (hfit : number 16 (seen ++ s) < UInt32.size) (rest : Text) :
    ∃ r, hexCode? s.length code (s ++ rest) = some (r, rest) ∧ r.toNat = number 16 (seen ++ s) := by
  induction s generalizing code seen with
  | nil => exact ⟨code, rfl, by rw [hcode, List.append_nil]⟩
  | cons c s ih =>
    rw [List.all_cons, Bool.and_eq_true] at hs
    obtain ⟨d, hd, hdigit⟩ := exists_digit? hs.1 (digitOf_lt_of_isHexDigit hs.1)
    rw [← List.singleton_append, ← List.append_assoc] at hfit ⊢
    have hlt := Nat.lt_of_le_of_lt (number_le_append (by decide) (seen ++ [c]) s) hfit
    obtain ⟨r, hr, hvalue⟩ := ih (toNat_push 16 hcode hdigit hlt) hs.2 hfit
    refine ⟨r, ?_, hvalue⟩
    rw [List.singleton_append, List.cons_append, List.length_cons, hexCode?, hd]
    exact hr

theorem exists_of_hexCode? (h : hexCode? n code t = some (r, rest)) :
    ∃ s, s.length = n ∧ s.all isHexDigit = true ∧ t = s ++ rest := by
  induction n generalizing code t with
  | zero =>
    obtain ⟨-, rfl⟩ := Prod.mk.inj (Option.some.inj h)
    exact ⟨[], rfl, rfl, rfl⟩
  | succ n ih =>
    cases t with
    | nil => contradiction
    | cons c t =>
      obtain ⟨d, hd, h⟩ := Option.bind_eq_some_iff.1 h
      obtain ⟨s, hl, hs, rfl⟩ := ih h
      have hc : isHexDigit c = true := by
        by_contra hc
        rw [digit?_eq_none (by simpa using hc)] at hd
        contradiction
      exact ⟨c :: s, congrArg (· + 1) hl, by rw [List.all_cons, hc, hs]; rfl, rfl⟩

theorem hexCode?_eq_some_iff (hn : n ≤ 4) :
    hexCode? n 0 t = some (r, rest) ↔ ∃ s, s.length = n ∧ s.all isHexDigit = true
      ∧ t = s ++ rest ∧ r.toNat = number 16 s := by
  have happend {s : Text} (hl : s.length = n) (hs : s.all isHexDigit = true) :
      ∃ r, hexCode? n 0 (s ++ rest) = some (r, rest) ∧ r.toNat = number 16 s := by
    subst hl
    have hzero : (0 : UInt32).toNat = number 16 [] := rfl
    refine hexCode?_append hzero hs ?_ rest
    exact Nat.lt_of_lt_of_le (number_hex_lt hs)
      (Nat.le_trans (Nat.pow_le_pow_right (by decide) hn) (by decide))
  constructor
  · intro h
    obtain ⟨s, hl, hs, rfl⟩ := exists_of_hexCode? h
    obtain ⟨r', hr', hvalue⟩ := happend hl hs
    obtain rfl : r = r' := by simpa [hr', eq_comm] using h
    exact ⟨s, hl, hs, rfl, hvalue⟩
  · rintro ⟨s, hl, hs, rfl, hvalue⟩
    obtain ⟨r', hr', hvalue'⟩ := happend hl hs
    rw [hr', UInt32.toNat_inj.1 (hvalue.trans hvalue'.symm)]

/-- Digits that are broken off too early. -/
theorem hexCode?_underscore (hl : s.length < n) (code : UInt32) (rest : Text) :
    hexCode? n code (s ++ '_' :: rest) = none := by
  cases h : hexCode? n code (s ++ '_' :: rest) with
  | none => rfl
  | some p =>
    obtain ⟨s', hl', hs', he⟩ := exists_of_hexCode? h
    have hmem : '_' ∈ s' := by
      rcases List.append_eq_append_iff.1 he with ⟨a, rfl, ha⟩ | ⟨a, rfl, ha⟩
      · cases a with
        | nil => simp at hl'; omega
        | cons c a =>
          obtain ⟨rfl, -⟩ := List.cons.inj ha
          simp
      · simp at hl
        omega
    have := List.all_eq_true.1 hs' _ hmem
    contradiction

theorem bracedDigits?_eq_some_iff (hcode : code.toNat = number 16 seen) :
    bracedDigits? code count t = some (r, k, rest)
      ↔ rest = t.dropWhile isHexDigit ∧ k = count + (t.takeWhile isHexDigit).length
        ∧ r.toNat = number 16 (seen ++ t.takeWhile isHexDigit) := by
  induction t generalizing code count seen with
  | nil =>
    simp only [bracedDigits?, List.takeWhile_nil, List.dropWhile_nil, List.append_nil, ← hcode,
      UInt32.toNat_inj, Option.some.injEq, Prod.mk.injEq]
    grind
  | cons c t ih =>
    rw [bracedDigits?]
    cases hc : isHexDigit c with
    | false =>
      rw [List.takeWhile_cons_of_neg (by simp [hc]), List.dropWhile_cons_of_neg (by simp [hc]),
        if_neg (by simp)]
      simp only [List.append_nil, ← hcode, UInt32.toNat_inj, Option.some.injEq, Prod.mk.injEq]
      grind
    | true =>
      rw [List.takeWhile_cons_of_pos hc, List.dropWhile_cons_of_pos hc, if_pos rfl,
        ← List.singleton_append, ← List.append_assoc, List.length_append, List.length_singleton,
        ← Nat.add_assoc, Option.bind_eq_some_iff]
      have hpush {next : UInt32} : pushDigit? code c = some next
          ↔ next.toNat = number 16 (seen ++ [c]) := by
        rw [pushDigit?_eq_some_iff hc, hcode, number_concat]
      constructor
      · rintro ⟨next, hnext, h⟩
        exact (ih (hpush.1 hnext)).1 h
      · intro h
        have hlt : number 16 (seen ++ [c]) < UInt32.size :=
          Nat.lt_of_le_of_lt (number_le_append (by decide) _ _) (h.2.2 ▸ r.toNat_lt)
        have hnext : (number 16 (seen ++ [c])).toUInt32.toNat = number 16 (seen ++ [c]) :=
          UInt32.toNat_ofNat_of_lt' hlt
        exact ⟨_, hpush.2 hnext, (ih hnext).2 h⟩

theorem codeUnits?_eq_some_iff :
    codeUnits? code = some us ↔ codeOfUnits? us = some code.toNat := by
  rw [codeOfUnits?_eq_some_iff, codeUnits?]
  split
  · next h =>
    have h : code.toNat < 0x10000 := h
    have hunits : unitsOfCode code.toNat = [code.toUInt16] := by
      rw [unitsOfCode, if_pos h]
      simp
    rw [hunits, Option.some.injEq, eq_comm, and_iff_right (by omega)]
  · next h =>
    have h : ¬ code.toNat < 0x10000 := h
    by_cases hv : code.isValidChar
    · rw [dif_pos hv, Option.some.injEq, eq_comm, Text.units, List.flatMap_singleton]
      have hle : code.toNat ≤ 0x10FFFF := by
        have hv : code.toNat < 0xD800 ∨ 0xDFFF < code.toNat ∧ code.toNat < 0x110000 := hv
        omega
      exact (and_iff_right hle).symm
    · rw [dif_neg hv]
      have hgt : ¬ code.toNat ≤ 0x10FFFF := fun hle => hv (.inr ⟨by omega, by omega⟩)
      exact iff_of_false (Option.some_ne_none us).symm fun hle => hgt hle.1

theorem takeWhile_append_brace (hs : s.all isHexDigit = true) (hc : isHexDigit c = false)
    (rest : Text) : (s ++ c :: rest).takeWhile isHexDigit = s
      ∧ (s ++ c :: rest).dropWhile isHexDigit = c :: rest := by
  have hs := List.all_eq_true.1 hs
  have hc : ¬ isHexDigit c = true := by simp [hc]
  rw [List.takeWhile_append_of_pos hs, List.dropWhile_append_of_pos hs,
    List.takeWhile_cons_of_neg hc, List.dropWhile_cons_of_neg hc, List.append_nil]
  exact ⟨rfl, rfl⟩

theorem bracedUnits?_eq_some_iff :
    bracedUnits? t = some (us, rest) ↔ ∃ s, s ≠ [] ∧ s.all isHexDigit = true
      ∧ t = s ++ '}' :: rest ∧ codeOfUnits? us = some (number 16 s) := by
  have hzero : (0 : UInt32).toNat = number 16 [] := rfl
  rw [bracedUnits?]
  constructor
  · intro h
    split at h
    · next hd =>
      obtain ⟨hrest, hcount, hvalue⟩ := (bracedDigits?_eq_some_iff hzero).1 hd
      split at h
      · contradiction
      · next hne =>
        obtain ⟨us', hus, he⟩ := Option.map_eq_some_iff.1 h
        obtain ⟨rfl, rfl⟩ := Prod.mk.inj he
        refine ⟨t.takeWhile isHexDigit, fun hnil => hne (by rw [hcount, hnil]; rfl),
          List.all_takeWhile, ?_, ?_⟩
        · rw [hrest, List.takeWhile_append_dropWhile]
        · rw [codeUnits?_eq_some_iff.1 hus, hvalue]
          rfl
    · contradiction
  · rintro ⟨s, hne, hs, rfl, hus⟩
    have hle := (codeOfUnits?_eq_some_iff.1 hus).1
    have hcode : (number 16 s).toUInt32.toNat = number 16 s :=
      UInt32.toNat_ofNat_of_lt' (Nat.lt_of_le_of_lt hle (by decide))
    obtain ⟨htake, hdrop⟩ := takeWhile_append_brace hs (c := '}') (by decide) rest
    have hd : bracedDigits? 0 0 (s ++ '}' :: rest)
        = some ((number 16 s).toUInt32, 0 + s.length, '}' :: rest) := by
      rw [bracedDigits?_eq_some_iff hzero, htake, hdrop]
      exact ⟨rfl, rfl, hcode⟩
    rw [hd]
    simp only
    rw [Nat.zero_add, if_neg (List.length_eq_zero_iff.not.2 hne),
      codeUnits?_eq_some_iff.2 (hus.trans (congrArg some hcode.symm))]
    rfl

theorem bracedUnits?_broken (hs : s.all isHexDigit = true) (hc : isHexDigit c = false)
    (hb : c ≠ '}') (rest : Text) : bracedUnits? (s ++ c :: rest) = none := by
  have hzero : (0 : UInt32).toNat = number 16 [] := rfl
  rw [bracedUnits?]
  split
  · next hd =>
    obtain ⟨hrest, -⟩ := (bracedDigits?_eq_some_iff hzero).1 hd
    rw [(takeWhile_append_brace hs hc rest).2] at hrest
    exact absurd (List.cons.inj hrest).1.symm hb
  · rfl

theorem octalCode?_append (hcode : code.toNat = number 8 seen) (hs : s.all isOctalDigit = true)
    (hfit : number 8 (seen ++ s) < UInt32.size) (hl : s.length ≤ n)
    (hr : s.length = n ∨ ∀ c ∈ rest.head?, isOctalDigit c = false) :
    ∃ r, octalCode? n code (s ++ rest) = some (r, rest) ∧ r.toNat = number 8 (seen ++ s) := by
  induction s generalizing code seen n with
  | nil =>
    refine ⟨code, ?_, by rw [hcode, List.append_nil]⟩
    cases n with
    | zero => rfl
    | succ n =>
      cases rest with
      | nil => rfl
      | cons c rest =>
        have hc : isOctalDigit c = false := hr.resolve_left (by simp) c rfl
        rw [List.nil_append, octalCode?, if_neg (by simp [hc])]
  | cons c s ih =>
    obtain ⟨n, rfl⟩ : ∃ m, n = m + 1 := Nat.exists_eq_add_one.2 (Nat.lt_of_lt_of_le (by simp) hl)
    rw [List.all_cons, Bool.and_eq_true] at hs
    obtain ⟨hdlt, hhex⟩ := digitOf_lt_of_isOctalDigit hs.1
    obtain ⟨d, hd, hdigit⟩ := exists_digit? hhex hdlt
    rw [← List.singleton_append, ← List.append_assoc] at hfit ⊢
    have hlt := Nat.lt_of_le_of_lt (number_le_append (by decide) (seen ++ [c]) s) hfit
    obtain ⟨r, hr', hvalue⟩ := ih (toNat_push 8 hcode hdigit hlt) hs.2 hfit
      (Nat.le_of_succ_le_succ hl) (hr.imp_left Nat.succ.inj)
    refine ⟨r, ?_, hvalue⟩
    rw [List.singleton_append, List.cons_append, octalCode?, if_pos hs.1, hd]
    exact hr'

end ScriptVeil.Literal
