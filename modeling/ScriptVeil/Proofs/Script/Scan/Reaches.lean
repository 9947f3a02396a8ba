import ScriptVeil.Script.Scan

namespace ScriptVeil.Script

/-- Whether a cursor comes from another one by moving over some text. -/
def Cursor.Reaches (c c' : Cursor) : Prop :=
  ∃ s : Text, c.rest = s ++ c'.rest ∧ c'.offset = c.offset + s.byteSize

def Reading.after {α : Type} : Reading α → Cursor
  | .done _ after _ => after
  | .failed _ after _ => after

namespace Cursor

variable {a b c : Cursor}

@[refl]
theorem Reaches.refl (c : Cursor) : c.Reaches c :=
  ⟨[], rfl, rfl⟩

theorem Reaches.trans (h : a.Reaches b) (h' : b.Reaches c) : a.Reaches c := by
  obtain ⟨s, hs, ho⟩ := h
  obtain ⟨s', hs', ho'⟩ := h'
  exact ⟨s ++ s', by rw [hs, hs', List.append_assoc], by rw [ho', ho, Text.byteSize_append,
    Nat.add_assoc]⟩

theorem Reaches.offset_le (h : a.Reaches b) : a.offset ≤ b.offset := by
  obtain ⟨s, _, ho⟩ := h
  exact ho ▸ Nat.le_add_right _ _

theorem reaches_advance (c : Cursor) (n : Nat) : c.Reaches (c.advance n) :=
  ⟨c.rest.take n, (List.take_append_drop n c.rest).symm, rfl⟩

theorem reaches_skipWhile (c : Cursor) (p : Char → Bool) : c.Reaches (c.skipWhile p) :=
  ⟨c.rest.takeWhile p, List.takeWhile_append_dropWhile.symm, rfl⟩

theorem Reaches.advance (h : a.Reaches b) (n : Nat) : a.Reaches (b.advance n) :=
  h.trans (reaches_advance b n)

end Cursor

variable {α β : Type} {c : Cursor} {r : Reading α}

@[simp]
theorem Reading.after_done (a : α) (after : Cursor) (notes : List Diagnostic) :
    (Reading.done a after notes).after = after := rfl

@[simp]
theorem Reading.after_failed (flaw : Flaw) (after : Cursor) (notes : List Diagnostic) :
    (Reading.failed flaw after notes : Reading α).after = after := rfl

@[simp]
theorem Reading.after_behind (notes : List Diagnostic) (r : Reading α) :
    (r.behind notes).after = r.after := by
  cases r <;> rfl

theorem Cursor.Reaches.andThen {f : α → Cursor → Reading β} (h : c.Reaches r.after)
    (hf : ∀ a (after : Cursor), after.Reaches (f a after).after) :
      c.Reaches (r.andThen f).after := by
  cases r with
  | failed flaw after notes => exact h
  | done a after notes =>
    have ha := h.trans (hf a after)
    rw [Reading.andThen]
    cases hr : f a after <;> rwa [hr] at ha

theorem Cursor.Reaches.ite {p : Prop} [Decidable p] {s : Reading α} (h : c.Reaches r.after)
    (h' : c.Reaches s.after) : c.Reaches (if p then r else s).after := by
  split <;> assumption

theorem Cursor.Reaches.digitRunFrom {run : DigitRun} (h : c.Reaches run.after) (radix : Nat)
    (isFull : DigitRun → Bool) (t : Text) : c.Reaches (digitRunFrom radix isFull t run).after := by
  induction t generalizing run with
  | nil => exact h
  | cons ch t ih =>
    rw [Script.digitRunFrom]
    split
    · exact h
    · split
      · exact ih (h.advance 1)
      · split
        · exact ih (h.advance 1)
        · exact h

theorem reaches_digitRun (radix : Nat) (isFull : DigitRun → Bool) (c : Cursor) :
    c.Reaches (digitRun radix isFull c).after :=
  (Cursor.Reaches.refl c).digitRunFrom radix isFull c.rest

theorem reaches_digitsAt (radix : Nat) (c : Cursor) : c.Reaches (digitsAt radix c).after := by
  rw [digitsAt]
  split <;> exact reaches_digitRun _ _ c

theorem reaches_endNumber (token : Token) (c : Cursor) : c.Reaches (endNumber token c).after := by
  rw [endNumber]
  split <;> exact .refl c

theorem reaches_radixNumber (radix : Nat) (c : Cursor) : c.Reaches (radixNumber radix c).after := by
  rw [radixNumber]
  apply ((Cursor.reaches_advance c 2).trans (reaches_digitsAt radix _)).andThen
  intro _ after
  split
  · exact Cursor.reaches_advance after 1
  · exact reaches_endNumber _ after

theorem reaches_exponentAt (start c : Cursor) : c.Reaches (exponentAt start c).after := by
  have h := Cursor.reaches_advance c 1
  rw [exponentAt]
  split
  · dsimp only
    split
    · exact h
    · refine Cursor.Reaches.andThen ?_ fun _ after => reaches_endNumber _ after
      split
      · exact (h.advance 1).trans (reaches_digitsAt 10 _)
      · exact h.trans (reaches_digitsAt 10 _)
  · exact reaches_endNumber _ c

theorem reaches_fractionAt (start c : Cursor) : c.Reaches (fractionAt start c).after := by
  rw [fractionAt]
  split
  · rw [Reading.after_behind]
    exact ((Cursor.reaches_advance c 1).trans (reaches_digitRun _ _ _)).trans
      (reaches_exponentAt start _)
  · exact reaches_exponentAt start c

theorem reaches_decimalNumber (strict : Bool) (c : Cursor) :
    c.Reaches (decimalNumber strict c).after := by
  apply (reaches_digitsAt 10 c).andThen
  intro _ after
  refine .ite (Cursor.reaches_advance after 1) (.ite (reaches_fractionAt c after) (.ite ?_ ?_))
  · rw [Reading.after_behind]
    exact reaches_fractionAt c after
  · exact (reaches_endNumber _ after).andThen fun _ after => .refl after

theorem reaches_numberAt (strict : Bool) (c : Cursor) : c.Reaches (numberAt strict c).after := by
  rw [numberAt]
  split
  any_goals exact reaches_radixNumber _ c
  · exact reaches_fractionAt c c
  · exact reaches_decimalNumber strict c

theorem reaches_bracedEscapeAt (c : Cursor) : c.Reaches (bracedEscapeAt c).after := by
  have h := reaches_digitRun 16 (fun run => run.value ≥ Nat.pow 2 32) c
  rw [bracedEscapeAt]
  refine .ite h (.ite h ?_)
  split
  next chars after he =>
    have ha : c.Reaches after := by
      split at he
      · exact (Prod.mk.inj he).2 ▸ h
      · exact (Prod.mk.inj he).2 ▸ Cursor.reaches_advance c _
    exact .ite (ha.advance 1) ha

theorem reaches_fourDigitEscapeAt (c : Cursor) : c.Reaches (fourDigitEscapeAt c).after := by
  have h := reaches_digitRun 16 (fun run => run.count = 4) c
  rw [fourDigitEscapeAt]
  refine .ite h ?_
  split
  · exact h
  · exact Cursor.reaches_advance c 4

theorem reaches_unicodeEscapeAt (c : Cursor) : c.Reaches (unicodeEscapeAt c).after := by
  rw [unicodeEscapeAt]
  split
  · exact (Cursor.reaches_advance c 1).trans (reaches_bracedEscapeAt _)
  · exact reaches_fourDigitEscapeAt c

theorem reaches_hexEscapeAt (backslash : Nat) (c : Cursor) :
    c.Reaches (hexEscapeAt backslash c).after :=
  .ite (reaches_digitRun 16 _ c) (reaches_digitRun 16 _ c)

theorem reaches_octalEscapeAt (strict inTemplate : Bool) (backslash : Nat) (first : Char)
    (c : Cursor) :
    c.Reaches (octalEscapeAt strict inTemplate backslash first c).after :=
  have h := Cursor.reaches_advance c _
  .ite h (.ite h h)

theorem reaches_escapeAt (strict inTemplate : Bool) (c : Cursor) :
    c.Reaches (escapeAt strict inTemplate c).after := by
  have h := Cursor.reaches_advance c 1
  rw [escapeAt]
  split
  any_goals exact h.advance _
  · exact h
  · exact (h.advance 1).trans (reaches_hexEscapeAt c.offset _)
  · have hu := (h.advance 1).trans (reaches_unicodeEscapeAt ((c.advance 1).advance 1))
    split
    · next hf => rwa [hf] at hu
    · exact hu
  · exact .ite (h.advance 1) (.ite (h.trans (reaches_octalEscapeAt _ _ _ _ _)) (h.advance 1))

theorem reaches_nameFrom (steps : Nat) (seen : NameReading) (c : Cursor) :
    c.Reaches (nameFrom steps seen c).after := by
  induction steps generalizing seen c with
  | zero => exact .refl c
  | succ steps ih =>
    have h := Cursor.reaches_skipWhile c isNamePart
    rw [nameFrom]
    split
    · apply ((h.advance 2).trans (reaches_unicodeEscapeAt _)).andThen
      intro chars after
      rw [Reading.after_behind]
      exact ih _ after
    · exact h.advance 1
    · exact h

theorem reaches_nameAt (c : Cursor) : c.Reaches (nameAt c).after :=
  reaches_nameFrom _ _ c

theorem reaches_stringFrom (strict : Bool) (quote : Char) (steps : Nat) (seen : Text) (c : Cursor) :
    c.Reaches (stringFrom strict quote steps seen c).after := by
  induction steps generalizing seen c with
  | zero => exact .refl c
  | succ steps ih =>
    have h := Cursor.reaches_advance c 1
    rw [stringFrom]
    split
    · exact .refl c
    · refine .ite h (.ite (.refl c) (.ite ?_ (h.trans (ih _ _))))
      exact (reaches_escapeAt strict false c).andThen fun chars after => ih _ after

theorem reaches_stringAt (strict : Bool) (quote : Char) (c : Cursor) :
    c.Reaches (stringAt strict quote c).after :=
  ((Cursor.reaches_advance c 1).trans (reaches_stringFrom strict quote _ _ _)).andThen
    fun _ after => .refl after

theorem reaches_regexAt (slash : Nat) (c : Cursor) : c.Reaches (regexAt slash c).after := by
  rw [regexAt]
  split
  · exact Cursor.reaches_skipWhile c _
  · next n _ =>
    have h := Cursor.reaches_advance c (n + 1)
    refine .ite ?_ h
    exact (h.trans (reaches_nameAt _)).andThen fun _ after => .refl after

theorem offset_lt_regexAt (slash : Nat) {ch : Char} (h : isLineEnd ch = false) (t : Text)
    (offset : Nat) :
    offset < (regexAt slash ⟨ch :: t, offset⟩).after.offset := by
  have hpos := ch.utf8Size_pos
  rw [regexAt]
  split
  · have ho : (Cursor.skipWhile ⟨ch :: t, offset⟩ (!isLineEnd ·)).offset
        = offset + Text.byteSize (ch :: t.takeWhile (!isLineEnd ·)) := by
      rw [Cursor.skipWhile, List.takeWhile_cons_of_pos (by rw [h]; rfl)]
    rw [Reading.after_failed, ho, Text.byteSize_cons]
    omega
  · next n _ =>
    have ho : (Cursor.advance ⟨ch :: t, offset⟩ (n + 1)).offset
        = offset + (ch.utf8Size + Text.byteSize (t.take n)) := rfl
    refine Nat.lt_of_lt_of_le ?_ (Cursor.Reaches.offset_le (.ite ?_ (.refl _)))
    · rw [Reading.after_done, ho]
      omega
    · exact (reaches_nameAt _).andThen fun _ after => .refl after

/-- A regular expression that starts with the second character of an operator ends behind that. -/
theorem reaches_regexAt_equals (slash : Nat) (h : 0 < c.offset) :
    c.Reaches (regexAt slash ⟨'=' :: c.rest, c.offset - 1⟩).after := by
  have he : isLineEnd '=' = false := by decide
  have hlt := offset_lt_regexAt slash he c.rest (c.offset - 1)
  obtain ⟨s, hs, ho⟩ := reaches_regexAt slash ⟨'=' :: c.rest, c.offset - 1⟩
  cases s with
  | nil => exact absurd ho (Nat.ne_of_gt hlt)
  | cons ch s =>
    obtain ⟨rfl, hs'⟩ := List.cons.inj hs
    refine ⟨s, hs', ho.trans ?_⟩
    have he : Char.utf8Size '=' = 1 := by decide
    rw [Text.byteSize_cons, he]
    dsimp only
    omega

theorem reaches_templateTextFrom (steps : Nat) (flaw : Option Flaw) (c : Cursor) :
    c.Reaches (templateTextFrom steps flaw c).after := by
  induction steps generalizing flaw c with
  | zero => exact .refl c
  | succ steps ih =>
    rw [templateTextFrom]
    split
    · exact .refl c
    · refine .ite (.refl c) (.ite ?_ ((Cursor.reaches_advance c 1).trans (ih _ _)))
      have h := reaches_escapeAt false true c
      split
      all_goals
        next hr =>
        rw [hr] at h
        rw [Reading.after_behind]
        exact h.trans (ih _ _)

theorem reaches_templateTextAt (start : Nat) (c : Cursor) :
    c.Reaches (templateTextAt start c).after :=
  (reaches_templateTextFrom _ _ c).andThen fun _ after => .ite (.refl after) (.refl after)

end ScriptVeil.Script
