import ScriptVeil.Proofs.Script.Scan.Lexeme

namespace ScriptVeil.Script

variable {α β : Type} {c after : Cursor} {r : Reading α} {notes : List Diagnostic}

def Reading.Gives (p : α → Prop) (r : Reading α) : Prop :=
  ∀ a after notes, r = .done a after notes → p a

theorem Reading.gives_done {p : α → Prop} {a : α} (h : p a) :
    (Reading.done a after notes).Gives p := by
  rintro _ _ _ ⟨⟩
  exact h

theorem Reading.gives_failed {p : α → Prop} {flaw : Flaw} :
    (Reading.failed flaw after notes : Reading α).Gives p :=
  nofun

theorem Reading.Gives.ite {p : α → Prop} {q : Prop} [Decidable q] {s : Reading α} (h : r.Gives p)
    (h' : s.Gives p) : (if q then r else s).Gives p := by
  split <;> assumption

theorem Reading.Gives.behind {p : α → Prop} (h : r.Gives p) : (r.behind notes).Gives p := by
  cases r with
  | done a after more => exact gives_done (h a after more rfl)
  | failed flaw after more => exact gives_failed

theorem Reading.andThen_eq_done {f : α → Cursor → Reading β} {b : β}
    (h : r.andThen f = .done b after notes) :
    ∃ a mid n m, r = .done a mid n ∧ f a mid = .done b after m ∧ notes = n ++ m := by
  cases r with
  | failed flaw after notes => contradiction
  | done a mid n =>
    rw [andThen] at h
    cases hf : f a mid with
    | failed flaw after m => rw [hf] at h; contradiction
    | done b' after' m =>
      rw [hf] at h
      cases h
      exact ⟨a, mid, n, m, rfl, hf, rfl⟩

theorem Reading.gives_andThen {p : β → Prop} {f : α → Cursor → Reading β}
    (hf : ∀ a (after : Cursor), (f a after).Gives p) : (r.andThen f).Gives p := by
  intro b after notes h
  obtain ⟨a, mid, _, m, _, hb, _⟩ := andThen_eq_done h
  exact hf a mid b after m hb

def Token.isString : Token → Bool
  | .string _ _ => true
  | _ => false

def Token.isNumber : Token → Bool
  | .number _ | .bigNumber _ => true
  | _ => false

def Token.isPunctuator : Token → Bool
  | .mark _ | .binary _ | .assign _ => true
  | _ => false

abbrev GivesNumber (r : Reading Token) : Prop :=
  r.Gives fun token => token.isNumber = true

theorem number_endNumber (token : Token) (h : token.isNumber = true) (c : Cursor) :
    GivesNumber (endNumber token c) :=
  .ite Reading.gives_failed (Reading.gives_done h)

theorem number_radixNumber (radix : Nat) (c : Cursor) : GivesNumber (radixNumber radix c) :=
  Reading.gives_andThen fun _ _ => .ite (Reading.gives_done rfl) (number_endNumber _ rfl _)

theorem number_exponentAt (start c : Cursor) : GivesNumber (exponentAt start c) := by
  refine .ite (.ite Reading.gives_failed ?_) (number_endNumber _ rfl _)
  exact Reading.gives_andThen fun _ _ => number_endNumber _ rfl _

theorem number_fractionAt (start c : Cursor) : GivesNumber (fractionAt start c) :=
  .ite (number_exponentAt _ _).behind (number_exponentAt _ _)

theorem number_decimalNumber (strict : Bool) (c : Cursor) :
    GivesNumber (decimalNumber strict c) := by
  apply Reading.gives_andThen
  intro _ _
  refine .ite (Reading.gives_done rfl) (.ite (number_fractionAt _ _) (.ite ?_ ?_))
  · exact (number_fractionAt _ _).behind
  · intro token after notes h
    obtain ⟨t, mid, n, m, ht, hd, _⟩ := Reading.andThen_eq_done h
    cases hd
    exact number_endNumber _ rfl _ _ _ _ ht

theorem number_numberAt (strict : Bool) (c : Cursor) : GivesNumber (numberAt strict c) := by
  rw [numberAt]
  split
  any_goals exact number_radixNumber _ c
  · exact number_fractionAt c c
  · exact number_decimalNumber strict c

theorem word_wordAt (mode : ScanMode) (c : Cursor) :
    (wordAt mode c).Gives fun token => ∃ name, token = .word name :=
  Reading.gives_andThen fun word _ => .ite Reading.gives_failed
    (Reading.gives_done ⟨word.name, rfl⟩)

theorem string_stringAt (strict : Bool) (q : Char) (c : Cursor) :
    (stringAt strict q c).Gives fun token => token.isString = true :=
  Reading.gives_andThen fun _ _ => Reading.gives_done rfl

theorem punctuator_punctuatorAt (c : Cursor) :
    (punctuatorAt c).Gives fun token => token.isPunctuator = true := by
  rw [punctuatorAt]
  split
  · next text token hp =>
    have hall : ∀ p ∈ punctuators, p.2.isPunctuator = true := by decide
    exact Reading.gives_done (hall _ (List.mem_of_find?_eq_some hp))
  · split <;> exact Reading.gives_failed

theorem tokenAt_cases {mode : ScanMode} {newline : Bool} {token : Token}
    (h : tokenAt mode newline c = .done token after notes) :
    (∃ q, Literal.isQuote q = true ∧ c.rest.head? = some q
      ∧ stringAt mode.strict q c = .done token after notes)
      ∨ token.isNumber = true
      ∨ (∃ ch, c.rest.head? = some ch ∧ (isNameStart ch = true ∨ ch = '\\')
        ∧ wordAt mode c = .done token after notes)
      ∨ punctuatorAt c = .done token after notes := by
  rw [tokenAt] at h
  split at h
  · exact .inr (.inr (.inr h))
  · next q t hc =>
    split at h
    · next hq => exact .inl ⟨q, hq, by rw [hc]; rfl, h⟩
    · split at h
      · exact .inr (.inl (number_numberAt _ _ _ _ _ h))
      · split at h
        · next hstart =>
          rw [Bool.or_eq_true, decide_eq_true_eq] at hstart
          exact .inr (.inr (.inl ⟨q, by rw [hc]; rfl, hstart, h⟩))
        · split at h
          · contradiction
          · exact .inr (.inr (.inr h))

theorem tokenAt_eq_string {mode : ScanMode} {newline : Bool} {token : Token}
    (h : tokenAt mode newline c = .done token after notes) (ht : token.isString = true) :
    ∃ q, Literal.isQuote q = true ∧ c.rest.head? = some q
      ∧ stringAt mode.strict q c = .done token after notes := by
  rcases tokenAt_cases h with hs | hn | ⟨-, -, -, hw⟩ | hp
  · exact hs
  · cases token <;> contradiction
  · obtain ⟨name, rfl⟩ := word_wordAt _ _ _ _ _ hw
    contradiction
  · have hp := punctuator_punctuatorAt _ _ _ _ hp
    cases token <;> contradiction

theorem tokenAt_eq_punctuator {mode : ScanMode} {newline : Bool} {token : Token}
    (h : tokenAt mode newline c = .done token after notes) (ht : token.isPunctuator = true) :
    punctuatorAt c = .done token after notes := by
  rcases tokenAt_cases h with ⟨q, _, _, hs⟩ | hn | ⟨-, -, -, hw⟩ | hp
  · have hs := string_stringAt _ _ _ _ _ _ hs
    cases token <;> contradiction
  · cases token <;> contradiction
  · obtain ⟨name, rfl⟩ := word_wordAt _ _ _ _ _ hw
    contradiction
  · exact hp

theorem offset_lt_of_punctuatorAt {token : Token} (h : punctuatorAt c = .done token after notes) :
    c.offset < after.offset := by
  rw [punctuatorAt] at h
  split at h
  · next text token' hp =>
    cases h
    have hne : ∀ p ∈ punctuators, p.1 ≠ [] := by decide
    have hne := hne _ (List.mem_of_find?_eq_some hp)
    have hprefix : text.isPrefixOf c.rest = true := by simpa using List.find?_some hp
    obtain ⟨u, hu⟩ := List.isPrefixOf_iff_prefix.1 hprefix
    have ht : c.rest.take text.length = text := by
      rw [← hu]
      exact List.take_left
    have ho : (c.advance text.length).offset = c.offset + text.byteSize := by rw [Cursor.advance,
      ht]
    obtain ⟨ch, t, rfl⟩ := List.exists_cons_of_ne_nil hne
    have hpos := ch.utf8Size_pos
    rw [ho, Text.byteSize_cons]
    omega
  · split at h <;> contradiction

/-- A text that starts with a quote, a comment or a marker and ends with a quote. -/
def IsQuotedText (s : Text) : Prop :=
  (∃ ch, s.head? = some ch ∧ (Literal.isQuote ch = true ∨ ch ∈ markupOpeners))
    ∧ ∃ q, s.getLast? = some q ∧ Literal.isQuote q = true

theorem IsQuotedText.ne_nil {s : Text} (h : IsQuotedText s) : s ≠ [] := by
  obtain ⟨⟨c, hc, -⟩, -⟩ := h
  rintro rfl
  contradiction

theorem start_lt_stop_scan {mode : ScanMode} {atStart : Bool} {l : Lexeme}
    (h : (scan mode atStart c).lexeme = some l) (hp : l.token.isPunctuator = true) :
    l.span.start < l.span.stop := by
  have hstart :
    (gapAt atStart c).markupStart.getD (gapAt atStart c).after.offset
    ≤ (gapAt atStart c).after.offset := by
    cases hm : (gapAt atStart c).markupStart with
    | none => exact Nat.le_refl _
    | some m =>
      obtain ⟨b, _, hb, rfl, _⟩ := markup_gapAt hm
      exact hb.offset_le
  rw [scan] at h
  split at h
  · contradiction
  cases ht : tokenAt mode (gapAt atStart c).newline (gapAt atStart c).after with
  | failed flaw after more =>
    rw [ht] at h
    rw [← Option.some.inj h] at hp
    contradiction
  | done token after more =>
    rw [ht] at h
    rw [← Option.some.inj h] at hp ⊢
    exact Nat.lt_of_le_of_lt hstart (offset_lt_of_punctuatorAt (tokenAt_eq_punctuator ht hp))

end ScriptVeil.Script
