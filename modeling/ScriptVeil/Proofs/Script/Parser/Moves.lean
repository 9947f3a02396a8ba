import ScriptVeil.Proofs.Script.Parser.Elementary
import ScriptVeil.Script.Parser.Nesting

namespace ScriptVeil.Script.Parser

/-- A parser that keeps states sound and never moves back. -/
class Moves {α : Type} (t : Text) (x : Parser α) : Prop where
  goes : ∀ s, Goes t s x fun _ _ => True

variable {α β σ : Type} {t : Text} {x : Parser α} {f : α → Parser β}

theorem Goes.moves {Q : State → State → α → Prop} (h : ∀ s, Goes t s x (Q s)) : Moves t x :=
  ⟨fun s => (h s).imp fun _ _ _ _ => trivial⟩

instance (a : α) : Moves t (pure a) :=
  ⟨fun _ => .pure fun _ => trivial⟩

instance (d : Diagnostic) : Moves t (throw d : Parser α) :=
  ⟨fun _ => .throw⟩

theorem Moves.bind [Moves t x] (hf : ∀ a, Moves t (f a)) : Moves t (x >>= f) :=
  ⟨fun s => (Moves.goes s).bind fun s' a _ _ => (hf a).goes s'⟩

instance [Moves t x] [∀ a, Moves t (f a)] : Moves t (x >>= f) :=
  .bind inferInstance

instance {p : Prop} [Decidable p] {y : Parser α} [Moves t x] [Moves t y] :
    Moves t (if p then x else y) := by
  split <;> infer_instance

instance {handle : Diagnostic → Parser α} [Moves t x] [∀ d, Moves t (handle d)] :
    Moves t (tryCatch x handle) :=
  ⟨fun s => (Moves.goes s).tryCatch fun s' _ _ => Moves.goes s'⟩

instance {change : Context → Context} [Moves t x] : Moves t (within change x) :=
  ⟨fun s => (Moves.goes s).within change⟩

instance : Moves t (MonadReader.read : Parser Context) :=
  Goes.moves fun _ => .read

instance : Moves t (MonadState.get : Parser State) :=
  Goes.moves fun _ => .get

instance : Moves t ahead :=
  Goes.moves fun _ => ahead_goes

instance : Moves t take :=
  Goes.moves fun _ => take_goes

theorem record_goes {s : State} (d : Diagnostic) :
    Goes t s (record d) fun s' _ => s' = { s with notes := d :: s.notes } := by
  have hn : s.notes ⊆ d :: s.notes := List.subset_cons_self _ _
  refine .modify (fun h => ?_) (.of_taken_eq hn rfl rfl)
  obtain ⟨hi, hrow, hc⟩ := h.row
  exact ⟨⟨hi, hrow.mono hn, hc⟩, h.after_in, h.offset_le, h.starts_at, h.at_start, h.not_plain,
    h.no_slash, h.ends_word⟩

instance (d : Diagnostic) : Moves t (record d) :=
  Goes.moves fun _ => record_goes d

theorem note_goes {s : State} (offset : Nat) (cause : Cause) :
    Goes t s (note offset cause) fun s' _ => s'.notes ≠ [] := by
  have hrecord (s : State) : Goes t s (record ⟨cause, offset⟩) fun s' _ => s'.notes ≠ [] := by
    apply (record_goes _).imp
    rintro _ _ - rfl
    exact List.cons_ne_nil _ _
  rw [note]
  apply (Moves.goes s).bind
  intro s₁ next _ _
  split
  · exact (Moves.goes s₁).bind fun s₂ _ _ _ => (Moves.goes s₂).bind fun s₃ _ _ _ => hrecord s₃
  · exact hrecord s₁

instance (offset : Nat) (cause : Cause) : Moves t (note offset cause) :=
  Goes.moves fun _ => note_goes offset cause

instance : Moves t here := by
  rw [here]
  apply Moves.bind
  intro next
  split <;> infer_instance

instance : Moves t pointed := by
  rw [pointed]
  apply Moves.bind
  intro s
  split <;> infer_instance

instance : Moves t lastStart := by
  rw [lastStart]
  infer_instance

instance : Moves t lastStop := by
  rw [lastStop]
  infer_instance

theorem failAt_goes {s : State} {Q : State → α → Prop} (offset : Nat) (cause : Cause) :
    Goes t s (failAt offset cause) Q := by
  rw [failAt]
  apply (Moves.goes s).bind
  intro s₁ next _ _
  split
  · exact (Moves.goes s₁).bind fun s₂ _ _ _ => (Moves.goes s₂).bind fun _ _ _ _ => .throw
  · exact .throw

theorem fail_goes {s : State} {Q : State → α → Prop} (cause : Cause) : Goes t s (fail cause) Q :=
  (Moves.goes s).bind fun _ offset _ _ => failAt_goes offset cause

instance (offset : Nat) (cause : Cause) : Moves t (failAt offset cause : Parser α) :=
  ⟨fun _ => failAt_goes offset cause⟩

instance (cause : Cause) : Moves t (fail cause : Parser α) :=
  ⟨fun _ => fail_goes cause⟩

instance : Moves t current? := by
  rw [current?]
  apply Moves.bind
  intro next
  split <;> infer_instance

instance : Moves t current := by
  rw [current]
  apply Moves.bind
  intro token
  split <;> infer_instance

instance : Moves t shownAhead := by
  rw [shownAhead]
  apply Moves.bind
  intro next
  split <;> infer_instance

instance (p : Token → Bool) : Moves t (sees p) := by
  rw [sees]
  apply Moves.bind
  intro next
  split <;> infer_instance

theorem sees_goes {s : State} (p : Token → Bool) :
    Goes t s (sees p) fun s' b =>
      Looked t s s' s'.ahead ∧ (b = true ↔ ∃ l, s'.ahead = some l ∧ p l.token = true) := by
  rw [sees]
  apply Goes.bind ahead_goes
  intro s₁ o _ h
  have ha := h.ahead_eq
  split
  · next l =>
    refine .pure fun _ => ⟨by rwa [ha], ?_⟩
    rw [ha]
    exact ⟨fun hp => ⟨l, rfl, hp⟩, fun ⟨l', hl', hp⟩ => Option.some.inj hl' ▸ hp⟩
  · refine .pure fun _ => ⟨by rwa [ha], ?_⟩
    rw [ha]
    exact ⟨nofun, fun ⟨_, hl, _⟩ => nomatch hl⟩

theorem seesPair_moves {token : Token} (hp : token.isPlain = true) (hl : token.isSlash = false)
    (q : Lexeme → Bool) : Moves t (seesPair (· = token) q) := by
  rw [seesPair]
  refine ⟨fun s => (sees_goes _).bind fun s₁ b _ h => ?_⟩
  split
  · next hb =>
    obtain ⟨l, ha, hl'⟩ := h.2.1 hb
    obtain rfl := of_decide_eq_true hl'
    exact (secondAhead_goes ha hp hl).bind fun _ _ _ _ => .pure fun _ => trivial
  · exact .pure fun _ => trivial

instance (w : Text) (q : Lexeme → Bool) : Moves t (seesPair (· = .word w) q) :=
  seesPair_moves rfl rfl q

instance (q : Lexeme → Bool) : Moves t (seesPair (· = .mark .dot) q) :=
  seesPair_moves rfl rfl q

instance (q : Lexeme → Bool) : Moves t (seesPair (· = .mark .question) q) :=
  seesPair_moves rfl rfl q

instance (token : Token) : Moves t (isNext token) := by
  rw [isNext]
  infer_instance

instance (m : Mark) : Moves t (isMark m) := by
  rw [isMark]
  infer_instance

instance (w : String) : Moves t (isWord w) := by
  rw [isWord]
  infer_instance

instance (w v : String) : Moves t (areWords w v) := by
  rw [areWords]
  infer_instance

instance : Moves t token? := by
  rw [token?]
  infer_instance

instance : Moves t atEnd := by
  rw [atEnd]
  infer_instance

instance (token : Token) : Moves t (eat token) := by
  rw [eat]
  infer_instance

instance (m : Mark) : Moves t (eatMark m) := by
  rw [eatMark]
  infer_instance

instance (w : String) : Moves t (eatWord w) := by
  rw [eatWord]
  infer_instance

instance (token : Token) : Moves t (expect token) := by
  rw [expect]
  infer_instance

instance (m : Mark) : Moves t (expectMark m) := by
  rw [expectMark]
  infer_instance

instance (w : String) : Moves t (expectWord w) := by
  rw [expectWord]
  infer_instance

theorem unexpected_goes {s : State} {Q : State → α → Prop} (wanted : String) :
    Goes t s (unexpected wanted) Q :=
  (Moves.goes s).bind fun _ _ _ _ => fail_goes _

instance (wanted : String) : Moves t (unexpected wanted : Parser α) :=
  ⟨fun _ => unexpected_goes wanted⟩

instance : Moves t afterNewline := by
  rw [afterNewline]
  apply Moves.bind
  intro next
  split <;> infer_instance

instance : Moves t isStatementEnd := by
  rw [isStatementEnd]
  apply Moves.bind
  intro next
  split <;> infer_instance

instance : Moves t eatStatementEnd := by
  rw [eatStatementEnd]
  infer_instance

instance : Moves t expectStatementEnd := by
  rw [expectStatementEnd]
  infer_instance

/-- What every round keeps leads to what holds behind a repetition. -/
theorem Goes.repeatedFrom {step : σ → Parser (Option (α × σ))} {I F : State → List α → σ → Prop}
    (hstep : ∀ s found a, I s found a → Goes t s (step a) fun s' o =>
      match o with
      | some (b, a') => I s' (b :: found) a'
      | none => F s' found a)
    (limit : Nat) {s : State} {found : List α} {a : σ} (h : I s found a) :
    Goes t s (repeatedFrom step limit found a) fun s' r => F s' r.1.reverse r.2 := by
  induction limit generalizing s found a with
  | zero => exact (Moves.goes s).bind fun _ _ _ _ => .throw
  | succ limit ih =>
    rw [Parser.repeatedFrom]
    apply (hstep s found a h).bind
    intro s' o _ ho
    split at ho
    · exact ih ho
    · exact .pure fun _ => by rwa [List.reverse_reverse]

theorem Goes.repeatedWith_ending {step : σ → Parser (Option (α × σ))}
    {I F : State → List α → σ → Prop}
    (hstep : ∀ s found a, I s found a → Goes t s (step a) fun s' o =>
      match o with
      | some (b, a') => I s' (b :: found) a'
      | none => F s' found a)
    {s : State} {a : σ} (h : I s [] a) :
    Goes t s (repeatedWith a step) fun s' r => F s' r.1.reverse r.2 := by
  apply Goes.bind .read
  rintro _ c - rfl
  exact Goes.repeatedFrom hstep _ h

theorem Goes.repeatedWith {step : σ → Parser (Option (α × σ))} {I : State → List α → σ → Prop}
    (hstep : ∀ s found a, I s found a → Goes t s (step a) fun s' o =>
      match o with
      | some (b, a') => I s' (b :: found) a'
      | none => I s' found a)
    {s : State} {a : σ} (h : ∀ s', s.Leads t s' → I s' [] a) :
    Goes t s (repeatedWith a step) fun s' r => I s' r.1.reverse r.2 :=
  .repeatedWith_ending hstep (h s (.refl s))

instance {a : σ} {step : σ → Parser (Option (α × σ))} [∀ a, Moves t (step a)] :
    Moves t (repeatedWith a step) :=
  ⟨fun _ => (Goes.repeatedWith (I := fun _ _ _ => True)
    (fun s _ a _ => (Moves.goes s).imp fun _ o _ _ => by split <;> trivial)
    fun _ _ => trivial).imp fun _ _ _ _ => trivial⟩

instance {l : List β} {f : β → Parser PUnit} [∀ b, Moves t (f b)] : Moves t (l.forM f) := by
  induction l with
  | nil => exact inferInstanceAs (Moves t (pure _))
  | cons b l ih => exact inferInstanceAs (Moves t (f b >>= fun _ => l.forM f))

instance {step : Parser (Option α)} [Moves t step] : Moves t (repeated step) := by
  rw [repeated]
  infer_instance

end ScriptVeil.Script.Parser
