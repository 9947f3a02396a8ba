import ScriptVeil.Proofs.Script.Row
import ScriptVeil.Proofs.Script.Scan.Boundary
import ScriptVeil.Script.Parser.Basic

namespace ScriptVeil.Script

def State.upcoming (s : State) : List Lexeme :=
  s.ahead.toList ++ s.second.toList

def OpenRegex.after (r : OpenRegex) : Cursor :=
  r.reading.after

/-- Whether a token may turn out to open a regular expression. -/
def Token.isSlash (token : Token) : Bool :=
  token = .binary .divide || token = .assign (some .divide)

def State.firstStop (s : State) : Nat :=
  (s.ahead.elim s.last Lexeme.span).stop

/-- The tokens read ahead are the next ones of the text. They are two only if the first one is plain
and no slash, and they are not plain if a regular expression is open. One that is open is still to
be read, unless it is faulty. -/
structure State.Sound (t : Text) (s : State) : Prop where
  row : ∃ hi, Row t s.notes s.last.stop s.upcoming hi ∧ s.cursor.Resumes t hi
  after_in : ∀ r ∈ s.openRegex, r.after.In t
  offset_le : ∀ r ∈ s.openRegex, s.cursor.offset ≤ r.after.offset
  starts_at : ∀ r ∈ s.openRegex, r.StartsAt s.cursor ∨ r.isFaulty = true
  at_start : s.atStart = true → s.upcoming = []
  not_plain : s.openRegex ≠ none → ∀ l ∈ s.upcoming, l.token.isPlain = false
  no_slash : ∀ m ∈ s.second, ∀ l ∈ s.ahead, l.token.isSlash = false
  ends_word : ∀ m ∈ s.second, m.newline = true → EndsWord t s.firstStop

/-- Whether a state comes to another one by taking tokens in a row, with no mistake forgotten. -/
def State.Leads (t : Text) (s s' : State) : Prop :=
  s.notes ⊆ s'.notes
    ∧ ∃ ls, s'.taken = ls.reverse ++ s.taken ∧ Row t s'.notes s.last.stop ls s'.last.stop

namespace State

variable {t : Text} {s s' s'' : State}

theorem Sound.cursor_in (h : s.Sound t) : s.cursor.In t := by
  obtain ⟨hi, -, hc⟩ := h.row
  exact hc.in_text

theorem Sound.chain (h : s.Sound t) :
    Chain s.last.stop (s.upcoming.map Lexeme.span) s.cursor.offset := by
  obtain ⟨hi, hrow, hc⟩ := h.row
  exact hrow.chain.mono le_rfl hc.le_offset

namespace Leads

theorem of_taken_eq (hn : s.notes ⊆ s'.notes) (hl : s'.last = s.last) (ht : s'.taken = s.taken) :
    s.Leads t s' :=
  ⟨hn, [], ht, congrArg Span.stop hl.symm⟩

@[refl]
theorem refl (s : State) : s.Leads t s :=
  of_taken_eq (List.Subset.refl _) rfl rfl

theorem trans (h : s.Leads t s') (h' : s'.Leads t s'') : s.Leads t s'' := by
  obtain ⟨hn, ls, ht, hr⟩ := h
  obtain ⟨hn', ls', ht', hr'⟩ := h'
  refine ⟨List.Subset.trans hn hn', ls ++ ls', ?_, (hr.mono hn').append hr'⟩
  rw [ht', ht, List.reverse_append, List.append_assoc]

theorem taken_prefix (h : s.Leads t s') : s.taken.reverse <+: s'.taken.reverse := by
  obtain ⟨-, ls, ht, -⟩ := h
  rw [ht, List.reverse_append]
  exact List.prefix_append _ _

end Leads

end State

namespace Parser

variable {α β : Type}

/-- From a sound state, a parser comes to a sound state that is later; if it succeeds, that state
and the value have a property. -/
def Goes (t : Text) (s : State) (x : Parser α) (Q : State → α → Prop) : Prop :=
  ∀ c, s.Sound t →
    match x c s with
    | .ok a s' => s'.Sound t ∧ s.Leads t s' ∧ Q s' a
    | .error _ s' => s'.Sound t ∧ s.Leads t s'

namespace Goes

variable {t : Text} {s : State} {x : Parser α} {f : α → Parser β} {Q Q' : State → α → Prop}
  {R : State → β → Prop}

theorem pure {a : α} (h : s.Sound t → Q s a) : Goes t s (Pure.pure a) Q :=
  fun _ hs => ⟨hs, .refl s, h hs⟩

theorem throw {d : Diagnostic} : Goes t s (throw d : Parser α) Q :=
  fun _ hs => ⟨hs, .refl s⟩

theorem bind (hx : Goes t s x Q) (hf : ∀ s' a, s.Leads t s' → Q s' a → Goes t s' (f a) R) :
    Goes t s (x >>= f) R := by
  intro c hs
  have hx := hx c hs
  change match EStateM.bind (x c) (fun a => f a c) s with
    | .ok a s' => s'.Sound t ∧ s.Leads t s' ∧ R s' a
    | .error _ s' => s'.Sound t ∧ s.Leads t s'
  rw [EStateM.bind]
  cases h : x c s with
  | error e s' =>
    rw [h] at hx
    exact hx
  | ok a s' =>
    rw [h] at hx
    obtain ⟨hs', hle, hq⟩ := hx
    have hf := hf s' a hle hq c hs'
    dsimp only
    cases h' : f a c s' with
    | error e s'' =>
      rw [h'] at hf
      exact ⟨hf.1, hle.trans hf.2⟩
    | ok b s'' =>
      rw [h'] at hf
      exact ⟨hf.1, hle.trans hf.2.1, hf.2.2⟩

theorem imp (h : Goes t s x Q) (hQ : ∀ s' a, s.Leads t s' → Q s' a → Q' s' a) : Goes t s x Q' := by
  intro c hs
  have h := h c hs
  cases hx : x c s with
  | error e s' => rwa [hx] at h
  | ok a s' =>
    rw [hx] at h
    exact ⟨h.1, h.2.1, hQ _ _ h.2.1 h.2.2⟩

theorem and (h : Goes t s x Q) (h' : Goes t s x Q') : Goes t s x fun s' a => Q s' a ∧ Q' s' a := by
  intro c hs
  have h := h c hs
  have h' := h' c hs
  cases hx : x c s with
  | error e s' => rwa [hx] at h
  | ok a s' =>
    rw [hx] at h h'
    exact ⟨h.1, h.2.1, h.2.2, h'.2.2⟩

theorem tryCatch {handle : Diagnostic → Parser α} (hx : Goes t s x Q)
    (hh : ∀ s' d, s.Leads t s' → Goes t s' (handle d) Q) : Goes t s (tryCatch x handle) Q := by
  intro c hs
  have hx := hx c hs
  change match EStateM.tryCatch (x c) (fun d => handle d c) s with
    | .ok a s' => s'.Sound t ∧ s.Leads t s' ∧ Q s' a
    | .error _ s' => s'.Sound t ∧ s.Leads t s'
  rw [EStateM.tryCatch]
  cases h : x c s with
  | ok a s' =>
    rw [h] at hx
    exact hx
  | error d s' =>
    rw [h] at hx
    have hh := hh s' d hx.2 c hx.1
    change match handle d c s' with
      | .ok a s' => s'.Sound t ∧ s.Leads t s' ∧ Q s' a
      | .error _ s' => s'.Sound t ∧ s.Leads t s'
    cases h' : handle d c s' with
    | error e s'' =>
      rw [h'] at hh
      exact ⟨hh.1, hx.2.trans hh.2⟩
    | ok b s'' =>
      rw [h'] at hh
      exact ⟨hh.1, hx.2.trans hh.2.1, hh.2.2⟩

theorem ite {p : Prop} [Decidable p] {y : Parser α} (hx : Goes t s x Q) (hy : Goes t s y Q) :
    Goes t s (if p then x else y) Q := by
  split <;> assumption

theorem within (change : Context → Context) (h : Goes t s x Q) : Goes t s (within change x) Q :=
  fun c hs => h (change c) hs

theorem read : Goes t s (MonadReader.read : Parser Context) fun s' _ => s = s' :=
  fun _ hs => ⟨hs, .refl s, rfl⟩

theorem get : Goes t s (MonadState.get : Parser State) fun s' a => s = s' ∧ s = a :=
  fun _ hs => ⟨hs, .refl s, rfl, rfl⟩

theorem modify {change : State → State} (h : s.Sound t → (change s).Sound t)
    (hle : s.Leads t (change s)) :
    Goes t s (modify change : Parser Unit) fun s' _ => s' = change s :=
  fun _ hs => ⟨h hs, hle, rfl⟩

end Goes

def Gives {α : Type} (x : Parser α) (P : α → Prop) : Prop :=
  ∀ c s a s', x c s = .ok a s' → P a

namespace Gives

variable {α β : Type} {x : Parser α} {f : α → Parser β} {P : α → Prop} {Q : β → Prop}

theorem pure {a : α} (h : P a) : Gives (Pure.pure a) P := by
  rintro c s _ _ ⟨⟩
  exact h

theorem throw (d : Diagnostic) : Gives (throw d : Parser α) P := by
  intro c s a s' h
  change EStateM.Result.error d s = .ok a s' at h
  contradiction

theorem bindOn (hx : Gives x P) (hf : ∀ a, P a → Gives (f a) Q) : Gives (x >>= f) Q := by
  intro c s b s'' h
  change EStateM.bind (x c) (fun a => f a c) s = _ at h
  rw [EStateM.bind] at h
  cases hr : x c s with
  | error e s' =>
    rw [hr] at h
    contradiction
  | ok a s' =>
    rw [hr] at h
    exact hf a (hx c s a s' hr) c s' b s'' h

theorem bind (hf : ∀ a, Gives (f a) Q) : Gives (x >>= f) Q :=
  bindOn (P := fun _ => True) (fun _ _ _ _ _ => trivial) fun a _ => hf a

theorem ite {p : Prop} [Decidable p] {y : Parser α} (hx : Gives x P) (hy : Gives y P) :
    Gives (if p then x else y) P := by
  split <;> assumption

theorem failAt (offset : Nat) (cause : Cause) : Gives (failAt offset cause) P := by
  refine .bind fun next => ?_
  split
  · exact .bind fun _ => .bind fun _ => .throw _
  · exact .throw _

theorem fail (cause : Cause) : Gives (fail cause) P :=
  .bind fun _ => .failAt _ _

end Gives

theorem Goes.gives {α : Type} {t : Text} {s : State} {x : Parser α} {Q : State → α → Prop}
    {P : α → Prop} (h : Goes t s x Q) (hx : Gives x P) : Goes t s x fun _ a => P a := by
  intro c hs
  have h := h c hs
  cases hr : x c s with
  | error e s' => rwa [hr] at h
  | ok a s' =>
    rw [hr] at h
    exact ⟨h.1, h.2.1, hx c s a s' hr⟩

end Parser

end ScriptVeil.Script
