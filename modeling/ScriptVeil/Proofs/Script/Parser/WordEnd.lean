import ScriptVeil.Proofs.Script.Parser.Name

namespace ScriptVeil.Script

variable {t : Text} {s s' : State} {x : Lexeme}

theorem State.Sound.endsWord_of_end (h : s.Sound t) (hu : s.upcoming = [])
    (he : s.cursor.rest = []) : EndsWord t s.last.stop := by
  obtain ⟨hi, hrow, b, hb, rfl, hc⟩ := h.row
  rw [hu] at hrow
  have hlast : s.last.stop = b.offset := hrow
  rw [EndsWord, hlast, hb.dropBytes_eq]
  obtain rfl | ⟨⟨atStart, hgap⟩, -⟩ := hc
  · rw [he]
    exact startsNoWord_nil
  · exact startsNoWord_of_gap (by rw [hgap, he])

theorem Lexeme.Behind.endsWord {notes : List Diagnostic} {lo : Nat} (h : x.Behind t notes lo)
    (hp : x.token.isPlain = true) (ht : x.token.isPunctuator = true) : EndsWord t lo := by
  obtain ⟨mode, atStart, c, hc, rfl, hscan, -⟩ := h.exists_scan hp
  rw [EndsWord, hc.dropBytes_eq]
  exact startsNoWord_of_punctuator hscan ht

theorem State.Sound.openRegex_eq_none (h : s.Sound t) (hx : s.ahead = some x)
    (hp : x.token.isPlain = true) : s.openRegex = none := by
  by_contra hregex
  have hnot := h.not_plain hregex x (by rw [State.upcoming, hx]; exact List.mem_cons_self)
  rw [hp] at hnot
  contradiction

theorem State.Sound.atStart_eq_false (h : s.Sound t) (hx : s.ahead = some x) :
    s.atStart = false := by
  rw [← Bool.not_eq_true]
  intro hs
  have hempty := h.at_start hs
  rw [State.upcoming, hx] at hempty
  contradiction

/-- Whether no word goes on behind the last token taken, if the next one stands on a new line. This
is known of a token once it has been read as it stands, outside a regular expression. -/
structure State.EndsAtLine (t : Text) (s : State) : Prop where
  of_ahead : ∀ l ∈ s.ahead, l.newline = true → EndsWord t s.last.stop
  of_none : s.ahead = none → EndsWord t s.last.stop ∨ s.openRegex = none ∧ s.atStart = false

theorem State.Sound.endsAtLine_taking (h : s.Sound t) (hx : s.ahead = some x)
    (hp : x.token.isPlain = true) : (s.taking x).EndsAtLine t where
  of_ahead _ hl := absurd hl (Option.not_mem_none _)
  of_none _ := .inr ⟨h.openRegex_eq_none hx hp, h.atStart_eq_false hx⟩

namespace Parser

theorem Looked.endsAtLine (h : Looked t s s' s'.ahead) (hs' : s'.Sound t) (hs : s.EndsAtLine t) :
    s'.EndsAtLine t := by
  by_cases hnone : s.ahead = none
  · constructor
    case of_ahead =>
      intro l hl hn
      rw [h.last_eq]
      rcases hs.of_none hnone with hend | ⟨hx, hstart⟩
      · exact hend
      · exact h.ends_word hnone hx hstart l hl hn
    case of_none =>
      intro hnone'
      obtain ⟨hu, he⟩ := h.at_end hnone'
      exact .inl (hs'.endsWord_of_end hu he)
  · rwa [h.eq_of_ahead hnone]

def Took (t : Text) (token : Token) (s s' : State) : Prop :=
  ∃ x : Lexeme, x.token = token ∧ s'.last = x.span ∧ x.Behind t s'.notes s.last.stop

theorem Took.endsWord {token : Token} (h : Took t token s s') (hp : token.isPlain = true)
    (ht : token.isPunctuator = true) : EndsWord t s.last.stop := by
  obtain ⟨x, rfl, -, hx⟩ := h
  exact hx.endsWord hp ht

theorem eat_goes (token : Token) :
    Goes t s (eat token) fun s' b =>
      (b = true → Took t token s s') ∧ (b = false → Looked t s s' s'.ahead) := by
  rw [eat, isNext]
  apply Goes.bind (sees_goes _)
  rintro s₁ b - ⟨hlooked, hb⟩
  cases b with
  | false => exact .pure fun _ => ⟨Bool.noConfusion, fun _ => hlooked⟩
  | true =>
    obtain ⟨x, hx, hxt⟩ := hb.1 rfl
    refine .bind take_goes fun s₂ _ _ h => .pure fun _ => ⟨fun _ => ?_, Bool.noConfusion⟩
    obtain ⟨rfl, hbehind⟩ := h x hx
    rw [hlooked.last_eq] at hbehind
    exact ⟨x, of_decide_eq_true hxt, rfl, hbehind⟩

theorem expect_goes (token : Token) : Goes t s (expect token) fun s' _ => Took t token s s' := by
  rw [expect]
  apply Goes.bind (eat_goes token)
  intro s₁ b _ h
  cases b with
  | false => exact (Moves.goes s₁).bind fun _ _ _ _ => fail_goes _
  | true => exact .pure fun _ => h.1 rfl

/-- Where a statement can end, no word goes on; where it cannot, the next token stands on the same
line. -/
theorem isStatementEnd_goes :
    Goes t s isStatementEnd fun s' b => s'.taken = s.taken
      ∧ (b = false → ∃ l, s'.ahead = some l ∧ l.newline = false)
      ∧ (b = true → s.EndsAtLine t → EndsWord t s.last.stop) := by
  rw [isStatementEnd]
  apply Goes.bind ahead_goes.sound
  rintro s₁ o - ⟨hs₁, h⟩
  have ha := h.ahead_eq
  have hl := h.last_eq
  have htaken := h.taken_eq
  split
  · obtain ⟨hu, he⟩ := h.at_end rfl
    exact .pure fun _ => ⟨htaken, Bool.noConfusion, fun _ _ => hl ▸ hs₁.endsWord_of_end hu he⟩
  · have hend := (hs₁.behind_ahead ha).endsWord rfl rfl
    exact .pure fun _ => ⟨htaken, Bool.noConfusion, fun _ _ => hl ▸ hend⟩
  · have hend := (hs₁.behind_ahead ha).endsWord rfl rfl
    exact .pure fun _ => ⟨htaken, Bool.noConfusion, fun _ _ => hl ▸ hend⟩
  · next l _ _ =>
    rw [← ha] at h
    exact .pure fun _ => ⟨htaken, fun hn => ⟨l, ha, hn⟩, fun hn hs =>
      hl ▸ (h.endsAtLine hs₁ hs).of_ahead l ha hn⟩

theorem eatStatementEnd_goes :
    Goes t s eatStatementEnd fun s' b =>
      (b = false → s'.taken = s.taken ∧ ∃ l, s'.ahead = some l ∧ l.newline = false)
      ∧ (b = true → s.EndsAtLine t → EndsWord t s.last.stop) := by
  rw [eatStatementEnd]
  apply Goes.bind isStatementEnd_goes
  intro s₁ b _ h
  cases b with
  | false => exact .pure fun _ => ⟨fun _ => ⟨h.1, h.2.1 rfl⟩, Bool.noConfusion⟩
  | true =>
    exact (Moves.goes s₁).bind fun _ _ _ _ => .pure fun _ => ⟨Bool.noConfusion, fun _ => h.2.2 rfl⟩

theorem expectStatementEnd_goes :
    Goes t s expectStatementEnd fun _ _ => s.EndsAtLine t → EndsWord t s.last.stop := by
  rw [expectStatementEnd]
  apply Goes.bind eatStatementEnd_goes
  intro s₁ b _ h
  cases b with
  | false => exact (Moves.goes s₁).bind fun _ _ _ _ => fail_goes _
  | true => exact .pure fun _ => h.2 rfl

end Parser

end ScriptVeil.Script
