import ScriptVeil.Proofs.Script.Parser.Makes

namespace ScriptVeil.Script.Parser

variable {t : Text} {s : State} {l : List Spot}

theorem Goes.sound {α : Type} {x : Parser α} {Q : State → α → Prop} (h : Goes t s x Q) :
    Goes t s x fun s' a => s'.Sound t ∧ Q s' a := by
  intro c hs
  have h := h c hs
  cases hx : x c s with
  | error e s' => rwa [hx] at h
  | ok a s' =>
    rw [hx] at h
    exact ⟨h.1, h.2.1, h.1, h.2.2⟩

def Sees (s : State) (token : Token) : Prop :=
  ∃ x : Lexeme, s.ahead = some x ∧ x.token = token

theorem current?_goes :
    Goes t s current? fun s' o => Looked t s s' s'.ahead ∧ ∀ token ∈ o, Sees s' token := by
  rw [current?]
  apply Goes.bind ahead_goes
  intro s₁ o _ h
  have ho := h.ahead_eq
  rw [← ho] at h
  split
  · exact (Moves.goes s₁).bind fun _ _ _ _ => .throw
  · refine .pure fun _ => ⟨h, fun token ht => ?_⟩
    rw [← Option.some.inj ht]
    exact ⟨_, ho, rfl⟩
  · exact .pure fun _ => ⟨h, fun _ ht => absurd ht (Option.not_mem_none _)⟩

theorem current_goes :
    Goes t s current fun s' token => Looked t s s' s'.ahead ∧ Sees s' token := by
  rw [current]
  refine .bind current?_goes fun s₁ o _ ho => ?_
  cases o with
  | some token => exact .pure fun _ => ⟨ho.1, ho.2 token rfl⟩
  | none => exact (Moves.goes s₁).bind fun _ _ _ _ => .throw

theorem token?_goes :
    Goes t s token? fun s' token => ∃ o, token = o.map Lexeme.token ∧ Looked t s s' o := by
  rw [token?]
  exact .bind ahead_goes fun s₁ o _ h => .pure fun _ => ⟨o, rfl, h⟩

theorem here_goes : Goes t s here fun s' _ => Looked t s s' s'.ahead := by
  rw [here]
  apply Goes.bind ahead_goes
  intro s₁ o _ h
  have ho := h.ahead_eq
  rw [← ho] at h
  cases o with
  | some x => exact .pure fun _ => h
  | none =>
    apply Goes.bind .get
    rintro _ _ - ⟨rfl, rfl⟩
    exact .pure fun _ => h

theorem take_covers {k m : List Spot} {x : Lexeme} (hs : Covers t s k) (hx : s.ahead = some x)
    (hm : ∀ notes, Among.Tokens t notes [x] m) :
    Goes t s take fun s' _ => s'.last = x.span ∧ Covers t s' (k ++ m) := by
  apply take_goes.imp
  intro s' _ _ h
  obtain ⟨rfl, -⟩ := h x hx
  exact ⟨rfl, hs.taking (hm _)⟩

theorem tokens_word {x : Lexeme} {name : Text} {notes : List Diagnostic}
    (hx : x.token = .word name) :
    Among.Tokens t notes [x] [.site (.reference ⟨name, x.span⟩)] := by
  refine ⟨List.forall_mem_singleton.2 ⟨x, List.mem_singleton_self x, rfl, hx⟩, ?_⟩
  exact List.nil_sublist _

theorem tokens_string {x : Lexeme} {value raw : Text} {notes : List Diagnostic}
    (hx : x.token = .string value raw) :
    Among.Tokens t notes [x] [.site (.string ⟨value, x.span⟩)] := by
  refine ⟨List.forall_mem_singleton.2 ⟨x, List.mem_singleton_self x, rfl, raw, hx⟩, ?_⟩
  exact .refl _

theorem anyWord_makes : Makes t [] anyWord := by
  intro s k hl
  rw [List.append_nil] at hl
  unfold anyWord
  refine .bind current_goes fun s₁ token hs₁ ht => ?_
  cases token with
  | word name =>
    obtain ⟨-, x, hx, ht⟩ := ht
    refine .bind (take_covers (hl.later hs₁) hx fun _ => tokens_word ht) fun s₂ _ hs₂ h =>
      .bind .get ?_
    rintro _ _ - ⟨rfl, rfl⟩
    rw [← h.1] at h
    exact .pure fun _ => h.2
  | _ => exact fail_goes _

theorem anyWord_goes {x : Lexeme} (hx : s.ahead = some x) :
    Goes t s anyWord fun s' id => s' = s.taking x ∧ (Site.reference id).Is x := by
  unfold anyWord
  refine .bind current_goes fun s₁ token _ ht => ?_
  obtain rfl := ht.1.eq_of_ahead (by rw [hx]; exact Option.some_ne_none x)
  obtain ⟨-, y, hy, ht⟩ := ht
  obtain rfl := Option.some.inj (hx.symm.trans hy)
  cases token with
  | word name =>
    refine .bind take_goes fun s₂ _ _ h => .bind .get ?_
    rintro _ _ - ⟨rfl, rfl⟩
    obtain ⟨rfl, -⟩ := h x hx
    exact .pure fun _ => ⟨rfl, rfl, ht⟩
  | _ => exact fail_goes _

/-- What is known of an identifier that is taken. Without a mistake nothing else has been taken. -/
structure TookWord (t : Text) (x : Lexeme) (s s' : State) (id : Ident) : Prop where
  is_word : (Site.reference id).Is x
  leads : (s.taking x).Leads t s'
  eq_taking : s'.notes = [] → s' = s.taking x

/-- What is known of the word of an identifier, if a mistake that is noted behind it leaves that
alone. -/
theorem identifier_goes_of {R : State → Ident → Prop} (hx : Goes t s anyWord R)
    (hR : ∀ s₁ s₂ id, R s₁ id → s₁.Leads t s₂ → s₂.notes ≠ [] → R s₂ id)
    (admitYield admitAwait : Bool) : Goes t s (identifier admitYield admitAwait) R := by
  rw [identifier]
  apply Goes.bind hx
  intro s₁ id _ h
  have hpure : Goes t s₁ (pure id : Parser Ident) R := .pure fun _ => h
  have hnote (offset : Nat) (cause : Cause) : Goes t s₁ (do note offset cause; return id) R :=
    .bind (note_goes offset cause) fun s₂ _ hs₂ hn => .pure fun _ => hR s₁ s₂ id h hs₂ hn
  refine .bind .read ?_
  rintro _ c - rfl
  dsimp only
  repeat' first
    | exact hpure
    | exact hnote _ _
    | exact failAt_goes _ _
    | apply Goes.ite

theorem identifier_goes {x : Lexeme} (hx : s.ahead = some x) (admitYield admitAwait : Bool) :
    Goes t s (identifier admitYield admitAwait) (TookWord t x s) := by
  refine identifier_goes_of ((anyWord_goes hx).imp ?_) (fun s₁ s₂ id h hs₂ hn => ?_) _ _
  · rintro _ id - ⟨rfl, hid⟩
    exact ⟨hid, .refl _, fun _ => rfl⟩
  · exact ⟨h.is_word, h.leads.trans hs₂, fun he => absurd he hn⟩

theorem reference_goes {x : Lexeme} (hx : s.ahead = some x) :
    Goes t s reference (TookWord t x s) := by
  rw [reference]
  refine .bind .read ?_
  rintro _ c - rfl
  exact identifier_goes hx _ _

theorem identifier_makes (admitYield admitAwait : Bool) :
    Makes t [] (identifier admitYield admitAwait) := by
  rw [identifier]
  apply Makes.bind anyWord_makes
  intro id
  apply Makes.step
  intro c
  refine .ite (.step fun _ => .pure (.refl _)) (.ite ?_ (.ite ?_ (.ite (.pure (.refl _)) ?_)))
  · exact .ite (.failAt _ _) (.ite (.failAt _ _) (.ite (.pure (.refl _)) (.failAt _ _)))
  · exact .ite (.pure (.refl _)) (.failAt _ _)
  · exact .ite (.failAt _ _) (.ite (.step fun _ => .pure (.refl _)) (.pure (.refl _)))

theorem reference_makes : Makes t [] reference := by
  rw [reference]
  exact .step fun c => identifier_makes _ _

theorem bindingName_makes (denyLet : Bool) : Makes t [] (bindingName denyLet) := by
  rw [bindingName]
  repeat' first
    | apply Makes.bind (identifier_makes _ _); intro id
    | apply Makes.step; intro _
    | apply Makes.ite
    | exact .pure (.refl _)

instance : Moves t seesName := by
  rw [seesName]
  apply Moves.bind
  intro next
  split <;> infer_instance

theorem bindingName?_makes (denyLet : Bool) : Makes t [] (bindingName? denyLet) := by
  rw [bindingName?]
  apply Makes.step
  intro _
  refine .ite (.bind (bindingName_makes _) fun id => .pure ?_) (.pure (.nil _))
  simp [spots]

theorem privateName_makes : Makes t [] privateName := by
  rw [privateName]
  repeat' first
    | exact anyWord_makes
    | apply Makes.step; intro _
    | apply Makes.ite

end ScriptVeil.Script.Parser
