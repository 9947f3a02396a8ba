import ScriptVeil.Proofs.Script.Parser.Statement
import ScriptVeil.Script.Finding

namespace ScriptVeil.Script

def Token.opensName : Token → Bool
  | .word _ | .binary .multiply => true
  | _ => false

/-- Whether a name is a token of the text behind one that opens it. -/
def Ident.Placed (t : Text) (notes : List Diagnostic) (id : Ident) : Prop :=
  ∃ (b l : Lexeme) (lo : Nat), b.token.opensName = true ∧ b.Behind t notes lo
    ∧ l.Behind t notes b.span.stop ∧ (Site.reference id).Is l

structure Ident.Declared (t : Text) (notes : List Diagnostic) (id : Ident) : Prop where
  placed : id.Placed t notes
  ends_word : notes = [] → EndsWord t id.span.stop

def Finding.In (t : Text) (notes : List Diagnostic) : Finding → Prop
  | .declared _ id => id.Declared t notes
  | .quoted _ => True

def State.OpensName (t : Text) (s : State) : Prop :=
  ∃ (b : Lexeme) (lo : Nat), b.token.opensName = true ∧ b.Behind t s.notes lo ∧ s.last = b.span

/-- What holds of a declared name before what stands behind it has been taken: unless there was a
mistake, its word ends with it, or the name is still the last token taken. -/
structure State.Named (t : Text) (s : State) (id : Ident) : Prop where
  placed : id.Placed t s.notes
  ends_or_last : s.notes = [] → EndsWord t id.span.stop
    ∨ s.last.stop = id.span.stop ∧ s.EndsAtLine t

variable {t : Text} {s s' : State} {notes notes' : List Diagnostic} {id : Ident} {g : Grammar}

theorem Ident.Placed.mono (h : id.Placed t notes) (hn : notes ⊆ notes') : id.Placed t notes' := by
  obtain ⟨b, l, lo, hb, hbehind, hl, his⟩ := h
  exact ⟨b, l, lo, hb, hbehind.mono hn, hl.mono hn, his⟩

theorem Ident.Declared.mono (h : id.Declared t notes) (hn : notes ⊆ notes') :
    id.Declared t notes' :=
  ⟨h.placed.mono hn, fun he => h.ends_word (List.subset_nil.1 (he ▸ hn))⟩

theorem Ident.Declared.named (h : id.Declared t s.notes) : s.Named t id :=
  ⟨h.placed, fun hn => .inl (h.ends_word hn)⟩

theorem State.OpensName.later (h : s.OpensName t) (hs : s.Leads t s') (hl : s'.last = s.last) :
    s'.OpensName t := by
  obtain ⟨b, lo, hb, hbehind, hlast⟩ := h
  exact ⟨b, lo, hb, hbehind.mono hs.1, hl.trans hlast⟩

namespace State.Named

theorem of_note (h : id.Placed t s.notes) (hs : s.Leads t s') (hn : s'.notes ≠ []) :
    s'.Named t id :=
  ⟨h.mono hs.1, fun he => absurd he hn⟩

theorem declared (h : s.Named t id) (hs : s.notes ⊆ notes)
    (he : s.EndsAtLine t → EndsWord t s.last.stop) : id.Declared t notes := by
  refine ⟨h.placed.mono hs, fun hn => ?_⟩
  rcases h.ends_or_last (List.subset_nil.1 (hn ▸ hs)) with hend | ⟨hlast, hline⟩
  · exact hend
  · exact hlast ▸ he hline

theorem looked (h : s.Named t id) (hs : s.Leads t s') (hl : Parser.Looked t s s' s'.ahead)
    (hs' : s'.Sound t) : s'.Named t id := by
  refine ⟨h.placed.mono hs.1, fun hn => ?_⟩
  refine (h.ends_or_last (List.subset_nil.1 (hn ▸ hs.1))).imp_right fun ⟨hlast, hline⟩ => ?_
  exact ⟨hl.last_eq ▸ hlast, hl.endsAtLine hs' hline⟩

end State.Named

theorem declared_notMem_quotedArguments {category : Category} {args : List Expr} :
    .declared category id ∉ quotedArguments args := by
  intro h
  obtain ⟨e, -, he⟩ := List.mem_filterMap.1 h
  split at he
  · cases he
  · contradiction

/-- Whether an expression, as the only declarator of a statement, declares a name. -/
def Expr.Declares (e : Expr) (id : Ident) : Prop :=
  ∃ category, .declared category id ∈ declaredVariable [e]

theorem Expr.Declares.of_withDefault {target value : Expr}
    (h : (Expr.withDefault target value).Declares id) : target.Declares id := by
  obtain ⟨category, h⟩ := h
  have hquoted : .declared category id ∉ quotedInitial value := by
    unfold quotedInitial
    split
    · exact fun h => nomatch List.mem_singleton.1 h
    · exact declared_notMem_quotedArguments
    · exact List.not_mem_nil
  cases target with
  | name id' =>
    refine ⟨category, ?_⟩
    rw [(List.mem_cons.1 h).resolve_right hquoted]
    exact List.mem_singleton_self _
  | _ => exact absurd h List.not_mem_nil

/-- Whether names are bound where they stand, if the last token taken opens them. -/
def Grammar.BindsNames (t : Text) (g : Grammar) : Prop :=
  ∀ denyLet s, s.OpensName t →
    Parser.Goes t s (g.binding denyLet) fun s' e => ∀ id, e.Declares id → s'.Named t id

namespace Parser

theorem Took.opensName {token : Token} (h : Took t token s s') (ht : token.opensName = true) :
    s'.OpensName t := by
  obtain ⟨x, rfl, hlast, hx⟩ := h
  exact ⟨x, s.last.stop, ht, hx, hlast⟩

theorem anyWord_names (hs : s.OpensName t) : Goes t s anyWord fun s' id => s'.Named t id := by
  unfold anyWord
  refine .bind current_goes.sound fun s₁ token hs₁ ⟨hsound, hlooked, x, hx, ht⟩ => ?_
  cases token with
  | word name =>
    refine .bind take_goes fun s₂ _ _ h => .bind .get ?_
    rintro _ _ - ⟨rfl, rfl⟩
    obtain ⟨rfl, hbehind⟩ := h x hx
    obtain ⟨b, lo, hb, hopens, hlast⟩ := hs.later hs₁ hlooked.last_eq
    rw [hlast] at hbehind
    refine .pure fun _ => ⟨⟨b, x, lo, hb, hopens, hbehind, rfl, ht⟩, fun _ => .inr ⟨rfl, ?_⟩⟩
    exact hsound.endsAtLine_taking hx (by rw [ht]; rfl)
  | _ => exact fail_goes _

theorem note_names (h : s.Named t id) (offset : Nat) (cause : Cause) :
    Goes t s (note offset cause) fun s' _ => s'.Named t id :=
  (note_goes offset cause).imp fun _ _ hs' hn => .of_note h.placed hs' hn

theorem bindingName_names (hs : s.OpensName t) (denyLet : Bool) :
    Goes t s (bindingName denyLet) fun s' id => s'.Named t id := by
  have hplain {s : State} (hs : s.OpensName t) :
      Goes t s (bindingName false) fun s' id => s'.Named t id := by
    unfold bindingName
    rw [if_neg Bool.false_ne_true]
    refine .bind (identifier_goes_of (anyWord_names hs)
      (fun s₁ s₂ id h hs₂ hn => .of_note h.placed hs₂ hn) true true) fun s₁ id _ h => ?_
    refine .bind .read ?_
    rintro _ c - rfl
    dsimp only
    refine .ite (.bind (note_names h _ _) fun s₂ _ _ h₂ => ?_) ?_
    · exact .ite (.bind (note_names h₂ _ _) fun _ _ _ h₃ => .pure fun _ => h₃) (.pure fun _ => h₂)
    · exact .ite (.bind (note_names h _ _) fun _ _ _ h₂ => .pure fun _ => h₂) (.pure fun _ => h)
  cases denyLet with
  | false => exact hplain hs
  | true =>
    unfold bindingName
    rw [if_pos rfl]
    refine .bind current_goes fun s₁ token hs₁ ⟨hlooked, _⟩ => .ite ?_ ?_
    · exact .bind (Q := fun _ _ => False) (unexpected_goes _) fun _ _ _ h => h.elim
    · exact hplain (hs.later hs₁ hlooked.last_eq)

theorem arrayPattern_gives : Gives (arrayPattern g) fun e => declaredVariable [e] = [] := by
  unfold arrayPattern
  exact .bind fun _ => .bind fun _ => .bind fun _ => .bind fun _ => .pure rfl

theorem objectPattern_gives : Gives (objectPattern g) fun e => declaredVariable [e] = [] := by
  unfold objectPattern
  exact .bind fun _ => .bind fun _ => .bind fun _ => .bind fun _ => .pure rfl

theorem binding_names (hg : g.Sound t) (hs : s.OpensName t) (denyLet : Bool) :
    Goes t s (binding g denyLet) fun s' e => ∀ id, e.Declares id → s'.Named t id := by
  have hnone {x : Parser Expr} {s : State} (hx : Moves t x)
      (h : Gives x fun e => declaredVariable [e] = []) :
      Goes t s x fun s' e => ∀ id, e.Declares id → s'.Named t id := by
    refine ((hx.goes s).gives h).imp fun s' e _ he id ⟨category, hid⟩ => ?_
    rw [he] at hid
    exact absurd hid List.not_mem_nil
  unfold binding
  refine .bind current_goes fun s₁ token hs₁ ⟨hlooked, _⟩ => ?_
  split
  · refine .bind (bindingName_names (hs.later hs₁ hlooked.last_eq) denyLet) fun s₂ id _ h => ?_
    refine .pure fun _ id' ⟨category, hid⟩ => ?_
    obtain ⟨-, rfl⟩ := Finding.declared.inj (List.mem_singleton.1 hid)
    exact h
  · exact hnone (arrayPattern_makes hg).moves arrayPattern_gives
  · exact hnone (objectPattern_makes hg).moves objectPattern_gives
  · exact unexpected_goes _

theorem declarator_names (hg : g.Sound t) (hb : g.BindsNames t) (hs : s.OpensName t)
    (kind : VariableKind) :
    Goes t s (declarator g kind false) fun s' d => ∀ id, d.Declares id → s'.Named t id := by
  have := hg.assignment.moves
  unfold declarator
  refine .bind here_goes fun s₁ start hs₁ hlooked => ?_
  refine .bind (hb _ s₁ (hs.later hs₁ hlooked.last_eq)) fun s₂ target _ h => ?_
  refine .bind (sees_goes _).sound fun s₃ isSubject hs₃ ⟨hsound₃, hlooked, _⟩ => ?_
  replace h := fun id hid => (h id hid).looked hs₃ hlooked hsound₃
  rw [Bool.false_and, if_neg Bool.false_ne_true]
  refine .bind (eat_goes _).sound fun s₄ isAssigned hs₄ ⟨hsound₄, htook, hlooked⟩ => ?_
  cases isAssigned with
  | true =>
    refine (Moves.goes s₄).bind fun s₅ value hs₅ _ => .pure fun _ id hid => ?_
    have hend := (htook rfl).endsWord rfl rfl
    exact ((h id (Expr.Declares.of_withDefault hid)).declared (List.Subset.trans hs₄.1 hs₅.1)
      fun _ => hend).named
  | false =>
    replace h := fun id hid => (h id hid).looked hs₄ (hlooked rfl) hsound₄
    rw [if_neg Bool.false_ne_true]
    refine .bind .read ?_
    rintro _ c - rfl
    refine .ite ?_ (.ite ?_ (.pure fun _ => h))
    · exact .bind (note_goes _ _) fun s₅ _ hs₅ hn => .pure fun _ id hid =>
        .of_note (h id hid).placed hs₅ hn
    · exact .bind (Q := fun _ _ => False) (failAt_goes _ _) fun _ _ _ h => h.elim

/-- What holds of the declarators found so far: only a single one may declare a name. -/
def DeclaratorsNamed (t : Text) (s : State) : List Expr → Prop
  | [d] => ∀ id, d.Declares id → s.Named t id
  | _ => True

theorem DeclaratorsNamed.imp {ds : List Expr} (h : DeclaratorsNamed t s ds)
    (hs : ∀ id, s.Named t id → s'.Named t id) : DeclaratorsNamed t s' ds := by
  unfold DeclaratorsNamed at h ⊢
  split
  · exact fun id hid => hs id (h id hid)
  · trivial

theorem DeclaratorsNamed.findings {ds : List Expr} (h : DeclaratorsNamed t s ds)
    (hs : ∀ id, s.Named t id → id.Declared t notes) : ∀ f ∈ declaredVariable ds, f.In t notes := by
  intro f hf
  match ds, f with
  | [], _ => contradiction
  | _, .quoted _ => trivial
  | [d], .declared category id => exact hs id (h id ⟨category, hf⟩)
  | d :: d' :: ds, .declared category id =>
    have hnone : declaredVariable (d :: d' :: ds) = [] := by simp [declaredVariable]
    rw [hnone] at hf
    contradiction

theorem atEnd_goes : Goes t s atEnd fun s' _ => Looked t s s' s'.ahead := by
  rw [atEnd]
  refine .bind ahead_goes fun s₁ o _ h => .pure fun _ => ?_
  rwa [h.ahead_eq]

theorem isMark_goes (m : Mark) : Goes t s (isMark m) fun s' _ => Looked t s s' s'.ahead := by
  rw [isMark, isNext]
  exact (sees_goes _).imp fun _ _ _ h => h.1

theorem declarators_round (hg : g.Sound t) (hb : g.BindsNames t) (kind : VariableKind)
    (keyword : Span) (more : Bool) {found : List Expr} (h : DeclaratorsNamed t s found)
    (hopens : found = [] → s.OpensName t) :
    Goes t s (do
      if !more then return none
      if (← isMark .semicolon) || (← atEnd) then
        let last := (← get).last
        note (if last = keyword then last.stop else last.start) .trailingComma
        return none
      let d ← declarator g kind false
      return some (d, ← eatMark .comma)) fun s' o =>
        match o with
        | some (d, _) => DeclaratorsNamed t s' (d :: found)
        | none => DeclaratorsNamed t s' found := by
  refine .ite (.pure fun _ => h) ?_
  refine .bind (isMark_goes _).sound fun s₁ _ hs₁ ⟨hsound₁, hlooked₁⟩ => ?_
  replace h := h.imp fun id hid => hid.looked hs₁ hlooked₁ hsound₁
  refine .bind atEnd_goes.sound fun s₂ _ hs₂ ⟨hsound₂, hlooked₂⟩ => ?_
  replace h := h.imp fun id hid => hid.looked hs₂ hlooked₂ hsound₂
  refine .ite ?_ ?_
  · apply Goes.bind .get
    rintro _ _ - ⟨rfl, rfl⟩
    exact .bind (note_goes _ _) fun s₃ _ hs₃ hn => .pure fun _ =>
      h.imp fun id hid => .of_note hid.placed hs₃ hn
  · cases found with
    | nil =>
      have hopens := ((hopens rfl).later hs₁ hlooked₁.last_eq).later hs₂ hlooked₂.last_eq
      refine .bind (declarator_names hg hb hopens kind) fun s₃ d _ hd => ?_
      refine .bind (eat_goes _).sound fun s₄ b hs₄ ⟨hsound₄, htook, hlooked⟩ => .pure fun _ => ?_
      intro id hid
      cases b with
      | true =>
        have hend := (htook rfl).endsWord rfl rfl
        exact ((hd id hid).declared hs₄.1 fun _ => hend).named
      | false => exact (hd id hid).looked hs₄ (hlooked rfl) hsound₄
    | cons d' found =>
      have := (declarator_makes hg kind false).moves
      exact (Moves.goes s₂).bind fun s₃ d _ _ => (Moves.goes s₃).bind fun _ _ _ _ =>
        .pure fun _ => trivial

theorem declarators_names (hg : g.Sound t) (hb : g.BindsNames t) (hs : s.OpensName t)
    (kind : VariableKind) (keyword : Span) :
    Goes t s (declarators g kind false keyword) fun s' ds => DeclaratorsNamed t s' ds := by
  unfold declarators
  refine .bind (Goes.repeatedWith_ending
    (I := fun s found _ => DeclaratorsNamed t s found ∧ (found = [] → s.OpensName t))
    (F := fun s found _ => DeclaratorsNamed t s found) (fun s found more ⟨h, hopens⟩ => ?_)
    ⟨trivial, fun _ => hs⟩) fun s' r _ h => .pure fun _ => ?_
  · apply (declarators_round hg hb kind keyword more h hopens).imp
    intro s' o _ ho
    cases o with
    | some p => exact ⟨ho, fun he => absurd he (List.cons_ne_nil _ _)⟩
    | none => exact ho
  · obtain ⟨found, more⟩ := r
    match found with
    | [] | _ :: _ :: _ => trivial
    | [d] => exact h

theorem varDeclaration_names (hg : g.Sound t) (hb : g.BindsNames t) {word : Text}
    (hword : Sees s (.word word)) (kind : VariableKind) :
    Goes t s (varDeclaration g kind false) fun s' ds =>
      ∀ f ∈ declaredVariable ds, f.In t s'.notes := by
  have := hg.expression.moves
  unfold varDeclaration
  obtain ⟨x, hx, ht⟩ := hword
  refine .bind take_goes fun s₁ _ _ h => ?_
  obtain ⟨rfl, hbehind⟩ := h x hx
  have hopens : (s.taking x).OpensName t := ⟨x, s.last.stop, by rw [ht]; rfl, hbehind, rfl⟩
  apply Goes.bind .get
  rintro _ _ - ⟨rfl, rfl⟩
  refine .bind (.within _ (declarators_names hg hb hopens kind _)) fun s₂ ds hs₂ h => ?_
  rw [if_neg Bool.false_ne_true]
  refine .bind eatStatementEnd_goes fun s₃ isEnd hs₃ ⟨_, hend⟩ => ?_
  cases isEnd with
  | true => exact .pure fun _ => h.findings fun id hid => hid.declared hs₃.1 (hend rfl)
  | false =>
    refine (Moves.goes s₃).bind fun s₄ offset hs₄ _ => .bind (note_goes _ _) fun s₅ _ hs₅ hn => ?_
    refine (Moves.goes s₅).bind fun s₆ _ hs₆ _ => (Moves.goes s₆).bind fun s₇ _ hs₇ _ => ?_
    have hnotes := (hs₆.trans hs₇).1
    refine .pure fun _ => h.findings fun id hid => ⟨?_, fun he => ?_⟩
    · exact hid.placed.mono (((hs₃.trans hs₄).trans hs₅).trans (hs₆.trans hs₇)).1
    · exact absurd (List.subset_nil.1 (he ▸ hnotes)) hn

end Parser

end ScriptVeil.Script
