import ScriptVeil.Proofs.Script.Parser.Member
import ScriptVeil.Proofs.Script.Parser.Target
import ScriptVeil.Script.Parser.Primary

namespace ScriptVeil.Script.Parser

variable {t : Text} {s : State} {l : List Spot} {g : Grammar}

@[simp]
theorem spots_flatten {α : Type} [HasSpots α] (ls : List (List α)) :
    spots ls.flatten = spots ls := by
  induction ls with
  | nil => rfl
  | cons as ls ih => rw [List.flatten_cons, spots_append, ih, spots_cons]

theorem spreadable_makes (hg : g.Sound t) : Makes t [] (spreadable g) := by
  rw [spreadable]
  apply Makes.step
  intro start
  apply Makes.step
  intro isSpread
  refine .ite ?_ hg.assignment.allowingIn
  exact .bind hg.assignment.allowingIn fun value => .pure (by simp)

theorem arguments_makes (hg : g.Sound t) (isImport : Bool) : Makes t [] (arguments g isImport) := by
  simp only [arguments]
  apply Makes.step
  intro start
  apply Makes.step
  intro _
  refine .bind (.repeatedWith (fun first => ?_) rfl) fun args => .step fun _ => .pure (by simp)
  repeat' first
    | exact .bind (spreadable_makes hg) fun arg => .pure (by simp)
    | apply Makes.step; intro _
    | apply Makes.ite
    | exact .pure (.nil _)

theorem arrayLiteral_makes (hg : g.Sound t) : Makes t [] (arrayLiteral g) := by
  simp only [arrayLiteral]
  apply Makes.step
  intro start
  apply Makes.step
  intro _
  refine .bind (.repeatedWith (fun comma => ?_) rfl) fun items => .step fun _ => .pure (by simp)
  repeat' first
    | apply Makes.bind (spreadable_makes hg); intro item
    | apply Makes.step; intro _
    | apply Makes.ite
    | exact .pure (.nil _)
    | exact .pure (by simp)

instance (isTagged : Bool) : Moves t (templateText isTagged) := by
  have hend : Moves t do
      if ← isMark .backtick then return false
      expectMark .placeholder
      return true := inferInstance
  simp only [templateText]
  apply Moves.bind
  intro token
  split
  · apply Moves.bind
    intro _
    split
    · split
      · exact .bind fun _ => hend
      · exact hend
    · exact hend
  · exact .bind fun _ => hend

theorem templateParts_makes (hg : g.Sound t) (isTagged : Bool) :
    Makes t [] (templateParts g isTagged) := by
  rw [templateParts]
  apply Makes.step
  intro _
  refine .bind (.repeated ?_) fun parts => .step fun _ => .pure (.refl _)
  apply Makes.step
  intro hasPart
  refine .ite ?_ (.pure (.nil _))
  exact .bind hg.expression.allowingIn fun part => .step fun _ => .pure (by simp)

instance (offset : Nat) (flags : Text) : Moves t (checkRegexFlags offset flags) := by
  have hend : Moves t (match (flags.filter fun c => "dgimsuvy".toList.contains c).find?
      fun c => (flags.filter fun c => "dgimsuvy".toList.contains c).count c > 1 with
    | some flag => note offset (.repeatedRegexFlag flag)
    | none => return) := by
    split <;> infer_instance
  simp only [checkRegexFlags]
  split
  · exact .bind fun _ => hend
  · exact hend

/-- Behind a slash that is taken, nothing has been read ahead. -/
theorem take_goes_slash {token : Token} (h : Sees s token) (ht : token.isSlash = true) :
    Goes t s take fun s' _ => s'.upcoming = [] ∧ 0 < s'.cursor.offset := by
  obtain ⟨x, hx, rfl⟩ := h
  intro c hs
  apply (take_goes.sound.imp ?_) c hs
  rintro s' - - ⟨hs', h⟩
  obtain ⟨rfl, hb⟩ := h x hx
  have hkind : x.token.isPlain = true ∧ x.token.isPunctuator = true := by
    rw [Token.isSlash, Bool.or_eq_true, decide_eq_true_eq, decide_eq_true_eq] at ht
    rcases ht with ht | ht <;> rw [ht] <;> exact ⟨rfl, rfl⟩
  constructor
  · have hsecond : s.second = none := by
      rw [Option.eq_none_iff_forall_not_mem]
      intro m hm
      have hnot := hs.no_slash m hm x hx
      rw [ht] at hnot
      contradiction
    change [] ++ s.second.toList = []
    rw [hsecond]
    rfl
  · obtain ⟨mode, atStart, c, -, -, hl, -⟩ := hb.exists_scan hkind.1
    have hlt := start_lt_stop_scan hl hkind.2
    exact (Nat.zero_lt_of_lt hlt).trans_le hs'.chain.le

theorem openRegex_goes {r : OpenRegex} (hu : s.upcoming = []) (h : s.cursor.Reaches r.after)
    (hr : r.StartsAt s.cursor) :
    Goes t s (modify ({ · with openRegex := some r }) : Parser Unit) fun _ _ => True := by
  refine (Goes.modify (fun hs => ?_) (.of_taken_eq (List.Subset.refl _) rfl rfl)).imp
    fun _ _ _ _ => trivial
  refine ⟨hs.row, ?_, ?_, ?_, hs.at_start, fun _ l hl => ?_, hs.no_slash, hs.ends_word⟩
  · rintro _ ⟨⟩
    exact hs.cursor_in.trans h
  · rintro _ ⟨⟩
    exact h.offset_le
  · rintro _ ⟨⟩
    exact .inl hr
  · rw [State.upcoming] at hl hu
    rw [hu] at hl
    contradiction

theorem regexLiteral_goes {withEquals : Bool} {token : Token} (h : Sees s token)
    (ht : token.isSlash = true) :
    Goes t s (regexLiteral withEquals) fun _ e => spots e = [] := by
  rw [regexLiteral]
  apply Goes.bind here_goes
  intro s₁ start _ he
  have ha : s.ahead ≠ none := by
    obtain ⟨x, hx, -⟩ := h
    rw [hx]
    exact nofun
  rw [he.eq_of_ahead ha]
  apply Goes.bind (take_goes_slash h ht)
  rintro s₂ _ - ⟨hu, hpos⟩
  apply Goes.bind .get
  rintro _ _ - ⟨rfl, rfl⟩
  refine .bind (openRegex_goes hu ?_ ?_) fun s₃ _ _ _ =>
    .bind (Moves.goes s₃) fun s₄ token _ _ => ?_
  · split
    · exact reaches_regexAt_equals start hpos
    · exact reaches_regexAt start s₂.cursor
  · split
    · exact .inr rfl
    · exact .inl rfl
  · split
    · apply Goes.bind (Moves.goes s₄)
      intro s₅ _ _ _
      exact .bind (Moves.goes s₅) fun _ _ _ _ => .pure fun _ => rfl
    · exact .bind (Moves.goes s₄) fun _ _ _ _ => failAt_goes _ _

theorem among_reference_cons (id : Ident) (l : List Spot) :
    Among (.site (.reference id) :: .site (.reference id) :: l) (.site (.reference id) :: l) :=
  ⟨.refl _, by simp⟩

theorem parenItem_makes (hg : g.Sound t) : Makes t [] (parenItem g) := by
  simp only [parenItem]
  apply Makes.bind (spreadable_makes hg)
  intro item
  apply Makes.step
  intro isArrow
  refine .ite ?_ (.pure (by simp))
  split
  · next id =>
    apply Makes.bind (arrowBody_makes hg _ _)
    intro body
    apply Makes.pure
    simpa using among_reference_cons id _
  · exact .pure (by simp)

theorem parenItems_makes (hg : g.Sound t) : Makes t [] (parenItems g) := by
  simp only [parenItems]
  refine .step fun _ => .bind (.repeatedWith (fun comma => ?_) rfl) fun items => .step fun _ =>
    .pure (by simp)
  repeat' first
    | refine .bind (parenItem_makes hg).allowingIn fun item => ?_
    | apply Makes.step; intro _
    | apply Makes.ite
    | exact .pure (.nil _)
    | exact .pure (by simp)

instance (item : Expr) : Moves t (noteShorthandDefaults item) := by
  have hm (members : List Member) : Moves t (members.forM fun
      | .shorthandDefault id _ => note id.span.start .shorthandDefaultInLiteral
      | _ => return) := by
    have (m : Member) : Moves t (match m with
        | .shorthandDefault id _ => note id.span.start .shorthandDefaultInLiteral
        | _ => return) := by
      split <;> infer_instance
    infer_instance
  unfold noteShorthandDefaults
  dsimp only
  split
  · exact hm _
  · infer_instance

theorem parenthesised_makes (start : Nat) (items : List Expr) :
    Makes t (spots items) (parenthesised start items) := by
  unfold parenthesised
  split
  · exact .failAt _ _
  · split
    · exact .failAt _ _
    · exact .pure (by simp)
    · exact .pure (by simp)

theorem afterArrowBlock_makes (hg : g.Sound t) (e : Expr) :
    Makes t (spots e) (afterArrowBlock g e) := by
  simp only [afterArrowBlock]
  apply Makes.step
  intro token
  split
  · apply Makes.step
    intro offset
    apply Makes.step
    intro _
    apply Makes.bindOn (l := []) (hg.operators e 0)
    intro e'
    exact .step fun _ => .ite (.step fun _ => .step fun _ => .pure (.refl _)) (.pure (.refl _))
  · exact .pure (.refl _)

theorem arrowRest_makes (hg : g.Sound t) (start : Nat) (isAsync : Bool) (comma : Option Nat)
    (items : List Expr) (l : List Spot) :
    Makes t (l ++ spots items) (arrowRest g start isAsync comma items) := by
  rw [arrowRest]
  apply Makes.step
  intro _
  apply Makes.bindOn (asParameters_keeps comma items).makes
  intro params
  apply Makes.bind (arrowBody_makes hg _ params)
  rintro ⟨isBlock, body⟩
  have he : Among (Expr.arrow start params body).spots
      (l ++ spots params ++ spots (isBlock, body)) := by
    rw [List.append_assoc]
    simpa using Among.of_sublist (List.sublist_append_right l (spots params ++ spots body))
  exact .ite (.weaken he (afterArrowBlock_makes hg _)) (.pure he)

theorem parenOrArrow_makes (hg : g.Sound t) (canBeArrow : Bool) (async? : Option Ident) :
    Makes t (spots async?) (parenOrArrow g canBeArrow async?) := by
  have hitems (items : List Expr) (comma : Option Nat) :
      Among (spots async? ++ spots items) (spots async? ++ spots (items, comma)) := by
    simp
  simp only [parenOrArrow]
  split
  all_goals
    apply Makes.step
    intro start
    refine .bind (parenItems_makes hg) ?_
    rintro ⟨items, comma⟩
    apply Makes.weaken (hitems _ _)
    refine .step fun isArrow => .ite (.step fun newline => .ite (.step fun _ => ?_) ?_)
      (.step fun _ => ?_)
  all_goals first
    | exact .ite (.step fun _ => arrowRest_makes hg _ _ _ _ _) (arrowRest_makes hg _ _ _ _ _)
    | exact .pure (by simp)
    | exact parenthesised_makes _ _

instance : Moves t seesLoopKeyword := by
  rw [seesLoopKeyword]
  infer_instance

theorem nameOrArrow_makes (hg : g.Sound t) (start : Nat) (canBeArrow : Bool) :
    Makes t [] (nameOrArrow g start canBeArrow) := by
  simp only [nameOrArrow]
  apply Makes.bind reference_makes
  intro id
  repeat' first
    | apply Makes.bind (bindingName_makes _); intro param
    | apply Makes.bind (arrowBody_makes hg _ _); intro body
    | apply Makes.step; intro _
    | apply Makes.ite
    | exact .pure (.of_sublist (by simp))

theorem classLiteral_makes (hg : g.Sound t) {leftHandSide : Parser Expr}
    (hl : Makes t [] leftHandSide) :
    Makes t [] (classLiteral g leftHandSide) := by
  rw [classLiteral]
  apply Makes.step
  intro start
  refine .within (.step fun _ => .bind (bindingName?_makes _) fun name => ?_)
  exact .bind (classRest_makes hg hl) fun r => .pure (by simp)

instance : Moves t startsAsyncParen := by
  rw [startsAsyncParen]
  infer_instance

theorem wordExpr_makes (hg : g.Sound t) {leftHandSide : Parser Expr} (hl : Makes t [] leftHandSide)
    (canBeArrow : Bool) (word : Text) : Makes t [] (wordExpr g leftHandSide canBeArrow word) := by
  rw [wordExpr]
  apply Makes.step
  intro start
  refine .ite ?_ (.ite ?_ (.ite ?_ (.ite ?_ (.step fun _ => .ite ?_ ?_))))
  · exact .step fun _ => .pure (.nil _)
  · exact .step fun _ => .pure (.nil _)
  · exact functionExpr_makes hg _ _
  · exact classLiteral_makes hg hl
  · exact .step fun _ => functionExpr_makes hg _ _
  · apply Makes.step
    intro _
    refine .ite ?_ (.step fun _ => .ite (nameOrArrow_makes hg _ _) (.fail _))
    exact .bind anyWord_makes fun id => parenOrArrow_makes hg _ (some id)

theorem primary_makes (hg : g.Sound t) {leftHandSide : Parser Expr} (hl : Makes t [] leftHandSide) :
    Makes t [] (primary g leftHandSide) := by
  rw [primary]
  apply Makes.step
  intro start
  apply Makes.step
  intro c s k hs
  refine .bind ahead_goes ?_
  intro s₁ o hs₁ h
  have ho := h.ahead_eq
  replace hs := hs.later hs₁
  have hregex {withEquals : Bool} {token : Token} (h : Sees s₁ token)
      (ht : token.isSlash = true) :
      Goes t s₁ (regexLiteral withEquals) fun s' e => Covers t s' (k ++ spots e) := by
    apply (regexLiteral_goes h ht).imp
    intro s' e hs' he
    rw [he]
    exact hs.later hs'
  split
  · exact wordExpr_makes hg hl _ _ _ _ hs
  · rw [List.append_nil] at hs
    exact .bind (take_covers hs ho fun _ => tokens_string rfl) fun s₂ _ _ h => .pure fun _ => h.2
  · exact Makes.step (fun _ => .pure (.nil _)) _ _ hs
  · exact Makes.step (fun _ => .pure (.nil _)) _ _ hs
  · exact hregex ⟨_, ho, rfl⟩ rfl
  · exact hregex ⟨_, ho, rfl⟩ rfl
  · exact arrayLiteral_makes hg _ _ hs
  · exact objectLiteral_makes hg _ _ hs
  · exact parenOrArrow_makes hg _ none _ _ hs
  · exact Makes.bind (templateParts_makes hg _) (fun parts => .pure (by simp)) _ _ hs
  · exact Makes.step (fun _ => .bind anyWord_makes fun id => .pure (by simp)) _ _ hs
  · exact fail_goes _

instance (noCall : Bool) (owner : Expr) (optional : Bool) :
    Moves t (checkOwner noCall owner optional) := by
  rw [checkOwner]
  infer_instance

@[simp]
theorem spots_linked (owner : Expr) (optional : Bool) (e : Expr) :
    (linked owner optional e).spots = e.spots := by
  rw [linked]
  split <;> simp

theorem dottedMember_makes (noCall : Bool) (owner : Expr) (optional : Bool) :
    Makes t (spots owner) (dottedMember noCall owner optional) := by
  have hkey (key : Key) (id : Ident) (hk : key.spots = []) :
      Among (linked owner optional (.member owner key)).spots (spots owner ++ spots id) :=
    .of_sublist (by simp [hk])
  simp only [dottedMember, pure_bind]
  apply Makes.step
  intro isPrivate
  apply Makes.ite
  · apply Makes.bind privateName_makes
    intro id
    apply Makes.step
    intro _
    exact .ite (.step fun _ => .pure (hkey _ id rfl)) (.pure (hkey _ id rfl))
  · apply Makes.bind anyWord_makes
    intro id
    apply Makes.step
    intro _
    exact .ite (.step fun _ => .pure (hkey _ id rfl)) (.pure (hkey _ id rfl))

theorem subscript_makes (hg : g.Sound t) (noCall : Bool) (owner : Expr) :
    Makes t (spots owner) (subscript g noCall owner) := by
  simp only [subscript, pure_bind]
  repeat' first
    | exact .fail _
    | apply Makes.step; intro _
    | apply Makes.bind hg.expression.allowingIn; intro key
    | apply Makes.bind (arguments_makes hg _); intro args
    | apply Makes.bind (templateParts_makes hg _); intro parts
    | exact .bindOn (l := []) (dottedMember_makes _ _ _) fun e => .pure (by simp)
    | apply Makes.ite
    | exact .pure (.nil _)
    | exact .pure (by simp [Key.spots])

theorem subscripts_makes (hg : g.Sound t) (noCall : Bool) (owner : Expr) :
    Makes t (spots owner) (subscripts g noCall owner) :=
  .iterated fun owner => subscript_makes hg noCall owner

instance (e : Expr) : Moves t (isArrowHere e) := by
  unfold isArrowHere
  split <;> infer_instance

theorem newTarget_makes (hg : g.Sound t) (start : Nat) : Makes t [] (newTarget g start) := by
  simp only [newTarget]
  have h := subscripts_makes hg true (.atom .metaProperty start)
  exact .step fun _ => .ite (.step fun c => .ite (.step fun _ => h) h) (.unexpected _)

theorem newRest_makes (hg : g.Sound t) (start : Nat) : Makes t [] (newRest g start) := by
  have hend (callee : Expr) : Makes t (spots callee) do
      if ← isMark .parenOpen then
        let args ← arguments g false
        subscripts g true (.new start callee args)
      else return .newBare start callee := by
    apply Makes.step
    intro _
    refine .ite (.bind (arguments_makes hg _) fun args => ?_) (.pure (.refl _))
    exact .weaken (by simp) (subscripts_makes hg true (.new start callee args))
  simp only [newRest]
  apply Makes.step
  intro _
  apply Makes.ite (newTarget_makes hg _)
  apply Makes.bind hg.construction
  intro callee
  apply Makes.step
  intro _
  apply Makes.ite (.pure (.refl _))
  split
  · exact .step fun _ => hend _
  · exact hend _

theorem importRest_makes (hg : g.Sound t) (noCall : Bool) (start : Nat) :
    Makes t [] (importRest g noCall start) := by
  have hatom (kind : Atom) := subscripts_makes hg noCall (.atom kind start)
  simp only [importRest]
  apply Makes.step
  intro _
  apply Makes.ite
  on_goal 1 =>
    apply Makes.step
    intro _
  all_goals
    apply Makes.step
    intro _
    apply Makes.ite _ (hatom _)
    apply Makes.bind anyWord_makes
    intro name
    apply Makes.weaken (.nil _)
    exact .ite (.step fun _ => hatom _) (.ite (hatom _) (.unexpected _))

theorem construction_makes (hg : g.Sound t) {leftHandSide : Parser Expr}
    (hl : Makes t [] leftHandSide) :
    Makes t [] (construction g leftHandSide) := by
  rw [construction]
  refine .step fun start => .step fun _ => .ite (newRest_makes hg _)
    (.step fun _ => .ite ?_ (.step fun _ => .ite ?_ ?_))
  · exact subscripts_makes hg _ (.atom .superRef start)
  · exact importRest_makes hg _ _
  · refine .bind (primary_makes hg hl) fun e => .step fun _ =>
      .ite (.pure (.refl _)) (subscripts_makes hg _ _)

theorem leftHandSide_makes (hg : g.Sound t) : Makes t [] (leftHandSide g) := by
  rw [leftHandSide]
  refine .step fun start => .step fun _ => .ite ?_ (.step fun _ =>
    .ite (importRest_makes hg _ _) ?_)
  · exact subscripts_makes hg _ (.atom .superRef start)
  · apply Makes.bind hg.construction
    intro callee
    apply Makes.step
    intro _
    apply Makes.ite (.pure (.refl _))
    split
    · exact .pure (.refl _)
    · apply Makes.step
      intro _
      refine .ite (.bind (arguments_makes hg _) fun args => ?_) (.pure (.refl _))
      exact .weaken (by simp) (subscripts_makes hg false (linked callee false (.call callee args)))

end ScriptVeil.Script.Parser
