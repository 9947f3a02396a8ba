import ScriptVeil.Proofs.Script.Parser.Expression
import ScriptVeil.Proofs.Script.Parser.Jump

namespace ScriptVeil.Script.Parser

variable {t : Text} {s : State} {g : Grammar}

theorem fullExpression_makes (hg : g.Sound t) : Makes t [] (fullExpression g) :=
  hg.expression.allowingIn

theorem condition_makes (hg : g.Sound t) : Makes t [] (condition g) := by
  rw [condition]
  exact .step fun _ => .bind (fullExpression_makes hg) fun e => .step fun _ => .pure (.refl _)

theorem loopBody_makes (hg : g.Sound t) : Makes t [] (loopBody g) :=
  (hg.statement .single).within

theorem moduleStatement_makes (hg : g.Sound t) : Makes t [] (moduleStatement g) := by
  rw [moduleStatement]
  apply Makes.step
  intro _
  refine .ite (.bind hg.expression fun e => ?_) (.fail _)
  exact .step fun _ => .pure (.refl _)

theorem debuggerStatement_makes : Makes t [] debuggerStatement := by
  rw [debuggerStatement]
  exact .step fun _ => .step fun _ => .pure (.nil _)

theorem doStatement_makes (hg : g.Sound t) : Makes t [] (doStatement g) := by
  rw [doStatement]
  apply Makes.step
  intro _
  apply Makes.bind (loopBody_makes hg)
  intro body
  apply Makes.step
  intro _
  exact .bind (condition_makes hg) fun test => .step fun _ => .pure (.refl _)

theorem whileStatement_makes (hg : g.Sound t) : Makes t [] (whileStatement g) := by
  rw [whileStatement]
  refine .step fun _ => .bind (condition_makes hg) fun test => .bind (loopBody_makes hg) fun body =>
    ?_
  exact .pure (.refl _)

theorem ifStatement_makes (hg : g.Sound t) : Makes t [] (ifStatement g) := by
  rw [ifStatement]
  refine .step fun _ => .bind (condition_makes hg) fun test => .bind (hg.statement .single)
    fun yes => ?_
  refine .step fun _ => .ite (.bind (hg.statement .single) fun no => .pure (.refl _))
    (.pure (by simp))

theorem returnStatement_makes (hg : g.Sound t) : Makes t [] (returnStatement g) := by
  simp only [returnStatement, pure_bind]
  apply Makes.step
  intro start
  apply Makes.step
  intro _
  apply Makes.bind (Makes.tryCatch _ fun fault => .step fun _ => .throw _)
  · intro value
    exact .step fun _ => .pure (by simp)
  · apply Makes.step
    intro _
    apply Makes.ite (.step fun _ => .pure (.nil _))
    exact .bind (fullExpression_makes hg) fun e => .step fun _ => .pure (by simp)

theorem switchClause_makes (hg : g.Sound t) (hasDefault : Bool) :
    Makes t [] (switchClause g hasDefault) := by
  simp only [switchClause, pure_bind]
  have hbody : Makes t [] (repeated do
      let closes ← sees fun t =>
        t = .word "case".toList || t = .word "default".toList || t = .mark .braceClose
      if (← atEnd) || closes then return none
      return some (← g.statement .list)) := by
    refine .repeated (.step fun _ => .step fun _ => .ite (.pure (.nil _)) ?_)
    exact .bind (hg.statement .list) fun s => .pure (by simp)
  repeat' first
    | apply Makes.step; intro _
    | apply Makes.bind (fullExpression_makes hg); intro test
    | apply Makes.bind hbody; intro body
    | apply Makes.ite
    | exact .pure (.nil _)
    | exact .pure (by simp)

theorem switchStatement_makes (hg : g.Sound t) : Makes t [] (switchStatement g) := by
  rw [switchStatement]
  apply Makes.step
  intro _
  apply Makes.bind (condition_makes hg)
  intro subject
  apply Makes.step
  intro _
  apply Makes.bind (Makes.repeatedWith (switchClause_makes hg) rfl).within
  intro clauses
  exact .step fun _ => .pure (by simp)

theorem throwStatement_makes (hg : g.Sound t) : Makes t [] (throwStatement g) := by
  rw [throwStatement]
  apply Makes.step
  intro _
  apply Makes.step
  intro _
  apply Makes.ite
  on_goal 1 =>
    apply Makes.step
    intro _
  all_goals exact .bind (fullExpression_makes hg) fun e => .step fun _ => .pure (.refl _)

theorem catchClause_makes (hg : g.Sound t) : Makes t [] (catchClause g) := by
  simp only [catchClause, pure_bind]
  repeat' first
    | apply Makes.step; intro _
    | apply Makes.bind (hg.binding false); intro param
    | apply Makes.bind (block_makes hg _); intro body
    | apply Makes.ite
    | exact .pure (.nil _)
    | exact .pure (by simp)

theorem finallyClause_makes (hg : g.Sound t) : Makes t [] (finallyClause g) := by
  rw [finallyClause]
  refine .step fun _ => .ite (.bind (block_makes hg _) fun body => .pure (by simp)) (.pure (.nil _))

theorem tryStatement_makes (hg : g.Sound t) : Makes t [] (tryStatement g) := by
  simp only [tryStatement]
  apply Makes.step
  intro _
  apply Makes.bind (block_makes hg _)
  intro body
  apply Makes.step
  intro _
  refine .bind (catchClause_makes hg) fun handler => .bind (finallyClause_makes hg) fun finalizer =>
    ?_
  have h : Makes t ([] ++ spots body ++ spots handler ++ spots finalizer) (pure (Stmt.tryCatch body
      (handler.bind Prod.fst) ((handler.map Prod.snd).getD []) (finalizer.getD []))) := by
    cases handler <;> cases finalizer <;> exact .pure (by simp)
  exact .ite (.step fun _ => h) h

instance {α : Type} {x : Parser α} [Moves t x] : Moves t (skipping x) := by
  rw [skipping]
  infer_instance

theorem strayClause_makes (hg : g.Sound t) : Makes t [] (strayClause g) := by
  have := (catchClause_makes hg).moves
  have := (finallyClause_makes hg).moves
  simp only [strayClause]
  apply Makes.step
  intro start
  apply Makes.step
  intro _
  apply Makes.step
  intro isCatch
  refine .ite (.step fun _ => ?_) ?_
  · exact .step fun _ => .pure (.nil _)
  · exact .step fun _ => .pure (.nil _)

theorem withStatement_makes (hg : g.Sound t) : Makes t [] (withStatement g) := by
  rw [withStatement]
  apply Makes.step
  intro _
  apply Makes.bind (condition_makes hg)
  intro object
  exact .bind (hg.statement .single).within fun body => .pure (.refl _)

theorem declarator_makes (hg : g.Sound t) (kind : VariableKind) (inLoop : Bool) :
    Makes t [] (declarator g kind inLoop) := by
  simp only [declarator]
  apply Makes.step
  intro start
  apply Makes.bind (hg.binding _)
  intro target
  repeat' first
    | apply Makes.step; intro _
    | apply Makes.bind hg.assignment; intro value
    | apply Makes.ite
    | exact .pure (by simp)

instance : Moves t skipStatement := by
  rw [skipStatement]
  have hstep : Moves t (do
      if ← eatStatementEnd then return none
      take
      match ← ahead with
      | some ⟨.bad _, _, _⟩ => return none
      | _ => return some ()) := by
    apply Moves.bind
    intro isEnd
    split
    · infer_instance
    · apply Moves.bind
      intro _
      apply Moves.bind
      intro next
      split <;> infer_instance
  exact .bind fun _ => inferInstance

theorem declarators_makes (hg : g.Sound t) (kind : VariableKind) (inLoop : Bool) (keyword : Span) :
    Makes t [] (declarators g kind inLoop keyword) := by
  simp only [declarators]
  refine .bind (.repeatedWith (fun more => ?_) rfl) fun found => .pure (by simp)
  repeat' first
    | apply Makes.bind (declarator_makes hg _ _); intro d
    | apply Makes.step; intro _
    | apply Makes.ite
    | exact .pure (.nil _)
    | exact .pure (by simp)

theorem varDeclaration_makes (hg : g.Sound t) (kind : VariableKind) (inLoop : Bool) :
    Makes t [] (varDeclaration g kind inLoop) := by
  have := hg.expression.moves
  simp only [varDeclaration]
  apply Makes.step
  intro _
  apply Makes.step
  intro s
  apply Makes.bind (declarators_makes hg _ _ _).within
  intro found
  refine .ite (.pure (.refl _)) (.step fun _ => .ite ?_ (.pure (.refl _)))
  exact .step fun _ => .step fun _ => .step fun _ => .step fun _ => .pure (.refl _)

instance : Moves t startsUsing := by
  rw [startsUsing]
  infer_instance

instance (start : Nat) (e : Expr) : Moves t (checkResource start e) := by
  unfold checkResource
  split <;> infer_instance

theorem using?_makes (hg : g.Sound t) (start : Nat) : Makes t [] (using? g start) := by
  rw [using?]
  apply Makes.step
  intro _
  refine .ite (.pure (.nil _)) (.step fun _ => .step fun s => ?_)
  apply Makes.bind (declarators_makes hg _ _ _)
  intro found
  apply Makes.step
  intro _
  exact .step fun _ => .step fun _ => .pure (by simp)

theorem awaitStatement?_makes (hg : g.Sound t) (place : StatementPlace) :
    Makes t [] (awaitStatement? g place) := by
  simp only [awaitStatement?]
  apply Makes.step
  intro start
  refine .ite (.step fun _ => ?_) ?_
  all_goals
    apply Makes.step
    intro _
    refine .ite (.bind anyWord_makes fun id => ?_) (.pure (.nil _))
    refine .bind (using?_makes hg _) fun declaration? => ?_
    cases declaration? with
    | some declaration => exact .pure (.of_sublist (by simp))
    | none =>
      apply Makes.bindOn (l := []) (awaitRest_makes hg id)
      intro first
      exact .bindOn (l := []) (operators_makes hg first 0).allowingIn fun e => .step fun _ =>
        .pure (by simp)

instance : Moves t variableKind? := by
  rw [variableKind?]
  infer_instance

instance : HasSpots LoopHead where
  spots
    | .counting init test update => init.spots ++ spots test ++ spots update
    | .collection target _ subject => target.spots ++ subject.spots

@[simp]
theorem spots_counting (init : Stmt) (test update : Option Expr) :
    spots (LoopHead.counting init test update) = init.spots ++ spots test ++ spots update := rfl

@[simp]
theorem spots_collection (target : Stmt) (isOf : Bool) (subject : Expr) :
    spots (LoopHead.collection target isOf subject) = target.spots ++ subject.spots := rfl

theorem countingHead_makes (hg : g.Sound t) (init : Stmt) :
    Makes t (spots init) (countingHead g init) := by
  simp only [countingHead, pure_bind]
  repeat' first
    | apply Makes.bind (fullExpression_makes hg); intro e
    | apply Makes.step; intro _
    | apply Makes.ite
    | exact .pure (by simp)

theorem collectionHead_makes (hg : g.Sound t) (target : Stmt) :
    Makes t (spots target) (collectionHead g target) := by
  rw [collectionHead]
  apply Makes.step
  intro isOf
  apply Makes.step
  intro _
  refine .bind (Makes.allowingIn ?_) fun subject => .pure (by simp)
  exact .ite hg.assignment hg.expression

instance : Moves t seesCollection := by
  rw [seesCollection]
  infer_instance

instance (declared : List Expr) : Moves t (checkLoopVariables declared) := by
  unfold checkLoopVariables
  split <;> infer_instance

theorem loopHead_makes (hg : g.Sound t) : Makes t [] (loopHead g) := by
  rw [loopHead]
  apply Makes.step
  intro kind
  split
  · refine .bind (varDeclaration_makes hg _ _) fun declared =>
      .weaken (m := spots (Stmt.vars declared)) (by simp) ?_
    refine .step fun _ => .ite (.step fun _ => collectionHead_makes hg _)
      (.step fun _ => countingHead_makes hg _)
  · apply Makes.step
    intro _
    apply Makes.ite (countingHead_makes hg .empty)
    refine .bind hg.expression.within fun e => .step fun _ =>
      .ite ?_ (.step fun _ => countingHead_makes hg (.expr e))
    exact .bindOn (l := []) (asAssignmentTarget_keeps e).makes fun target =>
      collectionHead_makes hg (.expr target)

theorem forStatement_makes (hg : g.Sound t) : Makes t [] (forStatement g) := by
  rw [forStatement]
  apply Makes.step
  intro _
  apply Makes.step
  intro awaitStart
  apply Makes.step
  intro isAwait
  apply Makes.step
  intro _
  refine .bind (loopHead_makes hg).within fun head => .step fun _ => .bind (loopBody_makes hg)
    fun body => ?_
  split
  · exact .pure (by simp)
  · exact .ite (.step fun _ => .pure (by simp)) (.pure (by simp))
  · exact .ite (.step fun _ => .pure (by simp)) (.pure (by simp))

theorem functionStatement_makes (hg : g.Sound t) (isAsync : Bool) :
    Makes t [] (functionStatement g isAsync) := by
  rw [functionStatement]
  exact .bind (namedFunction_makes hg _) fun f => .pure (by simp)

theorem classStatement_makes (hg : g.Sound t) : Makes t [] (classStatement g) := by
  rw [classStatement]
  refine .within (.step fun _ => .bind (bindingName_makes _) fun name => ?_)
  exact .bind (classRest_makes hg (leftHandSide_makes hg)) fun r => .pure (by simp)

theorem labelledStatement_makes (hg : g.Sound t) (label : Ident) :
    Makes t (spots label) (labelledStatement g label) := by
  simp only [labelledStatement, pure_bind]
  apply Makes.step
  intro c
  refine .within (.step fun _ => .ite ?_ ?_)
  · apply Makes.step
    intro start
    apply Makes.bind (namedFunction_makes hg _)
    intro f
    repeat' first
      | apply Makes.step; intro _
      | apply Makes.ite
      | exact .pure (by simp)
  · exact .bind (hg.statement .single) fun body => .step fun _ => .pure (by simp)

theorem expressionEnd_makes (hg : g.Sound t) (e : Expr) :
    Makes t (spots e) (expressionEnd g e) := by
  rw [expressionEnd]
  apply Makes.step
  intro _
  refine .ite (.pure (.refl _)) (.step fun token => ?_)
  split
  · apply Makes.step
    intro _
    apply Makes.step
    intro _
    exact .bindOn (l := []) (operators_makes hg e 0) fun e => .pure (.refl _)
  · exact .fail _

theorem expressionStatement_makes (hg : g.Sound t) : Makes t [] (expressionStatement g) := by
  rw [expressionStatement]
  apply Makes.bind (fullExpression_makes hg)
  intro e
  split
  · next id =>
    exact .step fun _ => .ite (labelledStatement_makes hg id) (expressionEnd_makes hg _)
  · exact expressionEnd_makes hg e

instance (place : StatementPlace) : Moves t (checkDeclaration place) := by
  rw [checkDeclaration]
  infer_instance

theorem forall_mem_ite {α : Type} {P : α → Prop} {p : Prop} [Decidable p] {x : α} {o : Option α}
    (hx : p → P x) (ho : ∀ y ∈ o, P y) : ∀ y ∈ (if p then some x else o), P y := by
  split
  · next hp =>
    rintro _ ⟨⟩
    exact hx hp
  · exact ho

theorem keywordStatement?_makes (hg : g.Sound t) (place : StatementPlace) (word : Text) :
    ∀ p ∈ keywordStatement? g place word, MakesSeeing t (.word word) p := by
  have hite {p : Parser Stmt} {o : Option (Parser Stmt)} {q : Prop} [Decidable q]
      (hp : Makes t [] p) (ho : ∀ y ∈ o, MakesSeeing t (.word word) y) :
      ∀ y ∈ (if q then some p else o), MakesSeeing t (.word word) y :=
    forall_mem_ite (fun _ => hp.seeing) ho
  rw [keywordStatement?]
  refine forall_mem_ite (fun h => ?_) <| forall_mem_ite (fun h => ?_) ?_
  · rw [of_decide_eq_true h]
    exact breakStatement_makes
  · rw [of_decide_eq_true h]
    exact continueStatement_makes
  · refine hite debuggerStatement_makes <| hite (doStatement_makes hg) ?_
    refine hite (forStatement_makes hg) ?_
    refine hite (.step fun _ => functionStatement_makes hg _) ?_
    refine hite (.step fun _ => classStatement_makes hg) ?_
    refine hite (ifStatement_makes hg) <| hite (returnStatement_makes hg) ?_
    refine hite (switchStatement_makes hg) <| hite (throwStatement_makes hg) ?_
    refine hite (strayClause_makes hg) <| hite (tryStatement_makes hg) ?_
    exact hite (withStatement_makes hg) <| hite (whileStatement_makes hg) nofun

instance (place : StatementPlace) : Moves t (variablesHere? place) := by
  rw [variablesHere?]
  apply Moves.bind
  intro kind
  split <;> infer_instance

theorem otherStatement_makes (hg : g.Sound t) (place : StatementPlace) :
    Makes t [] (otherStatement g place) := by
  rw [otherStatement]
  apply Makes.step
  intro kind
  split
  · exact .bind (varDeclaration_makes hg _ _) fun declared => .pure (by simp)
  · refine .step fun _ => .ite (.bind (block_makes hg _) fun body => .pure (by simp))
      (.step fun _ => ?_)
    refine .ite (.pure (.nil _)) (.step fun _ => .ite ?_ (expressionStatement_makes hg))
    exact .step fun _ => functionStatement_makes hg _

theorem resources?_makes (hg : g.Sound t) (place : StatementPlace) :
    Makes t [] (resources? g place) := by
  rw [resources?]
  refine .ite (.pure (.nil _)) (.step fun _ => .ite (awaitStatement?_makes hg _)
    (.step fun _ => ?_))
  exact .ite (.step fun start => using?_makes hg _) (.pure (.nil _))

theorem isWord_goes {w : String} {token : Token} (h : Sees s token) (ht : token ≠ .word w.toList) :
    Goes t s (isWord w) fun s' b => s' = s ∧ b = false := by
  obtain ⟨x, hx, rfl⟩ := h
  rw [isWord, isNext]
  apply (sees_goes _).imp
  rintro s' b - ⟨h, hb⟩
  obtain rfl := h.eq_of_ahead (by rw [hx]; exact nofun)
  refine ⟨rfl, ?_⟩
  rw [← Bool.not_eq_true, hb]
  rintro ⟨l, hl, he⟩
  obtain rfl := Option.some.inj (hx.symm.trans hl)
  exact ht (of_decide_eq_true he)

theorem resources?_goes {place : StatementPlace} {word : Text} (h : Sees s (.word word))
    (hawait : word ≠ "await".toList) (husing : word ≠ "using".toList) :
    Goes t s (resources? g place) fun s' _ => s' = s := by
  have hword {w : String} (hw : word ≠ w.toList) : Token.word word ≠ .word w.toList :=
    fun he => hw (Token.word.inj he)
  rw [resources?]
  apply Goes.ite
  · exact .pure fun _ => rfl
  · apply Goes.bind (isWord_goes h (hword hawait))
    rintro _ _ - ⟨rfl, rfl⟩
    apply Goes.bind (isWord_goes h (hword husing))
    rintro _ _ - ⟨rfl, rfl⟩
    exact .pure fun _ => rfl

/-- A statement with a rule of its own keyword, or another one. The keyword is still ahead. -/
theorem wordStatement_makes (hg : g.Sound t) (place : StatementPlace) (word : Text) :
    MakesSeeing t (.word word) (do
      match ← resources? g place with
      | some s => return s
      | none =>
        match keywordStatement? g place word with
        | some p => p
        | none => otherStatement g place) := by
  intro s k h hs
  have hresources : Goes t s (resources? g place) fun s' s? => Covers t s' (k ++ spots s?) :=
    resources?_makes hg place s k (by rwa [List.append_nil])
  cases hp : keywordStatement? g place word with
  | none =>
    refine .bind hresources fun s₁ s? _ hs₁ => ?_
    cases s? with
    | some stmt => exact .pure fun _ => hs₁.among (by simp)
    | none => exact otherStatement_makes hg place s₁ k hs₁
  | some p =>
    have hawait : word ≠ "await".toList := by
      rintro rfl
      contradiction
    have husing : word ≠ "using".toList := by
      rintro rfl
      contradiction
    refine .bind (hresources.and (resources?_goes h hawait husing)) ?_
    rintro _ s? - ⟨hs₁, rfl⟩
    cases s? with
    | some stmt => exact .pure fun _ => hs₁.among (by simp)
    | none =>
      rw [spots_none, List.append_nil] at hs₁
      exact keywordStatement?_makes hg place word p hp _ k h hs₁

theorem statement_makes (hg : g.Sound t) (place : StatementPlace) :
    Makes t [] (statement g place) := by
  rw [statement]
  apply Makes.step
  intro _
  apply Makes.step
  intro _
  refine .ite (moduleStatement_makes hg) fun s k hs => ?_
  refine .bind current_goes fun s₁ token hs₁ h => ?_
  replace hs := hs.later hs₁
  split
  · exact wordStatement_makes hg place _ s₁ k h.2 (by rwa [List.append_nil] at hs)
  · exact otherStatement_makes hg place s₁ k hs

end ScriptVeil.Script.Parser
