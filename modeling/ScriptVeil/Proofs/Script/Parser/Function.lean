import ScriptVeil.Proofs.Script.Parser.Binding

namespace ScriptVeil.Script.Parser

variable {t : Text} {g : Grammar} {s : State}

@[simp]
theorem spots_listProgress (p : ListProgress) : spots p = [] := rfl

instance (start : Nat) (s : Stmt) : Moves t (statementSpan start s) := by
  unfold statementSpan
  split <;> infer_instance

theorem listedStatement_makes (hg : g.Sound t) (place : StatementPlace) (braced : Bool)
    (p : ListProgress) : Makes t [] (listedStatement g place braced p) := by
  refine .within (.step fun _ => .ite ?_ ?_)
  · exact .step fun _ => .step fun _ => .pure (.nil _)
  · apply Makes.step
    intro token
    split
    · exact .pure (.nil _)
    · refine .ite (.pure (.nil _)) (.step fun start => ?_)
      exact .bind (hg.statement place) fun stmt => .step fun span => .pure (by simp)

theorem statements_makes (hg : g.Sound t) (place : StatementPlace) (braced directives : Bool) :
    Makes t [] (statements g place braced directives) := by
  rw [statements]
  apply Makes.bind (.repeatedWith (listedStatement_makes hg place braced) rfl)
  intro found
  exact .ite (.step fun _ => .pure (by simp)) (.pure (by simp))

/-- A list of statements without braces goes on until no token is left. -/
theorem listedStatement_ends (hg : g.Sound t) (place : StatementPlace) (p : ListProgress) :
    Goes t s (listedStatement g place false p) fun s' o =>
      o = none → s'.upcoming = [] ∧ s'.cursor.rest = [] := by
  have := (hg.statement place).moves
  refine .within _ ((Moves.goes s).bind fun s₁ _ _ _ => ?_)
  refine .bind token?_goes ?_
  rintro s₂ _ - ⟨o, rfl, h⟩
  cases o with
  | none => exact .pure fun _ _ => h.at_end rfl
  | some l =>
    refine (Moves.goes s₂).bind fun s₃ start _ _ => (Moves.goes s₃).bind fun s₄ stmt _ _ => ?_
    exact (Moves.goes s₄).bind fun s₅ span _ _ => .pure fun _ => nofun

theorem statements_ends (hg : g.Sound t) (place : StatementPlace) (directives : Bool) :
    Goes t s (statements g place false directives) fun s' _ =>
      s'.upcoming = [] ∧ s'.cursor.rest = [] := by
  rw [statements]
  refine .bind (Goes.repeatedWith_ending (I := fun _ _ _ => True)
    (F := fun s' _ _ => s'.upcoming = [] ∧ s'.cursor.rest = [])
    (fun s₁ _ p _ => (listedStatement_ends hg place p).imp fun s₂ o _ h => ?_) trivial)
    fun s₁ r _ h => .pure fun _ => h
  cases o with
  | none => exact h rfl
  | some _ => trivial

theorem block_makes (hg : g.Sound t) (directives : Bool) : Makes t [] (block g directives) := by
  rw [block]
  exact .step fun _ => .bind (statements_makes hg _ _ _) fun body => .pure (by simp)

instance (params : List Expr) (body : List TopLevel) : Moves t (checkDirectives params body) := by
  rw [checkDirectives]
  split
  · dsimp only
    split <;> infer_instance
  · infer_instance

theorem functionBody_makes (hg : g.Sound t) (isAsync isGenerator : Bool) (params : List Expr) :
    Makes t [] (functionBody g isAsync isGenerator params) := by
  refine .within (.step fun _ => ?_)
  exact .bind (statements_makes hg _ _ _).allowingIn fun body => .step fun _ => .pure (by simp)

theorem parameter_makes (hg : g.Sound t) (restDefaults : Bool) (restStart : Option Nat) :
    Makes t [] (parameter g restDefaults restStart) := by
  simp only [parameter, pure_bind]
  repeat' first
    | apply Makes.bind (hg.binding false); intro target
    | apply Makes.bind hg.assignment; intro value
    | apply Makes.step; intro _
    | apply Makes.ite
    | exact .pure (.nil _)
    | exact .pure (by simp [apply_ite spots])
    | split

theorem parameters_makes (hg : g.Sound t) (restDefaults : Bool) :
    Makes t [] (parameters g restDefaults) := by
  rw [parameters]
  exact .bind (.repeatedWith (parameter_makes hg restDefaults) rfl) fun params => .pure (by simp)

theorem functionRest_makes (hg : g.Sound t) (isAsync isGenerator : Bool)
    {check : List Expr → Parser Unit} (hc : ∀ params, Moves t (check params)) :
    Makes t [] (functionRest g isAsync isGenerator check) := by
  refine .within (.step fun _ => .bind (.within ?_) fun params => .step fun _ => ?_)
  · exact .bind (parameters_makes hg true) fun params => .step fun _ => .pure (by simp)
  · exact .bind (functionBody_makes hg _ _ _) fun body => .pure (by simp)

instance (params : List Expr) : Moves t (anyParameters params) := by
  rw [anyParameters]
  infer_instance

instance (offset : Nat) (params : List Expr) : Moves t (getterParameters offset params) := by
  rw [getterParameters]
  infer_instance

instance (offset : Nat) (params : List Expr) : Moves t (setterParameters offset params) := by
  unfold setterParameters
  dsimp only
  split
  · apply Moves.bind
    intro _
    split <;> infer_instance
  · split <;> infer_instance

theorem namedFunction_makes (hg : g.Sound t) (isAsync : Bool) :
    Makes t [] (namedFunction g isAsync) := by
  rw [namedFunction]
  refine .step fun _ => .step fun isGenerator => .within
    (.bind (bindingName_makes _) fun name => ?_)
  exact .bind (functionRest_makes hg _ _ inferInstance) fun r => .pure (by simp)

theorem functionExpr_makes (hg : g.Sound t) (start : Nat) (isAsync : Bool) :
    Makes t [] (functionExpr g start isAsync) := by
  rw [functionExpr]
  apply Makes.step
  intro _
  apply Makes.step
  intro isGenerator
  refine .within ?_
  refine .bind (bindingName?_makes _).within fun name => ?_
  exact .bind (functionRest_makes hg _ _ inferInstance) fun r => .pure (by simp)

theorem arrowBody_makes (hg : g.Sound t) (isAsync : Bool) (params : List Expr) :
    Makes t [] (arrowBody g isAsync params) := by
  refine .within (.step fun _ => .ite ?_ ?_)
  · exact .bind (statements_makes hg _ _ _) fun body => .step fun _ => .pure (by simp)
  · exact .bind hg.assignment fun e => .pure (by simp)

end ScriptVeil.Script.Parser
