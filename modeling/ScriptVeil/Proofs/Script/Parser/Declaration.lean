import ScriptVeil.Proofs.Script.Parser.Finds

namespace ScriptVeil.Script

def Finding.isQuoted : Finding → Bool
  | .quoted _ => true
  | .declared _ _ => false

theorem Finding.In.of_isQuoted {t : Text} {notes : List Diagnostic} {f : Finding}
    (h : f.isQuoted = true) : f.In t notes := by
  cases f with
  | declared category id => contradiction
  | quoted lit => trivial

namespace Parser

variable {α : Type} [HasFindings α] {t : Text} {s : State} {g : Grammar}

theorem Finds.of_gives {l : List Finding} {x : Parser α} (hx : Moves t x)
    (h : Gives x fun a => ∀ f ∈ findings a, f.isQuoted = true) : Finds t l x := by
  intro s _
  exact ((hx.goes s).gives h).imp fun s' a _ ha f hf => .of_isQuoted (ha f hf)

theorem isQuoted_findings_expr (e : Expr) : ∀ f ∈ findings (Stmt.expr e), f.isQuoted = true := by
  intro f hf
  cases f with
  | quoted lit => rfl
  | declared category id =>
    cases e with
    | call callee args => exact absurd hf declared_notMem_quotedArguments
    | _ => exact absurd hf List.not_mem_nil

theorem pure_expr_finds {l : List Finding} (e : Expr) : Finds t l (pure (Stmt.expr e)) :=
  .of_gives inferInstance (.pure (isQuoted_findings_expr e))

end Parser

/-- The rules of a grammar move forward, bind names where they stand and find no others. -/
class Grammar.Finds (t : Text) (g : Grammar) : Prop where
  sound : g.Sound t
  binds : g.BindsNames t
  statement : ∀ place, Parser.Finds t [] (g.statement place)

namespace Parser

section

variable {t : Text} {s : State} {g : Grammar}

instance [hg : g.Finds t] : Moves t g.expression := hg.sound.expression.moves
instance [hg : g.Finds t] (denyLet : Bool) : Moves t (g.binding denyLet) :=
  (hg.sound.binding denyLet).moves
instance [hg : g.Finds t] : Moves t (fullExpression g) := (fullExpression_makes hg.sound).moves
instance [hg : g.Finds t] : Moves t (condition g) := (condition_makes hg.sound).moves
instance [hg : g.Finds t] : Moves t (loopHead g) := (loopHead_makes hg.sound).moves

instance : Moves t jumpLabel := by
  have : Moves t reference := reference_makes.moves
  rw [jumpLabel]
  infer_instance

theorem breakStatement_finds : Finds t [] breakStatement := by
  simp only [breakStatement]
  repeat' first
    | apply Finds.step; intro _
    | apply Finds.ite
    | exact .pure (by simp)

theorem continueStatement_finds : Finds t [] continueStatement := by
  simp only [continueStatement]
  repeat' first
    | apply Finds.step; intro _
    | apply Finds.ite
    | exact .pure (by simp)

theorem debuggerStatement_finds : Finds t [] debuggerStatement := by
  rw [debuggerStatement]
  exact .step fun _ => .step fun _ => .pure (by simp)

theorem isWord_sees (w : String) :
    Goes t s (isWord w) fun s' b => b = true → Sees s' (.word w.toList) := by
  rw [isWord, isNext]
  refine (sees_goes _).imp fun s' b _ h hb => ?_
  obtain ⟨x, hx, ht⟩ := h.2.1 hb
  exact ⟨x, hx, of_decide_eq_true ht⟩

theorem seesPair_sees (w : String) (q : Lexeme → Bool) :
    Goes t s (seesPair (· = .word w.toList) q) fun s' b => b = true → Sees s' (.word w.toList) := by
  rw [seesPair]
  refine .bind (sees_goes _) fun s₁ b _ h => ?_
  cases b with
  | false => exact .pure fun _ => Bool.noConfusion
  | true =>
    obtain ⟨x, hx, ht⟩ := h.2.1 rfl
    have ht := of_decide_eq_true ht
    refine .bind (secondAhead_goes hx (by rw [ht]; rfl) (by rw [ht]; rfl)) fun s₂ _ _ h₂ => ?_
    exact .pure fun _ _ => ⟨x, h₂.1.trans hx, ht⟩

theorem variableKind?_sees :
    Goes t s variableKind? fun s' kind => kind ≠ none → ∃ word, Sees s' (.word word) := by
  rw [variableKind?]
  refine .bind (isWord_sees _) fun s₁ b _ h => ?_
  cases b with
  | true => exact .pure fun _ _ => ⟨_, h rfl⟩
  | false =>
    refine .bind (isWord_sees _) fun s₂ b _ h => ?_
    cases b with
    | true => exact .pure fun _ _ => ⟨_, h rfl⟩
    | false =>
      refine .bind (seesPair_sees _ _) fun s₃ b _ h => ?_
      cases b with
      | true => exact .pure fun _ _ => ⟨_, h rfl⟩
      | false => exact .pure fun _ hne => absurd rfl hne

theorem variablesHere?_sees (place : StatementPlace) :
    Goes t s (variablesHere? place) fun s' kind => kind ≠ none → ∃ word, Sees s' (.word word) := by
  rw [variablesHere?]
  refine .bind variableKind?_sees fun s₁ kind _ h => ?_
  split
  · exact .pure fun _ _ => h (Option.some_ne_none _)
  · exact .pure fun _ _ => h (Option.some_ne_none _)
  · exact .pure fun _ hne => absurd rfl hne

end

variable {t : Text} {s : State} {g : Grammar} [hg : g.Finds t]

@[simp]
theorem findings_listProgress (p : ListProgress) : findings p = [] := rfl

theorem listedStatement_finds (place : StatementPlace) (braced : Bool) (p : ListProgress) :
    Finds t [] (listedStatement g place braced p) := by
  refine .within (.step fun _ => .ite ?_ ?_)
  · exact .step fun _ => .step fun _ => .pure (by simp)
  · apply Finds.step
    intro token
    split
    · exact .pure (by simp)
    · refine .ite (.pure (by simp)) (.step fun start => ?_)
      exact .bind (hg.statement place) fun stmt => .step fun span => .pure (by simp)

theorem statements_finds (place : StatementPlace) (braced directives : Bool) :
    Finds t [] (statements g place braced directives) := by
  rw [statements]
  apply Finds.bind (.repeatedWith (listedStatement_finds place braced) rfl)
  intro found
  exact .ite (.step fun _ => .pure (by simp)) (.pure (by simp))

theorem block_finds (directives : Bool) : Finds t [] (block g directives) := by
  rw [block]
  exact .step fun _ => .bind (statements_finds _ _ _) fun body => .pure (by simp)

theorem functionBody_finds (isAsync isGenerator : Bool) (params : List Expr) :
    Finds t [] (functionBody g isAsync isGenerator params) := by
  refine .within (.step fun _ => .bind (statements_finds _ _ _).allowingIn fun body => ?_)
  exact .step fun _ => .pure (by simp)

/-- The parenthesis behind a function's name ends its word. -/
theorem functionRest_finds (isAsync isGenerator : Bool) :
    Goes t s (functionRest g isAsync isGenerator anyParameters) fun s' r =>
      EndsWord t s.last.stop ∧ ∀ f ∈ findings r.2, f.In t s'.notes := by
  have := (parameters_makes hg.sound true).moves
  rw [functionRest]
  refine .within _ (.bind (expect_goes _) fun s₁ _ _ htook => ?_)
  have hbody : Finds t [] (do
      let params ← within (fun c => { c with inParameters := true, inFunction := false }) do
        let params ← parameters g true
        anyParameters params
        return params
      expectMark .parenClose
      let body ← functionBody g isAsync isGenerator params
      return (params, body)) := by
    refine .step fun params => .step fun _ => .bind (functionBody_finds _ _ _) fun body => ?_
    exact .pure (by simp)
  refine (hbody s₁ nofun).imp fun s' r _ h => ⟨htook.endsWord rfl rfl, fun f hf => h f ?_⟩
  exact List.mem_append_right _ hf

theorem namedFunction_finds {α : Type} [HasFindings α] {isAsync : Bool}
    {f : Ident × Bool × List Expr × List Stmt → Parser α}
    (hf : ∀ name isGenerator params body,
      Finds t (.declared .function name :: findings body) (f (name, isGenerator, params, body))) :
    Finds t [] (namedFunction g isAsync >>= f) := by
  intro s _
  refine .bind (Q := fun s' r => r.1.Declared t s'.notes ∧ ∀ f ∈ findings r.2.2.2, f.In t s'.notes)
    ?_ fun s' ⟨name, isGenerator, params, body⟩ _ ⟨hname, hbody⟩ => ?_
  · unfold namedFunction
    refine .bind (expect_goes _) fun s₁ _ hs₁ htook => ?_
    have hopens := htook.opensName rfl
    refine .bind (eat_goes _) fun s₂ isGenerator hs₂ ⟨hstar, hlooked⟩ => ?_
    have hopens : s₂.OpensName t := by
      cases isGenerator with
      | true => exact (hstar rfl).opensName rfl
      | false => exact hopens.later hs₂ (hlooked rfl).last_eq
    refine .within _ (.bind (bindingName_names hopens false) fun s₃ name _ hname => ?_)
    refine .bind (functionRest_finds _ _) fun s₄ r hs₄ ⟨hend, hbody⟩ => .pure fun _ => ?_
    exact ⟨hname.declared hs₄.1 fun _ => hend, hbody⟩
  · exact hf name isGenerator params body s' (List.forall_mem_cons.2 ⟨hname, hbody⟩)

theorem functionStatement_finds (isAsync : Bool) : Finds t [] (functionStatement g isAsync) := by
  rw [functionStatement]
  exact namedFunction_finds fun name isGenerator params body => .pure (by simp)

theorem labelledStatement_finds (label : Ident) : Finds t [] (labelledStatement g label) := by
  simp only [labelledStatement, pure_bind]
  apply Finds.step
  intro c
  refine .within (.step fun _ => .ite ?_ ?_)
  · apply Finds.step
    intro start
    refine namedFunction_finds fun name isGenerator params body => ?_
    repeat' first
      | apply Finds.step; intro _
      | apply Finds.ite
      | exact .pure (by simp)
  · exact .bind (hg.statement .single) fun body => .step fun _ => .pure (by simp)

theorem loopBody_finds : Finds t [] (loopBody g) :=
  (hg.statement .single).within

theorem moduleStatement_finds : Finds t [] (moduleStatement g) := by
  rw [moduleStatement]
  exact .step fun _ => .ite (.step fun e => .step fun _ => pure_expr_finds e) (.fail _)

theorem doStatement_finds : Finds t [] (doStatement g) := by
  rw [doStatement]
  apply Finds.step
  intro _
  apply Finds.bind loopBody_finds
  intro body
  exact .step fun _ => .step fun test => .step fun _ => .pure (by simp)

theorem whileStatement_finds : Finds t [] (whileStatement g) := by
  rw [whileStatement]
  exact .step fun _ => .step fun test => .bind loopBody_finds fun body => .pure (by simp)

theorem ifStatement_finds : Finds t [] (ifStatement g) := by
  rw [ifStatement]
  refine .step fun _ => .step fun test => .bind (hg.statement .single) fun yes => .step fun _ => ?_
  exact .ite (.bind (hg.statement .single) fun no => .pure (by simp)) (.pure (by simp))

theorem returnStatement_finds : Finds t [] (returnStatement g) := by
  simp only [returnStatement]
  exact .step fun start => .step fun _ => .step fun value => .step fun _ => .pure (by simp)

theorem throwStatement_finds : Finds t [] (throwStatement g) := by
  rw [throwStatement]
  refine .step fun _ => .step fun _ => .ite ?_ ?_
  · exact .step fun _ => .step fun value => .step fun _ => .pure (by simp)
  · exact .step fun value => .step fun _ => .pure (by simp)

theorem switchClause_finds (hasDefault : Bool) : Finds t [] (switchClause g hasDefault) := by
  simp only [switchClause, pure_bind]
  have hbody : Finds t [] (repeated do
      let closes ← sees fun t =>
        t = .word "case".toList || t = .word "default".toList || t = .mark .braceClose
      if (← atEnd) || closes then return none
      return some (← g.statement .list)) := by
    refine .repeated (.step fun _ => .step fun _ => .ite (.pure (by simp)) ?_)
    exact .bind (hg.statement .list) fun s => .pure (by simp)
  repeat' first
    | apply Finds.step; intro _
    | apply Finds.bind hbody; intro body
    | apply Finds.ite
    | exact .pure (by simp)

theorem switchStatement_finds : Finds t [] (switchStatement g) := by
  rw [switchStatement]
  refine .step fun _ => .step fun subject => .step fun _ => ?_
  apply Finds.bind (Finds.repeatedWith switchClause_finds rfl).within
  intro clauses
  exact .step fun _ => .pure (by simp)

theorem catchClause_finds : Finds t [] (catchClause g) := by
  simp only [catchClause, pure_bind]
  repeat' first
    | apply Finds.bind (block_finds _); intro body
    | apply Finds.step; intro _
    | apply Finds.ite
    | exact .pure (by simp)

theorem finallyClause_finds : Finds t [] (finallyClause g) := by
  rw [finallyClause]
  exact .step fun _ => .ite (.bind (block_finds _) fun body => .pure (by simp)) (.pure (by simp))

theorem tryStatement_finds : Finds t [] (tryStatement g) := by
  simp only [tryStatement]
  apply Finds.step
  intro _
  apply Finds.bind (block_finds _)
  intro body
  apply Finds.step
  intro _
  refine .bind catchClause_finds fun handler => .bind finallyClause_finds fun finalizer => ?_
  have h : Finds t ([] ++ findings body ++ findings handler ++ findings finalizer)
      (pure (Stmt.tryCatch body (handler.bind Prod.fst) ((handler.map Prod.snd).getD [])
        (finalizer.getD []))) := by
    cases handler <;> cases finalizer <;> exact .pure (by simp)
  exact .ite (.step fun _ => h) h

theorem strayClause_finds : Finds t [] (strayClause g) := by
  have := (catchClause_makes hg.sound).moves
  have := (finallyClause_makes hg.sound).moves
  simp only [strayClause]
  refine .step fun start => .step fun _ => .step fun isCatch => .ite (.step fun _ => ?_) ?_
  · exact .step fun _ => .pure (List.nil_subset _)
  · exact .step fun _ => .pure (List.nil_subset _)

theorem withStatement_finds : Finds t [] (withStatement g) := by
  rw [withStatement]
  refine .step fun _ => .step fun object => ?_
  exact .bind (hg.statement .single).within fun body => .pure (by simp)

theorem forStatement_finds : Finds t [] (forStatement g) := by
  rw [forStatement]
  refine .step fun _ => .step fun awaitStart => .step fun isAwait => .step fun _ => ?_
  refine .step fun head => .step fun _ => .bind loopBody_finds fun body => ?_
  split
  · exact .pure (by simp)
  · exact .ite (.step fun _ => .pure (by simp)) (.pure (by simp))
  · exact .ite (.step fun _ => .pure (by simp)) (.pure (by simp))

theorem classStatement_finds : Finds t [] (classStatement g) := by
  have : Moves t (bindingName true) := (bindingName_makes true).moves
  have := (classRest_makes hg.sound (leftHandSide_makes hg.sound)).moves
  refine .within (.step fun _ => .step fun name => .step fun r => ?_)
  exact .pure (by simp)

theorem expressionEnd_gives (e : Expr) : Gives (expressionEnd g e) fun s => ∃ e, s = .expr e := by
  rw [expressionEnd]
  refine .bind fun _ => .ite (.pure ⟨e, rfl⟩) (.bind fun token => ?_)
  split
  · exact .bind fun _ => .bind fun _ => .bind fun e => .pure ⟨e, rfl⟩
  · exact .fail _

theorem expressionStatement_finds : Finds t [] (expressionStatement g) := by
  intro s _
  rw [expressionStatement]
  refine .bind (fullExpression_makes hg.sound s [] .nil) fun s₁ e _ he => ?_
  have hend {s₂ : State} (hs₂ : s₁.Leads t s₂) :
      Goes t s₂ (expressionEnd g e) fun s' a => ∀ f ∈ findings a, f.In t s'.notes := by
    refine ((expressionEnd_makes hg.sound e s₂ [] (he.later hs₂)).gives
      (expressionEnd_gives e)).imp ?_
    rintro s' _ - ⟨e, rfl⟩ f hf
    exact .of_isQuoted (isQuoted_findings_expr e f hf)
  split
  · next id =>
    refine (Moves.goes s₁).bind fun s₂ _ hs₂ _ => .ite ?_ (hend hs₂)
    exact labelledStatement_finds id s₂ nofun
  · exact hend (.refl _)

theorem using?_gives (start : Nat) :
    Gives (using? g start) fun o => ∀ f ∈ findings o, f.isQuoted = true := by
  unfold using?
  refine .bind fun _ => .ite (.pure nofun) (.bind fun _ => .bind fun s => .bind fun found => ?_)
  exact .bind fun _ => .bind fun _ => .bind fun _ => .pure nofun

theorem awaitStatement?_gives (place : StatementPlace) :
    Gives (awaitStatement? g place) fun o => ∀ f ∈ findings o, f.isQuoted = true := by
  have hexpr (e : Expr) : ∀ f ∈ findings (some (Stmt.expr e)), f.isQuoted = true := by
    rw [findings_some]
    exact isQuoted_findings_expr e
  unfold awaitStatement?
  refine .bind fun start => .ite (.bind fun _ => ?_) ?_
  all_goals
    refine .bind fun _ => .ite (.bind fun id => ?_) (.pure nofun)
    refine .bindOn (using?_gives start) fun declaration? h => ?_
    cases declaration? with
    | some declaration => exact .pure h
    | none => exact .bind fun first => .bind fun e => .bind fun _ => .pure (hexpr e)

theorem resources?_finds (place : StatementPlace) : Finds t [] (resources? g place) := by
  refine .of_gives (resources?_makes hg.sound place).moves ?_
  unfold resources?
  refine .ite (.pure nofun) (.bind fun _ => .ite (awaitStatement?_gives place) (.bind fun _ => ?_))
  exact .ite (.bind fun start => using?_gives start) (.pure nofun)

theorem otherStatement_finds (place : StatementPlace) : Finds t [] (otherStatement g place) := by
  intro s _
  unfold otherStatement
  refine .bind (variablesHere?_sees place) fun s₁ kind _ h => ?_
  cases kind with
  | some kind =>
    obtain ⟨word, hword⟩ := h (Option.some_ne_none kind)
    exact .bind (varDeclaration_names hg.sound hg.binds hword kind)
      fun s₂ ds _ hds => .pure fun _ => hds
  | none =>
    have hother : Finds t [] (do
        if ← isMark .braceOpen then return .block (← block g false)
        else if ← eatMark .semicolon then return .empty
        else if ← areWords "async" "function" then
          take
          functionStatement g true
        else expressionStatement g) := by
      refine .step fun _ => .ite (.bind (block_finds _) fun body => .pure (by simp)) ?_
      refine .step fun _ => .ite (.pure (by simp)) (.step fun _ => ?_)
      exact .ite (.step fun _ => functionStatement_finds _) expressionStatement_finds
    exact hother s₁ nofun

theorem keywordStatement?_finds (place : StatementPlace) (word : Text) :
    ∀ p ∈ keywordStatement? g place word, Finds t [] p := by
  have hite {p : Parser Stmt} {o : Option (Parser Stmt)} {q : Prop} [Decidable q]
      (hp : Finds t [] p) (ho : ∀ y ∈ o, Finds t [] y) :
      ∀ y ∈ (if q then some p else o), Finds t [] y :=
    forall_mem_ite (fun _ => hp) ho
  unfold keywordStatement?
  refine hite breakStatement_finds <| hite continueStatement_finds ?_
  refine hite debuggerStatement_finds <| hite doStatement_finds <| hite forStatement_finds ?_
  refine hite (.step fun _ => functionStatement_finds _) ?_
  refine hite (.step fun _ => classStatement_finds) ?_
  refine hite ifStatement_finds <| hite returnStatement_finds <| hite switchStatement_finds ?_
  refine hite throwStatement_finds <| hite strayClause_finds <| hite tryStatement_finds ?_
  exact hite withStatement_finds <| hite whileStatement_finds nofun

theorem statement_finds (place : StatementPlace) : Finds t [] (statement g place) := by
  rw [statement]
  refine .step fun _ => .step fun _ => .ite moduleStatement_finds (.step fun token => ?_)
  split
  · next word =>
    refine .bind (resources?_finds place) fun s? => ?_
    cases s? with
    | some stmt => exact .pure (by simp)
    | none =>
      cases hp : keywordStatement? g place word with
      | some p => exact keywordStatement?_finds place word p hp
      | none => exact otherStatement_finds place
  · exact otherStatement_finds place

end Parser

end ScriptVeil.Script
