import ScriptVeil.Proofs.Script.Parser.DeclaredName

namespace ScriptVeil.Script

class HasFindings (α : Type) where
  findings : α → List Finding

export HasFindings (findings)

instance (priority := low) (α : Type) : HasFindings α := ⟨fun _ => []⟩
instance : HasFindings Stmt := ⟨Stmt.findings⟩
instance : HasFindings TopLevel := ⟨fun s => s.stmt.findings⟩
instance {α : Type} [HasFindings α] : HasFindings (Option α) := ⟨fun o => o.toList.flatMap findings⟩
instance {α : Type} [HasFindings α] : HasFindings (List α) := ⟨fun l => l.flatMap findings⟩
instance {α β : Type} [HasFindings α] [HasFindings β] : HasFindings (α × β) :=
  ⟨fun p => findings p.1 ++ findings p.2⟩

@[simp]
theorem findings_stmt (s : Stmt) : findings s = s.findings := rfl

@[simp]
theorem findings_topLevel (s : TopLevel) : findings s = s.stmt.findings := rfl

@[simp]
theorem findings_bool (b : Bool) : findings b = [] := rfl

@[simp]
theorem findings_expr (e : Expr) : findings e = [] := rfl

@[simp]
theorem findings_exprs (es : List Expr) : findings es = [] :=
  List.flatMap_eq_nil_iff.2 fun _ _ => rfl

section

variable {α β : Type} [HasFindings α] [HasFindings β]

@[simp]
theorem findings_none : findings (none : Option α) = [] := rfl

@[simp]
theorem findings_some (a : α) : findings (some a) = findings a :=
  List.append_nil _

@[simp]
theorem findings_nil : findings ([] : List α) = [] := rfl

@[simp]
theorem findings_cons (a : α) (as : List α) : findings (a :: as) = findings a ++ findings as := rfl

@[simp]
theorem findings_prod (p : α × β) : findings p = findings p.1 ++ findings p.2 := rfl

end

@[simp]
theorem findingsOfStmts_eq_findings (ss : List Stmt) : findingsOfStmts ss = findings ss := by
  induction ss with
  | nil => rfl
  | cons s ss ih => rw [findingsOfStmts, ih, findings_cons, findings_stmt]

@[simp]
theorem findings_map_stmt (body : List TopLevel) :
    findings (body.map TopLevel.stmt) = findings body := by
  induction body with
  | nil => rfl
  | cons s body ih => rw [List.map_cons, findings_cons, ih, findings_cons, findings_stmt,
      findings_topLevel]

attribute [simp] Stmt.findings

namespace Parser

variable {t : Text} {l m : List Finding}

/-- With some findings in their places already, a parser that succeeds gives a value whose findings
are in theirs. -/
def Finds {α : Type} [HasFindings α] (t : Text) (l : List Finding) (x : Parser α) : Prop :=
  ∀ s, (∀ f ∈ l, f.In t s.notes) → Goes t s x fun s' a => ∀ f ∈ findings a, f.In t s'.notes

end Parser

theorem Finding.In.mono {t : Text} {notes notes' : List Diagnostic} {f : Finding}
    (h : f.In t notes) (hn : notes ⊆ notes') : f.In t notes' := by
  cases f with
  | declared category id => exact Ident.Declared.mono h hn
  | quoted lit => trivial

namespace Parser.Finds

variable {α β : Type} [HasFindings α] [HasFindings β] {t : Text} {l m : List Finding}
  {x : Parser α} {f : α → Parser β}

theorem pure {a : α} (h : findings a ⊆ l) : Finds t l (Pure.pure a) :=
  fun _ hl => .pure fun _ f hf => hl f (h hf)

theorem step {γ : Type} {y : Parser γ} [Moves t y] {f : γ → Parser β} (hf : ∀ a, Finds t l (f a)) :
    Finds t l (y >>= f) :=
  fun s hl => (Moves.goes s).bind fun s' a hs _ => hf a s' fun f hf => (hl f hf).mono hs.1

theorem bind (hx : Finds t [] x) (hf : ∀ a, Finds t (l ++ findings a) (f a)) :
    Finds t l (x >>= f) := by
  intro s hl
  refine (hx s nofun).bind fun s' a hs ha => hf a s' fun f hf => ?_
  rcases List.mem_append.1 hf with hf | hf
  · exact (hl f hf).mono hs.1
  · exact ha f hf

theorem ite {p : Prop} [Decidable p] {y : Parser α} (hx : Finds t l x) (hy : Finds t l y) :
    Finds t l (if p then x else y) := by
  split <;> assumption

theorem within {change : Context → Context} (hx : Finds t l x) : Finds t l (within change x) :=
  fun s hl => (hx s hl).within change

theorem allowingIn (hx : Finds t l x) : Finds t l (allowingIn x) :=
  hx.within

theorem fail (cause : Cause) : Finds t l (fail cause : Parser α) :=
  fun _ _ => fail_goes cause

theorem repeatedWith {σ : Type} [HasFindings σ] {a : σ} {step : σ → Parser (Option (α × σ))}
    (hstep : ∀ a, Finds t [] (step a)) (ha : findings a = []) :
    Finds t [] (repeatedWith a step) := by
  intro s _
  refine (Goes.repeatedWith
    (I := fun s found a => ∀ f ∈ findings found ++ findings a, f.In t s.notes)
    (fun s found a h => ?_) fun s' _ => ?_).imp fun s' r _ h f hf => ?_
  · refine (hstep a s nofun).imp fun s' o hs' ho => ?_
    have h := fun f hf => (h f hf).mono hs'.1
    cases o with
    | none => exact h
    | some p =>
      intro f hf
      simp only [findings_cons, List.append_assoc, List.mem_append] at hf h
      rw [findings_some, findings_prod] at ho
      rcases hf with hf | hf | hf
      · exact ho f (List.mem_append_left _ hf)
      · exact h f (.inl hf)
      · exact ho f (List.mem_append_right _ hf)
  · rw [ha]
    exact nofun
  · apply h f
    rw [findings_prod] at hf
    refine (List.mem_append.1 hf).elim (fun hf => List.mem_append_left _ ?_)
      (List.mem_append_right _)
    obtain ⟨b, hb, hf⟩ := List.mem_flatMap.1 hf
    exact List.mem_flatMap.2 ⟨b, List.mem_reverse.2 hb, hf⟩

theorem repeated {step : Parser (Option α)} (hstep : Finds t [] step) :
    Finds t [] (repeated step) := by
  rw [Parser.repeated]
  refine .bind (.repeatedWith (fun _ => ?_) rfl) fun r => .pure (by simp)
  refine .bind hstep fun o => .pure ?_
  cases o <;> simp [findings]

end Parser.Finds

end ScriptVeil.Script
