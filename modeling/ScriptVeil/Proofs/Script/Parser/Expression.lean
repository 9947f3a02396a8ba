import ScriptVeil.Proofs.Script.Parser.Primary
import ScriptVeil.Script.Parser.Expression

namespace ScriptVeil.Script.Parser

variable {t : Text} {g : Grammar}

theorem awaitRest_makes (hg : g.Sound t) (id : Ident) : Makes t (spots id) (awaitRest g id) := by
  simp only [awaitRest]
  repeat' first
    | apply Makes.step; intro _
    | apply Makes.bind hg.unary; intro e
    | apply Makes.ite
    | exact .pure (.refl _)
    | exact .pure (.of_sublist (List.sublist_append_right _ _))

theorem awaitExpr_makes (hg : g.Sound t) : Makes t [] (awaitExpr g) := by
  rw [awaitExpr]
  exact .bind anyWord_makes fun id => awaitRest_makes hg id

theorem operand_makes (hg : g.Sound t) : Makes t [] (operand g) := by
  rw [operand]
  apply Makes.step
  intro start
  apply Makes.tryCatch hg.unary
  intro fault
  exact .step fun _ => .pure (.nil _)

theorem unary_makes (hg : g.Sound t) : Makes t [] (unary g) := by
  rw [unary]
  refine .step fun start => .step fun _ => .ite ?_ (.step fun _ =>
    .ite ?_ (.step fun _ => .ite ?_ ?_))
  · exact .step fun _ => .bind hg.unary fun e => .step fun _ => .pure (by simp)
  · exact .step fun _ => .bind (operand_makes hg) fun e => .pure (by simp)
  · exact awaitExpr_makes hg
  · refine .bind (leftHandSide_makes hg) fun e => .step fun _ => .step fun _ =>
      .ite (.pure (.refl _)) ?_
    exact .step fun _ => .ite (.step fun _ => .step fun _ => .pure (by simp)) (.pure (.refl _))

instance (e : Expr) : Moves t (noteMixed e) := by
  unfold noteMixed
  split <;> infer_instance

theorem nextOperator_makes (hg : g.Sound t) (level : Nat) (left : Expr) :
    Makes t (spots left) (nextOperator g level left) := by
  have hend (op : BinaryOp) : Makes t (spots left) do
      let first ← unary g
      let right ← g.operators first (if op = .power then op.precedence - 1 else op.precedence)
      if op = .coalesce then
        if isLogical left then note left.start .mixedCoalescing
        if isLogical right then note right.start .mixedCoalescing
      return some (Expr.binary op left right) := by
    apply Makes.bind (unary_makes hg)
    intro first
    apply Makes.bindOn (hg.operators first _)
    intro right
    have hr : Makes t (spots left ++ spots right) (pure (some (Expr.binary op left right))) :=
      .pure (by simp)
    refine .ite (.ite (.step fun _ => .ite (.step fun _ => hr) hr) (.ite (.step fun _ => hr) hr)) hr
  simp only [nextOperator]
  apply Makes.step
  intro token
  apply Makes.step
  intro c
  split
  · exact .pure (.nil _)
  · refine .ite (.pure (.nil _)) (.step fun _ => ?_)
    split
    · exact .ite (.step fun _ => hend _) (hend _)
    · exact .ite (.step fun _ => hend _) (hend _)
    · exact hend _

theorem operators_makes (hg : g.Sound t) (left : Expr) (level : Nat) :
    Makes t (spots left) (operators g left level) := by
  apply Makes.iterated
  intro left
  apply Makes.bindOn (l := []) (nextOperator_makes hg level left)
  intro e?
  cases e? with
  | some e => exact .step fun _ => .pure (by simp)
  | none => exact .step fun _ => .pure (.nil _)

theorem binary_makes (hg : g.Sound t) : Makes t [] (binary g) := by
  rw [binary]
  refine .bind (.tryCatch (unary_makes hg) fun fault => ?_) fun first => ?_
  · apply Makes.step
    intro c
    apply Makes.step
    intro token
    split
    · exact .step fun _ => .step fun _ => .pure (.nil _)
    · exact .throw _
  · exact .step fun _ => .ite (.pure (.refl _)) (operators_makes hg _ _)

theorem conditional_makes (hg : g.Sound t) : Makes t [] (conditional g) := by
  rw [conditional]
  refine .bind (binary_makes hg) fun test => .step fun _ =>
    .ite (.pure (.refl _)) (.step fun _ => .ite ?_ ?_)
  · apply Makes.bind hg.assignment.allowingIn
    intro yes
    apply Makes.step
    intro _
    apply Makes.bind hg.assignment
    intro no
    exact .pure (by simp)
  · exact .pure (.refl _)

theorem yieldExpr_makes (hg : g.Sound t) : Makes t [] (yieldExpr g) := by
  simp only [yieldExpr]
  repeat' first
    | apply Makes.step; intro _
    | apply Makes.bind hg.assignment; intro e
    | apply Makes.ite
    | exact .pure (.nil _)
    | exact .pure (by simp)

theorem assignmentTarget_keeps (plain : Bool) (e : Expr) :
    Keeps t (spots e) (assignmentTarget plain e) := by
  have hend (target : Expr) (h : Among (spots target) (spots e)) :
      Keeps t (spots e)
        (if target.canBeAssigned then return target else failAt e.start .badTarget) :=
    .ite (.pure h) (.failAt _ _)
  simp only [assignmentTarget, pure_bind]
  refine .ite (.bind (asAssignmentTarget_keeps e) hend) (.step fun c => ?_)
  exact .ite (.step fun _ => hend _ (.refl _)) (hend _ (.refl _))

theorem assignment_makes (hg : g.Sound t) : Makes t [] (assignment g) := by
  rw [assignment]
  refine .step fun c => .step fun _ => .ite (yieldExpr_makes hg)
    (.step fun start => .step fun token => ?_)
  refine .within (.bind (conditional_makes hg) fun e => .step fun _ => .ite (.pure (.refl _)) ?_)
  apply Makes.step
  intro token
  split
  · apply Makes.bindOn (l := []) (assignmentTarget_keeps _ e).makes
    intro target
    apply Makes.step
    intro _
    exact .bind hg.assignment fun value => .pure (by simp)
  · exact .pure (.refl _)

theorem expression_makes (hg : g.Sound t) : Makes t [] (expression g) := by
  simp only [expression]
  apply Makes.bind hg.assignment
  intro first
  apply Makes.step
  intro _
  refine .ite ?_ (.pure (.refl _))
  refine .bind (.repeated ?_) fun rest => .pure (by simp)
  exact .step fun _ => .ite (.bind hg.assignment fun e => .pure (by simp)) (.pure (.nil _))

end ScriptVeil.Script.Parser
