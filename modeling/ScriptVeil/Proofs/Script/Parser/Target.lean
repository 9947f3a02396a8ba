import ScriptVeil.Proofs.Script.Parser.Makes
import ScriptVeil.Script.Parser.Target

namespace ScriptVeil.Script.Parser

variable {t : Text} {l m : List Spot}

/-- A parser that succeeds gives a value whose spots are found among some others, in their order. -/
def Keeps {α : Type} [HasSpots α] (t : Text) (l : List Spot) (x : Parser α) : Prop :=
  ∀ s, Goes t s x fun _ a => Among (spots a) l

namespace Keeps

variable {α β : Type} [HasSpots α] [HasSpots β] {x : Parser α} {f : α → Parser β}

theorem pure {a : α} (h : Among (spots a) l) : Keeps t l (Pure.pure a) :=
  fun _ => .pure fun _ => h

theorem step {γ : Type} {y : Parser γ} [Moves t y] {f : γ → Parser β} (hf : ∀ a, Keeps t l (f a)) :
    Keeps t l (y >>= f) :=
  fun s => (Moves.goes s).bind fun s' a _ _ => hf a s'

theorem bind (hx : Keeps t m x) (hf : ∀ a, Among (spots a) m → Keeps t l (f a)) :
    Keeps t l (x >>= f) :=
  fun s => (hx s).bind fun s' a _ ha => hf a ha s'

theorem weaken (h : Among m l) (hx : Keeps t m x) : Keeps t l x :=
  fun s => (hx s).imp fun _ _ _ ha => ha.trans h

theorem ite {p : Prop} [Decidable p] {y : Parser α} (hx : Keeps t l x) (hy : Keeps t l y) :
    Keeps t l (if p then x else y) := by
  split <;> assumption

theorem failAt (offset : Nat) (cause : Cause) : Keeps t l (failAt offset cause : Parser α) :=
  fun _ => failAt_goes offset cause

theorem makes (hx : Keeps t l x) : Makes t l x :=
  fun s k hl => (hx s).imp fun _ _ hs ha => (hl.later hs).among (.append (.refl k) ha)

end Keeps

instance (e : Expr) : Moves t (checkTarget e) := by
  rw [checkTarget]
  infer_instance

instance (e : Expr) : Moves t (checkPart e) := by
  unfold checkPart
  split <;> infer_instance

theorem notPattern_keeps (e : Expr) : Keeps t l (notPattern e) := by
  unfold notPattern
  exact .step fun c => .step fun _ => .pure (by simp)

theorem plainTarget_keeps (role : TargetRole) (e : Expr) :
    Keeps t e.spots (plainTarget role e) := by
  unfold plainTarget
  refine .ite (.step fun _ => .ite (.pure (.refl _)) (notPattern_keeps e)) ?_
  split
  · exact .pure (.refl _)
  · exact notPattern_keeps e

theorem defaultedTarget_keeps (role : TargetRole) (target : Expr) :
    Keeps t target.spots (defaultedTarget role target) := by
  unfold defaultedTarget
  split
  · exact .pure (.refl _)
  · exact .pure (.refl _)
  · exact .pure (.refl _)
  · exact plainTarget_keeps role _

theorem spreadMember_keeps {role : TargetRole} (comma : Option Nat) (isLast : Bool) (start : Nat)
    {value : Expr}
    (ih : Keeps t (spots value) (reinterpret role value)) :
    Keeps t (spots value) (reinterpretMember role comma isLast (.spread start value)) := by
  unfold reinterpretMember
  refine .ite (.step fun _ => ?_) ?_
  on_goal 2 => split
  on_goal 2 => refine .step fun _ => ?_
  all_goals
    refine .ite ?_ (.bind ih fun a ha => .ite (.step fun _ => .pure ha) (.pure ha))
    split
    · exact .pure (.refl _)
    · exact .step fun _ => .pure (.nil _)

theorem restItem_keeps {role : TargetRole} (comma : Option Nat) (start : Nat) {value : Expr}
    (ih : Keeps t (spots value) (reinterpret role value)) :
    Keeps t (spots value) (reinterpretItems role comma [.spread start value]) := by
  unfold reinterpretItems
  dsimp only
  split
  on_goal 1 => refine .step fun _ => ?_
  all_goals
    split
    on_goal 1 => refine .step fun _ => ?_
    all_goals exact .bind ih fun a ha => .pure (by simpa using ha)

theorem reinterpret_keeps_all :
    (∀ role e, Keeps t (spots e) (reinterpret role e))
      ∧ (∀ role comma es, Keeps t (spots es) (reinterpretItems role comma es))
      ∧ (∀ role comma ms, Keeps t (spots ms) (reinterpretMembers role comma ms))
      ∧ (∀ role comma isLast m, Keeps t (spots m) (reinterpretMember role comma isLast m)) := by
  apply reinterpret.mutual_induct
  case case1 =>
    intro role target value
    rw [reinterpret]
    exact .bind (defaultedTarget_keeps role target) fun a ha => .pure (ha.append (.refl _))
  case case2 | case3 =>
    intro role start items comma ih
    rw [reinterpret]
    refine .bind ih fun a ha => .pure ?_
    simpa using ha
  case case4 =>
    intro role start
    rw [reinterpret]
    exact .pure (.refl _)
  case case5 =>
    intro role e h₁ h₂ h₃ h₄
    rw [reinterpret]
    · exact plainTarget_keeps role e
    all_goals assumption
  case case6 =>
    intro role comma isLast id
    rw [reinterpretMember]
    exact .pure (by simp)
  case case7 =>
    intro role comma isLast id value
    rw [reinterpretMember]
    refine .pure ?_
    simp [Among.shorthand_cons]
  case case8 =>
    intro role comma isLast start key value ih
    rw [reinterpretMember]
    exact .bind ih fun a ha => .pure (Among.append (.refl key.spots) ha)
  case case12 =>
    intro role comma isLast start key params body
    rw [reinterpretMember]
    exact .failAt _ _
  case case13 =>
    intro role comma isLast m h₁ h₂ h₃ h₄ h₅
    rw [reinterpretMember]
    · exact .pure (.refl _)
    all_goals assumption
  case case14 =>
    intro role comma
    rw [reinterpretItems]
    exact .pure (.refl _)
  case case20 =>
    intro role comma
    rw [reinterpretMembers]
    exact .pure (.refl _)
  case case21 =>
    intro role comma m ms hm hms
    rw [reinterpretMembers]
    exact .bind hm fun a ha => .bind hms fun as has => .pure (ha.append has)
  case case9 =>
    intro role comma isLast start value _ ih
    exact spreadMember_keeps _ _ _ ih
  case case10 =>
    intro role isLast start value _ offset ih
    exact spreadMember_keeps _ _ _ ih
  case case11 =>
    intro role comma isLast start value _ _ ih
    exact spreadMember_keeps _ _ _ ih
  case case15 =>
    intro role comma start plain target value ih
    simpa using restItem_keeps comma start ih
  case case16 =>
    intro role comma start value _ ih
    simpa using restItem_keeps comma start ih
  case case17 =>
    intro role comma start value es hes ih
    rw [reinterpretItems]
    · exact .step fun _ => .weaken (.of_sublist (List.sublist_append_right _ _)) ih
    exact hes
  case case18 =>
    intro role comma start es ih
    rw [reinterpretItems]
    exact .bind ih fun a ha => .pure (by simpa using ha)
  case case19 =>
    intro role comma e es h₁ h₂ h₃ he hes
    rw [reinterpretItems]
    · exact .bind he fun a ha => .bind hes fun as has => .pure (ha.append has)
    all_goals assumption

theorem reinterpret_keeps (role : TargetRole) (e : Expr) : Keeps t e.spots (reinterpret role e) :=
  reinterpret_keeps_all.1 role e

theorem asAssignmentTarget_keeps (e : Expr) : Keeps t e.spots (asAssignmentTarget e) := by
  unfold asAssignmentTarget
  split
  · exact .pure (.refl _)
  · exact reinterpret_keeps _ _
  · exact reinterpret_keeps _ _
  · exact .step fun _ => .pure (.refl _)

/-- The last of several parameters is a rest parameter in the way that the last element of a pattern
is a rest element. -/
theorem asParameters_spread (comma : Option Nat) (start : Nat) (value : Expr) :
    asParameters comma [.spread start value] = reinterpretItems .parameter comma
      [.spread start value] := by
  cases value <;> rfl

theorem asParameters_keeps (comma : Option Nat) (es : List Expr) :
    Keeps t (spots es) (asParameters comma es) := by
  have hrest (start : Nat) (value : Expr) :
      Keeps t (spots [Expr.spread start value]) (asParameters comma [.spread start value]) := by
    rw [asParameters_spread]
    simpa using restItem_keeps comma start (reinterpret_keeps .parameter value)
  induction es using asParameters.induct comma with
  | case1 =>
    rw [asParameters]
    exact .pure (.refl _)
  | case2 start plain target value => exact hrest _ _
  | case3 start value hv => exact hrest _ _
  | case4 e he =>
    rw [asParameters]
    · exact .bind (reinterpret_keeps .parameter e) fun a ha => .pure (by simpa using ha)
    exact he
  | case5 start value es hes ih =>
    rw [asParameters]
    · exact .step fun _ => .weaken (.of_sublist (List.sublist_append_right _ _)) ih
    exact hes
  | case6 e es h₁ h₂ h₃ ih =>
    rw [asParameters]
    · exact .bind (reinterpret_keeps .parameter e) fun a ha => .bind ih fun as has =>
        .pure (ha.append has)
    all_goals assumption

end ScriptVeil.Script.Parser
