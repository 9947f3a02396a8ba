import ScriptVeil.Proofs.Script.Parser.Function
import ScriptVeil.Script.Parser.Member

namespace ScriptVeil.Script.Parser

variable {t : Text} {g : Grammar}

theorem spots_take_sublist {α : Type} [HasSpots α] (n : Nat) (l : List α) :
    (spots (l.take n)).Sublist (spots l) := by
  conv_rhs => rw [← List.take_append_drop n l, spots_append]
  exact List.sublist_append_left _ _

theorem methodRest_makes (hg : g.Sound t) (start : Nat) (key : Key) (isAsync isGenerator : Bool)
    {check : List Expr → Parser Unit} (hc : ∀ params, Moves t (check params)) :
    Makes t key.spots (methodRest g start key isAsync isGenerator check) := by
  rw [methodRest]
  exact .bind (functionRest_makes hg _ _ hc).within fun r => .pure (by simp)

theorem getterMember_makes (hg : g.Sound t) (start : Nat) : Makes t [] (getterMember g start) := by
  rw [getterMember]
  apply Makes.step
  intro offset
  apply Makes.bind (memberKey_makes hg)
  intro key
  apply Makes.bind (functionRest_makes hg _ _ inferInstance).within
  intro r
  apply Makes.pure
  simpa using (among_spots_key key).append (.of_sublist (List.sublist_append_right _ _))

theorem setterMember_makes (hg : g.Sound t) (start : Nat) : Makes t [] (setterMember g start) := by
  simp only [setterMember]
  apply Makes.step
  intro offset
  apply Makes.bind (memberKey_makes hg)
  intro key
  apply Makes.bind (functionRest_makes hg _ _ inferInstance).within
  rintro ⟨params, body⟩
  have hp : Among (spots (Member.method start key (params.take 2) body))
      ([] ++ spots key ++ spots (params, body)) := by
    have hp := Among.of_sublist (spots_take_sublist 2 params)
    simpa using (among_spots_key key).append (hp.append (.refl (spots body)))
  exact .ite (.step fun _ => .pure hp) (.pure hp)

theorem modifiedMember_makes (hg : g.Sound t) (start : Nat) (modifier : Ident) :
    Makes t [] (modifiedMember g start modifier) := by
  rw [modifiedMember]
  refine .ite (getterMember_makes hg _) (.ite (setterMember_makes hg _) ?_)
  apply Makes.step
  intro isGenerator
  apply Makes.bind (memberKey_makes hg)
  intro key
  exact .weaken (among_spots_key key) (methodRest_makes hg _ _ _ _ inferInstance)

theorem shorthandMember_makes (hg : g.Sound t) (start : Nat) (id : Ident) :
    Makes t (spots id) (shorthandMember g start id) := by
  simp only [shorthandMember]
  repeat' first
    | exact .weaken (.nil _) (modifiedMember_makes hg _ _)
    | exact .unexpected _
    | exact .pure (.shorthand_cons id (.nil _))
    | exact .pure (.cons _ (.refl value.spots))
    | apply Makes.bind hg.assignment.allowingIn; intro value
    | apply Makes.step; intro _
    | apply Makes.ite

theorem objectMember_makes (hg : g.Sound t) : Makes t [] (objectMember g) := by
  rw [objectMember]
  apply Makes.step
  intro start
  apply Makes.step
  intro isSpread
  refine .ite ?_ (.step fun isGenerator => .ite ?_ ?_)
  · exact .bind hg.assignment.allowingIn fun value => .pure (by simp)
  · apply Makes.bind (memberKey_makes hg)
    intro key
    exact .weaken (among_spots_key key) (methodRest_makes hg _ _ _ _ inferInstance)
  · refine .bind (memberKey_makes hg) fun key => .step fun isPair =>
      .ite ?_ (.step fun isMethod => .ite ?_ ?_)
    · apply Makes.bind hg.assignment.allowingIn
      intro value
      apply Makes.pure
      simpa using (among_spots_key key).append (.refl value.spots)
    · exact .weaken (among_spots_key key) (methodRest_makes hg _ _ _ _ inferInstance)
    · split
      · next id hid =>
        rw [spots_key_name? hid]
        exact shorthandMember_makes hg _ _
      · exact .unexpected _

theorem objectLiteral_makes (hg : g.Sound t) : Makes t [] (objectLiteral g) := by
  rw [objectLiteral]
  apply Makes.step
  intro start
  apply Makes.step
  intro _
  exact .bind (bracedMembers_makes (objectMember_makes hg)) fun members => .pure (by simp)

theorem classKey_makes (hg : g.Sound t) : Makes t [] (classKey g) := by
  simp only [classKey]
  apply Makes.step
  intro isPrivate
  refine .ite ?_ (memberKey_makes hg)
  apply Makes.step
  intro start
  apply Makes.bind privateName_makes
  intro id
  exact .ite (.step fun _ => .pure (.nil _)) (.pure (.nil _))

instance (insertSemicolon : Bool) : Moves t (seesFieldEnd insertSemicolon) := by
  rw [seesFieldEnd]
  infer_instance

theorem fieldRest_makes (hg : g.Sound t) (offset : Nat) (key : Key) :
    Makes t key.spots (fieldRest g offset key) := by
  have hend (value : Option Expr) (l : List Spot) (h : Among (spots (Member.field key value)) l) :
      Makes t l do
        if !(← eatStatementEnd) then note (← pointed) .missingSemicolon
        return Member.field key value :=
    .step fun _ => .ite (.step fun _ => .step fun _ => .pure h) (.pure h)
  simp only [fieldRest, pure_bind]
  refine .ite (.step fun _ => ?_) ?_
  all_goals
    refine .within (.step fun _ => .ite ?_ ?_)
    · exact .bind hg.assignment fun value => hend (some value) _ (by simp)
    · exact hend none _ (by simp)

theorem constructorRest_makes (hg : g.Sound t) (start : Nat) (key : Key) (isStatic : Bool) :
    Makes t key.spots (constructorRest g start key isStatic) := by
  simp only [constructorRest]
  apply Makes.step
  intro _
  apply Makes.bind (parameters_makes hg _)
  intro params
  apply Makes.step
  intro _
  apply Makes.bind (functionBody_makes hg _ _ _)
  intro body
  refine .ite (.step fun _ => ?_) ?_
  all_goals exact .pure (by simp)

theorem keyedClassMember_makes (hg : g.Sound t) (start offset : Nat) (key : Key) (isStatic : Bool) :
    Makes t key.spots (keyedClassMember g start offset key isStatic) := by
  have hm (key : Key) (isAsync isGenerator : Bool) {check : List Expr → Parser Unit}
      (hc : ∀ params, Moves t (check params)) :
      Makes t key.spots do return (← methodRest g start key isAsync isGenerator check, false) :=
    .bindOn (l := []) (methodRest_makes hg _ _ _ _ hc) fun m => .pure (by simp)
  have hkey (l : List Spot) (key : Key) : Among key.spots (l ++ spots key) :=
    (among_spots_key key).trans (.of_sublist (List.sublist_append_right _ _))
  rw [keyedClassMember]
  apply Makes.step
  intro isMethod
  refine .ite (.ite ?_ (hm _ _ _ inferInstance)) ?_
  · exact .bindOn (l := []) (constructorRest_makes hg _ _ _) fun m => .pure (by simp)
  apply Makes.step
  intro newline
  apply Makes.step
  intro _
  apply Makes.step
  intro _
  apply Makes.step
  intro _
  refine .ite ?_ (.ite ?_ ?_)
  · exact .bindOn (l := []) (fieldRest_makes hg _ _) fun m => .pure (by simp)
  · apply Makes.step
    intro isGenerator
    apply Makes.step
    intro keyStart
    apply Makes.bind (classKey_makes hg)
    intro key'
    have hc (params : List Expr) : Moves t (anyParameters params) := inferInstance
    have hk := Makes.weaken (hkey key.spots key') (hm key' true isGenerator hc)
    exact .ite (.step fun _ => hk) hk
  · refine .ite (.bind (classKey_makes hg) fun key' => ?_) (.unexpected _)
    have hc (b : Bool) (params : List Expr) :
        Moves t ((if b then getterParameters offset else setterParameters offset) params) := by
      split <;> infer_instance
    have hk (b : Bool) := Makes.weaken (hkey key.spots key') (hm key' false false (hc b))
    exact .ite (.step fun _ => hk _) (hk _)

theorem staticBlock_makes (hg : g.Sound t) : Makes t [] (staticBlock g) := by
  rw [staticBlock]
  exact .bind (block_makes hg _).within fun body => .pure (by simp)

theorem classMemberRest_makes (hg : g.Sound t) (start : Nat) (isStatic : Bool) :
    Makes t [] (classMemberRest g start isStatic) := by
  have hm (key : Key) : Makes t (spots key) do
      return (← methodRest g start key false true anyParameters, false) :=
    .weaken (among_spots_key key) <|
      .bindOn (l := []) (methodRest_makes hg _ _ _ _ inferInstance) fun m => .pure (by simp)
  simp only [classMemberRest]
  refine .step fun _ => .ite (staticBlock_makes hg) (.step fun _ =>
    .ite ?_ (.step fun _ => .ite ?_ ?_))
  · exact .ite (.step fun _ => .step fun _ => staticBlock_makes hg)
      (.step fun _ => staticBlock_makes hg)
  · exact .bind (classKey_makes hg) fun key => .ite (.step fun _ => hm key) (hm key)
  · apply Makes.step
    intro offset
    apply Makes.bind (classKey_makes hg)
    intro key
    exact .weaken (among_spots_key key) (keyedClassMember_makes hg _ _ _ _)

theorem classMember_makes (hg : g.Sound t) : Makes t [] (classMember g) := by
  rw [classMember]
  apply Makes.step
  intro start
  apply Makes.step
  intro isStatic
  refine .ite ?_ (classMemberRest_makes hg _ _)
  apply Makes.step
  intro stop
  apply Makes.step
  intro isMethod
  refine .ite ?_ (.step fun isField => .ite ?_ ?_)
  · exact .bind (methodRest_makes hg _ (.word _) _ _ inferInstance) fun m => .pure (by simp)
  · exact .bind (fieldRest_makes hg _ (.word _)) fun m => .pure (by simp)
  · exact classMemberRest_makes hg _ _

theorem classMembers_makes (hg : g.Sound t) : Makes t [] (classMembers g) := by
  simp only [classMembers]
  refine .bind (.repeatedWith (fun found => ?_) rfl) fun members => .pure (by simp)
  repeat' first
    | refine .bind (classMember_makes hg).within fun m => ?_
    | apply Makes.step; intro _
    | apply Makes.ite
    | exact .pure (.nil _)
    | exact .pure (by simp)

theorem classRest_makes (hg : g.Sound t) {leftHandSide : Parser Expr}
    (hl : Makes t [] leftHandSide) :
    Makes t [] (classRest g leftHandSide) := by
  have := hl.moves
  simp only [classRest, pure_bind]
  apply Makes.step
  intro _
  refine .ite (.bind hl fun base => ?_) ?_
  all_goals repeat' first
    | refine .bind (classMembers_makes hg).within fun members => ?_
    | apply Makes.step; intro _
    | apply Makes.ite
    | exact .pure (by simp)

end ScriptVeil.Script.Parser
