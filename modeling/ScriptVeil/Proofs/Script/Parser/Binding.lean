import ScriptVeil.Proofs.Script.Parser.Name

namespace ScriptVeil.Script.Parser

variable {t : Text} {g : Grammar}

theorem memberKey_makes (hg : g.Sound t) : Makes t [] (memberKey g) := by
  rw [memberKey]
  apply Makes.step
  intro token
  split
  · exact .step fun _ => .step fun _ => .pure (.nil _)
  · exact .step fun _ => .pure (.nil _)
  · exact .step fun _ => .pure (.nil _)
  · exact .bind anyWord_makes fun id => .pure (.refl _)
  · exact .step fun _ => .bind hg.assignment.allowingIn fun e => .step fun _ => .pure (by simp)
  · exact .unexpected _

theorem bindingElement_makes (hg : g.Sound t) : Makes t [] (bindingElement g) := by
  rw [bindingElement]
  apply Makes.bind (hg.binding false)
  intro target
  apply Makes.step
  intro _
  refine .ite ?_ (.pure (by simp))
  exact .bind hg.assignment.allowingIn fun value => .pure (by simp)

theorem arrayPatternItem_makes (hg : g.Sound t) (restStart : Option Nat) :
    Makes t [] (arrayPatternItem g restStart) := by
  simp only [arrayPatternItem, pure_bind]
  repeat' first
    | apply Makes.bind (bindingElement_makes hg); intro item
    | apply Makes.bind (hg.binding false); intro target
    | apply Makes.step; intro _
    | apply Makes.ite
    | exact .pure (by simp)
    | split

theorem arrayPattern_makes (hg : g.Sound t) : Makes t [] (arrayPattern g) := by
  rw [arrayPattern]
  apply Makes.step
  intro start
  apply Makes.step
  intro _
  apply Makes.bind (.repeatedWith (arrayPatternItem_makes hg) rfl)
  intro items
  apply Makes.step
  intro _
  exact .pure (by simp)

theorem objectPatternMember_makes (hg : g.Sound t) : Makes t [] (objectPatternMember g) := by
  rw [objectPatternMember]
  apply Makes.step
  intro start
  apply Makes.step
  intro isRest
  apply Makes.ite
  · exact .bind (hg.binding false) fun target => .pure (by simp)
  · apply Makes.bind (memberKey_makes hg)
    intro key
    apply Makes.step
    intro isPair
    apply Makes.ite
    · apply Makes.bind (bindingElement_makes hg)
      intro value
      apply Makes.pure
      exact (among_spots_key key).append (.refl _)
    · split
      · exact .unexpected _
      · next id hid =>
        have hk := spots_key_name? hid
        apply Makes.step
        intro _
        refine .ite (.bind hg.assignment.allowingIn fun value => .pure ?_) (.pure ?_)
        all_goals simp [hk, Among.shorthand_cons]

theorem bracedMembers_makes {member : Parser Member} (h : Makes t [] member) :
    Makes t [] (bracedMembers member) := by
  refine .repeatedWith (fun comma => ?_) rfl
  repeat' first
    | apply Makes.bind h; intro m
    | apply Makes.step; intro _
    | apply Makes.ite
    | exact .pure (by simp)

instance (comma : Option Nat) (ms : List Member) : Moves t (checkRests comma ms) := by
  fun_induction checkRests comma ms
  all_goals infer_instance

theorem objectPattern_makes (hg : g.Sound t) : Makes t [] (objectPattern g) := by
  rw [objectPattern]
  apply Makes.step
  intro start
  apply Makes.step
  intro _
  apply Makes.bind (bracedMembers_makes (objectPatternMember_makes hg))
  intro members
  apply Makes.step
  intro _
  exact .pure (by simp)

theorem binding_makes (hg : g.Sound t) (denyLet : Bool) : Makes t [] (binding g denyLet) := by
  rw [binding]
  apply Makes.step
  intro token
  split
  · exact .bind (bindingName_makes _) fun id => .pure (.refl _)
  · exact arrayPattern_makes hg
  · exact objectPattern_makes hg
  · exact .unexpected _

end ScriptVeil.Script.Parser
