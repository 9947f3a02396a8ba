import ScriptVeil.Proofs.Script.Node

namespace ScriptVeil.Script

/-- A place that masking may touch. Of a jump it is the label that is jumped to. -/
inductive Spot where
  | site (s : Site)
  | jump (label : Ident)
deriving DecidableEq, Repr

def Spot.toSite : Spot → Site
  | .site s => s
  | .jump label => .reference label

def Ident.optionSpots : Option Ident → List Spot
  | some id => [.site (.reference id)]
  | none => []

mutual

def Expr.spots : Expr → List Spot
  | .name id => [.site (.reference id)]
  | .string lit => [.site (.string lit)]
  | .atom _ _ => []
  | .privateName _ _ => []
  | .template _ parts => spotsOfExprs parts
  | .tagged tag parts => tag.spots ++ spotsOfExprs parts
  | .array _ items _ => spotsOfExprs items
  | .object _ members _ => spotsOfMembers members
  | .function _ name params body =>
    Ident.optionSpots name ++ spotsOfExprs params ++ spotsOfStmts body
  | .arrow _ params body => spotsOfExprs params ++ spotsOfStmts body
  | .classExpr _ name base members =>
    Ident.optionSpots name ++ spotsOfOption base ++ spotsOfMembers members
  | .unary _ operand => operand.spots
  | .update _ operand => operand.spots
  | .await _ operand => operand.spots
  | .yield _ operand => spotsOfOption operand
  | .binary _ left right => left.spots ++ right.spots
  | .assign _ target value => target.spots ++ value.spots
  | .conditional test yes no => test.spots ++ yes.spots ++ no.spots
  | .call callee args => callee.spots ++ spotsOfExprs args
  | .new _ callee args => callee.spots ++ spotsOfExprs args
  | .newBare _ callee => callee.spots
  | .member owner key => owner.spots ++ key.spots
  | .optional _ inner => inner.spots
  | .sequence first rest => first.spots ++ spotsOfExprs rest
  | .paren _ inner => inner.spots
  | .spread _ value => value.spots
  | .arrayPattern _ items => spotsOfExprs items
  | .objectPattern _ members => spotsOfMembers members
  | .withDefault target value => target.spots ++ value.spots
  | .rest _ target => target.spots

def Key.spots : Key → List Spot
  | .computed value => value.spots
  | .word _ | .string _ | .number | .privateWord _ => []

def Member.spots : Member → List Spot
  | .shorthand id => [.site (.shorthand id)]
  | .shorthandDefault id value => .site (.reference id) :: value.spots
  | .shorthandTarget id value => .site (.shorthand id) :: spotsOfOption value
  | .pair _ key value => key.spots ++ value.spots
  | .method _ key params body => key.spots ++ spotsOfExprs params ++ spotsOfStmts body
  | .spread _ value => value.spots
  | .field key value => key.spots ++ spotsOfOption value
  | .staticBlock body => spotsOfStmts body

def Stmt.spots : Stmt → List Spot
  | .empty => []
  | .debugger => []
  | .expr value => value.spots
  | .vars declarators => spotsOfExprs declarators
  | .using declarators => spotsOfExprs declarators
  | .functionDecl name params body =>
    .site (.reference name) :: spotsOfExprs params ++ spotsOfStmts body
  | .classDecl name base members =>
    .site (.reference name) :: spotsOfOption base ++ spotsOfMembers members
  | .block body => spotsOfStmts body
  | .tryCatch body param handler finalizer =>
    spotsOfStmts body ++ spotsOfOption param ++ spotsOfStmts handler ++ spotsOfStmts finalizer
  | .ifElse test yes no => test.spots ++ yes.spots ++ no.spots
  | .switch subject clauses => subject.spots ++ spotsOfStmts clauses
  | .clause test body => spotsOfOption test ++ spotsOfStmts body
  | .while test body => test.spots ++ body.spots
  | .doWhile body test => body.spots ++ test.spots
  | .forLoop head test update body =>
    head.spots ++ spotsOfOption test ++ spotsOfOption update ++ body.spots
  | .forEach head subject body => head.spots ++ subject.spots ++ body.spots
  | .labelled label body => .site (.reference label) :: body.spots
  | .breakTo label => label.toList.map .jump
  | .continueTo label => label.toList.map .jump
  | .returns value => spotsOfOption value
  | .throws value => value.spots
  | .withObject object body => object.spots ++ body.spots
  | .recovered _ => []

def spotsOfOption : Option Expr → List Spot
  | none => []
  | some e => e.spots

def spotsOfExprs : List Expr → List Spot
  | [] => []
  | e :: es => e.spots ++ spotsOfExprs es

def spotsOfMembers : List Member → List Spot
  | [] => []
  | m :: ms => m.spots ++ spotsOfMembers ms

def spotsOfStmts : List Stmt → List Spot
  | [] => []
  | s :: ss => s.spots ++ spotsOfStmts ss

end

theorem map_toSite_optionSpots (id? : Option Ident) :
    (Ident.optionSpots id?).map Spot.toSite = Ident.optionSites id? := by
  cases id? <;> rfl

theorem map_toSite_jumps (id? : Option Ident) :
    (id?.toList.map Spot.jump).map Spot.toSite = Ident.optionSites id? := by
  cases id? <;> rfl

theorem map_toSite_spots_all :
    (∀ e : Expr, e.spots.map Spot.toSite = e.sites)
      ∧ (∀ k : Key, k.spots.map Spot.toSite = k.sites)
      ∧ (∀ e? : Option Expr, (spotsOfOption e?).map Spot.toSite = sitesOfOption e?)
      ∧ (∀ ss : List Stmt, (spotsOfStmts ss).map Spot.toSite = sitesOfStmts ss)
      ∧ (∀ s : Stmt, s.spots.map Spot.toSite = s.sites)
      ∧ (∀ ms : List Member, (spotsOfMembers ms).map Spot.toSite = sitesOfMembers ms)
      ∧ (∀ m : Member, m.spots.map Spot.toSite = m.sites)
      ∧ ∀ es : List Expr, (spotsOfExprs es).map Spot.toSite = sitesOfExprs es := by
  apply Expr.spots.mutual_induct
  all_goals
    intros
    simp_all only [Expr.spots, Key.spots, Member.spots, Stmt.spots, spotsOfOption, spotsOfExprs,
      spotsOfMembers, spotsOfStmts, Expr.sites, Key.sites, Member.sites, Stmt.sites, sitesOfOption,
      sitesOfExprs, sitesOfMembers, sitesOfStmts, List.map_append, List.map_cons, List.map_nil,
      map_toSite_optionSpots, map_toSite_jumps, Spot.toSite]

end ScriptVeil.Script
