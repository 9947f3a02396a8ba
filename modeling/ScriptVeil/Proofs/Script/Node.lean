import Mathlib.Data.List.Basic
import ScriptVeil.Script.Document

namespace ScriptVeil.Script

inductive Node where
  | expr (e : Expr)
  | key (k : Key)
  | member (m : Member)
  | stmt (s : Stmt)

/-- A word or a string in a tree: a place that masking may touch or the name of a member. -/
inductive Leaf where
  | site (s : Site)
  | keyWord (id : Ident)
  | keyString (lit : StringLit)
  | privateWord (id : Ident)
deriving DecidableEq, Repr

def Leaf.span : Leaf → Span
  | .site s => s.span
  | .keyWord id => id.span
  | .keyString lit => lit.span
  | .privateWord id => id.span

def Leaf.site? : Leaf → Option Site
  | .site s => some s
  | .keyWord _ | .keyString _ | .privateWord _ => none

def Expr.children : Expr → List Node
  | .name _ | .string _ | .atom _ _ | .privateName _ _ => []
  | .template _ parts => parts.map .expr
  | .tagged tag parts => .expr tag :: parts.map .expr
  | .array _ items _ => items.map .expr
  | .object _ members _ => members.map .member
  | .function _ _ params body => params.map .expr ++ body.map .stmt
  | .arrow _ params body => params.map .expr ++ body.map .stmt
  | .classExpr _ _ base members => base.toList.map .expr ++ members.map .member
  | .unary _ operand => [.expr operand]
  | .update _ operand => [.expr operand]
  | .await _ operand => [.expr operand]
  | .yield _ operand => operand.toList.map .expr
  | .binary _ left right => [.expr left, .expr right]
  | .assign _ target value => [.expr target, .expr value]
  | .conditional test yes no => [.expr test, .expr yes, .expr no]
  | .call callee args => .expr callee :: args.map .expr
  | .new _ callee args => .expr callee :: args.map .expr
  | .newBare _ callee => [.expr callee]
  | .member owner key => [.expr owner, .key key]
  | .optional _ inner => [.expr inner]
  | .sequence first others => .expr first :: others.map .expr
  | .paren _ inner => [.expr inner]
  | .spread _ value => [.expr value]
  | .arrayPattern _ items => items.map .expr
  | .objectPattern _ members => members.map .member
  | .withDefault target value => [.expr target, .expr value]
  | .rest _ target => [.expr target]

def Key.children : Key → List Node
  | .computed value => [.expr value]
  | .word _ | .string _ | .number | .privateWord _ => []

def Member.children : Member → List Node
  | .shorthand _ => []
  | .shorthandDefault _ value => [.expr value]
  | .shorthandTarget _ value => value.toList.map .expr
  | .pair _ key value => [.key key, .expr value]
  | .method _ key params body => .key key :: params.map .expr ++ body.map .stmt
  | .spread _ value => [.expr value]
  | .field key value => .key key :: value.toList.map .expr
  | .staticBlock body => body.map .stmt

def Stmt.children : Stmt → List Node
  | .empty | .debugger | .breakTo _ | .continueTo _ | .recovered _ => []
  | .expr value => [.expr value]
  | .vars declarators => declarators.map .expr
  | .using declarators => declarators.map .expr
  | .functionDecl _ params body => params.map .expr ++ body.map .stmt
  | .classDecl _ base members => base.toList.map .expr ++ members.map .member
  | .block body => body.map .stmt
  | .tryCatch body param handler finalizer =>
    body.map .stmt ++ param.toList.map .expr ++ handler.map .stmt ++ finalizer.map .stmt
  | .ifElse test yes no => [.expr test, .stmt yes, .stmt no]
  | .switch subject clauses => .expr subject :: clauses.map .stmt
  | .clause test body => test.toList.map .expr ++ body.map .stmt
  | .while test body => [.expr test, .stmt body]
  | .doWhile body test => [.stmt body, .expr test]
  | .forLoop head test update body =>
    .stmt head :: test.toList.map .expr ++ update.toList.map .expr ++ [.stmt body]
  | .forEach head subject body => [.stmt head, .expr subject, .stmt body]
  | .labelled _ body => [.stmt body]
  | .returns value => value.toList.map .expr
  | .throws value => [.expr value]
  | .withObject object body => [.expr object, .stmt body]

namespace Node

def children : Node → List Node
  | .expr e => e.children
  | .key k => k.children
  | .member m => m.children
  | .stmt s => s.children

/-- The words and strings that a node has itself, outside the nodes below it. -/
def ownLeaves : Node → List Leaf
  | .expr (.name id) => [.site (.reference id)]
  | .expr (.string lit) => [.site (.string lit)]
  | .expr (.privateName _ id) => [.privateWord id]
  | .expr (.function _ name _ _) => name.toList.map fun id => .site (.reference id)
  | .expr (.classExpr _ name _ _) => name.toList.map fun id => .site (.reference id)
  | .key (.word id) => [.keyWord id]
  | .key (.string lit) => [.keyString lit]
  | .key (.privateWord id) => [.privateWord id]
  | .member (.shorthand id) => [.site (.shorthand id)]
  | .member (.shorthandDefault id _) => [.site (.reference id)]
  | .member (.shorthandTarget id _) => [.site (.shorthand id)]
  | .stmt (.functionDecl name _ _) => [.site (.reference name)]
  | .stmt (.classDecl name _ _) => [.site (.reference name)]
  | .stmt (.labelled label _) => [.site (.reference label)]
  | .stmt (.breakTo label) => label.toList.map fun id => .site (.reference id)
  | .stmt (.continueTo label) => label.toList.map fun id => .site (.reference id)
  | _ => []

variable {n c : Node} {k : Nat}

theorem sizeOf_lt_of_mem_exprs {es : List Expr} (hk : sizeOf es < k) :
    ∀ c ∈ es.map Node.expr, sizeOf c < k := by
  intro c hc
  obtain ⟨e, he, rfl⟩ := List.mem_map.1 hc
  have := List.sizeOf_lt_of_mem he
  rw [expr.sizeOf_spec]
  omega

theorem sizeOf_lt_of_mem_option {e? : Option Expr} (hk : sizeOf e? < k) :
    ∀ c ∈ e?.toList.map Node.expr, sizeOf c < k := by
  cases e? with
  | none => exact List.forall_mem_nil _
  | some e => exact List.forall_mem_singleton.2 hk

theorem sizeOf_lt_of_mem_members {ms : List Member} (hk : sizeOf ms < k) :
    ∀ c ∈ ms.map Node.member, sizeOf c < k := by
  intro c hc
  obtain ⟨m, hm, rfl⟩ := List.mem_map.1 hc
  have := List.sizeOf_lt_of_mem hm
  rw [member.sizeOf_spec]
  omega

theorem sizeOf_lt_of_mem_stmts {ss : List Stmt} (hk : sizeOf ss < k) :
    ∀ c ∈ ss.map Node.stmt, sizeOf c < k := by
  intro c hc
  obtain ⟨s, hs, rfl⟩ := List.mem_map.1 hc
  have := List.sizeOf_lt_of_mem hs
  rw [stmt.sizeOf_spec]
  omega

theorem sizeOf_lt_of_mem_exprChildren (e : Expr) :
    ∀ c ∈ e.children, sizeOf c < sizeOf (Node.expr e) := by
  cases e <;>
    simp only [Expr.children, List.forall_mem_append, List.forall_mem_cons, List.not_mem_nil,
      false_imp_iff, implies_true, and_true]
  all_goals and_intros
  all_goals first
    | simp <;> omega
    | exact sizeOf_lt_of_mem_exprs (by simp; omega)
    | exact sizeOf_lt_of_mem_option (by simp; omega)
    | exact sizeOf_lt_of_mem_members (by simp; omega)
    | exact sizeOf_lt_of_mem_stmts (by simp; omega)

theorem sizeOf_lt_of_mem_keyChildren (k : Key) :
    ∀ c ∈ k.children, sizeOf c < sizeOf (Node.key k) := by
  cases k <;>
    simp [Key.children]

theorem sizeOf_lt_of_mem_memberChildren (m : Member) :
    ∀ c ∈ m.children, sizeOf c < sizeOf (Node.member m) := by
  cases m <;>
    simp only [Member.children, List.forall_mem_append, List.forall_mem_cons, List.not_mem_nil,
      false_imp_iff, implies_true, and_true, and_assoc]
  all_goals and_intros
  all_goals first
    | simp <;> omega
    | exact sizeOf_lt_of_mem_exprs (by simp; omega)
    | exact sizeOf_lt_of_mem_option (by simp; omega)
    | exact sizeOf_lt_of_mem_stmts (by simp; omega)

theorem sizeOf_lt_of_mem_stmtChildren (s : Stmt) :
    ∀ c ∈ s.children, sizeOf c < sizeOf (Node.stmt s) := by
  cases s <;>
    simp only [Stmt.children, List.forall_mem_append, List.forall_mem_cons, List.not_mem_nil,
      false_imp_iff, implies_true, and_true, and_assoc]
  all_goals and_intros
  all_goals first
    | simp <;> omega
    | exact sizeOf_lt_of_mem_exprs (by simp; omega)
    | exact sizeOf_lt_of_mem_option (by simp; omega)
    | exact sizeOf_lt_of_mem_members (by simp; omega)
    | exact sizeOf_lt_of_mem_stmts (by simp; omega)

theorem sizeOf_lt_of_mem_children : (n : Node) → ∀ c ∈ n.children, sizeOf c < sizeOf n
  | .expr e => sizeOf_lt_of_mem_exprChildren e
  | .key k => sizeOf_lt_of_mem_keyChildren k
  | .member m => sizeOf_lt_of_mem_memberChildren m
  | .stmt s => sizeOf_lt_of_mem_stmtChildren s

def descendants (n : Node) : List Node :=
  n :: n.children.attach.flatMap fun c => c.1.descendants
termination_by sizeOf n
decreasing_by exact sizeOf_lt_of_mem_children n c.1 c.2

def leaves (n : Node) : List Leaf :=
  n.descendants.flatMap ownLeaves

def sites : Node → List Site
  | .expr e => e.sites
  | .key k => k.sites
  | .member m => m.sites
  | .stmt s => s.sites

theorem descendants_eq (n : Node) : n.descendants = n :: n.children.flatMap descendants := by
  rw [descendants, List.flatMap_subtype fun _ _ => rfl, List.unattach_attach]

theorem sitesOfExprs_eq (es : List Expr) : sitesOfExprs es = (es.map Node.expr).flatMap sites := by
  induction es with
  | nil => rfl
  | cons e es ih => rw [sitesOfExprs, ih, List.map_cons, List.flatMap_cons, sites]

theorem sitesOfOption_eq (e? : Option Expr) :
    sitesOfOption e? = (e?.toList.map Node.expr).flatMap sites := by
  cases e? with
  | none => rfl
  | some e => exact (List.append_nil _).symm

theorem sitesOfMembers_eq (ms : List Member) :
    sitesOfMembers ms = (ms.map Node.member).flatMap sites := by
  induction ms with
  | nil => rfl
  | cons m ms ih => rw [sitesOfMembers, ih, List.map_cons, List.flatMap_cons, sites]

theorem sitesOfStmts_eq (ss : List Stmt) : sitesOfStmts ss = (ss.map Node.stmt).flatMap sites := by
  induction ss with
  | nil => rfl
  | cons s ss ih => rw [sitesOfStmts, ih, List.map_cons, List.flatMap_cons, sites]

theorem filterMap_site?_references (id? : Option Ident) :
    (id?.toList.map fun id => Leaf.site (.reference id)).filterMap Leaf.site?
      = Ident.optionSites id? := by
  cases id? <;> rfl

theorem sites_expr (e : Expr) :
    (expr e).sites = (expr e).ownLeaves.filterMap Leaf.site?
      ++ (expr e).children.flatMap sites := by
  cases e <;>
    simp only [sites, Expr.sites, children, Expr.children, ownLeaves, filterMap_site?_references,
      sitesOfExprs_eq, sitesOfOption_eq, sitesOfMembers_eq, sitesOfStmts_eq, List.flatMap_append,
      List.flatMap_cons, List.flatMap_nil, List.filterMap_nil, List.nil_append, List.append_nil,
      List.append_assoc, List.filterMap_cons, Leaf.site?]

theorem sites_key (k : Key) :
    (key k).sites = (key k).ownLeaves.filterMap Leaf.site? ++ (key k).children.flatMap sites := by
  cases k <;>
    simp only [sites, Key.sites, children, Key.children, ownLeaves,
      List.flatMap_cons, List.flatMap_nil, List.filterMap_nil, List.nil_append, List.append_nil,
      List.filterMap_cons, Leaf.site?]

theorem sites_member (m : Member) :
    (member m).sites
      = (member m).ownLeaves.filterMap Leaf.site? ++ (member m).children.flatMap sites := by
  cases m <;>
    simp only [sites, Member.sites, children, Member.children, ownLeaves,
      sitesOfExprs_eq, sitesOfOption_eq, sitesOfStmts_eq, List.flatMap_append,
      List.flatMap_cons, List.flatMap_nil, List.filterMap_nil, List.nil_append, List.append_nil,
      List.append_assoc, List.filterMap_cons, Leaf.site?, List.cons_append]

theorem sites_stmt (s : Stmt) :
    (stmt s).sites = (stmt s).ownLeaves.filterMap Leaf.site?
      ++ (stmt s).children.flatMap sites := by
  cases s <;>
    simp only [sites, Stmt.sites, children, Stmt.children, ownLeaves, filterMap_site?_references,
      sitesOfExprs_eq, sitesOfOption_eq, sitesOfMembers_eq, sitesOfStmts_eq, List.flatMap_append,
      List.flatMap_cons, List.flatMap_nil, List.filterMap_nil, List.nil_append, List.append_nil,
      List.append_assoc, List.filterMap_cons, Leaf.site?, List.cons_append]

/-- What the traversal does at one node: its own places and one visit to each node below it. -/
theorem sites_eq_own_append : (n : Node) →
    n.sites = n.ownLeaves.filterMap Leaf.site? ++ n.children.flatMap sites
  | .expr e => sites_expr e
  | .key k => sites_key k
  | .member m => sites_member m
  | .stmt s => sites_stmt s

/-- The traversal finds the places among the words and strings of all nodes below, each of them
once. -/
theorem sites_eq (n : Node) : n.sites = n.leaves.filterMap Leaf.site? := by
  induction n using descendants.induct with
  | case1 n ih =>
    have hc : n.children.flatMap sites = (n.children.flatMap leaves).filterMap Leaf.site? := by
      rw [List.filterMap_flatMap]
      exact List.flatMap_congr fun c hc => ih ⟨c, hc⟩
    rw [sites_eq_own_append, hc, leaves, descendants_eq, List.flatMap_cons, List.filterMap_append,
      List.flatMap_assoc]
    rfl

end Node

def Document.leaves (d : Document) : List Leaf :=
  (d.stmts.map Node.stmt).flatMap Node.leaves

theorem Document.sites_eq (d : Document) : d.sites = d.leaves.filterMap Leaf.site? := by
  rw [Document.sites, Node.sitesOfStmts_eq, leaves, List.filterMap_flatMap]
  exact List.flatMap_congr fun n _ => n.sites_eq

end ScriptVeil.Script
