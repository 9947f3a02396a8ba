import ScriptVeil.Script.Tree

namespace ScriptVeil.Script

/-- An identifier or a string literal in expression position. Of a shorthand (`{ a }` in a literal
or a pattern) the property name has to survive a renaming. -/
inductive Site where
  | reference (id : Ident)
  | shorthand (id : Ident)
  | string (lit : StringLit)
deriving DecidableEq, Repr

def Site.span : Site → Span
  | .reference id => id.span
  | .shorthand id => id.span
  | .string lit => lit.span

def Site.Cuts (source : Text) : Site → Prop
  | .reference _ | .shorthand _ => True
  | .string lit => lit.span.Cuts source

instance Site.decidableCuts (source : Text) (s : Site) : Decidable (s.Cuts source) :=
  match s with
  | .reference _ | .shorthand _ => inferInstanceAs (Decidable True)
  | .string lit => inferInstanceAs (Decidable (lit.span.Cuts source))

def Ident.optionSites : Option Ident → List Site
  | some id => [.reference id]
  | none => []

mutual

def Expr.sites : Expr → List Site
  | .name id => [.reference id]
  | .string lit => [.string lit]
  | .atom _ _ => []
  | .privateName _ _ => []
  | .template _ parts => sitesOfExprs parts
  | .tagged tag parts => tag.sites ++ sitesOfExprs parts
  | .array _ items _ => sitesOfExprs items
  | .object _ members _ => sitesOfMembers members
  | .function _ name params body =>
    Ident.optionSites name ++ sitesOfExprs params ++ sitesOfStmts body
  | .arrow _ params body => sitesOfExprs params ++ sitesOfStmts body
  | .classExpr _ name base members =>
    Ident.optionSites name ++ sitesOfOption base ++ sitesOfMembers members
  | .unary _ operand => operand.sites
  | .update _ operand => operand.sites
  | .await _ operand => operand.sites
  | .yield _ operand => sitesOfOption operand
  | .binary _ left right => left.sites ++ right.sites
  | .assign _ target value => target.sites ++ value.sites
  | .conditional test yes no => test.sites ++ yes.sites ++ no.sites
  | .call callee args => callee.sites ++ sitesOfExprs args
  | .new _ callee args => callee.sites ++ sitesOfExprs args
  | .newBare _ callee => callee.sites
  | .member owner key => owner.sites ++ key.sites
  | .optional _ inner => inner.sites
  | .sequence first rest => first.sites ++ sitesOfExprs rest
  | .paren _ inner => inner.sites
  | .spread _ value => value.sites
  | .arrayPattern _ items => sitesOfExprs items
  | .objectPattern _ members => sitesOfMembers members
  | .withDefault target value => target.sites ++ value.sites
  | .rest _ target => target.sites

def Key.sites : Key → List Site
  | .computed value => value.sites
  | .word _ | .string _ | .number | .privateWord _ => []

def Member.sites : Member → List Site
  | .shorthand id => [.shorthand id]
  | .shorthandDefault id value => .reference id :: value.sites
  | .shorthandTarget id value => .shorthand id :: sitesOfOption value
  | .pair _ key value => key.sites ++ value.sites
  | .method _ key params body => key.sites ++ sitesOfExprs params ++ sitesOfStmts body
  | .spread _ value => value.sites
  | .field key value => key.sites ++ sitesOfOption value
  | .staticBlock body => sitesOfStmts body

def Stmt.sites : Stmt → List Site
  | .empty => []
  | .debugger => []
  | .expr value => value.sites
  | .vars declarators => sitesOfExprs declarators
  | .using declarators => sitesOfExprs declarators
  | .functionDecl name params body => .reference name :: sitesOfExprs params ++ sitesOfStmts body
  | .classDecl name base members => .reference name :: sitesOfOption base ++ sitesOfMembers members
  | .block body => sitesOfStmts body
  | .tryCatch body param handler finalizer =>
    sitesOfStmts body ++ sitesOfOption param ++ sitesOfStmts handler ++ sitesOfStmts finalizer
  | .ifElse test yes no => test.sites ++ yes.sites ++ no.sites
  | .switch subject clauses => subject.sites ++ sitesOfStmts clauses
  | .clause test body => sitesOfOption test ++ sitesOfStmts body
  | .while test body => test.sites ++ body.sites
  | .doWhile body test => body.sites ++ test.sites
  | .forLoop head test update body =>
    head.sites ++ sitesOfOption test ++ sitesOfOption update ++ body.sites
  | .forEach head subject body => head.sites ++ subject.sites ++ body.sites
  | .labelled label body => .reference label :: body.sites
  | .breakTo label => Ident.optionSites label
  | .continueTo label => Ident.optionSites label
  | .returns value => sitesOfOption value
  | .throws value => value.sites
  | .withObject object body => object.sites ++ body.sites
  | .recovered _ => []

def sitesOfOption : Option Expr → List Site
  | none => []
  | some e => e.sites

def sitesOfExprs : List Expr → List Site
  | [] => []
  | e :: es => e.sites ++ sitesOfExprs es

def sitesOfMembers : List Member → List Site
  | [] => []
  | m :: ms => m.sites ++ sitesOfMembers ms

def sitesOfStmts : List Stmt → List Site
  | [] => []
  | s :: ss => s.sites ++ sitesOfStmts ss

end

end ScriptVeil.Script
