import ScriptVeil.Proofs.Script.Finding
import ScriptVeil.Proofs.Script.Written

namespace ScriptVeil.Script

namespace Stmt

/-- The statements directly inside a statement that collecting goes into: of blocks and clauses, of
branches, loops, labels and `with`, and of the bodies of function declarations. -/
def inner : Stmt → List Stmt
  | .functionDecl _ _ body => body
  | .block body => body
  | .tryCatch body _ handler finalizer => body ++ handler ++ finalizer
  | .ifElse _ yes no => [yes, no]
  | .switch _ clauses => clauses
  | .clause _ body => body
  | .while _ body => [body]
  | .doWhile body _ => [body]
  | .forLoop _ _ _ body => [body]
  | .forEach _ _ body => [body]
  | .labelled _ body => [body]
  | .withObject _ body => [body]
  | .empty | .debugger | .expr _ | .vars _ | .using _ | .classDecl _ _ _ | .breakTo _
  | .continueTo _ | .returns _ | .throws _ | .recovered _ => []

theorem mem_children_of_mem_inner {s c : Stmt} (h : c ∈ s.inner) : Node.stmt c ∈ s.children := by
  cases s <;>
    simp_all [inner, children]

theorem sizeOf_lt_of_mem_inner (s : Stmt) : ∀ c ∈ s.inner, sizeOf c < sizeOf s := by
  intro c hc
  have h := Node.sizeOf_lt_of_mem_stmtChildren s _ (mem_children_of_mem_inner hc)
  rw [Node.stmt.sizeOf_spec, Node.stmt.sizeOf_spec] at h
  omega

def reached (s : Stmt) : List Stmt :=
  s :: s.inner.attach.flatMap fun c => c.1.reached
termination_by sizeOf s
decreasing_by exact s.sizeOf_lt_of_mem_inner c.1 c.2

theorem reached_eq (s : Stmt) : s.reached = s :: s.inner.flatMap reached := by
  rw [reached, List.flatMap_subtype fun _ _ => rfl, List.unattach_attach]

def declaredFunction? : Stmt → Option Declaration
  | .functionDecl name _ _ => some ⟨name.name, .function, name.span⟩
  | _ => none

def declaredVariable? : Stmt → Option Declaration
  | .vars [.name id] => some ⟨id.name, .variable, id.span⟩
  | .vars [.withDefault (.name id) _] => some ⟨id.name, .variable, id.span⟩
  | _ => none

end Stmt

def Expr.string? : Expr → Option StringLit
  | .string lit => some lit
  | _ => none

namespace Stmt

/-- The string literals that are the initial value of a variable, or arguments of the constructor
call that is, and those that are arguments of a call standing as a statement. -/
def quotedStrings : Stmt → List StringLit
  | .vars [.withDefault (.name _) (.string lit)] => [lit]
  | .vars [.withDefault (.name _) (.new _ _ args)] => args.filterMap Expr.string?
  | .expr (.call _ args) => args.filterMap Expr.string?
  | _ => []

def ownFindings : Stmt → List Finding
  | .functionDecl name _ _ => [.declared .function name]
  | .vars declarators => declaredVariable declarators
  | .expr (.call _ args) => quotedArguments args
  | _ => []

end Stmt

variable {source : Text}

theorem findingsOfStmts_eq_flatMap (ss : List Stmt) :
    findingsOfStmts ss = ss.flatMap Stmt.findings := by
  induction ss with
  | nil => rfl
  | cons s ss ih => rw [findingsOfStmts, ih, List.flatMap_cons]

namespace Stmt

/-- What the walk does at one statement: it looks at the statement itself and goes once into each
one inside it. -/
theorem findings_eq_own_append (s : Stmt) :
    s.findings = s.ownFindings ++ s.inner.flatMap findings := by
  cases s with
  | expr value => cases value <;> exact (List.append_nil _).symm
  | vars declarators => exact (List.append_nil _).symm
  | _ =>
    simp only [findings, ownFindings, inner, findingsOfStmts_eq_flatMap, List.flatMap_append,
      List.flatMap_cons, List.flatMap_nil, List.nil_append, List.append_nil, List.cons_append]

theorem findings_eq_flatMap_reached (s : Stmt) : s.findings = s.reached.flatMap ownFindings := by
  induction s using reached.induct with
  | case1 s ih =>
    have hinner : s.inner.flatMap findings = (s.inner.flatMap reached).flatMap ownFindings := by
      rw [List.flatMap_assoc]
      exact List.flatMap_congr fun c hc => ih ⟨c, hc⟩
    rw [findings_eq_own_append, hinner, reached_eq, List.flatMap_cons]

end Stmt

section

variable (category : Category) (id : Ident) (value : Expr) (args : List Expr)

theorem quotedArguments_declaration? :
    (quotedArguments args).filterMap (Finding.declaration? category) = [] := by
  rw [quotedArguments, List.filterMap_filterMap, List.filterMap_eq_nil_iff]
  intro e _
  cases e <;> rfl

theorem quotedArguments_quotation? :
    (quotedArguments args).filterMap (Finding.quotation? source)
      = (args.filterMap Expr.string?).map (StringLit.quotation source) := by
  rw [quotedArguments, List.filterMap_filterMap, List.map_filterMap]
  refine List.filterMap_congr fun e _ => ?_
  cases e <;> rfl

theorem quotedInitial_declaration? :
    (quotedInitial value).filterMap (Finding.declaration? category) = [] := by
  cases value with
  | new start callee args => exact quotedArguments_declaration? category args
  | _ => rfl

theorem quotedInitial_quotation? :
    (quotedInitial value).filterMap (Finding.quotation? source)
      = (Stmt.vars [.withDefault (.name id) value]).quotedStrings.map
        (StringLit.quotation source) := by
  cases value with
  | new start callee args => exact quotedArguments_quotation? args
  | _ => rfl

end

namespace Stmt

/-- The three kinds of variable statements: a name, a name with a value, and those that do not
count. -/
theorem vars_cases (ds : List Expr) :
    (∃ id, ds = [.name id]) ∨ (∃ id value, ds = [.withDefault (.name id) value])
      ∨ declaredVariable ds = [] ∧ (vars ds).declaredVariable? = none
        ∧ (vars ds).quotedStrings = [] := by
  rcases ds with _ | ⟨e, _ | ⟨e', ds⟩⟩
  · exact .inr (.inr ⟨rfl, rfl, rfl⟩)
  · cases e with
    | name id => exact .inl ⟨id, rfl⟩
    | withDefault target value =>
      cases target with
      | name id => exact .inr (.inl ⟨id, value, rfl⟩)
      | _ => exact .inr (.inr ⟨rfl, rfl, rfl⟩)
    | _ => exact .inr (.inr ⟨rfl, rfl, rfl⟩)
  · exact .inr (.inr (by simp [declaredVariable, declaredVariable?, quotedStrings]))

theorem ownFindings_function (s : Stmt) :
    s.ownFindings.filterMap (Finding.declaration? .function) = s.declaredFunction?.toList := by
  cases s with
  | expr value =>
    cases value with
    | call callee args => exact quotedArguments_declaration? .function args
    | _ => rfl
  | vars ds =>
    rw [ownFindings]
    obtain ⟨id, rfl⟩ | ⟨id, value, rfl⟩ | ⟨hd, -, -⟩ := vars_cases ds
    · rfl
    · exact quotedInitial_declaration? .function value
    · rw [hd]
      rfl
  | _ => rfl

theorem ownFindings_variable (s : Stmt) :
    s.ownFindings.filterMap (Finding.declaration? .variable) = s.declaredVariable?.toList := by
  cases s with
  | expr value =>
    cases value with
    | call callee args => exact quotedArguments_declaration? .variable args
    | _ => rfl
  | vars ds =>
    rw [ownFindings]
    obtain ⟨id, rfl⟩ | ⟨id, value, rfl⟩ | ⟨hd, hv, -⟩ := vars_cases ds
    · rfl
    · exact congrArg _ (quotedInitial_declaration? .variable value)
    · rw [hd, hv]
      rfl
  | _ => rfl

theorem ownFindings_quoted (s : Stmt) :
    s.ownFindings.filterMap (Finding.quotation? source)
      = s.quotedStrings.map (StringLit.quotation source) := by
  cases s with
  | expr value =>
    cases value with
    | call callee args => exact quotedArguments_quotation? args
    | _ => rfl
  | vars ds =>
    rw [ownFindings]
    obtain ⟨id, rfl⟩ | ⟨id, value, rfl⟩ | ⟨hd, -, hq⟩ := vars_cases ds
    · rfl
    · exact quotedInitial_quotation? id value
    · rw [hd, hq]
      rfl
  | _ => rfl

end Stmt

theorem findingsOfStmts_eq_flatMap_reached (ss : List Stmt) :
    findingsOfStmts ss = (ss.flatMap Stmt.reached).flatMap Stmt.ownFindings := by
  rw [findingsOfStmts_eq_flatMap, List.flatMap_assoc]
  exact List.flatMap_congr fun s _ => s.findings_eq_flatMap_reached

/-- What is collected of a script: of the statements that are reached, in source order, the first
function of each name, the first variable of each name and the first string of each raw text.
Collecting is broken off just if one of these strings cannot be cut out of the source; all of them
can be in a script that was read, unless its text still starts with a byte order mark. -/
theorem candidates_eq_firsts (d : Document) :
    let stmts := d.stmts.flatMap Stmt.reached
    let strings := stmts.flatMap Stmt.quotedStrings
    (d.candidates? = if ∀ lit ∈ strings, lit.span.Cuts d.source then some
          { functions := firstsBy Declaration.name (stmts.filterMap Stmt.declaredFunction?)
            vars := firstsBy Declaration.name (stmts.filterMap Stmt.declaredVariable?)
            literals := firstsBy Quotation.raw (strings.map fun lit =>
              let raw := d.source.slice lit.span
              ⟨raw, (Literal.decode raw).getD (Text.units lit.value), lit.span⟩) }
        else none)
      ∧ ∀ input, (Document.read input).document = .ok d → d.source.head? ≠ some byteOrderMark →
        ∀ lit ∈ strings, lit.span.Cuts d.source := by
  intro stmts strings
  have hfs : findingsOfStmts d.stmts = stmts.flatMap Stmt.ownFindings :=
    findingsOfStmts_eq_flatMap_reached d.stmts
  have hfunctions : (stmts.flatMap Stmt.ownFindings).filterMap (Finding.declaration? .function)
      = stmts.filterMap Stmt.declaredFunction? := by
    rw [List.filterMap_flatMap, List.filterMap_eq_flatMap_toList]
    exact List.flatMap_congr fun s _ => s.ownFindings_function
  have hvars : (stmts.flatMap Stmt.ownFindings).filterMap (Finding.declaration? .variable)
      = stmts.filterMap Stmt.declaredVariable? := by
    rw [List.filterMap_flatMap, List.filterMap_eq_flatMap_toList]
    exact List.flatMap_congr fun s _ => s.ownFindings_variable
  have hliterals : (stmts.flatMap Stmt.ownFindings).filterMap (Finding.quotation? d.source)
      = strings.map (StringLit.quotation d.source) := by
    rw [List.filterMap_flatMap, List.map_flatMap]
    exact List.flatMap_congr fun s _ => s.ownFindings_quoted
  have hcuts : (∀ f ∈ findingsOfStmts d.stmts, f.Cuts d.source)
      ↔ ∀ lit ∈ strings, lit.span.Cuts d.source := by
    rw [forall_cuts_iff, hfs, hliterals, List.forall_mem_map]
    rfl
  constructor
  · rw [Document.candidates?, candidatesOf?_eq]
    simp only [hcuts]
    rw [candidatesOf_eq, hfs, hfunctions, hvars, hliterals]
    rfl
  · intro input hd hmark
    exact hcuts.1 (Document.cuts_of_sites (Document.sites_cuts hd hmark))

/-- The second string and the second variable are left out. Behind two marks, where one of them is
not counted, the range of the string starts within a character. -/
theorem candidates_eq_firsts_repeated :
    let input := "var a;function f()\x7bvar a=\"k\";g(\"k\")\x7d".toList
    (∃ d, (Document.read input).document = .ok d ∧ d.source.head? ≠ some byteOrderMark
      ∧ (∀ lit ∈ (d.stmts.flatMap Stmt.reached).flatMap Stmt.quotedStrings,
        lit.span.Cuts d.source)
      ∧ d.candidates? = some ⟨[⟨['f'], .function, ⟨15, 16⟩⟩], [⟨['a'], .variable, ⟨4, 5⟩⟩],
        [⟨"\"k\"".toList, [107], ⟨25, 28⟩⟩]⟩)
      ∧ (Document.read "\uFEFF\uFEFFf(\"a\");".toList).document.toOption.map Document.candidates?
        = some none := by
  intro input
  have hread : (Document.read input).document.toOption.map (fun d => (d.source, d.candidates?))
      = some (input, some ⟨[⟨['f'], .function, ⟨15, 16⟩⟩], [⟨['a'], .variable, ⟨4, 5⟩⟩],
        [⟨"\"k\"".toList, [107], ⟨25, 28⟩⟩]⟩) := by
    decide +kernel
  obtain ⟨d, hd, h⟩ := exists_of_toOption_map hread
  obtain ⟨hs, hc⟩ : d.source = input ∧ d.candidates? = _ := by
    simpa only [Prod.mk.injEq] using h
  have hmark : d.source.head? ≠ some byteOrderMark := by
    rw [hs]
    decide
  exact ⟨⟨d, hd, hmark, (candidates_eq_firsts d).2 input hd hmark, hc⟩, by decide +kernel⟩

end ScriptVeil.Script
