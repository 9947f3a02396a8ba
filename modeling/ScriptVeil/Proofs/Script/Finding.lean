import ScriptVeil.Proofs.Candidate
import ScriptVeil.Proofs.Script.Parse

namespace ScriptVeil.Script

def Finding.declaration? (category : Category) : Finding → Option Declaration
  | .declared c id => if c = category then some ⟨id.name, c, id.span⟩ else none
  | .quoted _ => none

def Finding.quotation? (source : Text) : Finding → Option Quotation
  | .declared _ _ => none
  | .quoted lit => some (lit.quotation source)

def Finding.site : Finding → Site
  | .declared _ id => .reference id
  | .quoted lit => .string lit

structure Collector.Of (source : Text) (fs : List Finding) (c : Collector) : Prop where
  functions : c.functions.Of Declaration.name (fs.filterMap (Finding.declaration? .function))
  vars : c.vars.Of Declaration.name (fs.filterMap (Finding.declaration? .variable))
  literals : c.literals.Of Quotation.raw (fs.filterMap (Finding.quotation? source))

namespace Collector.Of

variable {source : Text} {fs : List Finding} {c : Collector}

theorem nil : Collector.Of source [] .empty :=
  ⟨.nil, .nil, .nil⟩

theorem add (h : Collector.Of source fs c) (f : Finding) :
    Collector.Of source (fs ++ [f]) (c.add source f) := by
  constructor
  case functions =>
    rw [List.filterMap_append]
    match f with
    | .declared .function id => exact h.functions.insert _
    | .declared .variable _ | .quoted _ => exact h.functions.append_nil
  case vars =>
    rw [List.filterMap_append]
    match f with
    | .declared .variable id => exact h.vars.insert _
    | .declared .function _ | .quoted _ => exact h.vars.append_nil
  case literals =>
    rw [List.filterMap_append]
    match f with
    | .quoted lit => exact h.literals.insert _
    | .declared .function _ | .declared .variable _ => exact h.literals.append_nil

theorem foldl (h : Collector.Of source fs c) (fs' : List Finding) :
    Collector.Of source (fs ++ fs') (fs'.foldl (Collector.add source) c) := by
  induction fs' generalizing fs c with
  | nil => rwa [List.append_nil]
  | cons f fs' ih =>
    have hf := ih (h.add f)
    rwa [List.append_assoc] at hf

end Collector.Of

theorem candidatesOf_eq (source : Text) (fs : List Finding) :
    candidatesOf source fs =
      { functions := firstsBy Declaration.name (fs.filterMap (Finding.declaration? .function))
        vars := firstsBy Declaration.name (fs.filterMap (Finding.declaration? .variable))
        literals := firstsBy Quotation.raw (fs.filterMap (Finding.quotation? source)) } := by
  have h : Collector.Of source fs (fs.foldl (Collector.add source) .empty) :=
    Collector.Of.nil.foldl fs
  rw [candidatesOf, Collector.candidates, h.functions.elements_eq, h.vars.elements_eq,
    h.literals.elements_eq]

/-- Collecting is broken off just if the text of a quotation cannot be cut out. -/
theorem candidatesOf?_eq (source : Text) (fs : List Finding) :
    candidatesOf? source fs
      = if ∀ f ∈ fs, f.Cuts source then some (candidatesOf source fs) else none := by
  have hfold (c : Collector) : fs.foldlM (Collector.add? source) c
      = if ∀ f ∈ fs, f.Cuts source then some (fs.foldl (Collector.add source) c) else none := by
    induction fs generalizing c with
    | nil => rfl
    | cons f fs ih =>
      rw [List.foldlM_cons, Collector.add?]
      simp only [List.forall_mem_cons]
      by_cases hf : f.Cuts source
      · simp only [hf, true_and]
        exact ih (c.add source f)
      · rw [if_neg hf, if_neg fun h => hf h.1]
        rfl
  rw [candidatesOf?, hfold]
  split <;> rfl

theorem forall_cuts_iff {source : Text} {fs : List Finding} :
    (∀ f ∈ fs, f.Cuts source)
      ↔ ∀ q ∈ fs.filterMap (Finding.quotation? source), q.span.Cuts source := by
  simp only [List.mem_filterMap]
  constructor
  · rintro h q ⟨f, hf, hq⟩
    cases f with
    | declared category id => contradiction
    | quoted lit =>
      obtain rfl := Option.some.inj hq
      exact h _ hf
  · intro h f hf
    cases f with
    | declared category id => trivial
    | quoted lit => exact h (lit.quotation source) ⟨_, hf, rfl⟩

section

variable {f : Finding}

theorem site_mem_of_quotedArguments {args : List Expr} (h : f ∈ quotedArguments args) :
    f.site ∈ sitesOfExprs args := by
  obtain ⟨e, he, h⟩ := List.mem_filterMap.1 h
  rw [Node.sitesOfExprs_eq]
  refine List.mem_flatMap.2 ⟨.expr e, List.mem_map_of_mem he, ?_⟩
  split at h
  · cases h
    exact List.mem_singleton.2 rfl
  · contradiction

theorem site_mem_of_quotedInitial {e : Expr} (h : f ∈ quotedInitial e) : f.site ∈ e.sites := by
  unfold quotedInitial at h
  split at h
  · cases List.mem_singleton.1 h
    exact List.mem_singleton.2 rfl
  · exact List.mem_append_right _ (site_mem_of_quotedArguments h)
  · contradiction

theorem site_mem_of_declaredVariable {es : List Expr} (h : f ∈ declaredVariable es) :
    f.site ∈ sitesOfExprs es := by
  unfold declaredVariable at h
  split at h
  · cases List.mem_singleton.1 h
    exact List.mem_cons_self
  · next id value =>
    rw [sitesOfExprs, Expr.sites, sitesOfExprs, List.append_nil]
    rcases List.mem_cons.1 h with rfl | h
    · exact List.mem_cons_self
    · exact List.mem_append_right _ (site_mem_of_quotedInitial h)
  · contradiction

/-- Nothing is found that the traversal of the whole tree does not find as well. -/
theorem site_mem_of_findings_all :
    (∀ s : Stmt, ∀ f ∈ s.findings, f.site ∈ s.sites)
      ∧ ∀ ss, ∀ f ∈ findingsOfStmts ss, f.site ∈ sitesOfStmts ss := by
  apply Stmt.findings.mutual_induct
  case case1 =>
    intro callee args f h
    exact List.mem_append_right _ (site_mem_of_quotedArguments h)
  case case2 => exact fun declarators f h => site_mem_of_declaredVariable h
  case case3 =>
    intro name params body ih f h
    rw [Stmt.sites]
    rcases List.mem_cons.1 h with rfl | h
    · exact List.mem_cons_self
    · exact List.mem_cons_of_mem _ (List.mem_append_right _ (ih f h))
  case case17 =>
    intro value hv f h
    rw [Stmt.findings] at h
    · contradiction
    exact hv
  case case25 => exact fun f h => absurd h List.not_mem_nil
  all_goals
    intros
    simp only [Stmt.findings, findingsOfStmts, Stmt.sites, sitesOfStmts, List.mem_append,
      List.mem_cons, List.not_mem_nil] at *
  all_goals grind

end

namespace Document

variable {d : Document} {q : Quotation} {x : Declaration}

theorem exists_declared_of_mem_declarations (h : x ∈ d.candidates.declarations) :
    ∃ category id, .declared category id ∈ findingsOfStmts d.stmts
      ∧ x = ⟨id.name, category, id.span⟩ := by
  have hfinding {category : Category}
      (hx : x ∈ (findingsOfStmts d.stmts).filterMap (Finding.declaration? category)) :
      ∃ category id, .declared category id ∈ findingsOfStmts d.stmts
        ∧ x = ⟨id.name, category, id.span⟩ := by
    obtain ⟨f, hf, hx⟩ := List.mem_filterMap.1 hx
    cases f with
    | declared category' id =>
      obtain ⟨-, hx⟩ := Option.ite_none_right_eq_some.1 hx
      exact ⟨category', id, hf, (Option.some.inj hx).symm⟩
    | quoted lit => contradiction
  rw [candidates, candidatesOf_eq, Candidates.declarations] at h
  rcases List.mem_append.1 h with h | h
  · exact hfinding (firstsBy_subset h)
  · exact hfinding (firstsBy_subset h)

theorem exists_reference_of_mem_declarations (h : x ∈ d.candidates.declarations) :
    ∃ id, .reference id ∈ d.sites ∧ x.name = id.name ∧ x.span = id.span := by
  obtain ⟨category, id, hid, rfl⟩ := exists_declared_of_mem_declarations h
  exact ⟨id, site_mem_of_findings_all.2 _ _ hid, rfl, rfl⟩

theorem eq_of_mem_literals {q' : Quotation} (h : q ∈ d.candidates.literals)
    (h' : q' ∈ d.candidates.literals) (he : q.raw = q'.raw) : q = q' := by
  rw [candidates, candidatesOf_eq] at h h'
  exact eq_of_mem_firstsBy h h' he

theorem literals_pairwise : d.candidates.literals.Pairwise fun p q => p.raw ≠ q.raw := by
  rw [candidates, candidatesOf_eq]
  exact firstsBy_pairwise.imp Ne.symm

theorem exists_string_of_mem_literals (h : q ∈ d.candidates.literals) :
    ∃ lit, .string lit ∈ d.sites ∧ q = lit.quotation d.source := by
  rw [candidates, candidatesOf_eq] at h
  obtain ⟨f, hf, hq⟩ := List.mem_filterMap.1 (firstsBy_subset h)
  cases f with
  | declared category id => contradiction
  | quoted lit => exact ⟨lit, site_mem_of_findings_all.2 _ _ hf, (Option.some.inj hq).symm⟩

theorem candidates?_eq_some (h : ∀ f ∈ findingsOfStmts d.stmts, f.Cuts d.source) :
    d.candidates? = some d.candidates := by
  rw [candidates?, candidatesOf?_eq, if_pos h, candidates]

theorem cuts_of_sites (h : ∀ s ∈ d.sites, s.Cuts d.source) :
    ∀ f ∈ findingsOfStmts d.stmts, f.Cuts d.source := by
  intro f hf
  have hsite := h _ (site_mem_of_findings_all.2 _ _ hf)
  cases f with
  | declared category id => trivial
  | quoted lit => exact hsite

theorem cuts_of_literals_eq_nil (h : d.candidates.literals = []) :
    ∀ f ∈ findingsOfStmts d.stmts, f.Cuts d.source := by
  rw [candidates, candidatesOf_eq] at h
  rw [forall_cuts_iff, firstsBy_eq_nil h]
  exact List.forall_mem_nil _

theorem exists_of_mem_literals (h : q ∈ d.candidates.literals) :
    ∃ r ∈ literalSpans d.sites, q.raw = d.source.slice r := by
  obtain ⟨lit, hlit, rfl⟩ := exists_string_of_mem_literals h
  exact ⟨lit.span, List.mem_filterMap.2 ⟨.string lit, hlit, rfl⟩, rfl⟩

end Document

end ScriptVeil.Script
