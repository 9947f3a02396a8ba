import ScriptVeil.Proofs.Masking.Ranged
import ScriptVeil.Proofs.Script.Finding

namespace ScriptVeil

open Script

namespace Masking

variable {source : Text} {sites : List Site} {renames : List Rename} {literals : List Quotation}
  {d : Document} {s : Site} {e : Edit}

theorem span_editAt (h : editAt source renames literals s = some e) : e.span = s.span := by
  cases s <;>
  · obtain ⟨t, -, rfl⟩ := Option.map_eq_some_iff.1 h
    rfl

theorem editsAt_filter_span (hd : sites.Pairwise fun s t => s.span ≠ t.span) (hs : s ∈ sites)
    (he : editAt source renames literals s = some e) :
    (editsAt source sites renames literals).filter (fun f => f.span = s.span) = [e] := by
  induction sites with
  | nil => contradiction
  | cons t sites ih =>
    have hne : ∀ u ∈ sites, t.span ≠ u.span := fun u hu => List.rel_of_pairwise_cons hd hu
    rcases List.mem_cons.1 hs with rfl | hs
    · have hrest : (editsAt source sites renames literals).filter (fun f => f.span = s.span)
          = [] := by
        apply List.filter_eq_nil_iff.2
        intro f hf hspan
        obtain ⟨u, hu, hf⟩ := List.mem_filterMap.1 hf
        exact hne u hu ((of_decide_eq_true hspan).symm.trans (span_editAt hf))
      rw [editsAt, List.filterMap_cons_some he, List.filter_cons_of_pos (by simp [span_editAt he])]
      exact congrArg (e :: ·) hrest
    · rw [editsAt]
      cases hf : editAt source renames literals t with
      | none =>
        rw [List.filterMap_cons_none hf]
        exact ih hd.tail hs
      | some f =>
        have hspan : f.span ≠ s.span := by
          rw [span_editAt hf]
          exact hne s hs
        rw [List.filterMap_cons_some hf, List.filter_cons_of_neg (by simpa using hspan)]
        exact ih hd.tail hs

/-- With one rename for each name that was collected, a declared name is replaced at its place by
its mask alone, and a literal by the code of its units; nothing else is put there. The ranges of the
places have to differ, as ranges do that are disjoint and not empty, and the strings must be there
to be cut out of the source. -/
theorem editsAt_candidates (hc : ∀ s ∈ d.sites, s.Cuts d.source)
    (hd : d.sites.Pairwise fun s t => s.span ≠ t.span)
    (hn : renames.Pairwise fun r s => r.name ≠ s.name)
    (hr : ∀ c ∈ d.candidates.declarations, ∃ r ∈ renames, r.name = c.name) :
    d.candidates? = some d.candidates
      ∧ ∃ edits, editsAt? d.source d.sites renames d.candidates.literals = some edits
        ∧ (∀ c ∈ d.candidates.declarations, ∃ r ∈ renames, r.name = c.name
          ∧ edits.filter (fun e => e.span = c.span) = [⟨c.span, r.mask⟩])
        ∧ ∀ q ∈ d.candidates.literals,
          edits.filter (fun e => e.span = q.span) = [⟨q.span, Literal.encode q.units⟩] := by
  refine ⟨Document.candidates?_eq_some (Document.cuts_of_sites hc), _, editsAt?_eq_some hc, ?_, ?_⟩
  · intro c hc
    obtain ⟨r, hmem, hname⟩ := hr c hc
    obtain ⟨id, hid, hcid, hspan⟩ := Document.exists_reference_of_mem_declarations hc
    have hmask : maskOf renames id.name = some r.mask :=
      (maskOf_eq_some_iff hn).2 ⟨r, hmem, hname.trans hcid, rfl⟩
    refine ⟨r, hmem, hname, ?_⟩
    rw [hspan]
    exact editsAt_filter_span hd hid (by rw [editAt, hmask]; rfl)
  · intro q hq
    obtain ⟨lit, hlit, hqlit⟩ := Document.exists_string_of_mem_literals hq
    have hraws : d.candidates.literals.Pairwise fun p q => p.raw ≠ q.raw :=
      Document.literals_pairwise
    have hcode : encodingOf d.candidates.literals (d.source.slice lit.span)
        = some (Literal.encode q.units) := by
      have hraw : d.source.slice lit.span = q.raw := by rw [hqlit]; rfl
      rw [hraw]
      exact encodingOf_raw hraws hq
    have hspan : q.span = lit.span := by rw [hqlit]; rfl
    rw [hspan]
    exact editsAt_filter_span hd hlit (by rw [editAt, hcode]; rfl)

/-- The shorthand and the second literal of the call are replaced as well, at ranges of their
own. -/
theorem editsAt_candidates_branches :
    let renames : List Rename := [⟨['a'], ['p'], .variable⟩]
    let d : Document := ⟨false, "if(x)var a=\"k\";else f(\x7ba\x7d,\"k\")".toList, [⟨⟨0, 30⟩,
      .ifElse (.name ⟨['x'], ⟨3, 4⟩⟩)
        (.vars [.withDefault (.name ⟨['a'], ⟨9, 10⟩⟩) (.string ⟨['k'], ⟨11, 14⟩⟩)])
        (.expr (.call (.name ⟨['f'], ⟨20, 21⟩⟩)
          [.object 22 [.shorthand ⟨['a'], ⟨23, 24⟩⟩] none, .string ⟨['k'], ⟨26, 29⟩⟩]))⟩]⟩
    (Document.read d.source).document.toOption.map Document.sites = some d.sites
      ∧ (∀ s ∈ d.sites, s.Cuts d.source)
      ∧ (d.sites.Pairwise fun s t => s.span ≠ t.span)
      ∧ (∀ c ∈ d.candidates.declarations, ∃ r ∈ renames, r.name = c.name)
      ∧ d.candidates.declarations = [⟨['a'], .variable, ⟨9, 10⟩⟩]
      ∧ d.candidates.literals = [⟨"\"k\"".toList, [107], ⟨11, 14⟩⟩]
      ∧ ∃ edits, editsAt? d.source d.sites renames d.candidates.literals = some edits
        ∧ edits.filter (fun e => e.span = ⟨9, 10⟩) = [⟨⟨9, 10⟩, ['p']⟩]
        ∧ edits.filter (fun e => e.span = ⟨11, 14⟩) = [⟨⟨11, 14⟩, Literal.encode [107]⟩] := by
  intro renames d
  have hcuts : ∀ s ∈ d.sites, s.Cuts d.source := by decide +kernel
  have hs : d.sites.Pairwise fun s t => s.span ≠ t.span := by decide +kernel
  have hc : d.candidates.declarations = [⟨['a'], .variable, ⟨9, 10⟩⟩] := by decide +kernel
  have hl : d.candidates.literals = [⟨"\"k\"".toList, [107], ⟨11, 14⟩⟩] := by decide +kernel
  have hn : renames.Pairwise fun r s => r.name ≠ s.name := by decide
  have hr : ∀ c ∈ d.candidates.declarations, ∃ r ∈ renames, r.name = c.name := by
    rw [hc]
    decide
  obtain ⟨-, edits, hedits, hnames, hliterals⟩ := editsAt_candidates hcuts hs hn hr
  obtain ⟨r, hmem, -, hname⟩ := hnames ⟨['a'], .variable, ⟨9, 10⟩⟩ (by rw [hc]; decide)
  obtain rfl := List.mem_singleton.1 hmem
  have hcode := hliterals ⟨"\"k\"".toList, [107], ⟨11, 14⟩⟩ (by rw [hl]; decide)
  exact ⟨by decide +kernel, hcuts, hs, hr, hc, hl, edits, hedits, hname, hcode⟩

end Masking

end ScriptVeil
