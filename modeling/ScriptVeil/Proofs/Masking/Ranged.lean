import ScriptVeil.Masking.Strategy
import ScriptVeil.Proofs.Candidate
import ScriptVeil.Proofs.Masking.Splice
import ScriptVeil.Proofs.Script.Node

namespace ScriptVeil.Masking

open Script

def lastRename (renames : List Rename) (name : Text) : Option Rename :=
  (renames.filter fun r => r.name = name).getLast?

def lastQuotation (literals : List Quotation) (raw : Text) : Option Quotation :=
  (literals.filter fun q => q.raw = raw).getLast?

/-- What takes the place of a word or string of a tree, if it is masked. Of a shorthand the property
keeps its name; the names of members stay as they are. -/
def newText? (source : Text) (renames : List Rename) (literals : List Quotation) :
    Leaf → Option Text
  | .site (.reference id) => (lastRename renames id.name).map Rename.mask
  | .site (.shorthand id) =>
    (lastRename renames id.name).map fun r => id.name ++ ": ".toList ++ r.mask
  | .site (.string lit) =>
    (lastQuotation literals (source.slice lit.span)).map fun q => Literal.encode q.units
  | .keyWord _ | .keyString _ | .privateWord _ => none

def maskedEdit (source : Text) (renames : List Rename) (literals : List Quotation) (l : Leaf) :
    Edit :=
  ⟨l.span, (newText? source renames literals l).getD (source.slice l.span)⟩

variable {source : Text} {renames : List Rename} {literals : List Quotation} {d : Document}

theorem maskOf_eq (renames : List Rename) (name : Text) :
    maskOf renames name = (lastRename renames name).map Rename.mask := by
  rw [maskOf, lastRename, ← List.head?_filter, List.filter_reverse, List.head?_reverse]

theorem encodingOf_eq (literals : List Quotation) (raw : Text) :
    encodingOf literals raw = (lastQuotation literals raw).map fun q => Literal.encode q.units := by
  rw [encodingOf, lastQuotation, ← List.head?_filter, List.filter_reverse, List.head?_reverse]

theorem maskOf_eq_some_iff {name mask : Text}
    (h : renames.Pairwise fun r s => r.name ≠ s.name) :
    maskOf renames name = some mask ↔ ∃ r ∈ renames, r.name = name ∧ r.mask = mask := by
  have h' : renames.reverse.Pairwise fun r s => r.name ≠ s.name :=
    List.pairwise_reverse.2 (h.imp Ne.symm)
  rw [maskOf, Option.map_eq_some_iff]
  simp only [find?_key_eq_some_iff h', List.mem_reverse, and_assoc]

theorem encodingOf_raw {q : Quotation} (h : literals.Pairwise fun p q => p.raw ≠ q.raw)
    (hq : q ∈ literals) : encodingOf literals q.raw = some (Literal.encode q.units) := by
  have h' : literals.reverse.Pairwise fun p q => p.raw ≠ q.raw :=
    List.pairwise_reverse.2 (h.imp Ne.symm)
  rw [encodingOf, (find?_key_eq_some_iff h').2 ⟨List.mem_reverse.2 hq, rfl⟩]
  rfl

theorem mapM_editAt? (source : Text) (sites : List Site) (renames : List Rename)
    (literals : List Quotation) :
    sites.mapM (editAt? source renames literals)
      = if ∀ s ∈ sites, s.Cuts source then some (sites.map (editAt source renames literals))
        else none := by
  induction sites with
  | nil => rfl
  | cons s sites ih =>
    rw [List.mapM_cons, ih, editAt?]
    simp only [List.forall_mem_cons]
    by_cases hs : s.Cuts source
    · by_cases hsites : ∀ s ∈ sites, s.Cuts source
      · rw [if_pos hs, if_pos hsites, if_pos ⟨hs, hsites⟩]
        rfl
      · rw [if_pos hs, if_neg hsites, if_neg (mt And.right hsites)]
        rfl
    · rw [if_neg hs, if_neg (mt And.left hs)]
      rfl

theorem editsAt?_eq (source : Text) (sites : List Site) (renames : List Rename)
    (literals : List Quotation) :
    editsAt? source sites renames literals
      = if ∀ s ∈ sites, s.Cuts source then some (editsAt source sites renames literals)
        else none := by
  rw [editsAt?, mapM_editAt?]
  split
  · rw [Option.map_some, List.filterMap_map]
    rfl
  · rfl

theorem editsAt?_eq_some {sites : List Site} (h : ∀ s ∈ sites, s.Cuts source) :
    editsAt? source sites renames literals = some (editsAt source sites renames literals) := by
  rw [editsAt?_eq, if_pos h]

theorem ranged?_eq_some {sites : List Site} (h : ∀ s ∈ sites, s.Cuts source)
    (hw : ∀ e ∈ editsAt source sites renames literals, e.span.Within source)
    (hd : (editsAt source sites renames literals).Pairwise fun e f => e.span.Apart f.span) :
    ranged? source sites renames literals = some (ranged source sites renames literals) := by
  rw [ranged?, editsAt?_eq_some h, Option.bind_some, applyEdits?_eq_some hw hd, ranged]

/-- A run is not broken off where the strings of the tree can be cut out and no two edits overlap. -/
theorem run?_eq_some (strategy : Strategy) (h : ∀ s ∈ d.sites, s.Cuts d.source)
    (hw : ∀ e ∈ editsAt d.source d.sites renames literals, e.span.Within d.source)
    (hd : (editsAt d.source d.sites renames literals).Pairwise fun e f => e.span.Apart f.span) :
    Masking.run? strategy d renames literals = some (Masking.run strategy d renames literals) := by
  cases strategy with
  | textual => rfl
  | ranged =>
    rw [Masking.run?, ranged?_eq_some h hw hd]
    rfl

theorem editAt_site? (l : Leaf) :
    l.site?.bind (editAt source renames literals)
      = (newText? source renames literals l).map fun t => ⟨l.span, t⟩ := by
  rcases l with (id | id | lit) | id | lit | id
  case site.reference =>
    rw [Leaf.site?, Option.bind_some, editAt, maskOf_eq]
    rfl
  case site.shorthand =>
    rw [Leaf.site?, Option.bind_some, editAt, maskOf_eq, newText?, Option.map_map, Option.map_map]
    rfl
  case site.string =>
    rw [Leaf.site?, Option.bind_some, editAt, encodingOf_eq]
    rfl
  all_goals rfl

theorem editsAt_eq (d : Document) :
    editsAt d.source d.sites renames literals
      = d.leaves.filterMap fun l =>
        (newText? d.source renames literals l).map fun t => ⟨l.span, t⟩ := by
  rw [editsAt, d.sites_eq, List.filterMap_filterMap]
  exact List.filterMap_congr fun l _ => editAt_site? l

theorem eq_maskedEdit {l : Leaf} {e : Edit}
    (h : (newText? source renames literals l).map (fun t => Edit.mk l.span t) = some e) :
    e = maskedEdit source renames literals l := by
  obtain ⟨t, ht, rfl⟩ := Option.map_eq_some_iff.1 h
  rw [maskedEdit, ht]
  rfl

theorem text_maskedEdit {l : Leaf}
    (h : (newText? source renames literals l).map (fun t => Edit.mk l.span t) = none) :
    (maskedEdit source renames literals l).text = source.slice l.span := by
  rw [maskedEdit, Option.map_eq_none_iff.1 h]
  rfl

theorem cuts_of_leaves (h : ∀ l ∈ d.leaves, l.span.Within d.source) :
    ∀ s ∈ d.sites, s.Cuts d.source := by
  intro s hs
  rw [d.sites_eq] at hs
  obtain ⟨l, hl, hls⟩ := List.mem_filterMap.1 hs
  cases l with
  | site s =>
    obtain rfl := Option.some.inj hls
    cases s with
    | reference id | shorthand id => trivial
    | string lit => exact (h _ hl).cuts
  | _ => contradiction

/-- Masking by position. No two edits touch the same word or string. With the words and strings of
the tree in the order of the text, the result is that text with all of them put in place. -/
theorem ranged_eq_weave (hw : ∀ l ∈ d.leaves, l.span.Within d.source)
    (hd : d.leaves.Pairwise fun l m => l.span.Apart m.span) :
    ((editsAt d.source d.sites renames literals).Pairwise fun e f => e.span.Apart f.span)
      ∧ ranged? d.source d.sites renames literals
        = some (ranged d.source d.sites renames literals)
      ∧ ∃ ls : List Leaf, ls.Perm d.leaves ∧ (ls.Pairwise fun l m => l.span.Before m.span)
        ∧ ranged d.source d.sites renames literals
          = weave d.source 0 (ls.map (maskedEdit d.source renames literals)) := by
  obtain ⟨ls, hp, hb⟩ := exists_pairwise_before (fun l hl => (hw l hl).start_lt_stop) hd
  have ho : Ordered d.source (ls.map (maskedEdit d.source renames literals)) := by
    refine ⟨fun e he => ?_, List.pairwise_map.2 hb⟩
    obtain ⟨l, hl, rfl⟩ := List.mem_map.1 he
    exact hw l (hp.mem_iff.1 hl)
  have hs := ho.sublist (filterMap_sublist_map fun l _ e he => eq_maskedEdit he)
  have he := hp.filterMap fun l =>
    (newText? d.source renames literals l).map fun t => Edit.mk l.span t
  rw [← editsAt_eq] at he
  have hapart : (editsAt d.source d.sites renames literals).Pairwise
      fun e f => e.span.Apart f.span := he.pairwise hs.apart fun h => h.symm
  have hwithin : ∀ e ∈ editsAt d.source d.sites renames literals, e.span.Within d.source :=
    fun e hmem => hs.within e (he.mem_iff.2 hmem)
  refine ⟨hapart, ranged?_eq_some (cuts_of_leaves hw) hwithin hapart, ls, hp, hb, ?_⟩
  rw [ranged, applyEdits_eq_weave hs he]
  exact weave_filterMap (fun l _ e he => eq_maskedEdit he) (fun l _ he => text_maskedEdit he) ho
    (Text.isBoundary_zero _) fun _ _ => Nat.zero_le _

/-- Members and keys keep their names, a shorthand spells its own out, and the later rename of a
name counts. -/
theorem ranged_eq_weave_object :
    let renames : List Rename := [⟨['a'], ['p'], .variable⟩, ⟨['a'], ['q'], .variable⟩]
    let literals : List Quotation := [⟨"'k'".toList, [107], ⟨6, 9⟩⟩]
    let d : Document := ⟨false, "g(\x7ba, 'k': a.a\x7d, 'k')".toList, [⟨⟨0, 21⟩,
      .expr (.call (.name ⟨['g'], ⟨0, 1⟩⟩) [.object 2 [.shorthand ⟨['a'], ⟨3, 4⟩⟩,
        .pair 6 (.string ⟨['k'], ⟨6, 9⟩⟩)
          (.member (.name ⟨['a'], ⟨11, 12⟩⟩) (.word ⟨['a'], ⟨13, 14⟩⟩))] none,
        .string ⟨['k'], ⟨17, 20⟩⟩])⟩]⟩
    (Document.read d.source).document.toOption.map Document.leaves = some d.leaves
      ∧ (∀ l ∈ d.leaves, l.span.Within d.source)
      ∧ (d.leaves.Pairwise fun l m => l.span.Apart m.span)
      ∧ ((editsAt d.source d.sites renames literals).Pairwise fun e f => e.span.Apart f.span)
      ∧ ranged d.source d.sites renames literals
        = "g(\x7ba: q, 'k': q.a\x7d, String.fromCharCode.apply(null, [107]))".toList := by
  intro renames literals d
  have hw : ∀ l ∈ d.leaves, l.span.Within d.source := by decide +kernel
  have ha : d.leaves.Pairwise fun l m => l.span.Apart m.span := by decide +kernel
  have ho : Ordered d.source (editsAt d.source d.sites renames literals) :=
    ⟨by decide +kernel, by decide +kernel⟩
  exact ⟨by decide +kernel, hw, ha, (ranged_eq_weave hw ha).1,
    (applyEdits_eq_weave ho (.refl _)).trans (by decide +kernel)⟩

end ScriptVeil.Masking
