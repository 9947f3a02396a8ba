import ScriptVeil.Proofs.Masking.Ranged
import ScriptVeil.Proofs.Masking.RenameMap

namespace ScriptVeil

def Candidates.names (c : Candidates) : List Text :=
  (c.declarations.map Declaration.name).eraseDups

namespace Masking

variable {σ : Type} {source : Mask.Source σ} {s s' : σ} {attempts : Nat} {c : Candidates}
  {renames : List Rename} {ds vars : List Declaration} {masks : List Text}

theorem plan_eq_some_iff :
    plan source c.declarations s attempts = some (renames, s')
      ↔ ∃ masks, source.masks attempts (c.names.map List.length) s = some (masks, s')
        ∧ renames
          = longestFirst ((firstsBy Declaration.name c.declarations).zipWith renamed masks) := by
  have hl : c.names.map List.length
      = (firstsBy Declaration.name c.declarations).map fun d => d.name.length := by
    rw [Candidates.names, ← map_firstsBy, List.map_map]
    rfl
  rw [plan, drawRenames_eq, ← hl]
  constructor
  · intro h
    obtain ⟨⟨drawn, s₁⟩, hdrawn, h⟩ := Option.bind_eq_some_iff.1 h
    obtain ⟨⟨masks, s₂⟩, hmasks, he⟩ := Option.map_eq_some_iff.1 hdrawn
    obtain ⟨rfl, rfl⟩ := Prod.mk.inj he
    obtain ⟨rfl, rfl⟩ := Prod.mk.inj (Option.some.inj h)
    exact ⟨masks, hmasks, rfl⟩
  · rintro ⟨masks, hmasks, rfl⟩
    rw [hmasks]
    rfl

theorem zipWith_renamed (ds : List Declaration) (masks : List Text) :
    ds.zipWith renamed masks = (ds.zip masks).map fun p => renamed p.1 p.2 := by
  rw [List.map_zip_eq_zipWith]
  rfl

theorem map_name_zipWith_renamed (hl : ds.length = masks.length) :
    (ds.zipWith renamed masks).map Rename.name = ds.map Declaration.name := by
  calc
    (ds.zipWith renamed masks).map Rename.name
      = ((ds.zip masks).map Prod.fst).map Declaration.name := by
        rw [zipWith_renamed, List.map_map, List.map_map]
        rfl
    _ = ds.map Declaration.name := by rw [List.map_fst_zip hl.le]

/-- After sorting, each name still has the mask that was drawn for it. -/
theorem forall₂_maskOf (hd : ds.Pairwise fun d e => e.name ≠ d.name)
    (hl : ds.length = masks.length) :
    List.Forall₂ (fun n mask => maskOf (longestFirst (ds.zipWith renamed masks)) n = some mask)
      (ds.map Declaration.name) masks := by
  have hperm : (longestFirst (ds.zipWith renamed masks)).Perm (ds.zipWith renamed masks) :=
    List.mergeSort_perm _ _
  have hnames : (longestFirst (ds.zipWith renamed masks)).Pairwise fun r s => r.name ≠ s.name := by
    apply hperm.symm.pairwise _ fun h => h.symm
    rw [← List.pairwise_map, map_name_zipWith_renamed hl, List.pairwise_map]
    exact hd.imp Ne.symm
  rw [List.forall₂_map_left_iff, List.forall₂_iff_zip]
  refine ⟨hl, fun {d mask} hmem => (maskOf_eq_some_iff hnames).2 ?_⟩
  refine ⟨renamed d mask, hperm.mem_iff.2 ?_, rfl, rfl⟩
  rw [zipWith_renamed]
  exact List.mem_map_of_mem hmem

theorem masks_of_plan (h : plan source c.declarations s attempts = some (renames, s')) :
    ∃ masks, source.masks attempts (c.names.map List.length) s = some (masks, s')
      ∧ List.Forall₂ (fun n mask => maskOf renames n = some mask) c.names masks := by
  obtain ⟨masks, hmasks, rfl⟩ := plan_eq_some_iff.1 h
  have hl : c.names.length = masks.length := by
    rw [← (Mask.masks_spec hmasks).length_eq, List.length_map]
  rw [Candidates.names, ← map_firstsBy, List.length_map] at hl
  refine ⟨masks, hmasks, ?_⟩
  rw [Candidates.names, ← map_firstsBy]
  exact forall₂_maskOf firstsBy_pairwise hl

theorem filter_longestFirst {l : List Rename} (rank : Text → Nat)
    (h : (l.map Rename.name).Pairwise fun a b => rank a < rank b) (p : Rename → Bool) :
    (longestFirst l).filter p = longestFirst (l.filter p) := by
  have hl := List.pairwise_map.1 h
  have hperm : ((longestFirst l).filter p).Perm (longestFirst (l.filter p)) :=
    ((List.mergeSort_perm _ _).filter p).trans (List.mergeSort_perm _ _).symm
  apply hperm.eq_of_pairwise _ ((pairwise_mergeSort_size _ hl).filter p)
    (pairwise_mergeSort_size _ (hl.filter p))
  intro a b _ _ hab hba
  omega

theorem filter_longestFirst_append {l m : List Rename} {names : List Text} (rank : Text → Nat)
    (h : ((l ++ m).map Rename.name).Pairwise fun a b => rank a < rank b)
    (hl : l.map Rename.name = names) (hm : ∀ n ∈ m.map Rename.name, n ∉ names) :
    (longestFirst (l ++ m)).filter (fun r => r.name ∈ names) = longestFirst l := by
  have hkept : l.filter (fun r => r.name ∈ names) = l := by
    apply List.filter_eq_self.2
    intro r hr
    exact decide_eq_true (hl ▸ List.mem_map_of_mem hr)
  have hleft : m.filter (fun r => r.name ∈ names) = [] := by
    apply List.filter_eq_nil_iff.2
    intro r hr
    exact mt of_decide_eq_true (hm r.name (List.mem_map_of_mem hr))
  rw [filter_longestFirst rank h, List.filter_append, hkept, hleft, List.append_nil]

theorem exists_new_names (c : Candidates) (vars : List Declaration) :
    ∃ new, firstsBy Declaration.name (c.declarations ++ vars)
        = firstsBy Declaration.name c.declarations ++ new
      ∧ ∀ n ∈ new.map Declaration.name, n ∉ c.names := by
  refine ⟨_, firstsBy_append _ _, List.forall_mem_map.2 fun d hd => ?_⟩
  rw [Candidates.names, List.mem_eraseDups]
  simpa using (List.mem_filter.1 hd).2

theorem plan_append
    (h : plan source { c with vars := c.vars ++ vars }.declarations s attempts
      = some (renames, s')) :
    ∃ s₁, plan source c.declarations s attempts
      = some (renames.filter fun r => r.name ∈ c.names, s₁) := by
  have hdecl : { c with vars := c.vars ++ vars }.declarations = c.declarations ++ vars :=
    (List.append_assoc _ _ _).symm
  have hold : (firstsBy Declaration.name c.declarations).map Declaration.name = c.names :=
    map_firstsBy _
  obtain ⟨new, hfirsts, hnew⟩ := exists_new_names c vars
  obtain ⟨masks, hmasks, rfl⟩ := plan_eq_some_iff.1 h
  rw [Candidates.names, hdecl, ← map_firstsBy, hfirsts, List.map_append, List.map_append]
    at hmasks
  -- The old names come first, so their masks are drawn from the same state as in the smaller plan.
  obtain ⟨front, s₁, rest, hfront, hrest, rfl⟩ := Mask.masks_append.1 hmasks
  have hlen := (Mask.masks_spec hfront).length_eq
  have hlen' := (Mask.masks_spec hrest).length_eq
  rw [List.length_map, List.length_map] at hlen hlen'
  have hnames := map_name_zipWith_renamed hlen
  have hnames' := map_name_zipWith_renamed hlen'
  have hall : ((firstsBy Declaration.name c.declarations).zipWith renamed front
      ++ new.zipWith renamed rest).map Rename.name
      = (firstsBy Declaration.name (c.declarations ++ vars)).map Declaration.name := by
    rw [hfirsts, List.map_append, List.map_append, hnames, hnames']
  rw [hdecl, hfirsts, List.zipWith_append hlen]
  refine ⟨s₁, plan_eq_some_iff.2 ⟨front, hold ▸ hfront, ?_⟩⟩
  apply filter_longestFirst_append (((c.declarations ++ vars).map Declaration.name).idxOf ·) _
    (hnames.trans hold) (hnames' ▸ hnew)
  rw [hall, List.pairwise_map]
  exact firstsBy_pairwise_idxOf _

/-- From the same state, declared names whose lengths agree one by one get the same masks one by
one. More variables behind the others leave the plan of the names that were there as it is, and the
new names take their places between them. -/
theorem plan_stable (source : Mask.Source σ) (attempts : Nat) (s : σ) (c : Candidates) :
    (∀ d : Candidates, d.names.map List.length = c.names.map List.length →
      ∀ renames s', plan source c.declarations s attempts = some (renames, s') →
        ∃ renames' masks, plan source d.declarations s attempts = some (renames', s')
          ∧ List.Forall₂ (fun n mask => maskOf renames n = some mask) c.names masks
          ∧ List.Forall₂ (fun n mask => maskOf renames' n = some mask) d.names masks)
      ∧ ∀ vars renames s',
        plan source { c with vars := c.vars ++ vars }.declarations s attempts
            = some (renames, s') →
          ∃ s₁, plan source c.declarations s attempts
            = some (renames.filter fun r => r.name ∈ c.names, s₁) := by
  constructor
  · intro d hd renames s' h
    obtain ⟨masks, hmasks, hc⟩ := masks_of_plan h
    have hplan := plan_eq_some_iff.2 ⟨masks, hd ▸ hmasks, rfl⟩
    obtain ⟨masks', hmasks', hd'⟩ := masks_of_plan hplan
    rw [hd, hmasks] at hmasks'
    obtain ⟨rfl, -⟩ := Prod.mk.inj (Option.some.inj hmasks')
    exact ⟨_, masks, hplan, hc, hd'⟩
  · intro vars renames s' h
    exact plan_append h

/-- A reserved word is drawn on the way. Of the variables that are added, one has a name that was
there and one comes first in the longer map. -/
theorem plan_stable_added :
    let source : Mask.Source Text :=
      ⟨fun t => do return (← Mask.alphabet.finIdxOf? (← t.head?), t.tail)⟩
    let draws := "ifefghijk".toList
    let c : Candidates :=
      ⟨[⟨"ab".toList, .function, ⟨9, 11⟩⟩], [⟨"x".toList, .variable, ⟨20, 21⟩⟩], []⟩
    let d : Candidates :=
      ⟨[], [⟨"éé".toList, .variable, ⟨4, 8⟩⟩, ⟨"y".toList, .variable, ⟨14, 15⟩⟩], []⟩
    let vars : List Declaration :=
      [⟨"ab".toList, .variable, ⟨27, 29⟩⟩, ⟨"abc".toList, .variable, ⟨35, 38⟩⟩]
    let renames : List Rename :=
      [⟨"ab".toList, "ef".toList, .function⟩, ⟨"x".toList, "g".toList, .variable⟩]
    let longer : List Rename := ⟨"abc".toList, "hij".toList, .variable⟩ :: renames
    d.names.map List.length = c.names.map List.length
      ∧ plan source c.declarations draws = some (renames, "hijk".toList)
      ∧ plan source { c with vars := c.vars ++ vars }.declarations draws = some (longer, ['k'])
      ∧ (∃ renames' masks, plan source d.declarations draws = some (renames', "hijk".toList)
        ∧ List.Forall₂ (fun n mask => maskOf renames n = some mask) c.names masks
        ∧ List.Forall₂ (fun n mask => maskOf renames' n = some mask) d.names masks)
      ∧ ∃ s₁, plan source c.declarations draws
        = some (longer.filter fun r => r.name ∈ c.names, s₁) := by
  intro source draws c d vars renames longer
  have hsame : d.names.map List.length = c.names.map List.length := by decide +kernel
  have hsorted : longestFirst renames = renames := by
    simp [renames, longestFirst, List.mergeSort, List.MergeSort.Internal.splitInTwo]
  have hlonger : longestFirst (renames ++ [⟨"abc".toList, "hij".toList, .variable⟩]) = longer := by
    simp [renames, longer, longestFirst, List.mergeSort, List.MergeSort.Internal.splitInTwo]
  have hplan : plan source c.declarations draws = some (renames, "hijk".toList) := by
    rw [← hsorted]
    exact plan_eq_some_iff.2 ⟨["ef".toList, "g".toList], by decide +kernel, rfl⟩
  have hplan' : plan source { c with vars := c.vars ++ vars }.declarations draws
      = some (longer, ['k']) := by
    rw [← hlonger]
    exact plan_eq_some_iff.2 ⟨["ef".toList, "g".toList, "hij".toList], by decide +kernel, rfl⟩
  obtain ⟨hlengths, hadded⟩ := plan_stable source Mask.attemptLimit draws c
  exact ⟨hsame, hplan, hplan', hlengths d hsame _ _ hplan, hadded vars _ _ hplan'⟩

end Masking

end ScriptVeil
