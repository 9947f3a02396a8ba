import ScriptVeil.Proofs.Masking.Drawn

namespace ScriptVeil

def Mask.Source.masks {σ : Type} (source : Mask.Source σ) (attempts : Nat) :
    List Nat → σ → Option (List Text × σ)
  | [], s => some ([], s)
  | n :: ns, s => do
    let (mask, s) ← source.mask n attempts s
    let (rest, s) ← source.masks attempts ns s
    return (mask :: rest, s)

namespace Mask

variable {σ : Type} {source : Source σ} {s s' : σ} {attempts n : Nat} {ns ms : List Nat}
  {masks : List Text}

theorem masks_cons :
    source.masks attempts (n :: ns) s = some (masks, s')
      ↔ ∃ mask s₁ rest, source.mask n attempts s = some (mask, s₁)
        ∧ source.masks attempts ns s₁ = some (rest, s') ∧ masks = mask :: rest := by
  constructor
  · intro h
    obtain ⟨⟨mask, s₁⟩, hmask, h⟩ := Option.bind_eq_some_iff.1 h
    obtain ⟨⟨rest, s₂⟩, hrest, h⟩ := Option.bind_eq_some_iff.1 h
    obtain ⟨rfl, rfl⟩ := Prod.mk.inj (Option.some.inj h)
    exact ⟨mask, s₁, rest, hmask, hrest, rfl⟩
  · rintro ⟨mask, s₁, rest, hmask, hrest, rfl⟩
    simp only [Source.masks, hmask, hrest, Option.bind_eq_bind, Option.bind_some]
    rfl

theorem masks_spec (h : source.masks attempts ns s = some (masks, s')) :
    List.Forall₂ (fun n w => w.length = n ∧ (∀ c ∈ w, c ∈ alphabet)
      ∧ isReserved w = false) ns masks := by
  induction ns generalizing s masks with
  | nil =>
    obtain ⟨rfl, -⟩ := Prod.mk.inj (Option.some.inj h)
    exact .nil
  | cons n ns ih =>
    obtain ⟨mask, s₁, rest, hmask, hrest, rfl⟩ := masks_cons.1 h
    exact .cons (mask_spec hmask) (ih hrest)

theorem masks_append :
    source.masks attempts (ns ++ ms) s = some (masks, s')
      ↔ ∃ front s₁ rest, source.masks attempts ns s = some (front, s₁)
        ∧ source.masks attempts ms s₁ = some (rest, s') ∧ masks = front ++ rest := by
  induction ns generalizing s masks with
  | nil =>
    constructor
    · exact fun h => ⟨[], s, masks, rfl, h, rfl⟩
    · rintro ⟨front, s₁, rest, hfront, hrest, rfl⟩
      obtain ⟨rfl, rfl⟩ := Prod.mk.inj (Option.some.inj hfront)
      exact hrest
  | cons n ns ih =>
    rw [List.cons_append, masks_cons]
    constructor
    · rintro ⟨mask, s₁, others, hmask, hothers, rfl⟩
      obtain ⟨front, s₂, rest, hfront, hrest, rfl⟩ := ih.1 hothers
      exact ⟨mask :: front, s₂, rest, masks_cons.2 ⟨mask, s₁, front, hmask, hfront, rfl⟩, hrest,
        rfl⟩
    · rintro ⟨front, s₂, rest, hfront, hrest, rfl⟩
      obtain ⟨mask, s₁, others, hmask, hothers, rfl⟩ := masks_cons.1 hfront
      exact ⟨mask, s₁, others ++ rest, hmask, ih.2 ⟨others, s₂, rest, hothers, hrest, rfl⟩, rfl⟩

end Mask

namespace Masking

structure Canonical (declarations : List Declaration) (renames : List Rename) : Prop where
  names_nodup : (renames.map Rename.name).Nodup
  mem_names_iff : ∀ n, n ∈ renames.map Rename.name ↔ n ∈ declarations.map Declaration.name
  category_eq : ∀ r ∈ renames,
    (declarations.find? fun d => d.name = r.name).map Declaration.category = some r.category
  ordered : renames.Pairwise fun a b => b.name.length < a.name.length
    ∨ a.name.length = b.name.length ∧ (declarations.map Declaration.name).idxOf a.name
      < (declarations.map Declaration.name).idxOf b.name
  mask_spec : ∀ r ∈ renames, r.mask.length = r.name.length ∧ (∀ c ∈ r.mask, c ∈ Mask.alphabet)
    ∧ Mask.isReserved r.mask = false

section

variable {α : Type} (size : α → Nat)

theorem size_le_trans (a b c : α) (hab : decide (size b ≤ size a) = true)
    (hbc : decide (size c ≤ size b) = true) : decide (size c ≤ size a) = true :=
  decide_eq_true (Nat.le_trans (of_decide_eq_true hbc) (of_decide_eq_true hab))

theorem size_le_total (a b : α) :
    (decide (size b ≤ size a) || decide (size a ≤ size b)) = true := by
  rw [Bool.or_eq_true, decide_eq_true_eq, decide_eq_true_eq]
  exact Nat.le_total (size b) (size a)

theorem filter_mergeSort_size (l : List α) (n : Nat) :
    (l.mergeSort fun a b => size b ≤ size a).filter (size · = n) = l.filter (size · = n) := by
  have hclass : (l.filter (size · = n)).Pairwise fun a b => decide (size b ≤ size a) = true := by
    apply List.pairwise_of_forall_mem_list
    intro a ha b hb
    rw [List.mem_filter, decide_eq_true_eq] at ha hb
    rw [ha.2, hb.2]
    exact decide_eq_true (Nat.le_refl n)
  have hsub := (List.sublist_mergeSort (size_le_trans size) (size_le_total size) hclass
    List.filter_sublist).filter (size · = n)
  rw [List.filter_filter] at hsub
  simp only [Bool.and_self] at hsub
  have hperm := (List.mergeSort_perm l fun a b => size b ≤ size a).filter (size · = n)
  exact (hsub.eq_of_length hperm.length_eq.symm).symm

theorem pairwise_mergeSort_size {l : List α} {R : α → α → Prop} (h : l.Pairwise R) :
    (l.mergeSort fun a b => size b ≤ size a).Pairwise fun a b =>
      size b < size a ∨ size a = size b ∧ R a b := by
  have hsorted := List.pairwise_mergeSort (size_le_trans size) (size_le_total size) l
  rw [List.pairwise_iff_forall_sublist] at h hsorted ⊢
  intro a b hab
  have hle : size b ≤ size a := of_decide_eq_true (hsorted hab)
  rcases Nat.lt_or_eq_of_le hle with hlt | heq
  · exact .inl hlt
  · have hpair := hab.filter (size · = size a)
    rw [filter_mergeSort_size] at hpair
    simp only [heq, decide_true, List.filter_cons_of_pos, List.filter_nil] at hpair
    exact .inr ⟨heq.symm, h (hpair.trans List.filter_sublist)⟩

end

variable {σ : Type} {source : Mask.Source σ} {s s' : σ} {declarations : List Declaration}
  {renames : List Rename} {attempts : Nat}

def renamed (d : Declaration) (mask : Text) : Rename :=
  ⟨d.name, mask, d.category⟩

/-- The names of the declarations decide nothing about their masks but the lengths. -/
theorem drawRenames_eq (source : Mask.Source σ) (attempts : Nat) (declarations : List Declaration)
    (s : σ) :
    drawRenames source attempts declarations s
      = (source.masks attempts (declarations.map fun d => d.name.length) s).map fun p =>
        (declarations.zipWith renamed p.1, p.2) := by
  induction declarations generalizing s with
  | nil => rfl
  | cons d ds ih =>
    rw [drawRenames, List.map_cons, Mask.Source.masks]
    cases source.mask d.name.length attempts s with
    | none => rfl
    | some p =>
      simp only [Option.bind_eq_bind, Option.bind_some, ih]
      cases source.masks attempts (ds.map fun d => d.name.length) p.2 with
      | none => rfl
      | some q => rfl

theorem names_of_drawn (h : List.Forall₂ Renames declarations renames) :
    renames.map Rename.name = declarations.map Declaration.name := by
  induction h with
  | nil => rfl
  | cons hd h ih => rw [List.map_cons, List.map_cons, ih, hd.name_eq]

theorem canonical_longestFirst
    (h : List.Forall₂ Renames (firstsBy Declaration.name declarations) renames) :
    Canonical declarations (longestFirst renames) := by
  have hperm : (longestFirst renames).Perm renames := List.mergeSort_perm _ _
  have hnames := names_of_drawn h
  have hmem (n : Text) : n ∈ (longestFirst renames).map Rename.name ↔ n ∈ renames.map Rename.name :=
    (hperm.map Rename.name).mem_iff
  have hdecl {r : Rename} (hr : r ∈ longestFirst renames) :=
    exists_of_mem_drawn h (hperm.mem_iff.1 hr)
  constructor
  · rw [(hperm.map Rename.name).nodup_iff, hnames, List.Nodup, List.pairwise_map]
    exact firstsBy_pairwise.imp Ne.symm
  · intro n
    rw [hmem, hnames, map_firstsBy, List.mem_eraseDups]
  · intro r hr
    obtain ⟨d, hd, hr⟩ := hdecl hr
    rw [hr.name_eq, find?_of_mem_firstsBy hd, hr.category_eq]
    rfl
  · have hidx : (renames.map Rename.name).Pairwise fun m n =>
        (declarations.map Declaration.name).idxOf m
          < (declarations.map Declaration.name).idxOf n := by
      rw [hnames, List.pairwise_map]
      exact firstsBy_pairwise_idxOf declarations
    exact pairwise_mergeSort_size (fun r => r.name.length) (List.pairwise_map.1 hidx)
  · intro r hr
    obtain ⟨d, -, hr⟩ := hdecl hr
    exact ⟨hr.length_eq, hr.mem_alphabet, hr.free⟩

/-- A rename map has each declared name once, under its first category, longer names first and
names of equal length in the order in which they are met first. The masks are drawn in that order of
first occurrence, one for each name. -/
theorem plan_canonical {c : Candidates}
    (h : plan source c.declarations s attempts = some (renames, s')) :
    Canonical c.declarations renames
      ∧ ∃ masks, source.masks attempts
          ((c.declarations.map Declaration.name).eraseDups.map List.length) s = some (masks, s')
        ∧ (renames.map fun r => (r.name, r.mask)).Perm
          ((c.declarations.map Declaration.name).eraseDups.zip masks) := by
  obtain ⟨⟨drawn, s₁⟩, hdrawn, h⟩ := Option.bind_eq_some_iff.1 h
  obtain ⟨rfl, rfl⟩ := Prod.mk.inj (Option.some.inj h)
  refine ⟨canonical_longestFirst (drawRenames_forall₂ hdrawn), ?_⟩
  rw [drawRenames_eq] at hdrawn
  obtain ⟨⟨masks, s₂⟩, hmasks, he⟩ := Option.map_eq_some_iff.1 hdrawn
  obtain ⟨rfl, rfl⟩ := Prod.mk.inj he
  refine ⟨masks, ?_, ?_⟩
  · rw [← map_firstsBy, List.map_map]
    exact hmasks
  · have hpairs : ((firstsBy Declaration.name c.declarations).zipWith renamed masks).map
        (fun r => (r.name, r.mask))
        = ((firstsBy Declaration.name c.declarations).map Declaration.name).zip masks := by
      rw [List.map_zipWith, List.zip, List.zipWith_map_left]
      rfl
    rw [← map_firstsBy, ← hpairs]
    exact (List.mergeSort_perm _ _).map _

/-- Names are declared twice in both lists, two reserved words are drawn on the way, and a name of
two letters has four bytes. -/
theorem plan_canonical_redrawn :
    let source : Mask.Source Text :=
      ⟨fun t => do return (← Mask.alphabet.finIdxOf? (← t.head?), t.tail)⟩
    let c : Candidates :=
      { functions := [⟨"ab".toList, .function, ⟨9, 11⟩⟩, ⟨"éé".toList, .function, ⟨25, 29⟩⟩,
          ⟨"ab".toList, .function, ⟨43, 45⟩⟩]
        vars := [⟨"abc".toList, .variable, ⟨54, 57⟩⟩, ⟨"ab".toList, .variable, ⟨63, 65⟩⟩,
          ⟨"x".toList, .variable, ⟨71, 72⟩⟩, ⟨"abc".toList, .variable, ⟨78, 81⟩⟩]
        literals := [] }
    let draws := "ifgabcintefgha".toList
    let renames : List Rename := [⟨"abc".toList, "efg".toList, .variable⟩,
      ⟨"ab".toList, "ga".toList, .function⟩, ⟨"éé".toList, "bc".toList, .function⟩,
      ⟨"x".toList, "h".toList, .variable⟩]
    plan source c.declarations draws = some (renames, ['a'])
      ∧ Canonical c.declarations renames
      ∧ ∃ masks, source.masks Mask.attemptLimit
          ((c.declarations.map Declaration.name).eraseDups.map List.length) draws
            = some (masks, ['a'])
        ∧ (renames.map fun r => (r.name, r.mask)).Perm
          ((c.declarations.map Declaration.name).eraseDups.zip masks) := by
  intro source c draws renames
  let drawn : List Rename := [⟨"ab".toList, "ga".toList, .function⟩,
    ⟨"éé".toList, "bc".toList, .function⟩, ⟨"abc".toList, "efg".toList, .variable⟩,
    ⟨"x".toList, "h".toList, .variable⟩]
  have hdrawn : drawRenames source Mask.attemptLimit (firstsBy Declaration.name c.declarations)
      draws = some (drawn, ['a']) := by
    decide +kernel
  have hsorted : longestFirst drawn = renames := by
    simp [drawn, renames, longestFirst, List.mergeSort, List.MergeSort.Internal.splitInTwo]
  have h : plan source c.declarations draws = some (renames, ['a']) := by
    rw [plan, hdrawn, ← hsorted]
    rfl
  exact ⟨h, plan_canonical h⟩

end Masking

end ScriptVeil
