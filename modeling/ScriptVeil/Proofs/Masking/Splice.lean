import Mathlib.Data.List.Sort
import ScriptVeil.Masking.Edit
import ScriptVeil.Proofs.Text.Span

namespace ScriptVeil

namespace Masking

open Text

/-- A text from an offset on with edits put in place, which are given in the order of the text. -/
def weave (t : Text) : Nat → List Edit → Text
  | n, [] => t.dropBytes n
  | n, e :: es => t.slice ⟨n, e.span.start⟩ ++ e.text ++ weave t e.span.stop es

structure Ordered (t : Text) (edits : List Edit) : Prop where
  within : ∀ e ∈ edits, e.span.Within t
  before : edits.Pairwise fun d e => d.span.Before e.span

variable {t : Text} {e : Edit} {edits : List Edit} {n : Nat}

theorem Ordered.tail (h : Ordered t (e :: edits)) : Ordered t edits :=
  ⟨fun d hd => h.within d (List.mem_cons_of_mem e hd), h.before.tail⟩

theorem Ordered.head (h : Ordered t (e :: edits)) : e.span.Within t :=
  h.within e List.mem_cons_self

theorem Ordered.stop_le (h : Ordered t (e :: edits)) : ∀ d ∈ edits, e.span.stop ≤ d.span.start :=
  fun _ hd => List.rel_of_pairwise_cons h.before hd

theorem foldr_splice (h : Ordered t edits) (hn : t.IsBoundary n)
    (hle : ∀ e ∈ edits, n ≤ e.span.start) :
    edits.foldr (fun e t => t.splice e.span e.text) t = t.takeBytes n ++ weave t n edits := by
  induction edits generalizing n with
  | nil => exact (takeBytes_append_dropBytes n t).symm
  | cons e edits ih =>
    have he := h.head
    have hns := hle e List.mem_cons_self
    rw [List.foldr_cons, ih h.tail he.isBoundary_stop h.stop_le, splice,
      takeBytes_takeBytes_append he.isBoundary_start he.isBoundary_stop he.start_lt_stop.le,
      dropBytes_takeBytes_append he.isBoundary_stop, weave,
      ← takeBytes_append_slice hn he.isBoundary_start hns]
    simp only [List.append_assoc]

theorem Ordered.sublist {edits' : List Edit} (h : Ordered t edits) (hs : edits'.Sublist edits) :
    Ordered t edits' :=
  ⟨fun e he => h.within e (hs.subset he), h.before.sublist hs⟩

theorem reverse_lastFirst_perm (edits : List Edit) : (lastFirst edits).reverse.Perm edits :=
  (List.reverse_perm _).trans (List.mergeSort_perm _ _)

theorem ordered_reverse_lastFirst (hw : ∀ e ∈ edits, e.span.Within t)
    (hd : edits.Pairwise fun d e => d.span.Apart e.span) : Ordered t (lastFirst edits).reverse := by
  have hp := reverse_lastFirst_perm edits
  have hw' : ∀ e ∈ (lastFirst edits).reverse, e.span.Within t := fun e he => hw e (hp.mem_iff.1 he)
  have hs : (lastFirst edits).Pairwise fun d e => e.span.start ≤ d.span.start :=
    List.pairwise_mergeSort' (Order.Preimage (fun e : Edit => e.span.start) (· ≥ ·)) edits
  exact ⟨hw', pairwise_before (fun e he => (hw' e he).start_lt_stop) (List.pairwise_reverse.2 hs)
    (hp.symm.pairwise hd fun h => h.symm)⟩

theorem Ordered.apart (h : Ordered t edits) : edits.Pairwise fun d e => d.span.Apart e.span :=
  h.before.imp fun h => .inl h

theorem Ordered.eq_of_perm {edits' : List Edit} (h : Ordered t edits) (h' : Ordered t edits')
    (hp : edits.Perm edits') : edits = edits' := by
  refine hp.eq_of_pairwise (fun d e hd _ hde hed => ?_) h.before h'.before
  have hle : d.span.stop ≤ e.span.start := hde
  have hle' : e.span.stop ≤ d.span.start := hed
  have hlt := (h.within d hd).start_lt_stop
  have hlt' := (h.within e (hp.mem_iff.2 ‹_›)).start_lt_stop
  omega

theorem nodup_of_apart (hw : ∀ e ∈ edits, e.span.Within t)
    (hd : edits.Pairwise fun d e => d.span.Apart e.span) : edits.Nodup := by
  refine hd.imp_of_mem fun {d e} hmem _ h he => ?_
  subst he
  have hlt := (hw d hmem).start_lt_stop
  have hle : d.span.stop ≤ d.span.start := h.elim id id
  omega

/-- Edits of disjoint ranges, given in any order, are put in place in the order of the text. -/
theorem applyEdits_eq_weave {ordered : List Edit} (h : Ordered t ordered)
    (hp : ordered.Perm edits) :
    applyEdits t edits = weave t 0 ordered := by
  have hw : ∀ e ∈ edits, e.span.Within t := fun e he => h.within e (hp.mem_iff.2 he)
  have hd : edits.Pairwise fun d e => d.span.Apart e.span := hp.pairwise h.apart fun h => h.symm
  have ho := ordered_reverse_lastFirst hw hd
  rw [h.eq_of_perm ho (hp.trans (reverse_lastFirst_perm edits).symm), applyEdits,
    ← List.foldr_reverse, foldr_splice ho (isBoundary_zero t) fun _ _ => Nat.zero_le _,
    takeBytes_zero, List.nil_append]

theorem slice_append_weave {m : Nat} (h : Ordered t edits) (hn : t.IsBoundary n)
    (hm : t.IsBoundary m)
    (hnm : n ≤ m) (hle : ∀ e ∈ edits, m ≤ e.span.start) :
    t.slice ⟨n, m⟩ ++ weave t m edits = weave t n edits := by
  cases edits with
  | nil => exact slice_append_dropBytes hn hm hnm
  | cons e edits =>
    have hme := hle e List.mem_cons_self
    rw [weave, weave, ← slice_append_slice hn hm h.head.isBoundary_start hnm hme]
    simp only [List.append_assoc]

theorem filterMap_sublist_map {α : Type} {l : List α} {f : α → Option Edit} {g : α → Edit}
    (hs : ∀ a ∈ l, ∀ e, f a = some e → e = g a) : (l.filterMap f).Sublist (l.map g) := by
  induction l with
  | nil => exact .slnil
  | cons a l ih =>
    have ih := ih fun b hb => hs b (List.mem_cons_of_mem a hb)
    rw [List.map_cons]
    cases hf : f a with
    | none =>
      rw [List.filterMap_cons_none hf]
      exact ih.cons (g a)
    | some e =>
      rw [List.filterMap_cons_some hf, hs a List.mem_cons_self e hf]
      exact ih.cons_cons (g a)

theorem weave_filterMap {α : Type} {l : List α} {f : α → Option Edit} {g : α → Edit}
    (hs : ∀ a ∈ l, ∀ e, f a = some e → e = g a)
    (hc : ∀ a ∈ l, f a = none → (g a).text = t.slice (g a).span)
    (h : Ordered t (l.map g)) (hn : t.IsBoundary n) (hle : ∀ e ∈ l.map g, n ≤ e.span.start) :
    weave t n (l.filterMap f) = weave t n (l.map g) := by
  induction l generalizing n with
  | nil => rfl
  | cons a l ih =>
    have ha := h.head
    have hs' := fun b hb => hs b (List.mem_cons_of_mem a hb)
    have hc' := fun b hb => hc b (List.mem_cons_of_mem a hb)
    have hna : n ≤ (g a).span.start := hle (g a) List.mem_cons_self
    rw [List.map_cons, weave]
    cases hf : f a with
    | none =>
      have hstop := ha.start_lt_stop.le
      have hle' : ∀ e ∈ l.map g, n ≤ e.span.start := fun e he => hle e (List.mem_cons_of_mem _ he)
      rw [List.filterMap_cons_none hf, hc a List.mem_cons_self hf, List.append_assoc,
        slice_append_weave h.tail ha.isBoundary_start ha.isBoundary_stop hstop h.stop_le,
        slice_append_weave h.tail hn ha.isBoundary_start hna fun e he =>
          hstop.trans (h.stop_le e he), ih hs' hc' h.tail hn hle']
    | some e =>
      rw [List.filterMap_cons_some hf, hs a List.mem_cons_self e hf, weave,
        ih hs' hc' h.tail ha.isBoundary_stop h.stop_le]

/-- Once the edits behind it are applied, the range of an edit still lies between characters. -/
theorem Ordered.within_foldr (h : Ordered t (e :: edits)) :
    e.span.Within (edits.foldr (fun e t => t.splice e.span e.text) t) := by
  have he := h.head
  rw [foldr_splice h.tail he.isBoundary_stop h.stop_le]
  constructor
  · exact he.start_lt_stop
  · rw [IsBoundary, takeBytes_takeBytes_append he.isBoundary_start he.isBoundary_stop
      he.start_lt_stop.le]
    exact he.isBoundary_start
  · rw [IsBoundary, takeBytes_append he.isBoundary_stop]
    exact he.isBoundary_stop

theorem applyEdits?_eq_some (hw : ∀ e ∈ edits, e.span.Within t)
    (hd : edits.Pairwise fun d e => d.span.Apart e.span) :
    applyEdits? t edits = some (applyEdits t edits) := by
  have hfold {es : List Edit} (h : Ordered t es) :
      es.foldrM (fun e t => t.splice? e.span e.text) t
        = some (es.foldr (fun e t => t.splice e.span e.text) t) := by
    induction es with
    | nil => rfl
    | cons e es ih =>
      rw [List.foldrM_cons, ih h.tail]
      exact if_pos h.within_foldr.cuts
  have ho := ordered_reverse_lastFirst hw hd
  rw [applyEdits?, applyEdits, ← List.foldrM_reverse, hfold ho, List.foldr_reverse]

theorem applyEdits?_eq_weave {ordered : List Edit} (h : Ordered t ordered)
    (hp : ordered.Perm edits) : applyEdits? t edits = some (weave t 0 ordered) := by
  rw [applyEdits?_eq_some (fun e he => h.within e (hp.mem_iff.2 he))
    (hp.pairwise h.apart fun h => h.symm), applyEdits_eq_weave h hp]

end Masking

end ScriptVeil
