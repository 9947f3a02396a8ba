import Mathlib.Data.List.Sort
import Mathlib.Order.Nat
import ScriptVeil.Proofs.Text.Offset

namespace ScriptVeil

attribute [ext] Span

def Span.Before (r s : Span) : Prop :=
  r.stop ≤ s.start

def Span.Apart (r s : Span) : Prop :=
  r.Before s ∨ s.Before r

def Span.Inside (r s : Span) : Prop :=
  s.start ≤ r.start ∧ r.stop ≤ s.stop

instance (r s : Span) : Decidable (r.Inside s) :=
  inferInstanceAs (Decidable (_ ∧ _))

instance (r s : Span) : Decidable (r.Before s) :=
  inferInstanceAs (Decidable (r.stop ≤ s.start))

instance (r s : Span) : Decidable (r.Apart s) :=
  inferInstanceAs (Decidable (_ ∨ _))

theorem Span.Apart.symm {r s : Span} (h : r.Apart s) : s.Apart r :=
  Or.symm h

/-- A range that is not empty and lies in a text, between characters. -/
structure Span.Within (t : Text) (r : Span) : Prop where
  start_lt_stop : r.start < r.stop
  isBoundary_start : t.IsBoundary r.start
  isBoundary_stop : t.IsBoundary r.stop

instance (t : Text) (r : Span) : Decidable (r.Within t) :=
  decidable_of_iff (r.start < r.stop ∧ t.IsBoundary r.start ∧ t.IsBoundary r.stop)
    ⟨fun h => ⟨h.1, h.2.1, h.2.2⟩, fun h => ⟨h.1, h.2, h.3⟩⟩

theorem Span.Within.cuts {t : Text} {r : Span} (h : r.Within t) : r.Cuts t :=
  ⟨h.start_lt_stop.le, h.isBoundary_start, h.isBoundary_stop⟩

section

variable {α : Type} {span : α → Span} {l : List α}

theorem pairwise_before (hn : ∀ a ∈ l, (span a).start < (span a).stop)
    (hs : l.Pairwise fun a b => (span a).start ≤ (span b).start)
    (hd : l.Pairwise fun a b => (span a).Apart (span b)) :
    l.Pairwise fun a b => (span a).Before (span b) := by
  refine (hs.and hd).imp_of_mem fun {a b} ha hb h => ?_
  obtain ⟨hab, hlt | hlt⟩ := h
  · exact hlt
  · have hle : (span b).stop ≤ (span a).start := hlt
    have := hn a ha
    have := hn b hb
    omega

theorem exists_pairwise_before (hn : ∀ a ∈ l, (span a).start < (span a).stop)
    (hd : l.Pairwise fun a b => (span a).Apart (span b)) :
    ∃ l' : List α, l'.Perm l ∧ l'.Pairwise fun a b => (span a).Before (span b) := by
  let sorted := l.mergeSort fun a b => (span a).start ≤ (span b).start
  have hp : sorted.Perm l := List.mergeSort_perm _ _
  have hs : sorted.Pairwise fun a b => (span a).start ≤ (span b).start :=
    List.pairwise_mergeSort' (Order.Preimage (fun a => (span a).start) (· ≤ ·)) l
  exact ⟨sorted, hp, pairwise_before (fun a ha => hn a (hp.mem_iff.1 ha)) hs
    (hp.symm.pairwise hd fun h => h.symm)⟩

end

/-- Ranges in their order that lie between two offsets and do not overlap. -/
def Chain : Nat → List Span → Nat → Prop
  | lo, [], hi => lo ≤ hi
  | lo, r :: rs, hi => lo ≤ r.start ∧ r.start ≤ r.stop ∧ Chain r.stop rs hi

namespace Chain

variable {lo lo' mid hi hi' : Nat} {r : Span} {rs rs' : List Span}

theorem le (h : Chain lo rs hi) : lo ≤ hi := by
  induction rs generalizing lo with
  | nil => exact h
  | cons r rs ih =>
    obtain ⟨h, h', hr⟩ := h
    exact h.trans (h'.trans (ih hr))

theorem mono (h : Chain lo rs hi) (hl : lo' ≤ lo) (hh : hi ≤ hi') : Chain lo' rs hi' := by
  induction rs generalizing lo lo' with
  | nil => exact hl.trans (le_trans h hh)
  | cons r rs ih =>
    obtain ⟨h, h', hr⟩ := h
    exact ⟨hl.trans h, h', ih hr le_rfl⟩

theorem sublist (h : Chain lo rs hi) (hs : rs'.Sublist rs) : Chain lo rs' hi := by
  induction hs generalizing lo with
  | slnil => exact h
  | cons r _ ih =>
    obtain ⟨hl, hr, hrs⟩ := h
    exact (ih hrs).mono (hl.trans hr) le_rfl
  | cons_cons r _ ih =>
    obtain ⟨hl, hr, hrs⟩ := h
    exact ⟨hl, hr, ih hrs⟩

theorem le_start (h : Chain lo rs hi) : ∀ r ∈ rs, lo ≤ r.start := by
  induction rs generalizing lo with
  | nil => exact List.forall_mem_nil _
  | cons r rs ih =>
    exact List.forall_mem_cons.2 ⟨h.1, fun s hs => (h.1.trans h.2.1).trans (ih h.2.2 s hs)⟩

theorem before (h : Chain lo rs hi) : rs.Pairwise Span.Before := by
  induction rs generalizing lo with
  | nil => exact .nil
  | cons r rs ih => exact .cons (fun s hs => h.2.2.le_start s hs) (ih h.2.2)

end Chain

end ScriptVeil
