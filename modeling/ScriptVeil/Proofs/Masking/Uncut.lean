import ScriptVeil.Proofs.Literal.Encoding
import ScriptVeil.Proofs.Masking.Pass
import ScriptVeil.Proofs.Script.Scan.Quoted

namespace ScriptVeil

def Text.InOrder : List Text → Text → Prop
  | [], _ => True
  | s :: ss, t => ∃ a b : Text, t = a ++ (s ++ b) ∧ InOrder ss b

namespace Masking

open Script

def codeTile (q : Quotation) : Tile :=
  .code q.raw (Literal.encode q.units)

def markAll (quotations : List Quotation) (ts : List Tile) : List Tile :=
  quotations.foldl (fun ts q => mark q.raw (Literal.encode q.units) ts) ts

/-- A text with the literals of a script replaced, as a row of tiles. -/
def tilesOf (source : Text) (quotations : List Quotation) : List Tile :=
  markAll (longestRawFirst quotations) (keptText source)

/-- Whether the passes over some quotations cut no literal of a text, given with their ranges: each
part of the text that one of them replaces lies beside a literal or is that literal. -/
def Uncut (literals : List (Span × Quotation)) : List Quotation → List Tile → Prop
  | [], _ => True
  | q :: later, ts =>
    (∀ r ∈ hits q.raw ts, ∀ p ∈ literals, r.Apart p.1 ∨ r = p.1)
      ∧ Uncut literals later (mark q.raw (Literal.encode q.units) ts)

instance decidableUncut (literals : List (Span × Quotation)) :
    (quotations : List Quotation) → (ts : List Tile) → Decidable (Uncut literals quotations ts)
  | [], _ => isTrue trivial
  | q :: later, ts =>
    have := decidableUncut literals later (mark q.raw (Literal.encode q.units) ts)
    inferInstanceAs (Decidable (_ ∧ _))

/-- Literals of a text, in source order, among some quotations with texts that start and end like
quoted ones. -/
structure Quoting (source : Text) (quotations : List Quotation)
    (literals : List (Span × Quotation)) : Prop where
  mem : ∀ p ∈ literals, p.2 ∈ quotations
  range : ∀ p ∈ literals, ∃ a b, source = a ++ (p.2.raw ++ b)
    ∧ p.1 = ⟨a.byteSize, a.byteSize + p.2.raw.byteSize⟩
  before : literals.Pairwise fun p p' => p.1.Before p'.1
  quoted : ∀ q ∈ quotations, IsQuotedText q.raw
  raw_inj : ∀ q ∈ quotations, ∀ q' ∈ quotations, q.raw = q'.raw → q = q'

theorem not_mem_encode {c : Char} (h : Literal.isQuote c = true ∨ c ∈ markupOpeners)
    (units : Units) :
    c ∉ Literal.encode units := by
  have hc : c ∈ '"' :: '\'' :: markupOpeners := by
    rcases h with h | h
    · rw [Literal.isQuote, Bool.or_eq_true, decide_eq_true_eq, decide_eq_true_eq] at h
      rcases h with rfl | rfl <;> decide
    · exact List.mem_cons_of_mem _ (List.mem_cons_of_mem _ h)
  have hall : ('"' :: '\'' :: markupOpeners).all (!Literal.encodingChars.has ·) = true := by decide
  have hfree := List.all_eq_true.1 hall c hc
  intro hmem
  rw [Literal.mem_encode hmem] at hfree
  contradiction

variable {source : Text} {quotations done later : List Quotation}
  {literals : List (Span × Quotation)}
  {q : Quotation} {p : Span × Quotation} {ts : List Tile} {r : Span}

theorem Quoting.stop_eq (h : Quoting source quotations literals) (hp : p ∈ literals) :
    p.1.stop = p.1.start + p.2.raw.byteSize := by
  obtain ⟨a, b, -, hr⟩ := h.range p hp
  rw [hr]

theorem Quoting.eq_span (h : Quoting source quotations literals) (hp : p ∈ literals) :
    p.1 = ⟨p.1.start, p.1.start + p.2.raw.byteSize⟩ :=
  Span.ext rfl (h.stop_eq hp)

def Coded (ts : List Tile) : Prop :=
  ∀ raw new, .code raw new ∈ ts → raw ≠ [] ∧ ∃ units, new = Literal.encode units

theorem coded_keptText (t : Text) : Coded (keptText t) := by
  intro raw new h
  obtain ⟨c, -, hc⟩ := List.mem_map.1 h
  contradiction

theorem encode_ne_nil (units : Units) : Literal.encode units ≠ [] := by
  rw [Literal.encode, List.append_assoc]
  exact List.append_ne_nil_of_left_ne_nil (by decide) _

theorem Coded.filled (h : Coded ts) : Filled ts := by
  intro x hx
  cases x with
  | kept c => exact ⟨List.cons_ne_nil c [], List.cons_ne_nil c []⟩
  | code raw new =>
    obtain ⟨hraw, units, rfl⟩ := h raw new hx
    exact ⟨hraw, encode_ne_nil units⟩

theorem Coded.clear (h : Coded ts) (hq : IsQuotedText q.raw) : Clear q.raw ts := by
  have hne := hq.ne_nil
  obtain ⟨⟨c, hc, hopen⟩, d, hd, hclose⟩ := hq
  refine ⟨hne, h.filled, fun c' hc' raw new hn => ?_, fun d' hd' raw new hn => ?_⟩
  · obtain ⟨-, units, rfl⟩ := h raw new hn
    rw [hc] at hc'
    cases hc'
    exact not_mem_encode hopen units
  · obtain ⟨-, units, rfl⟩ := h raw new hn
    rw [hd] at hd'
    cases hd'
    exact not_mem_encode (.inl hclose) units

theorem Coded.mark (h : Coded ts) (hq : IsQuotedText q.raw) :
    Coded (mark q.raw (Literal.encode q.units) ts) := by
  intro raw new hm
  have hc := h.clear hq
  rcases (isPass_pass hc).mem_marked hm with hm | ⟨us, hs, hu, he⟩
  · exact h raw new hm
  · cases he
    have hne : us ≠ [] := by
      rintro rfl
      exact hc.ne_nil hu.symm
    refine ⟨fun hnil => ?_, q.units, rfl⟩
    have hpos := (hc.filled.of_subset hs).width_pos hne
    rw [width, hnil] at hpos
    contradiction

theorem textOf_markAll (h : Coded ts) (hq : ∀ q ∈ later, IsQuotedText q.raw) :
    textOf (markAll later ts) = later.foldl (fun t q => t.replaceAll q.raw (Literal.encode q.units))
      (textOf ts) := by
  induction later generalizing ts with
  | nil => rfl
  | cons q later ih =>
    obtain ⟨hhead, htail⟩ := List.forall_mem_cons.1 hq
    rw [List.foldl_cons, ← textOf_mark (h.clear hhead)]
    exact ih (h.mark hhead) htail

theorem sourceOf_markAll (h : Coded ts) (hq : ∀ q ∈ later, IsQuotedText q.raw) :
    sourceOf (markAll later ts) = sourceOf ts := by
  induction later generalizing ts with
  | nil => rfl
  | cons q later ih =>
    obtain ⟨hhead, htail⟩ := List.forall_mem_cons.1 hq
    exact (ih (h.mark hhead) htail).trans (sourceOf_mark (h.clear hhead))

theorem Stands.of_markAll {k : Nat} (hs : Stands [] k (markAll later ts)) (h : Coded ts)
    (hq : ∀ q ∈ later, IsQuotedText q.raw) : Stands [] k ts := by
  induction later generalizing ts with
  | nil => exact hs
  | cons q later ih =>
    obtain ⟨hhead, htail⟩ := List.forall_mem_cons.1 hq
    exact (ih hs (h.mark hhead) htail).of_mark (h.clear hhead)

/-- A row of tiles in which the literals of some quotations are code and the other ones are still
there. -/
structure Tiling (literals : List (Span × Quotation)) (done : List Quotation) (ts : List Tile) :
    Prop where
  coded : Coded ts
  code : ∀ p ∈ literals, p.2 ∈ done → Stands [codeTile p.2] p.1.start ts
  kept : ∀ p ∈ literals, p.2 ∉ done → Stands (keptText p.2.raw) p.1.start ts

theorem Quoting.tiling (h : Quoting source quotations literals) :
    Tiling literals [] (keptText source) where
  coded := coded_keptText source
  code := nofun
  kept p hp _ := by
    obtain ⟨a, b, hs, hr⟩ := h.range p hp
    refine ⟨keptText a, keptText b, ?_, by rw [width_keptText, hr]⟩
    rw [hs, keptText, List.map_append, List.map_append]
    rfl

/-- What the passes over some quotations need: every quotation that is left is no longer than those
before it, and the literals belong to quotations that are done or left. -/
structure Ready (quotations : List Quotation) (literals : List (Span × Quotation))
    (done later : List Quotation) :
    Prop where
  later_subset : later ⊆ quotations
  longest_first : later.Pairwise fun q q' => q'.raw.byteSize ≤ q.raw.byteSize
  mem_or : ∀ p ∈ literals, p.2 ∈ done ∨ p.2 ∈ later

theorem Ready.tail (h : Ready quotations literals done (q :: later)) :
    Ready quotations literals (q :: done) later where
  later_subset := fun _ hq => h.later_subset (List.mem_cons_of_mem q hq)
  longest_first := h.longest_first.tail
  mem_or p hp := by
    rcases h.mem_or p hp with hd | hl
    · exact .inl (List.mem_cons_of_mem q hd)
    · rcases List.mem_cons.1 hl with hq | hl
      · exact .inl (List.mem_cons.2 (.inl hq))
      · exact .inr hl

theorem Ready.byteSize_le (h : Ready quotations literals done (q :: later)) (hp : p ∈ literals)
    (hn : p.2 ∉ done) :
    p.2.raw.byteSize ≤ q.raw.byteSize := by
  rcases List.mem_cons.1 ((h.mem_or p hp).resolve_left hn) with hq | hl
  · rw [hq]
  · exact List.rel_of_pairwise_cons h.longest_first hl

@[simp]
theorem width_codeTile (q : Quotation) : width [codeTile q] = q.raw.byteSize := by
  simp [codeTile, Tile.before]

@[simp]
theorem textOf_codeTile (q : Quotation) : textOf [codeTile q] = Literal.encode q.units :=
  List.append_nil _

theorem encode_ne_raw {raw : Text} (h : IsQuotedText raw) (units : Units) :
    Literal.encode units ≠ raw := by
  rintro rfl
  obtain ⟨⟨c, hc, hopen⟩, -⟩ := h
  exact not_mem_encode hopen units (List.mem_of_head? hc)

theorem Quoting.stands_mark {xs : List Tile} (h : Quoting source quotations literals)
    (hp : p ∈ literals)
    (hw : width xs = p.2.raw.byteSize) (hs : Stands xs p.1.start ts) (hc : Clear q.raw ts)
    (hu : ∀ r ∈ hits q.raw ts, r.Apart p.1 ∨ r = p.1) :
    Stands (if textOf xs = q.raw then [.code (sourceOf xs) (Literal.encode q.units)] else xs)
      p.1.start
      (mark q.raw (Literal.encode q.units) ts) := by
  have hxs : xs ≠ [] := by
    rintro rfl
    obtain ⟨c, t, hraw⟩ := List.exists_cons_of_ne_nil (h.quoted p.2 (h.mem p hp)).ne_nil
    have hpos := c.utf8Size_pos
    rw [width_nil, hraw, Text.byteSize_cons] at hw
    omega
  apply hs.mark hc hxs
  rwa [hw, ← h.eq_span hp]

/-- A pass that cuts no literal turns the literals of its quotation into code and leaves the other
ones. -/
theorem Tiling.mark (ht : Tiling literals done ts) (h : Quoting source quotations literals)
    (hq : q ∈ quotations)
    (hu : ∀ r ∈ hits q.raw ts, ∀ p ∈ literals, r.Apart p.1 ∨ r = p.1) :
    Tiling literals (q :: done) (mark q.raw (Literal.encode q.units) ts) := by
  have hquoted := h.quoted q hq
  have hc := ht.coded.clear hquoted
  have hkept : ∀ p ∈ literals, p.2 ∉ done → _ := fun p hp hn =>
    h.stands_mark hp (width_keptText p.2.raw) (ht.kept p hp hn) hc fun r hr => hu r hr p hp
  simp only [textOf_keptText, sourceOf_keptText] at hkept
  refine ⟨ht.coded.mark hquoted, fun p hp hd => ?_, fun p hp hn => ?_⟩
  · by_cases hd' : p.2 ∈ done
    · have hs := h.stands_mark hp (width_codeTile p.2) (ht.code p hp hd') hc fun r hr =>
        hu r hr p hp
      rwa [textOf_codeTile, if_neg (encode_ne_raw hquoted p.2.units)] at hs
    · obtain rfl := (List.mem_cons.1 hd).resolve_right hd'
      have hs := hkept p hp hd'
      rwa [if_pos rfl] at hs
  · have hne : p.2.raw ≠ q.raw := fun he =>
      hn (List.mem_cons.2 (.inl (h.raw_inj p.2 (h.mem p hp) q hq he)))
    have hs := hkept p hp fun hd => hn (List.mem_cons_of_mem q hd)
    rwa [if_neg hne] at hs

/-- What a pass replaces inside a literal is the literal: code has no quotes, and of the literals
that are left none is longer than the text that is replaced. -/
theorem Tiling.eq_of_inside (ht : Tiling literals done ts) (h : Quoting source quotations literals)
    (hr : Ready quotations literals done (q :: later)) (hhit : r ∈ hits q.raw ts)
    (hp : p ∈ literals)
    (hin : r.Inside p.1) : r = p.1 := by
  have hquoted := h.quoted q (hr.later_subset List.mem_cons_self)
  have hc := ht.coded.clear hquoted
  by_cases hd : p.2 ∈ done
  · rw [h.eq_span hp, ← width_codeTile] at hin
    obtain ⟨as, ws, bs, he, hw, -⟩ := exists_of_hit_inside hc hhit (ht.code p hp hd) hin
    have hws : ws = [codeTile p.2] := by
      rcases List.append_eq_singleton_iff.1 he.symm with ⟨-, he⟩ | ⟨-, he⟩
      · rcases List.append_eq_singleton_iff.1 he with ⟨rfl, -⟩ | ⟨he, -⟩
        · exact absurd hw.symm hquoted.ne_nil
        · exact he
      · rw [(List.append_eq_nil_iff.1 he).1] at hw
        exact absurd hw.symm hquoted.ne_nil
    rw [hws, textOf_codeTile] at hw
    exact absurd hw (encode_ne_raw hquoted p.2.units)
  · rw [h.eq_span hp, ← width_keptText] at hin
    obtain ⟨as, ws, bs, he, hw, rfl⟩ := exists_of_hit_inside hc hhit (ht.kept p hp hd) hin
    have hle := hr.byteSize_le hp hd
    have hwidth : width ws = q.raw.byteSize := by
      obtain ⟨a, u, -, -, hu⟩ := List.map_eq_append_iff.1 he
      obtain ⟨t, v, -, rfl, -⟩ := List.map_eq_append_iff.1 hu
      have hw : textOf (keptText t) = q.raw := hw
      rw [textOf_keptText] at hw
      exact (width_keptText t).trans (congrArg Text.byteSize hw)
    have hsum := congrArg width he
    rw [width_append, width_append, width_keptText] at hsum
    have hzero : width as = 0 := by omega
    have hfull : width ws = p.2.raw.byteSize := by omega
    rw [hzero, hfull, Nat.add_zero, ← h.eq_span hp]

theorem Tiling.markAll (ht : Tiling literals done ts) (h : Quoting source quotations literals)
    (hl : later ⊆ quotations) (hu : Uncut literals later ts) :
    Tiling literals (later.reverse ++ done) (markAll later ts) := by
  induction later generalizing done ts with
  | nil => exact ht
  | cons q later ih =>
    obtain ⟨hq, hl⟩ := List.cons_subset.1 hl
    rw [List.reverse_cons, List.append_assoc]
    exact ih (ht.mark h hq hu.1) hl hu.2

/-- Where every literal has become its code, no pass has cut one. What a pass replaces cannot reach
over an end of a literal, since the ends are still between tiles behind all passes. So it lies
inside the literal, where code has no quotes and where only the whole literal is as long as a text
that is replaced before. -/
theorem Tiling.uncut (ht : Tiling literals done ts) (h : Quoting source quotations literals)
    (hr : Ready quotations literals done later)
    (hs : ∀ p ∈ literals, Stands [codeTile p.2] p.1.start (Masking.markAll later ts)) :
      Uncut literals later ts := by
  induction later generalizing done ts with
  | nil => trivial
  | cons q later ih =>
    have hq := hr.later_subset List.mem_cons_self
    have hquoted := h.quoted q hq
    have hc := ht.coded.clear hquoted
    have hlater : ∀ q ∈ later, IsQuotedText q.raw := fun q' hq' =>
      h.quoted q' (hr.later_subset (List.mem_cons_of_mem q hq'))
    have hu : ∀ r ∈ hits q.raw ts, ∀ p ∈ literals, r.Apart p.1 ∨ r = p.1 := by
      intro r hr' p hp
      have hend :=
        Stands.le_or_le (Stands.of_markAll (hs p hp).start (ht.coded.mark hquoted) hlater) hr'
      have hend' :=
        Stands.le_or_le (Stands.of_markAll (hs p hp).stop (ht.coded.mark hquoted) hlater) hr'
      rw [width_codeTile, ← h.stop_eq hp] at hend'
      rcases hend with hstart | hapart
      · rcases hend' with hapart | hstop
        · exact .inl (.inr hapart)
        · exact .inr (ht.eq_of_inside h hr hr' hp ⟨hstart, hstop⟩)
      · exact .inl (.inl hapart)
    exact ⟨hu, ih (ht.mark h hq hu) hr.tail hs⟩

theorem inOrder_textOf {n : Nat} (hf : Filled ts)
    (hb : literals.Pairwise fun p p' => p.1.Before p'.1)
    (hstop : ∀ p ∈ literals, p.1.stop = p.1.start + p.2.raw.byteSize)
    (h : ∀ p ∈ literals, ∃ k, Stands [codeTile p.2] k ts ∧ n + k = p.1.start) :
    Text.InOrder (literals.map fun p => Literal.encode p.2.units) (textOf ts) := by
  induction literals generalizing n ts with
  | nil => trivial
  | cons p literals ih =>
    obtain ⟨k, ⟨us, vs, rfl, hk⟩, hn⟩ := h p List.mem_cons_self
    refine ⟨textOf us, textOf vs, by simp [codeTile, Tile.after], ?_⟩
    refine ih (n := p.1.stop) (hf.of_subset (by simp)) hb.tail
      (fun p' hp' => hstop p' (List.mem_cons_of_mem p hp')) fun p' hp' => ?_
    have hpstop := hstop p List.mem_cons_self
    obtain ⟨k', ⟨us', vs', he, hk'⟩, hn'⟩ := h p' (List.mem_cons_of_mem p hp')
    have hbefore : p.1.stop ≤ p'.1.start := List.rel_of_pairwise_cons hb hp'
    rw [← List.append_assoc] at he
    obtain ⟨xs, rfl, rfl⟩ := Filled.exists_append (hf.of_subset (by simp)) he
      (by rw [width_append, width_codeTile]; omega)
    refine ⟨width xs, ⟨xs, vs', rfl, rfl⟩, ?_⟩
    rw [width_append, width_append, width_codeTile] at hk'
    omega

theorem longestRawFirst_pairwise (quotations : List Quotation) :
    (longestRawFirst quotations).Pairwise fun q q' => q'.raw.byteSize ≤ q.raw.byteSize :=
  List.pairwise_mergeSort' (Order.Preimage (fun q : Quotation => q.raw.byteSize) (· ≥ ·)) quotations

theorem longestRawFirst_eq_self {quotations : List Quotation}
    (h : quotations.Pairwise fun q q' => q'.raw.byteSize ≤ q.raw.byteSize) :
    longestRawFirst quotations = quotations :=
  List.mergeSort_of_pairwise (h.imp decide_eq_true)

theorem ready_longestRawFirst (h : Quoting source quotations literals) :
    Ready quotations literals [] (longestRawFirst quotations) :=
  have hperm : (longestRawFirst quotations).Perm quotations := List.mergeSort_perm _ _
  ⟨hperm.subset, longestRawFirst_pairwise _, fun p hp => .inr (hperm.mem_iff.2 (h.mem p hp))⟩

theorem Quoting.code_iff (h : Quoting source quotations literals) :
    (∀ p ∈ literals, Stands [codeTile p.2] p.1.start (tilesOf source quotations))
      ↔ Uncut literals (longestRawFirst quotations) (keptText source) := by
  have hr := ready_longestRawFirst h
  refine ⟨h.tiling.uncut h hr, fun hu p hp => ?_⟩
  apply (h.tiling.markAll h hr.later_subset hu).code p hp
  rw [List.append_nil, List.mem_reverse]
  exact (hr.mem_or p hp).resolve_left List.not_mem_nil

theorem Quoting.tilesOf_eq (h : Quoting source quotations literals) :
    sourceOf (tilesOf source quotations) = source
      ∧ textOf (tilesOf source quotations) = textual source [] quotations := by
  have hq : ∀ q ∈ longestRawFirst quotations, IsQuotedText q.raw := fun q hq =>
    h.quoted q ((ready_longestRawFirst h).later_subset hq)
  have hsource := sourceOf_markAll (coded_keptText source) hq
  have htext := textOf_markAll (coded_keptText source) hq
  rw [sourceOf_keptText] at hsource
  rw [textOf_keptText] at htext
  exact ⟨hsource, htext⟩

theorem Quoting.inOrder (h : Quoting source quotations literals)
    (hu : Uncut literals (longestRawFirst quotations) (keptText source)) :
    Text.InOrder (literals.map fun p => Literal.encode p.2.units)
      (textual source [] quotations) := by
  have hr := ready_longestRawFirst h
  rw [← h.tilesOf_eq.2]
  exact inOrder_textOf (h.tiling.markAll h hr.later_subset hu).coded.filled h.before
    (fun p hp => h.stop_eq hp)
    fun p hp => ⟨p.1.start, h.code_iff.2 hu p hp, Nat.zero_add _⟩

end Masking

end ScriptVeil
