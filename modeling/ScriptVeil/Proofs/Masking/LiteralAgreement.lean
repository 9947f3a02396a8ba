import ScriptVeil.Proofs.Masking.Collected
import ScriptVeil.Proofs.Masking.Ranged

namespace ScriptVeil

namespace Text

def occurrencesFrom (s : Text) : Nat → Text → List Span
  | n, [] => if s = [] then [⟨n, n⟩] else []
  | n, c :: t =>
    (if s.isPrefixOf (c :: t) then [⟨n, n + s.byteSize⟩] else [])
      ++ occurrencesFrom s (n + c.utf8Size) t

/-- All ranges at which a text occurs in another one. They may overlap. -/
def occurrences (s t : Text) : List Span :=
  occurrencesFrom s 0 t

variable {s t : Text} {n : Nat} {r : Span}

theorem mem_occurrencesFrom_iff :
    r ∈ occurrencesFrom s n t
      ↔ ∃ a b, t = a ++ (s ++ b) ∧ r = ⟨n + a.byteSize, n + a.byteSize + s.byteSize⟩ := by
  induction t generalizing n with
  | nil =>
    constructor
    · intro h
      rw [occurrencesFrom, List.mem_ite_nil_right] at h
      obtain ⟨rfl, h⟩ := h
      exact ⟨[], [], rfl, List.mem_singleton.1 h⟩
    · rintro ⟨a, b, h, rfl⟩
      obtain ⟨rfl, hsb⟩ := List.append_eq_nil_iff.1 h.symm
      obtain ⟨rfl, rfl⟩ := List.append_eq_nil_iff.1 hsb
      exact List.mem_singleton_self _
  | cons c t ih =>
    rw [occurrencesFrom, List.mem_append, ih, List.mem_ite_nil_right, List.mem_singleton,
      List.isPrefixOf_iff_prefix]
    constructor
    · rintro (⟨⟨b, hb⟩, rfl⟩ | ⟨a, b, rfl, rfl⟩)
      · exact ⟨[], b, hb.symm, rfl⟩
      · exact ⟨c :: a, b, rfl, by rw [byteSize_cons, Nat.add_assoc n]⟩
    · rintro ⟨a, b, h, rfl⟩
      cases a with
      | nil => exact .inl ⟨⟨b, h.symm⟩, rfl⟩
      | cons d a =>
        obtain ⟨rfl, rfl⟩ := List.cons.inj h
        exact .inr ⟨a, b, rfl, by rw [byteSize_cons, ← Nat.add_assoc n]⟩

theorem mem_occurrences_iff :
    r ∈ s.occurrences t
      ↔ ∃ a b, t = a ++ (s ++ b) ∧ r = ⟨a.byteSize, a.byteSize + s.byteSize⟩ := by
  rw [occurrences, mem_occurrencesFrom_iff]
  simp only [Nat.zero_add]

end Text

namespace Masking

open Script

def CodeOnlyAt (literals : List (Span × Quotation)) (ts : List Tile) : Prop :=
  ∀ us vs raw new, ts = us ++ .code raw new :: vs →
    ∃ p ∈ literals, p.1.start = width us ∧ codeTile p.2 = .code raw new

/-- Whether the texts of some quotations occur nowhere but at literals. -/
def Pinned (source : Text) (quotations : List Quotation) (literals : List (Span × Quotation)) :
    Prop :=
  ∀ q ∈ quotations, ¬ Literal.encodingHead <:+: q.raw
    ∧ ∀ r ∈ q.raw.occurrences source, (r, q) ∈ literals

def literalEdit (p : Span × Quotation) : Edit :=
  ⟨p.1, Literal.encode p.2.units⟩

variable {source raw raw' new new' : Text} {quotations later : List Quotation}
  {literals : List (Span × Quotation)} {q : Quotation} {ts us vs : List Tile} {gs : List Group}
  {r : Span} {d : Document}

theorem IsPass.code_cases (h : IsPass raw ts gs)
    (hm : marked new gs = us ++ .code raw' new' :: vs) :
    (∃ us' vs', ts = us' ++ .code raw' new' :: vs' ∧ width us' = width us)
      ∨ ∃ us' ws vs', ts = us' ++ (ws ++ vs') ∧ textOf ws = raw ∧ width us' = width us
        ∧ raw' = sourceOf ws ∧ new' = new := by
  induction h generalizing us with
  | nil =>
    have hnil := List.append_eq_nil_iff.1 hm.symm
    exact absurd hnil.2 (List.cons_ne_nil _ _)
  | @hit ws ts gs hw h ih =>
    cases us with
    | nil =>
      obtain ⟨hx, -⟩ := List.cons.inj hm
      cases hx
      exact .inr ⟨[], ws, ts, rfl, hw, rfl, rfl, rfl⟩
    | cons x us =>
      obtain ⟨rfl, hm'⟩ := List.cons.inj hm
      have hwidth {us' : List Tile} (hu : width us' = width us) :
          width (ws ++ us') = width (Group.tile new (.hit ws) :: us) := by
        rw [width_append, width_cons, hu]
        rfl
      rcases ih hm' with ⟨us', vs', rfl, hu⟩ | ⟨us', ws', vs', rfl, hw', hu, hr, hn⟩
      · exact .inl ⟨ws ++ us', vs', (List.append_assoc _ _ _).symm, hwidth hu⟩
      · exact .inr ⟨ws ++ us', ws', vs', (List.append_assoc _ _ _).symm, hw', hwidth hu, hr, hn⟩
  | @miss x ts gs hx h ih =>
    cases us with
    | nil =>
      obtain ⟨rfl, -⟩ := List.cons.inj hm
      exact .inl ⟨[], ts, rfl, rfl⟩
    | cons y us =>
      obtain ⟨rfl, hm'⟩ := List.cons.inj hm
      have hwidth {us' : List Tile} (hu : width us' = width us) :
          width (x :: us') = width (Group.tile new (.miss x) :: us) := by
        rw [width_cons, width_cons, hu]
        rfl
      rcases ih hm' with ⟨us', vs', rfl, hu⟩ | ⟨us', ws', vs', rfl, hw', hu, hr, hn⟩
      · exact .inl ⟨x :: us', vs', rfl, hwidth hu⟩
      · exact .inr ⟨x :: us', ws', vs', rfl, hw', hwidth hu, hr, hn⟩

theorem Coded.eq_keptText (h : Coded ts) (hn : ¬ Literal.encodingHead <:+: textOf ts) :
    ts = keptText (textOf ts) := by
  induction ts with
  | nil => rfl
  | cons x ts ih =>
    have ht : Coded ts := fun raw new hm => h raw new (List.mem_cons_of_mem x hm)
    have hnt : ¬ Literal.encodingHead <:+: textOf ts := fun hi =>
      hn (hi.trans (List.suffix_append x.after (textOf ts)).isInfix)
    cases x with
    | kept c => exact congrArg (Tile.kept c :: ·) (ih ht hnt)
    | code raw new =>
      obtain ⟨-, units, rfl⟩ := h raw new List.mem_cons_self
      refine absurd ?_ hn
      exact ⟨[], Literal.numerals units ++ Literal.encodingTail ++ textOf ts, by
        simp [Tile.after, Literal.encode]⟩

theorem Coded.mem_occurrences (h : Coded (us ++ (ts ++ vs)))
    (hs : sourceOf (us ++ (ts ++ vs)) = source)
    (hn : ¬ Literal.encodingHead <:+: textOf ts) :
    sourceOf ts = textOf ts
      ∧ ⟨width us, width us + width ts⟩ ∈ (textOf ts).occurrences source := by
  have hc : Coded ts := fun raw new hm => h raw new (by simp [hm])
  have hk := hc.eq_keptText hn
  have hsame : sourceOf ts = textOf ts := by
    rw [hk, sourceOf_keptText, textOf_keptText]
  refine ⟨hsame, Text.mem_occurrences_iff.2 ⟨sourceOf us, sourceOf vs, ?_, ?_⟩⟩
  · rw [← hs, sourceOf_append, sourceOf_append, hsame]
  · rw [width, width, hsame]

theorem apart_or_eq {α : Type} {span : α → Span} {l : List α} {a b : α}
    (h : l.Pairwise fun a b => (span a).Apart (span b)) (ha : a ∈ l) (hb : b ∈ l) :
    (span a).Apart (span b) ∨ a = b := by
  induction l with
  | nil => contradiction
  | cons c l ih =>
    rcases List.mem_cons.1 ha with rfl | ha' <;> rcases List.mem_cons.1 hb with rfl | hb'
    · exact .inr rfl
    · exact .inl (List.rel_of_pairwise_cons h hb')
    · exact .inl (List.rel_of_pairwise_cons h ha').symm
    · exact ih h.tail ha' hb'

theorem Pinned.mem_of_hit (hp : Pinned source quotations literals) (hq : q ∈ quotations)
    (hquoted : IsQuotedText q.raw) (h : Coded ts) (hs : sourceOf ts = source)
    (hr : r ∈ hits q.raw ts) : (r, q) ∈ literals := by
  obtain ⟨us, ws, vs, rfl, hw, rfl⟩ := (isPass_pass (h.clear hquoted)).exists_of_hit hr
  obtain ⟨hn, hall⟩ := hp q hq
  apply hall
  rw [← hw] at hn ⊢
  rw [Nat.zero_add]
  exact (h.mem_occurrences hs hn).2

theorem Pinned.codeOnlyAt_mark (hp : Pinned source quotations literals) (hq : q ∈ quotations)
    (hquoted : IsQuotedText q.raw) (h : Coded ts) (hs : sourceOf ts = source)
    (ho : CodeOnlyAt literals ts) :
    CodeOnlyAt literals (mark q.raw (Literal.encode q.units) ts) := by
  intro us vs raw new hm
  obtain ⟨hn, hall⟩ := hp q hq
  rcases (isPass_pass (h.clear hquoted)).code_cases hm with
    ⟨us', vs', hts, hu⟩ | ⟨us', ws, vs', rfl, hw, hu, rfl, rfl⟩
  · rw [← hu]
    exact ho us' vs' raw new hts
  · rw [← hw] at hn
    obtain ⟨hsame, hocc⟩ := h.mem_occurrences hs hn
    rw [hw] at hsame hocc
    exact ⟨_, hall _ hocc, hu, by rw [codeTile, hsame]⟩

/-- Where the texts of quotations occur nowhere but at literals, the passes cut none of these and
leave no code anywhere else. -/
theorem Pinned.uncut (hp : Pinned source quotations literals)
    (h : Quoting source quotations literals) (hl : later ⊆ quotations) (hc : Coded ts)
    (hs : sourceOf ts = source) (ho : CodeOnlyAt literals ts) :
    Uncut literals later ts ∧ CodeOnlyAt literals (markAll later ts) := by
  induction later generalizing ts with
  | nil => exact ⟨trivial, ho⟩
  | cons q later ih =>
    obtain ⟨hq, hl⟩ := List.cons_subset.1 hl
    have hquoted := h.quoted q hq
    have hclear := hc.clear hquoted
    have hu : ∀ r ∈ hits q.raw ts, ∀ p ∈ literals, r.Apart p.1 ∨ r = p.1 := by
      intro r hr p hmem
      have hr := hp.mem_of_hit hq hquoted hc hs hr
      exact (apart_or_eq (h.before.imp .inl) hr hmem).imp_right (congrArg Prod.fst)
    obtain ⟨hrest, hcode⟩ := ih hl (hc.mark hquoted) ((sourceOf_mark hclear).trans hs)
      (hp.codeOnlyAt_mark hq hquoted hc hs ho)
    exact ⟨⟨hu, hrest⟩, hcode⟩

theorem codeOnlyAt_keptText (t : Text) : CodeOnlyAt literals (keptText t) := by
  intro us vs raw new h
  have hmem : Tile.code raw new ∈ keptText t := by rw [h]; simp
  obtain ⟨c, -, hc⟩ := List.mem_map.1 hmem
  contradiction

theorem textOf_eq_sourceOf (h : ∀ raw new, .code raw new ∉ ts) : textOf ts = sourceOf ts := by
  induction ts with
  | nil => rfl
  | cons x ts ih =>
    have ht := ih fun raw new hm => h raw new (List.mem_cons_of_mem x hm)
    cases x with
    | kept c => rw [textOf_cons, sourceOf_cons, ht]; rfl
    | code raw new => exact absurd List.mem_cons_self (h raw new)

/-- Whether the code in a row of tiles, behind tiles for so much of the text, is that of literals
and each of these has its code. -/
structure InPlace (literals : List (Span × Quotation)) (n : Nat) (ts : List Tile) : Prop where
  filled : Filled ts
  before : literals.Pairwise fun p p' => p.1.Before p'.1
  stop : ∀ p ∈ literals, p.1.stop = p.1.start + p.2.raw.byteSize
  code : ∀ p ∈ literals, ∃ k, Stands [codeTile p.2] k ts ∧ n + k = p.1.start
  only : ∀ vs ws raw new, ts = vs ++ .code raw new :: ws →
    ∃ p ∈ literals, p.1.start = n + width vs

namespace InPlace

variable {p : Span × Quotation} {n : Nat}

theorem not_code (h : InPlace [] n ts) (raw new : Text) : .code raw new ∉ ts := by
  intro hm
  obtain ⟨vs, ws, hts⟩ := List.append_of_mem hm
  obtain ⟨p, hp, -⟩ := h.only vs ws raw new hts
  contradiction

theorem later_le (h : InPlace (p :: literals) n ts) : ∀ p' ∈ literals, p.1.stop ≤ p'.1.start :=
  fun _ hp' => List.rel_of_pairwise_cons h.before hp'

theorem not_code_front (h : InPlace (p :: literals) n (vs ++ us)) (hn : n + width vs = p.1.start)
    (raw new : Text) : .code raw new ∉ vs := by
  intro hm
  obtain ⟨vs', ws', rfl⟩ := List.append_of_mem hm
  obtain ⟨p', hp', hstart⟩ := h.only vs' _ raw new (List.append_assoc _ _ _)
  have hfc : Filled [Tile.code raw new] := h.filled.of_subset (by simp)
  have hcode := hfc.width_pos (List.cons_ne_nil _ _)
  have hpstop := h.stop p List.mem_cons_self
  rw [width_append, ← List.singleton_append, width_append] at hn
  rcases List.mem_cons.1 hp' with rfl | hp'
  · omega
  · have := h.later_le p' hp'
    omega

theorem tail (h : InPlace (p :: literals) n (vs ++ ([codeTile p.2] ++ us)))
    (hn : n + width vs = p.1.start) : InPlace literals p.1.stop us where
  filled := h.filled.of_subset (by simp)
  before := h.before.tail
  stop p' hp' := h.stop p' (List.mem_cons_of_mem p hp')
  code p' hp' := by
    have hpstop := h.stop p List.mem_cons_self
    have hbefore := h.later_le p' hp'
    obtain ⟨k, ⟨vs', ws', he, hk⟩, hn'⟩ := h.code p' (List.mem_cons_of_mem p hp')
    rw [← List.append_assoc] at he
    obtain ⟨xs, rfl, rfl⟩ := Filled.exists_append (h.filled.of_subset (by simp)) he
      (by rw [width_append, width_codeTile]; omega)
    refine ⟨width xs, ⟨xs, ws', rfl, rfl⟩, ?_⟩
    rw [width_append, width_append, width_codeTile] at hk
    omega
  only vs' ws' raw new hus := by
    have hpstop := h.stop p List.mem_cons_self
    have hpos : 0 < p.2.raw.byteSize := by
      have hft : Filled [codeTile p.2] := h.filled.of_subset (by simp)
      have := hft.width_pos (List.cons_ne_nil _ _)
      rwa [width_codeTile] at this
    obtain ⟨p', hp', hstart⟩ := h.only (vs ++ ([codeTile p.2] ++ vs')) ws' raw new
      (by rw [hus]; simp only [List.append_assoc])
    rw [width_append, width_append, width_codeTile] at hstart
    rcases List.mem_cons.1 hp' with rfl | hp'
    · omega
    · exact ⟨p', hp', by omega⟩

/-- A row whose code is that of literals in their places is the text with their edits put in
place. -/
theorem textOf_eq_weave (h : InPlace literals (width us) ts) (hs : sourceOf (us ++ ts) = source) :
    textOf ts = weave source (width us) (literals.map literalEdit) := by
  induction literals generalizing us ts with
  | nil =>
    rw [List.map_nil, weave, textOf_eq_sourceOf h.not_code, ← hs, sourceOf_append, width,
      Text.dropBytes_byteSize_append]
  | cons p literals ih =>
    obtain ⟨k, ⟨vs, ws, rfl, rfl⟩, hn⟩ := h.code p List.mem_cons_self
    have hwidth : width (us ++ (vs ++ [codeTile p.2])) = p.1.stop := by
      rw [width_append, width_append, width_codeTile, h.stop p List.mem_cons_self]
      omega
    have hs' : sourceOf ((us ++ (vs ++ [codeTile p.2])) ++ ws) = source := by
      rw [← hs]
      simp only [List.append_assoc]
    have hrest : textOf ws = weave source p.1.stop (literals.map literalEdit) := by
      rw [← hwidth]
      exact ih (hwidth ▸ h.tail hn) hs'
    have hslice : source.slice ⟨width us, p.1.start⟩ = sourceOf vs := by
      rw [← hs, ← hn, sourceOf_append, sourceOf_append]
      exact Text.slice_append _ _ _
    rw [List.map_cons, weave, textOf_append, textOf_append, textOf_codeTile, hrest,
      textOf_eq_sourceOf (h.not_code_front hn), ← hslice, List.append_assoc]
    rfl

end InPlace

theorem editsAt_eq_literalEdits (d : Document) :
    editsAt d.source d.sites [] d.candidates.literals = d.collected.map literalEdit := by
  have hd : d.candidates.literals.Pairwise fun p q => p.raw ≠ q.raw := Document.literals_pairwise
  have hfind (raw : Text) : encodingOf d.candidates.literals raw
      = (d.candidates.literals.find? fun q => q.raw = raw).map fun q => Literal.encode q.units := by
    cases hq : d.candidates.literals.find? fun q => q.raw = raw with
    | none =>
      rw [encodingOf, Option.map_none, Option.map_eq_none_iff, List.find?_eq_none]
      exact fun q hq' => List.find?_eq_none.1 hq q (List.mem_reverse.1 hq')
    | some q =>
      obtain ⟨hmem, rfl⟩ := (find?_key_eq_some_iff hd).1 hq
      exact encodingOf_raw hd hmem
  rw [Document.collected, literalSpans, List.map_filterMap, List.filterMap_filterMap, editsAt]
  refine List.filterMap_congr fun s _ => ?_
  cases s with
  | reference id => rfl
  | shorthand id => rfl
  | string lit =>
    rw [editAt, hfind, Option.map_map, Site.literalSpan?, Option.bind_some, Option.map_map]
    rfl

theorem apart_collected (h : (literalSpans d.sites).Pairwise Span.Apart) :
    d.collected.Pairwise fun p p' => p.1.Apart p'.1 := by
  refine List.pairwise_filterMap.2 (h.imp fun h p hp p' hp' => ?_)
  obtain ⟨q, -, rfl⟩ := Option.map_eq_some_iff.1 hp
  obtain ⟨q', -, rfl⟩ := Option.map_eq_some_iff.1 hp'
  exact h

theorem within_collected (hin : ∀ r ∈ literalSpans d.sites, r.start ≤ r.stop
      ∧ d.source.IsBoundary r.start ∧ d.source.IsBoundary r.stop)
    (hquoted : ∀ q ∈ d.candidates.literals, IsQuotedText q.raw) :
    ∀ p ∈ d.collected, p.1.Within d.source := by
  intro p hp
  obtain ⟨hr, hq, hraw⟩ := mem_collected hp
  obtain ⟨hle, hstart, hstop⟩ := hin p.1 hr
  refine ⟨?_, hstart, hstop⟩
  by_contra hge
  have hempty : p.1.stop - p.1.start = 0 := by omega
  rw [Text.slice, hempty, Text.takeBytes_zero] at hraw
  exact (hquoted p.2 hq).ne_nil hraw

theorem quoting_of_within (hquoted : ∀ q ∈ d.candidates.literals, IsQuotedText q.raw)
    (hperm : literals.Perm d.collected) (hwithin : ∀ p ∈ d.collected, p.1.Within d.source)
    (hbefore : literals.Pairwise fun p p' => p.1.Before p'.1) :
    Quoting d.source d.candidates.literals literals where
  mem p hp := (mem_collected (hperm.mem_iff.1 hp)).2.1
  range p hp := by
    have hmem := hperm.mem_iff.1 hp
    obtain ⟨hlt, hstart, hstop⟩ := hwithin p hmem
    rw [(mem_collected hmem).2.2]
    exact Text.exists_append_slice hstart hstop hlt.le
  before := hbefore
  quoted := hquoted
  raw_inj _ hq _ hq' he := Document.eq_of_mem_literals hq hq' he

theorem pinned_of_occurrences (hperm : literals.Perm d.collected)
    (hcode : ∀ q ∈ d.candidates.literals, ¬ Literal.encodingHead <:+: q.raw)
    (hpinned : ∀ q ∈ d.candidates.literals, q.raw.occurrences d.source ⊆ literalSpans d.sites) :
    Pinned d.source d.candidates.literals literals := by
  intro q hq
  refine ⟨hcode q hq, fun r hr => hperm.mem_iff.2 ?_⟩
  have hfind : d.candidates.literals.find? (fun q => q.raw = d.source.slice r) = some q := by
    obtain ⟨a, b, hs, rfl⟩ := Text.mem_occurrences_iff.1 hr
    refine (find?_key_eq_some_iff Document.literals_pairwise).2 ⟨hq, ?_⟩
    rw [hs, Text.slice_append]
  exact List.mem_filterMap.2 ⟨r, hpinned q hq hr, by rw [hfind]; rfl⟩

/-- Where the passes cut no literal and leave no other code, they put the edits of the literals in
place. -/
theorem textual_eq_weave (h : Quoting source quotations literals)
    (hp : Pinned source quotations literals) :
    textual source [] quotations = weave source 0 (literals.map literalEdit) := by
  have hsubset := (ready_longestRawFirst h).later_subset
  obtain ⟨huncut, hcodes⟩ := hp.uncut h hsubset (coded_keptText source)
    (sourceOf_keptText source) (codeOnlyAt_keptText source)
  have honly (vs ws : List Tile) (raw new : Text)
      (hts : tilesOf source quotations = vs ++ .code raw new :: ws) :
      ∃ p ∈ literals, p.1.start = width [] + width vs := by
    obtain ⟨p, hp, hstart, -⟩ := hcodes vs ws raw new hts
    exact ⟨p, hp, hstart.trans (Nat.zero_add _).symm⟩
  have hplaced : InPlace literals (width []) (tilesOf source quotations) :=
    { filled := (h.tiling.markAll h hsubset huncut).coded.filled
      before := h.before
      stop := fun p hp => h.stop_eq hp
      code := fun p hp => ⟨p.1.start, h.code_iff.2 huncut p hp, Nat.zero_add _⟩
      only := honly }
  obtain ⟨hsource, htext⟩ := h.tilesOf_eq
  rw [← htext]
  exact hplaced.textOf_eq_weave hsource

theorem cuts_of_literalSpans (hin : ∀ r ∈ literalSpans d.sites, r.start ≤ r.stop
      ∧ d.source.IsBoundary r.start ∧ d.source.IsBoundary r.stop) :
    ∀ s ∈ d.sites, s.Cuts d.source := by
  intro s hs
  cases s with
  | reference id | shorthand id => trivial
  | string lit =>
    obtain ⟨hle, hstart, hstop⟩ := hin lit.span (List.mem_filterMap.2 ⟨_, hs, rfl⟩)
    exact ⟨hle, hstart, hstop⟩

/-- Where the ranges of the literals lie in the text and apart from one another, and the collected
texts start and end with quotes, hold no code and occur nowhere but at literals, it makes no
difference whether literals are masked over the text or by position, which is not broken off. -/
theorem textual_eq_ranged_of_pinned (hd : (literalSpans d.sites).Pairwise Span.Apart)
    (hin : ∀ r ∈ literalSpans d.sites, r.start ≤ r.stop ∧ d.source.IsBoundary r.start
      ∧ d.source.IsBoundary r.stop)
    (hquoted : ∀ q ∈ d.candidates.literals, IsQuotedText q.raw)
    (hcode : ∀ q ∈ d.candidates.literals, ¬ Literal.encodingHead <:+: q.raw)
    (hpinned : ∀ q ∈ d.candidates.literals, q.raw.occurrences d.source ⊆ literalSpans d.sites) :
    textual d.source [] d.candidates.literals
        = ranged d.source d.sites [] d.candidates.literals
      ∧ ranged? d.source d.sites [] d.candidates.literals
        = some (textual d.source [] d.candidates.literals) := by
  have hwithin := within_collected hin hquoted
  have hedits := editsAt_eq_literalEdits d
  obtain ⟨literals, hperm, hbefore⟩ :=
    exists_pairwise_before (fun p hp => (hwithin p hp).start_lt_stop) (apart_collected hd)
  have hordered : Ordered d.source (literals.map literalEdit) := by
    refine ⟨fun e he => ?_, List.pairwise_map.2 hbefore⟩
    obtain ⟨p, hp, rfl⟩ := List.mem_map.1 he
    exact hwithin p (hperm.mem_iff.1 hp)
  have htextual : textual d.source [] d.candidates.literals
      = ranged d.source d.sites [] d.candidates.literals := calc
    _ = weave d.source 0 (literals.map literalEdit) :=
        textual_eq_weave (quoting_of_within hquoted hperm hwithin hbefore)
          (pinned_of_occurrences hperm hcode hpinned)
    _ = applyEdits d.source (d.collected.map literalEdit) :=
        (applyEdits_eq_weave hordered (hperm.map literalEdit)).symm
    _ = ranged d.source d.sites [] d.candidates.literals := by rw [ranged, hedits]
  refine ⟨htextual, ?_⟩
  rw [htextual]
  refine ranged?_eq_some (cuts_of_literalSpans hin) ?_ ?_
  · rw [hedits, List.forall_mem_map]
    exact hwithin
  · rw [hedits, List.pairwise_map]
    exact apart_collected hd

theorem textual_eq_ranged_of_pinned_twice :
    let input := "var s='\\x61';f(\"é\",s+g(\"é\"),\"é\"+1)".toList
    let accent := "String.fromCharCode.apply(null, [233])".toList
    ∃ d, (Document.read input).document = .ok d
      ∧ (literalSpans d.sites).Pairwise Span.Apart
      ∧ (∀ r ∈ literalSpans d.sites, r.start ≤ r.stop ∧ d.source.IsBoundary r.start
        ∧ d.source.IsBoundary r.stop)
      ∧ (∀ q ∈ d.candidates.literals, IsQuotedText q.raw)
      ∧ (∀ q ∈ d.candidates.literals, ¬ Literal.encodingHead <:+: q.raw)
      ∧ (∀ q ∈ d.candidates.literals, q.raw.occurrences d.source ⊆ literalSpans d.sites)
      ∧ textual d.source [] d.candidates.literals
        = ranged d.source d.sites [] d.candidates.literals
      ∧ ranged d.source d.sites [] d.candidates.literals
        = "var s=String.fromCharCode.apply(null, [97]);f(".toList ++ accent ++ ",s+g(".toList
          ++ accent ++ "),".toList ++ accent ++ "+1)".toList := by
  intro input accent
  let literals : List (Span × Quotation) := [(⟨6, 12⟩, ⟨"'\\x61'".toList, [97], ⟨6, 12⟩⟩),
    (⟨15, 19⟩, ⟨"\"é\"".toList, [233], ⟨15, 19⟩⟩), (⟨24, 28⟩, ⟨"\"é\"".toList, [233], ⟨15, 19⟩⟩),
    (⟨30, 34⟩, ⟨"\"é\"".toList, [233], ⟨15, 19⟩⟩)]
  have hread : (Document.read input).document.toOption.map
      (fun d => (d.source, literalSpans d.sites, d.candidates.literals, d.collected))
      = some (input, [⟨6, 12⟩, ⟨15, 19⟩, ⟨24, 28⟩, ⟨30, 34⟩],
        [⟨"'\\x61'".toList, [97], ⟨6, 12⟩⟩, ⟨"\"é\"".toList, [233], ⟨15, 19⟩⟩], literals) := by
    decide +kernel
  obtain ⟨d, hd, h⟩ := exists_of_toOption_map hread
  obtain ⟨hs, hl, hq, hc⟩ : d.source = input ∧ literalSpans d.sites = _
      ∧ d.candidates.literals = _ ∧ d.collected = literals := by
    simpa only [Prod.mk.injEq] using h
  have hapart : (literalSpans d.sites).Pairwise Span.Apart := by
    rw [hl]
    decide
  have hin : ∀ r ∈ literalSpans d.sites, r.start ≤ r.stop ∧ d.source.IsBoundary r.start
      ∧ d.source.IsBoundary r.stop := by
    rw [hl, hs]
    decide +kernel
  have hquoted : ∀ q ∈ d.candidates.literals, IsQuotedText q.raw := by
    rw [hq, List.forall_mem_cons, List.forall_mem_singleton]
    exact ⟨⟨⟨'\'', rfl, .inl rfl⟩, '\'', rfl, rfl⟩, ⟨'"', rfl, .inl rfl⟩, '"', rfl, rfl⟩
  have hcode : ∀ q ∈ d.candidates.literals, ¬ Literal.encodingHead <:+: q.raw := by
    rw [hq]
    decide +kernel
  have hpinned : ∀ q ∈ d.candidates.literals,
      q.raw.occurrences d.source ⊆ literalSpans d.sites := by
    rw [hl, hq, hs]
    decide +kernel
  have hordered : Ordered input (literals.map literalEdit) :=
    ⟨by decide +kernel, by decide +kernel⟩
  refine ⟨d, hd, hapart, hin, hquoted, hcode, hpinned,
    (textual_eq_ranged_of_pinned hapart hin hquoted hcode hpinned).1, ?_⟩
  rw [ranged, editsAt_eq_literalEdits, hs, hc]
  exact (applyEdits_eq_weave hordered (.refl _)).trans (by decide +kernel)

end Masking

end ScriptVeil
