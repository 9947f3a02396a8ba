import ScriptVeil.Proofs.Masking.Ranged
import ScriptVeil.Proofs.Masking.WordSpan
import ScriptVeil.Proofs.Script.Written

namespace ScriptVeil

open Script

def Script.Site.ident? : Site → Option Ident
  | .reference id | .shorthand id => some id
  | .string _ => none

def Script.Document.idents (d : Document) : List Ident :=
  d.sites.filterMap Site.ident?

namespace Masking

def HasName (renames : List Rename) (name : Text) : Prop :=
  ∃ r ∈ renames, r.name = name

instance (renames : List Rename) (name : Text) : Decidable (HasName renames name) :=
  inferInstanceAs (Decidable (∃ r ∈ renames, _))

/-- The words that renames replace are just the identifiers that have one of their names, as far as
ranges go. These identifiers are spelled as their names, and none is a shorthand. -/
structure Aligned (d : Document) (renames : List Rename) : Prop where
  exists_ident : ∀ w ∈ words d.source, w.IsMasked renames →
    ∃ id ∈ d.idents, HasName renames id.name ∧ id.span = w.span
  exists_word : ∀ id ∈ d.idents, HasName renames id.name →
    ∃ w ∈ words d.source, w.IsMasked renames ∧ w.span = id.span
  name_eq : ∀ id ∈ d.idents, HasName renames id.name → id.name = d.source.slice id.span
  not_shorthand : ∀ id ∈ d.idents, HasName renames id.name → .shorthand id ∉ d.sites

def identEdit? (renames : List Rename) (id : Ident) : Option Edit :=
  (maskOf renames id.name).map fun mask => ⟨id.span, mask⟩

variable {d : Document} {renames : List Rename} {e : Edit}

theorem identEdit?_eq_some_iff {id : Ident} (h : renames.Pairwise fun r s => r.name ≠ s.name) :
    identEdit? renames id = some e ↔ ∃ r ∈ renames, r.name = id.name ∧ ⟨id.span, r.mask⟩ = e := by
  rw [identEdit?, Option.map_eq_some_iff]
  constructor
  · rintro ⟨mask, hmask, rfl⟩
    obtain ⟨r, hr, hname, rfl⟩ := (maskOf_eq_some_iff h).1 hmask
    exact ⟨r, hr, hname, rfl⟩
  · rintro ⟨r, hr, hname, rfl⟩
    exact ⟨r.mask, (maskOf_eq_some_iff h).2 ⟨r, hr, hname, rfl⟩, rfl⟩

theorem maskOf_eq_none {name : Text} (h : ¬ HasName renames name) : maskOf renames name = none := by
  rw [maskOf, Option.map_eq_none_iff, List.find?_eq_none]
  intro r hr hname
  exact h ⟨r, List.mem_reverse.1 hr, of_decide_eq_true hname⟩

theorem editsAt_eq_identEdits (ha : Aligned d renames) :
    editsAt d.source d.sites renames [] = d.idents.filterMap (identEdit? renames) := by
  rw [editsAt, Document.idents, List.filterMap_filterMap]
  refine List.filterMap_congr fun s hs => ?_
  cases s with
  | reference id => rfl
  | shorthand id =>
    have hid : id ∈ d.idents := List.mem_filterMap.2 ⟨.shorthand id, hs, rfl⟩
    have hnone : maskOf renames id.name = none :=
      maskOf_eq_none fun hn => ha.not_shorthand id hid hn hs
    rw [editAt, hnone, Site.ident?, Option.bind_some, identEdit?, hnone]
    rfl
  | string lit => rfl

theorem mem_wordEdits_iff (h : Independent renames) (ha : Aligned d renames) :
    e ∈ (words d.source).filterMap (wordEdit? renames)
      ↔ e ∈ d.idents.filterMap (identEdit? renames) := by
  rw [List.mem_filterMap, List.mem_filterMap]
  constructor
  · rintro ⟨w, hw, he⟩
    obtain ⟨r, hr, hname, hk, rfl⟩ := (wordEdit?_eq_some_iff h.names).1 he
    obtain ⟨id, hid, hnamed, hspan⟩ := ha.exists_ident w hw ⟨r, hr, hname, hk⟩
    have hid' : id.name = w.text := by
      rw [ha.name_eq id hid hnamed, hspan, (mem_words hw).slice_eq]
    refine ⟨id, hid, (identEdit?_eq_some_iff h.names).2 ⟨r, hr, hname.trans hid'.symm, ?_⟩⟩
    rw [hspan]
  · rintro ⟨id, hid, he⟩
    obtain ⟨r, hr, hname, rfl⟩ := (identEdit?_eq_some_iff h.names).1 he
    have hnamed : HasName renames id.name := ⟨r, hr, hname⟩
    obtain ⟨w, hw, ⟨s, hs, hsname, hk⟩, hspan⟩ := ha.exists_word id hid hnamed
    have hid' : id.name = w.text := by
      rw [ha.name_eq id hid hnamed, ← hspan, (mem_words hw).slice_eq]
    -- The rename that masks the word has the name of the identifier, and no other one has it.
    have hrs : renameOf renames w.text = some r :=
      (renameOf_eq_some_iff h.names).2 ⟨hr, hname.trans hid'⟩
    have hsr : renameOf renames w.text = some s := (renameOf_eq_some_iff h.names).2 ⟨hs, hsname⟩
    obtain rfl : s = r := Option.some.inj (hsr.symm.trans hrs)
    refine ⟨w, hw, (wordEdit?_eq_some_iff h.names).2 ⟨s, hs, hsname, hk, ?_⟩⟩
    rw [hspan]

theorem textual_nil (t : Text) (renames : List Rename) :
    textual t renames [] = applyRenames renames t := by
  rw [textual, applyLiterals, longestRawFirst, List.mergeSort_nil]
  rfl

/-- Independent renames do the same over the text and by position, if the words and the identifiers
that they mean are the same. All that can come between is a string of the tree that cannot be cut
out of the source, which breaks masking by position off; all strings of a script that was read can,
unless its text still starts with a byte order mark. -/
theorem textual_eq_ranged (h : Independent renames)
    (hd : d.idents.Pairwise fun a b => a.span.Apart b.span) (ha : Aligned d renames) :
    (ranged? d.source d.sites renames []
        = if ∀ s ∈ d.sites, s.Cuts d.source then some (textual d.source renames []) else none)
      ∧ ∀ input, (Document.read input).document = .ok d → d.source.head? ≠ some byteOrderMark →
        ranged? d.source d.sites renames [] = some (textual d.source renames []) := by
  have ho := ordered_words renames d.source
  have hspan {id : Ident} {e : Edit} (he : identEdit? renames id = some e) : e.span = id.span := by
    obtain ⟨mask, -, rfl⟩ := Option.map_eq_some_iff.1 he
    rfl
  have happart : (d.idents.filterMap (identEdit? renames)).Pairwise
      fun e f => e.span.Apart f.span := by
    refine List.pairwise_filterMap.2 (hd.imp fun hab e he f hf => ?_)
    rw [hspan he, hspan hf]
    exact hab
  have hwithin : ∀ e ∈ d.idents.filterMap (identEdit? renames), e.span.Within d.source :=
    fun e he => ho.within e ((mem_wordEdits_iff h ha).2 he)
  have hperm : ((words d.source).filterMap (wordEdit? renames)).Perm
      (d.idents.filterMap (identEdit? renames)) :=
    (List.perm_ext_iff_of_nodup (nodup_of_apart ho.within ho.apart)
      (nodup_of_apart hwithin happart)).2 fun e => mem_wordEdits_iff h ha
  have htextual : applyEdits d.source (d.idents.filterMap (identEdit? renames))
      = textual d.source renames [] := calc
    _ = weave d.source 0 ((words d.source).filterMap (wordEdit? renames)) :=
        applyEdits_eq_weave ho hperm
    _ = renamePass renames d.source := (renamePass_eq_weave renames d.source).symm
    _ = applyRenames renames d.source := (applyRenames_eq_renamePass h d.source).symm
    _ = textual d.source renames [] := (textual_nil d.source renames).symm
  have hranged : ranged? d.source d.sites renames []
      = if ∀ s ∈ d.sites, s.Cuts d.source then some (textual d.source renames []) else none := by
    rw [ranged?, editsAt?_eq, editsAt_eq_identEdits ha]
    split
    · rw [Option.bind_some, applyEdits?_eq_some hwithin happart, htextual]
    · rfl
  exact ⟨hranged, fun input hread hmark =>
    hranged.trans (if_pos (Document.sites_cuts hread hmark))⟩

/-- A letter of two bytes makes way for one of a single byte. The member of the same name is no
identifier, and it is kept as a word. -/
theorem textual_eq_ranged_accent :
    let renames : List Rename := [⟨['é'], ['x'], .variable⟩, ⟨['f'], ['g'], .function⟩]
    let d : Document := ⟨false, "var é=1;f(o.é,é,'s')".toList, [
      ⟨⟨0, 9⟩, .vars [.withDefault (.name ⟨['é'], ⟨4, 6⟩⟩) (.atom .literal 7)]⟩,
      ⟨⟨9, 23⟩, .expr (.call (.name ⟨['f'], ⟨9, 10⟩⟩)
        [.member (.name ⟨['o'], ⟨11, 12⟩⟩) (.word ⟨['é'], ⟨13, 15⟩⟩), .name ⟨['é'], ⟨16, 18⟩⟩,
          .string ⟨['s'], ⟨19, 22⟩⟩])⟩]⟩
    (Document.read d.source).document.toOption.map Document.sites = some d.sites
      ∧ Independent renames
      ∧ (d.idents.Pairwise fun a b => a.span.Apart b.span)
      ∧ Aligned d renames
      ∧ (∀ s ∈ d.sites, s.Cuts d.source)
      ∧ ranged? d.source d.sites renames [] = some (textual d.source renames [])
      ∧ textual d.source renames [] = "var x=1;g(o.é,x,'s')".toList := by
  intro renames d
  have h : Independent renames := by decide +kernel
  have hd : d.idents.Pairwise fun a b => a.span.Apart b.span := by decide +kernel
  have ha : Aligned d renames :=
    ⟨by decide +kernel, by decide +kernel, by decide +kernel, by decide +kernel⟩
  have hc : ∀ s ∈ d.sites, s.Cuts d.source := by decide +kernel
  refine ⟨by decide +kernel, h, hd, ha, hc, (textual_eq_ranged h hd ha).1.trans (if_pos hc), ?_⟩
  rw [textual_nil]
  decide +kernel

end Masking

end ScriptVeil
