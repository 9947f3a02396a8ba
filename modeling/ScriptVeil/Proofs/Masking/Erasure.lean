import ScriptVeil.Proofs.Literal.Encoding
import ScriptVeil.Proofs.Masking.Pass

namespace ScriptVeil

def Quotation.IsMarked (q : Quotation) : Prop :=
  2 ≤ q.raw.length ∧ q.raw.head?.any Literal.quotationMarks.has = true
    ∧ q.raw.getLast?.any Literal.quotationMarks.has = true

instance (q : Quotation) : Decidable q.IsMarked :=
  inferInstanceAs (Decidable (_ ∧ _))

theorem Quotation.IsMarked.ne_nil {q : Quotation} (h : q.IsMarked) : q.raw ≠ [] :=
  List.ne_nil_of_length_pos (Nat.lt_of_lt_of_le Nat.zero_lt_two h.1)

namespace Masking

/-- Whether a text cannot overlap an inserted one: its first and last character are not among those
that are inserted, and it does not hold the inserted text as a whole. -/
structure Avoids (s new : Text) : Prop where
  ne_nil : s ≠ []
  head : ∀ c ∈ s.head?, c ∉ new
  last : ∀ c ∈ s.getLast?, c ∉ new
  not_isInfix : ¬ new <:+: s

variable {raw new s t : Text} {q : Quotation} {quotations : List Quotation}

theorem not_isPrefix_append (hs : s ≠ []) (hlast : ∀ c ∈ s.getLast?, c ∉ new)
    (hnew : ¬ new <:+: s) : ¬ s <+: new ++ t := by
  intro h
  rcases List.prefix_or_prefix_of_prefix h (List.prefix_append new t) with hp | hp
  · exact hlast _ (List.getLast?_eq_some_getLast hs) (hp.subset (List.getLast_mem hs))
  · exact hnew hp.isInfix

theorem isInfix_of_isInfix_append (hs : s ≠ []) (hhead : ∀ c ∈ s.head?, c ∉ new)
    (h : s <:+: new ++ t) : s <:+: t := by
  induction new with
  | nil => exact h
  | cons d new ih =>
    rcases List.infix_cons_iff.1 h with hp | h
    · obtain ⟨c, s, rfl⟩ := List.exists_cons_of_ne_nil hs
      obtain ⟨rfl, -⟩ := List.cons_prefix_cons.1 hp
      exact absurd List.mem_cons_self (hhead c rfl)
    · exact ih (fun c hc hmem => hhead c hc (List.mem_cons_of_mem d hmem)) h

theorem replaceFrom_cons (h : ¬ raw <+: c :: t) :
    Text.replaceFrom raw new 0 (c :: t) = c :: Text.replaceFrom raw new 0 t := by
  rw [Text.replaceFrom, if_neg (mt List.isPrefixOf_iff_prefix.1 h)]

theorem isPrefix_of_replaceFrom (hraw : raw ≠ []) (hlast : ∀ c ∈ s.getLast?, c ∉ new)
    (hnew : ¬ new <:+: s) (h : s <+: Text.replaceFrom raw new 0 t) : s <+: t := by
  induction t generalizing s with
  | nil => exact h
  | cons c t ih =>
    cases s with
    | nil => exact List.nil_prefix
    | cons d s =>
      by_cases hp : raw <+: c :: t
      · obtain ⟨u, hu⟩ := hp
        rw [← hu, replaceFrom_append hraw] at h
        exact absurd h (not_isPrefix_append (List.cons_ne_nil d s) hlast hnew)
      · rw [replaceFrom_cons hp] at h
        obtain ⟨hd, hs⟩ := List.cons_prefix_cons.1 h
        have hlast' : ∀ c ∈ s.getLast?, c ∉ new := by
          intro c hc
          obtain ⟨v, rfl⟩ := List.getLast?_eq_some_iff.1 hc
          exact hlast c (by rw [← List.cons_append, List.getLast?_concat]; rfl)
        have hnew' : ¬ new <:+: s := fun hin => hnew (List.infix_cons hin)
        exact List.cons_prefix_cons.2 ⟨hd, ih hlast' hnew' hs⟩

/-- A text that is found behind a replacement was there before it, and is not what was replaced. -/
theorem Avoids.of_replaceFrom (ha : Avoids s new) (hraw : raw ≠ [])
    (h : s <:+: Text.replaceFrom raw new 0 t) : s <:+: t ∧ s ≠ raw := by
  induction hn : t.length using Nat.strongRecOn generalizing t with
  | ind n ih =>
    cases t with
    | nil => exact absurd (List.infix_nil.1 h) ha.ne_nil
    | cons c t =>
      by_cases hp : raw <+: c :: t
      · obtain ⟨u, hu⟩ := hp
        rw [← hu, replaceFrom_append hraw] at h
        have hlt : u.length < n := by
          have hpos := List.length_pos_of_ne_nil hraw
          rw [← hn, ← hu, List.length_append]
          omega
        obtain ⟨hin, hne⟩ := ih u.length hlt (isInfix_of_isInfix_append ha.ne_nil ha.head h) rfl
        exact ⟨hin.trans ⟨raw, [], by rw [List.append_nil, hu]⟩, hne⟩
      · rw [replaceFrom_cons hp] at h
        rcases List.infix_cons_iff.1 h with hfront | h
        · rw [← replaceFrom_cons hp] at hfront
          have hfront := isPrefix_of_replaceFrom hraw ha.last ha.not_isInfix hfront
          exact ⟨hfront.isInfix, fun he => hp (he ▸ hfront)⟩
        · obtain ⟨hin, hne⟩ := ih t.length (by rw [← hn]; exact Nat.lt_succ_self _) h rfl
          exact ⟨List.infix_cons hin, hne⟩

theorem Avoids.of_replaceAll (ha : Avoids s new) (hraw : raw ≠ [])
    (h : s <:+: t.replaceAll raw new) : s <:+: t ∧ s ≠ raw := by
  rw [Text.replaceAll, if_neg hraw] at h
  exact ha.of_replaceFrom hraw h

theorem avoids_encode (hq : q.IsMarked) (hhead : ¬ Literal.encodingHead <:+: q.raw)
    (units : Units) : Avoids q.raw (Literal.encode units) := by
  have hmark {c : Char} (hc : Literal.quotationMarks.has c = true) : c ∉ Literal.encode units := by
    intro hmem
    have hchar := Literal.encodingChars_apart_quotationMarks.not_has (Literal.mem_encode hmem)
    rw [hc] at hchar
    contradiction
  constructor
  · exact hq.ne_nil
  · intro c hc
    have hany := hq.2.1
    rw [Option.mem_def.1 hc] at hany
    exact hmark hany
  · intro c hc
    have hany := hq.2.2
    rw [Option.mem_def.1 hc] at hany
    exact hmark hany
  · intro hin
    apply hhead
    refine List.IsInfix.trans ⟨[], Literal.numerals units ++ Literal.encodingTail, ?_⟩ hin
    rw [Literal.encode, List.nil_append, List.append_assoc]

/-- Replacing quotations one after the other leaves none of their raw texts, and no other text that
was not there. -/
theorem not_isInfix_foldl (hs : ∀ units, Avoids s (Literal.encode units))
    (hraw : ∀ l ∈ quotations, l.raw ≠ [])
    (h : s ∈ quotations.map Quotation.raw ∨ ¬ s <:+: t) :
    ¬ s <:+: quotations.foldl (fun (t : Text) l => t.replaceAll l.raw (Literal.encode l.units))
      t := by
  induction quotations generalizing t with
  | nil => exact h.resolve_left List.not_mem_nil
  | cons l ls ih =>
    apply ih (fun l' hl' => hraw l' (List.mem_cons_of_mem l hl'))
    have hstep (hin : s <:+: t.replaceAll l.raw (Literal.encode l.units)) : s <:+: t ∧ s ≠ l.raw :=
      (hs l.units).of_replaceAll (hraw l List.mem_cons_self) hin
    rcases h with h | h
    · rcases List.mem_cons.1 h with rfl | h
      · exact .inr fun hin => (hstep hin).2 rfl
      · exact .inl h
    · exact .inr fun hin => h (hstep hin).1

/-- Masking over the text leaves the raw text of no literal, wherever it stood and whatever the
other literals are. -/
theorem raw_not_isInfix_textual (t : Text) (renames : List Rename)
    (hq : ∀ q ∈ quotations, q.IsMarked ∧ ¬ Literal.encodingHead <:+: q.raw) :
    ∀ q ∈ quotations, ¬ q.raw <:+: textual t renames quotations := by
  intro q hmem
  have hperm := List.mergeSort_perm quotations fun a b => b.raw.byteSize ≤ a.raw.byteSize
  rw [textual, applyLiterals, longestRawFirst]
  apply not_isInfix_foldl (avoids_encode (hq q hmem).1 (hq q hmem).2)
  · exact fun l hl => (hq l (hperm.mem_iff.1 hl)).1.ne_nil
  · exact .inl (List.mem_map_of_mem (hperm.mem_iff.2 hmem))

/-- The comma in quotes cuts the literals on both its sides. -/
theorem raw_not_isInfix_textual_comma :
    let source := "f(\"a\",\"b\");".toList
    let quotations : List Quotation :=
      [⟨"\",\"".toList, [44], ⟨4, 7⟩⟩, ⟨"\"a\"".toList, [97], ⟨2, 5⟩⟩,
        ⟨"\"b\"".toList, [98], ⟨6, 9⟩⟩]
    (∀ q ∈ quotations, q.IsMarked ∧ ¬ Literal.encodingHead <:+: q.raw)
      ∧ (∀ q ∈ quotations, q.raw <:+: source)
      ∧ ∀ q ∈ quotations, ¬ q.raw <:+: textual source [] quotations := by
  intro source quotations
  have hq : ∀ q ∈ quotations, q.IsMarked ∧ ¬ Literal.encodingHead <:+: q.raw := by
    decide +kernel
  exact ⟨hq, by decide +kernel, raw_not_isInfix_textual source [] hq⟩

end Masking

end ScriptVeil
