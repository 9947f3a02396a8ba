import ScriptVeil.Proofs.ByteOrderMark
import ScriptVeil.Proofs.Masking.Uncut
import ScriptVeil.Proofs.Script.Finding

namespace ScriptVeil

open Script

/-- The string literals of a script whose text was collected, in source order, with what was
collected. -/
def Script.Document.collected (d : Document) : List (Span × Quotation) :=
  (literalSpans d.sites).filterMap fun r =>
    (d.candidates.literals.find? fun q => q.raw = d.source.slice r).map fun q => (r, q)

namespace Masking

variable {input : Text} {d : Document} {r : Span} {p : Span × Quotation}

theorem mem_collected (h : p ∈ d.collected) :
    p.1 ∈ literalSpans d.sites ∧ p.2 ∈ d.candidates.literals ∧ p.2.raw = d.source.slice p.1 := by
  obtain ⟨r, hr, h⟩ := List.mem_filterMap.1 h
  obtain ⟨q, hq, rfl⟩ := Option.map_eq_some_iff.1 h
  have hraw : q.raw = d.source.slice r := by simpa using List.find?_some hq
  exact ⟨hr, List.mem_of_find?_eq_some hq, hraw⟩

theorem quotedAt_slice {t : Text} (h : QuotedAt t r) :
    (∃ a b, t = a ++ (t.slice r ++ b) ∧ r = ⟨a.byteSize, a.byteSize + (t.slice r).byteSize⟩)
      ∧ QuotedToken (t.slice r) := by
  obtain ⟨a, s, b, rfl, rfl, hs⟩ := h
  rw [Text.slice_append]
  exact ⟨⟨a, b, rfl, rfl⟩, hs⟩

theorem sites_of_read (hd : (Document.read input).document = .ok d)
    (hm : (Document.read input).mistakes = [])
    (hmark : d.source.head? ≠ some byteOrderMark) :
    (literalSpans d.sites).Pairwise Span.Before ∧ ∀ r ∈ literalSpans d.sites,
      QuotedAt d.source r := by
  obtain ⟨-, -, hbody, -, hmistakes⟩ := Document.of_read hd
  obtain ⟨⟨stop, hc⟩, hq⟩ := parse_sites hbody (hmistakes.trans hm)
  rw [withoutMark_eq_self hmark] at hq
  exact ⟨hc.before, hq⟩

theorem quoting_collected (hd : (Document.read input).document = .ok d)
    (hm : (Document.read input).mistakes = []) (hmark : d.source.head? ≠ some byteOrderMark) :
    Quoting d.source d.candidates.literals d.collected := by
  obtain ⟨hb, hq⟩ := sites_of_read hd hm hmark
  refine ⟨fun p hp => (mem_collected hp).2.1, fun p hp => ?_,
    ?_, fun q hq' => ?_, fun q hq q' hq' he => ?_⟩
  · obtain ⟨hr, -, hraw⟩ := mem_collected hp
    rw [hraw]
    exact (quotedAt_slice (hq p.1 hr)).1
  · refine List.pairwise_filterMap.2 (hb.imp fun h p hp p' hp' => ?_)
    obtain ⟨q, -, rfl⟩ := Option.map_eq_some_iff.1 hp
    obtain ⟨q', -, rfl⟩ := Option.map_eq_some_iff.1 hp'
    exact h
  · obtain ⟨r, hr, hraw⟩ := Document.exists_of_mem_literals hq'
    rw [hraw]
    exact (quotedAt_slice (hq r hr)).2.isQuotedText
  · exact Document.eq_of_mem_literals hq hq' he

/-- The literals of a script that was read without a mistake. Each of those collected comes out as
its own code just if no pass cuts one of them, and then their codes stand in the output one for one
and in source order. -/
theorem collected_code_iff (hd : (Document.read input).document = .ok d)
    (hm : (Document.read input).mistakes = []) (hmark : d.source.head? ≠ some byteOrderMark) :
    let quotations := d.candidates.literals
    let tiles := tilesOf d.source quotations
    (sourceOf tiles = d.source ∧ textOf tiles = textual d.source [] quotations)
      ∧ ((∀ p ∈ d.collected, Stands [.code (d.source.slice p.1) (Literal.encode p.2.units)]
        p.1.start tiles)
        ↔ Uncut d.collected (longestRawFirst quotations) (keptText d.source))
      ∧ (Uncut d.collected (longestRawFirst quotations) (keptText d.source) →
        (d.collected.Pairwise fun p p' => p.1.Before p'.1)
          ∧ Text.InOrder (d.collected.map fun p => Literal.encode p.2.units)
            (textual d.source [] quotations)) := by
  intro quotations tiles
  have h := quoting_collected hd hm hmark
  have hcode :
    ∀ p ∈ d.collected, codeTile p.2 = .code (d.source.slice p.1) (Literal.encode p.2.units) :=
    fun p hp => congrArg (Tile.code · _) (mem_collected hp).2.2
  refine ⟨h.tilesOf_eq, ?_, fun hu => ⟨h.before, h.inOrder hu⟩⟩
  rw [← h.code_iff]
  exact forall₂_congr fun p hp => by rw [hcode p hp]

theorem collected_code_iff_call :
    let input := "f(\"ab\",\",\",\",\")".toList
    ∃ d, (Document.read input).document = .ok d ∧ (Document.read input).mistakes = []
      ∧ d.source.head? ≠ some byteOrderMark
      ∧ Uncut d.collected (longestRawFirst d.candidates.literals) (keptText d.source)
      ∧ d.collected.length = 3
      ∧ Text.InOrder (d.collected.map fun p => Literal.encode p.2.units)
        (textual d.source [] d.candidates.literals) := by
  intro input
  have hread : (Document.read input).document.toOption.map
      (fun d => (d.source, d.collected, d.candidates.literals))
      = some (input, [(⟨2, 6⟩, ⟨"\"ab\"".toList, [97, 98], ⟨2, 6⟩⟩),
          (⟨7, 10⟩, ⟨"\",\"".toList, [44], ⟨7, 10⟩⟩), (⟨11, 14⟩, ⟨"\",\"".toList, [44], ⟨7, 10⟩⟩)],
        [⟨"\"ab\"".toList, [97, 98], ⟨2, 6⟩⟩, ⟨"\",\"".toList, [44], ⟨7, 10⟩⟩]) := by
    decide +kernel
  have hm : (Document.read input).mistakes = [] := by decide +kernel
  obtain ⟨d, hd, h⟩ := exists_of_toOption_map hread
  obtain ⟨hs, hc, hl⟩ : d.source = input ∧ d.collected = _ ∧ d.candidates.literals = _ := by
    simpa only [Prod.mk.injEq] using h
  have hmark : d.source.head? ≠ some byteOrderMark := by
    rw [hs]
    decide
  have hu : Uncut d.collected (longestRawFirst d.candidates.literals) (keptText d.source) := by
    rw [hs, hc, hl, longestRawFirst_eq_self (by decide)]
    decide +kernel
  exact ⟨d, hd, hm, hmark, hu, by rw [hc]; rfl, ((collected_code_iff hd hm hmark).2.2 hu).2⟩

/-- A separator between quotes is also found between the literals of a call, where it cuts both. -/
theorem collected_code_cut :
    let input := "f(\",\",\"a\",\"b\");".toList
    let comma := "String.fromCharCode.apply(null, [44])".toList
    let output := "f(".toList ++ comma ++ ",\"a".toList ++ comma ++ "b\");".toList
    ∃ d, (Document.read input).document = .ok d ∧ (Document.read input).mistakes = []
      ∧ d.source.head? ≠ some byteOrderMark
      ∧ textual d.source [] d.candidates.literals = output
      ∧ ¬ Text.InOrder (d.collected.map fun p => Literal.encode p.2.units) output := by
  intro input comma output
  have hread : (Document.read input).document.toOption.map
      (fun d => (d.source, d.collected, d.candidates.literals))
      = some (input, [(⟨2, 5⟩, ⟨"\",\"".toList, [44], ⟨2, 5⟩⟩),
          (⟨6, 9⟩, ⟨"\"a\"".toList, [97], ⟨6, 9⟩⟩), (⟨10, 13⟩, ⟨"\"b\"".toList, [98], ⟨10, 13⟩⟩)],
        [⟨"\",\"".toList, [44], ⟨2, 5⟩⟩, ⟨"\"a\"".toList, [97], ⟨6, 9⟩⟩,
          ⟨"\"b\"".toList, [98], ⟨10, 13⟩⟩]) := by
    decide +kernel
  have hm : (Document.read input).mistakes = [] := by decide +kernel
  obtain ⟨d, hd, h⟩ := exists_of_toOption_map hread
  obtain ⟨hs, hc, hl⟩ : d.source = input ∧ d.collected = _ ∧ d.candidates.literals = _ := by
    simpa only [Prod.mk.injEq] using h
  have hmark : d.source.head? ≠ some byteOrderMark := by
    rw [hs]
    decide
  have htext : textual d.source [] d.candidates.literals = output := by
    rw [textual, applyLiterals, hs, hl, longestRawFirst_eq_self (by decide)]
    decide +kernel
  refine ⟨d, hd, hm, hmark, htext, ?_⟩
  rw [hc]
  rintro ⟨a, b, he, a', b', rfl, -⟩
  have hin : Literal.encode [97] <:+: output := by
    rw [he]
    exact ⟨a ++ Literal.encode [44] ++ a', b', by simp only [List.append_assoc]⟩
  revert hin
  decide +kernel

end Masking

end ScriptVeil
