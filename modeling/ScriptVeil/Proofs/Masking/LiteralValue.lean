import ScriptVeil.Proofs.Masking.Collected

namespace ScriptVeil

open Script

namespace Literal

theorem decode_of_startsHtmlComment {raw : Text} (h : StartsHtmlComment raw) :
    decode raw = none := by
  have hnone {c : Char} (hc : isQuote c = false) (t : Text) : decode (c :: t) = none := by
    rw [decode]
    apply if_neg
    rintro ⟨hq, -⟩
    rw [hc] at hq
    contradiction
  rcases h with ⟨t, rfl⟩ | ⟨t, rfl⟩
  · exact hnone (by decide) _
  · exact hnone (by decide) _

theorem isStringLiteral_of_quotedToken {raw : Text} (h : QuotedToken raw)
    (hc : ¬ StartsHtmlComment raw) (hb : ¬ HasBrokenEscape raw) :
    ∃ units, IsStringLiteral raw units := by
  obtain ⟨front, quote, body, rfl, hq, hbody, hfront⟩ := h
  obtain rfl := hfront.resolve_right hc
  rcases hbody with ⟨units, hbody⟩ | ⟨before, units, s, rfl, hbefore, hs⟩
  · exact ⟨units, quote, body, hq, rfl, hbody⟩
  · exact absurd ⟨quote, before, units, s, hq, by simp, hbefore, hs⟩ hb

end Literal

namespace Masking

variable {input : Text} {d : Document}

/-- The literals that are collected from a script that was read without a mistake. What is collected
of one is a literal and its value, read from the text, unless the text starts with an HTML-like
comment in front of the token or has an escape that is none. -/
theorem literal_value_iff (hd : (Document.read input).document = .ok d)
    (hm : (Document.read input).mistakes = []) (hmark : d.source.head? ≠ some byteOrderMark) :
    ∀ q ∈ d.candidates.literals,
      (Literal.IsStringLiteral q.raw q.units ∧ Literal.decode q.raw = some q.units
        ↔ ¬ StartsHtmlComment q.raw ∧ ¬ Literal.HasBrokenEscape q.raw)
      ∧ (StartsHtmlComment q.raw ∨ Literal.HasBrokenEscape q.raw
        → Literal.decode q.raw = none) := by
  intro q hq
  obtain ⟨-, hquoted⟩ := sites_of_read hd hm hmark
  obtain ⟨r, hr, hraw⟩ := Document.exists_of_mem_literals hq
  have htoken : QuotedToken q.raw := hraw ▸ (quotedAt_slice (hquoted r hr)).2
  have hnone : StartsHtmlComment q.raw ∨ Literal.HasBrokenEscape q.raw
      → Literal.decode q.raw = none := by
    rintro (h | h)
    · exact Literal.decode_of_startsHtmlComment h
    · exact Literal.decode_of_hasBrokenEscape h
  refine ⟨⟨?_, ?_⟩, hnone⟩
  · rintro ⟨-, hdecode⟩
    rw [← not_or]
    intro h
    rw [hnone h] at hdecode
    contradiction
  · rintro ⟨hc, hb⟩
    obtain ⟨units, hlit⟩ := Literal.isStringLiteral_of_quotedToken htoken hc hb
    have hdecode := Literal.decode_of_isStringLiteral hlit
    have hunits : q.units = units := by
      obtain ⟨lit, -, rfl⟩ := Document.exists_string_of_mem_literals hq
      change (Literal.decode (d.source.slice lit.span)).getD _ = units
      rw [show Literal.decode (d.source.slice lit.span) = some units from hdecode]
      rfl
    rw [hunits]
    exact ⟨hlit, hdecode⟩

/-- Half of a surrogate pair, which the value that the reader keeps cannot hold. -/
theorem literal_value_surrogate :
    let input := "var s=\"\\uD83D\\x61\\0\""
    ∃ d, (Document.read input.toList).document = .ok d
      ∧ (Document.read input.toList).mistakes = []
      ∧ d.source.head? ≠ some byteOrderMark
      ∧ d.candidates.literals = [⟨"\"\\uD83D\\x61\\0\"".toList, [0xD83D, 97, 0], ⟨6, 20⟩⟩]
      ∧ Literal.IsStringLiteral "\"\\uD83D\\x61\\0\"".toList [0xD83D, 97, 0] := by
  intro input
  have hread : (Document.read input.toList).document.toOption.map
      (fun d => (d.source, d.candidates.literals))
      = some (input.toList, [⟨"\"\\uD83D\\x61\\0\"".toList, [0xD83D, 97, 0], ⟨6, 20⟩⟩]) := by
    decide +kernel
  have hm : (Document.read input.toList).mistakes = [] := by decide +kernel
  obtain ⟨d, hd, h⟩ := exists_of_toOption_map hread
  obtain ⟨hs, hl⟩ : d.source = input.toList ∧ d.candidates.literals = _ := by
    simpa only [Prod.mk.injEq] using h
  have hmark : d.source.head? ≠ some byteOrderMark := by
    rw [hs]
    decide
  obtain ⟨hiff, hnone⟩ := literal_value_iff hd hm hmark _ (hl ▸ List.mem_singleton_self _)
  have hdecode : Literal.decode "\"\\uD83D\\x61\\0\"".toList = some [0xD83D, 97, 0] := by
    decide +kernel
  have hgood := not_or.1 fun h => absurd (hnone h) (by rw [hdecode]; nofun)
  exact ⟨d, hd, hm, hmark, hl, (hiff.2 hgood).1⟩

theorem literal_value_comment :
    let input := "f(<!-- c\n\"a\");"
    let raw := "<!-- c\n\"a\"".toList
    ∃ d, (Document.read input.toList).document = .ok d
      ∧ (Document.read input.toList).mistakes = []
      ∧ d.source.head? ≠ some byteOrderMark
      ∧ d.candidates.literals = [⟨raw, [97], ⟨2, 12⟩⟩]
      ∧ Literal.decode raw = none
      ∧ ∀ units, ¬ Literal.IsStringLiteral raw units := by
  intro input raw
  have hread : (Document.read input.toList).document.toOption.map
      (fun d => (d.source, d.candidates.literals))
        = some (input.toList, [⟨raw, [97], ⟨2, 12⟩⟩]) := by
    decide +kernel
  have hm : (Document.read input.toList).mistakes = [] := by decide +kernel
  obtain ⟨d, hd, h⟩ := exists_of_toOption_map hread
  obtain ⟨hs, hl⟩ : d.source = input.toList ∧ d.candidates.literals = _ := by
    simpa only [Prod.mk.injEq] using h
  have hmark : d.source.head? ≠ some byteOrderMark := by
    rw [hs]
    decide
  have hdecode : Literal.decode raw = none := by decide +kernel
  refine ⟨d, hd, hm, hmark, hl, hdecode, fun units hlit => ?_⟩
  rw [Literal.decode_of_isStringLiteral hlit] at hdecode
  contradiction

end Masking

end ScriptVeil
