import ScriptVeil.Proofs.Script.Scan.Escape

namespace ScriptVeil.Script

open Literal

variable {c after : Cursor} {mode : ScanMode} {atStart : Bool} {l : Lexeme}

theorem stringAt_text {strict : Bool} {quote : Char} {token : Token}
    (hc : c.rest.head? = some quote) (h : stringAt strict quote c = .done token after []) :
    ∃ body, c.rest = quote :: (body ++ quote :: after.rest) ∧ QuotedBody quote body := by
  obtain ⟨t, ht⟩ := List.head?_eq_some_iff.1 hc
  have hnext : (c.advance 1).rest = t := by rw [Cursor.advance, ht]; rfl
  obtain ⟨⟨value, closed⟩, mid, n, m, hs, hd, hn⟩ := Reading.andThen_eq_done h
  obtain ⟨rfl, rfl⟩ := List.append_eq_nil_iff.1 hn.symm
  cases closed with
  | false => simp at hd
  | true =>
    cases hd
    obtain ⟨body, hbody, hq⟩ := quotedBody_stringFrom hs
    exact ⟨body, by rw [ht, ← hnext, hbody], hq⟩

/-- Whether a token is a quoted body, behind an HTML-like comment that may belong to it. -/
def QuotedToken (s : Text) : Prop :=
  ∃ front quote body, s = front ++ quote :: (body ++ [quote]) ∧ isQuote quote = true
    ∧ QuotedBody quote body ∧ (front = [] ∨ StartsHtmlComment s)

theorem QuotedToken.isQuotedText {s : Text} (h : QuotedToken s) : IsQuotedText s := by
  obtain ⟨front, quote, body, rfl, hq, -, hfront⟩ := h
  refine ⟨?_, quote, ?_, hq⟩
  · rcases hfront with rfl | hcomment
    · exact ⟨quote, rfl, .inl hq⟩
    · obtain ⟨ch, hch, hhead⟩ := head_mem_of_markup (.inl hcomment)
      exact ⟨ch, hhead, .inr hch⟩
  · rw [← List.cons_append, ← List.append_assoc, List.getLast?_concat]

theorem startsHtmlComment_of_append {front s rest : Text} {quote : Char} (hq : isQuote quote = true)
    (h : StartsHtmlComment (front ++ quote :: s ++ rest)) :
    StartsHtmlComment (front ++ quote :: s) := by
  have hbegins {u : Text} (hu : quote ∉ u) (h : u <+: front ++ quote :: s ++ rest) :
      u <+: front ++ quote :: s := by
    rcases List.prefix_or_prefix_of_prefix h (List.prefix_append (front ++ quote :: s) rest) with
      hp | hp
    · exact hp
    · exact absurd (hp.subset (by simp)) hu
  have hne : quote ∉ "<!--".toList ∧ quote ∉ "-->".toList := by
    rw [isQuote, Bool.or_eq_true, decide_eq_true_eq, decide_eq_true_eq] at hq
    rcases hq with rfl | rfl <;> decide
  exact h.imp (hbegins hne.1) (hbegins hne.2)

theorem quotedToken_scan (h : (scan mode atStart c).lexeme = some l) (hs : l.token.isString = true)
    (hn : (scan mode atStart c).notes = []) :
    ∃ (b : Cursor) (s : Text), c.Reaches b ∧ b.offset = l.span.start
      ∧ b.rest = s ++ (scan mode atStart c).after.rest
      ∧ l.span.stop = l.span.start + s.byteSize ∧ QuotedToken s := by
  obtain ⟨blank, front, s, hrest, hspan, hgap, hfront, ⟨notes, ht, hnotes⟩ | ⟨flaw, hbad⟩⟩ :=
    scan_text h
  · rw [hn] at hnotes hfront
    obtain ⟨-, rfl⟩ := List.append_eq_nil_iff.1 hnotes.symm
    obtain ⟨quote, hq, hhead, hstring⟩ := tokenAt_eq_string ht hs
    obtain ⟨body, hbody, hquoted⟩ := stringAt_text hhead hstring
    have hs' : s = quote :: (body ++ [quote]) := by
      rw [hgap] at hbody
      have he : s ++ (scan mode atStart c).after.rest
          = quote :: (body ++ [quote]) ++ (scan mode atStart c).after.rest :=
        hbody.trans (by simp)
      exact List.append_cancel_right he
    refine ⟨⟨front ++ (s ++ (scan mode atStart c).after.rest), c.offset + blank.byteSize⟩,
      front ++ s, ⟨blank, hrest, rfl⟩, by rw [hspan], (List.append_assoc _ _ _).symm,
      by rw [hspan], front, quote, body, by rw [hs'], hq, hquoted, ?_⟩
    rcases hfront with rfl | hcomment | ⟨-, hmem⟩
    · exact .inl rfl
    · rw [hgap, hs', ← List.append_assoc] at hcomment
      rw [hs']
      exact .inr (startsHtmlComment_of_append hq hcomment)
    · contradiction
  · rw [hbad] at hs
    contradiction

end ScriptVeil.Script
