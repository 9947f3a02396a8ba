import ScriptVeil.Proofs.Script.Parser.Statement
import ScriptVeil.Proofs.Script.Scan.StringText
import ScriptVeil.Script.Document

namespace ScriptVeil.Script

namespace Parser

variable {t : Text}

theorem tooDeep_makes {α : Type} [HasSpots α] {l : List Spot} : Makes t l (tooDeep : Parser α) := by
  rw [tooDeep]
  exact .step fun _ => .throw _

theorem grammar_sound (t : Text) (depth : Nat) : (grammar depth).Sound t := by
  induction depth with
  | zero =>
    exact ⟨fun _ => tooDeep_makes, tooDeep_makes, tooDeep_makes,
      tooDeep_makes, fun _ _ => tooDeep_makes, tooDeep_makes, fun _ => tooDeep_makes⟩
  | succ depth ih =>
    exact ⟨statement_makes ih, expression_makes ih, assignment_makes ih, unary_makes ih,
      operators_makes ih, construction_makes ih (leftHandSide_makes ih), binding_makes ih⟩

end Parser

theorem in_initialState (t : Text) : (initialState t).cursor.In t := by
  rw [initialState]
  dsimp only
  split
  · exact Cursor.reaches_skipWhile _ _
  · exact .refl _

theorem sound_initialState (t : Text) : (initialState t).Sound t where
  row := ⟨_, rfl, .of_in (in_initialState t)⟩
  after_in := nofun
  offset_le := nofun
  starts_at := nofun
  at_start _ := rfl
  not_plain h := absurd rfl h
  no_slash := nofun
  ends_word := nofun

def QuotedAt (t : Text) (r : Span) : Prop :=
  ∃ a s b, t = a ++ (s ++ b) ∧ r = ⟨a.byteSize, a.byteSize + s.byteSize⟩ ∧ QuotedToken s

theorem Lexeme.Behind.quotedAt {t : Text} {l : Lexeme} {lo : Nat} (h : l.Behind t [] lo)
    (hs : l.token.isString = true) : QuotedAt t l.span := by
  have hp : l.token.isPlain = true := by
    cases ht : l.token <;> rw [ht] at hs <;> first | rfl | contradiction
  obtain ⟨mode, atStart, c, hc, -, hl, hn⟩ := h.exists_scan hp
  obtain ⟨b, s, hb, hstart, hrest, hstop, hq⟩ := quotedToken_scan hl hs (List.subset_nil.1 hn)
  obtain ⟨a, ha, hoff⟩ := hc.trans hb
  have hstart : l.span.start = a.byteSize := by rw [← hstart, hoff, Nat.zero_add]
  refine ⟨a, s, (scan mode atStart c).after.rest, ?_, Span.ext hstart ?_, hq⟩
  · rw [← hrest]
    exact ha
  · rw [hstop, hstart]

theorem Site.Is.quotedAt {t : Text} {l : Lexeme} {lo : Nat} {x : Site} (h : x.Is l)
    (hl : l.Behind t [] lo) : ∀ r ∈ x.literalSpan?, QuotedAt t r := by
  cases x with
  | reference id | shorthand id => nofun
  | string lit =>
    rintro _ ⟨⟩
    obtain ⟨hspan, raw, htoken⟩ := h
    rw [← hspan]
    exact hl.quotedAt (by rw [htoken]; rfl)

/-- The tokens of a script that is read stand in a row, with nothing but a gap behind them. Its
words and strings are among them. -/
theorem parse_row {source : Text} {body : List TopLevel} (hb : (parse source).body = .ok body) :
    ∃ (notes : List Diagnostic) (after : Cursor), after.In (withoutMark source) ∧ after.AtEnd
      ∧ Row (withoutMark source) notes (initialState (withoutMark source)).last.stop
        (parse source).tokens after.offset
      ∧ Among.Tokens (withoutMark source) notes (parse source).tokens (spots body)
      ∧ (parse source).mistakes = notes.reverse.map (·.locate (withoutMark source)) := by
  have hsound := Parser.grammar_sound (withoutMark source) (Parser.depthFor (withoutMark source))
  have h := (Parser.statements_makes hsound .topLevel false true _ [] .nil).and
    (Parser.statements_ends hsound .topLevel true)
    { limit := (withoutMark source).length + 2 } (sound_initialState (withoutMark source))
  unfold parse at hb ⊢
  dsimp only at hb ⊢
  split at h
  · next found s hrun =>
    rw [hrun] at hb ⊢
    obtain ⟨hs, ⟨-, ls, htaken, hrow⟩, hspots, hupcoming, hrest⟩ := h
    cases hb
    obtain ⟨hi, hlast, hresumes⟩ := hs.row
    rw [hupcoming] at hlast
    obtain rfl : s.last.stop = hi := hlast
    obtain ⟨after, hafter, hstop, hend⟩ := hresumes.exists_atEnd hrest
    have htokens : s.taken.reverse = ls := by
      rw [htaken, List.reverse_append, List.reverse_reverse]
      rfl
    rw [← htokens, ← hstop] at hrow
    exact ⟨s.notes, after, hafter, hend, hrow, hspots, rfl⟩
  · next hs =>
    rw [hs] at hb
    contradiction

theorem map_toSite_spots (body : List TopLevel) :
    (spots body).map Spot.toSite = sitesOfStmts (body.map TopLevel.stmt) := by
  rw [← spots_map_stmt, ← spotsOfStmts_eq_spots]
  exact map_toSite_spots_all.2.2.2.1 _

/-- What a script that is read without a mistake quotes: its literals stand one behind the other, in
the order of its tree. -/
theorem parse_sites {source : Text} {body : List TopLevel} (hb : (parse source).body = .ok body)
    (hm : (parse source).mistakes = []) :
    (∃ stop, Chain 0 (literalSpans (sitesOfStmts (body.map TopLevel.stmt))) stop)
      ∧ ∀ r ∈ literalSpans (sitesOfStmts (body.map TopLevel.stmt)),
        QuotedAt (withoutMark source) r := by
  obtain ⟨notes, after, -, -, hrow, hls, hnotes⟩ := parse_row hb
  obtain rfl : notes = [] := by simpa [hm] using hnotes
  rw [← map_toSite_spots]
  refine ⟨⟨after.offset, (hrow.chain.mono (Nat.zero_le _) le_rfl).sublist hls.sublist⟩,
    fun r hr => ?_⟩
  obtain ⟨x, hx, hxr⟩ := List.mem_filterMap.1 hr
  obtain ⟨y, hy, rfl⟩ := List.mem_map.1 hx
  obtain ⟨l, hl, his⟩ := (hls.spots_in y hy).exists_is
  obtain ⟨lo, hlo⟩ := hrow.exists_behind hl
  exact his.quotedAt hlo r hxr

theorem exists_of_toOption_map {α β γ : Type} {e : Except α β} {f : β → γ} {c : γ}
    (h : e.toOption.map f = some c) : ∃ b, e = .ok b ∧ f b = c := by
  cases e with
  | error a => contradiction
  | ok b => exact ⟨b, rfl, Option.some.inj h⟩

end ScriptVeil.Script
