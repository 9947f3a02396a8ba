import ScriptVeil.Proofs.ByteOrderMark
import ScriptVeil.Proofs.Script.Parse
import ScriptVeil.Proofs.Script.Scan.Name

namespace ScriptVeil.Script

/-- A token as it is written: the gap in front of it, the rest of the gap that belongs to its range,
and the text that is read as the token. -/
structure Written where
  gap : Text
  front : Text
  text : Text
  lexeme : Lexeme

def Written.source (w : Written) : Text :=
  w.gap ++ (w.front ++ w.text)

def Written.textStart (w : Written) (c after : Cursor) : Cursor :=
  ⟨w.text ++ after.rest, c.offset + w.gap.byteSize + w.front.byteSize⟩

/-- The range of the text of a token, without what its own range takes in of the gap. -/
def Written.place (w : Written) : Span :=
  ⟨w.lexeme.span.stop - w.text.byteSize, w.lexeme.span.stop⟩

def Written.ReadsAlone (w : Written) (c after : Cursor) : Prop :=
  ∃ mode atStart notes, mode.Reserves
    ∧ (gapAt atStart c).after = w.textStart c after
    ∧ (gapAt atStart c).newline = w.lexeme.newline
    ∧ tokenAt mode w.lexeme.newline (w.textStart c after) = .done w.lexeme.token after notes

/-- Whether a token is written between two places. Its text is read there, unless it is a bad one:
on its own, or else as a part of a template or a regular expression. Its range takes in no part of
the gap unless an HTML-like comment or a conflict marker starts there. -/
structure Written.At (notes : List Diagnostic) (c : Cursor) (w : Written) (after : Cursor) :
    Prop where
  rest_eq : c.rest = w.source ++ after.rest
  offset_eq : after.offset = c.offset + w.source.byteSize
  span_eq : w.lexeme.span = ⟨c.offset + w.gap.byteSize, after.offset⟩
  skips : c.Skips (w.textStart c after)
  read : (∀ flaw, w.lexeme.token ≠ .bad flaw) → w.ReadsAlone c after
    ∨ w.lexeme.token.isPlain = false ∧ (w.textStart c after).ReadsInside w.lexeme.token after
  front_cases : w.front = [] ∨ StartsHtmlComment (w.front ++ (w.text ++ after.rest))
    ∨ startsConflict (w.front ++ (w.text ++ after.rest)) = true
      ∧ ⟨.conflictMarker, w.lexeme.span.start⟩ ∈ notes

/-- Tokens that are written one behind another between two places. -/
def Cut (notes : List Diagnostic) : Cursor → List Written → Cursor → Prop
  | c, [], after => c = after
  | c, w :: ws, after => ∃ mid, w.At notes c mid ∧ Cut notes mid ws after

variable {t : Text} {notes : List Diagnostic} {lo hi : Nat} {l : Lexeme} {ls : List Lexeme}
  {v w : Written} {ws : List Written} {c b after : Cursor}

theorem Cursor.In.eq (h : c.In t) (hb : b.In t) (ho : c.offset = b.offset) : c = b := by
  have hrest : c.rest = b.rest := by rw [← h.dropBytes_eq, ho, hb.dropBytes_eq]
  cases c
  cases b
  exact congr (congrArg Cursor.mk hrest) ho

theorem Cursor.In.isBoundary (h : c.In t) : t.IsBoundary c.offset := by
  obtain ⟨s, hs, ho⟩ := h
  have hs : t = s ++ c.rest := hs
  rw [ho, hs, Nat.zero_add]
  exact Text.isBoundary_append s c.rest

def Token.isMaskable : Token → Bool
  | .word _ | .string _ _ => true
  | _ => false

theorem Site.Is.span_eq {s : Site} (h : s.Is l) : l.span = s.span := by
  cases s <;> exact h.1

theorem Site.Is.isMaskable {s : Site} (h : s.Is l) : l.token.isMaskable = true := by
  cases s with
  | reference id | shorthand id =>
    rw [h.2]
    rfl
  | string lit =>
    obtain ⟨raw, hraw⟩ := h.2
    rw [hraw]
    rfl

namespace Written.At

theorem reaches (h : w.At notes c after) : c.Reaches after :=
  ⟨w.source, h.rest_eq, h.offset_eq⟩

theorem slice_source (h : w.At notes c after) (hc : c.In t) :
    t.slice ⟨c.offset, after.offset⟩ = w.source := by
  rw [Text.slice, hc.dropBytes_eq, h.rest_eq, h.offset_eq, Nat.add_sub_cancel_left]
  exact Text.takeBytes_byteSize_append _ _

theorem slice_gap (h : w.At notes c after) (hc : c.In t) :
    t.slice ⟨c.offset, w.lexeme.span.start⟩ = w.gap := by
  rw [Text.slice, hc.dropBytes_eq, h.rest_eq, h.span_eq, Nat.add_sub_cancel_left, source,
    List.append_assoc]
  exact Text.takeBytes_byteSize_append _ _

theorem start_in (h : w.At notes c after) (hc : c.In t) :
    (⟨w.front ++ w.text ++ after.rest, w.lexeme.span.start⟩ : Cursor).In t := by
  refine hc.trans ⟨w.gap, ?_, by rw [h.span_eq]⟩
  rw [h.rest_eq, source, List.append_assoc]

theorem slice_span (h : w.At notes c after) (hc : c.In t) :
    t.slice w.lexeme.span = w.front ++ w.text := by
  have hstop : after.offset - (c.offset + w.gap.byteSize) = (w.front ++ w.text).byteSize := by
    rw [h.offset_eq, source, Text.byteSize_append]
    omega
  rw [Text.slice, (h.start_in hc).dropBytes_eq, h.span_eq, hstop]
  exact Text.takeBytes_byteSize_append _ _

theorem stop_eq (h : w.At notes c after) : w.lexeme.span.stop = after.offset := by
  rw [h.span_eq]

theorem place_eq (h : w.At notes c after) :
    w.place = ⟨c.offset + w.gap.byteSize + w.front.byteSize,
      c.offset + w.gap.byteSize + w.front.byteSize + w.text.byteSize⟩ := by
  have hstop : after.offset
      = c.offset + w.gap.byteSize + w.front.byteSize + w.text.byteSize := by
    rw [h.offset_eq, source, Text.byteSize_append, Text.byteSize_append]
    omega
  rw [place, h.stop_eq, hstop, Nat.add_sub_cancel]

theorem read_plain (h : w.At notes c after) (hp : w.lexeme.token.isPlain = true) :
    w.ReadsAlone c after := by
  have hbad : ∀ flaw, w.lexeme.token ≠ .bad flaw := by
    intro flaw hflaw
    rw [hflaw] at hp
    contradiction
  refine (h.read hbad).resolve_right fun hinside => ?_
  rw [hp] at hinside
  exact absurd hinside.1 nofun

theorem start_lt_stop (h : w.At notes c after) (hm : w.lexeme.token.isMaskable = true) :
    w.lexeme.span.start < w.lexeme.span.stop := by
  have hlt : c.offset + w.gap.byteSize + w.front.byteSize < after.offset := by
    cases htoken : w.lexeme.token with
    | word name =>
      obtain ⟨mode, atStart, more, -, -, -, hread⟩ := h.read_plain (by rw [htoken]; rfl)
      rw [htoken] at hread
      exact offset_lt_of_tokenAt_word hread
    | string value raw =>
      obtain ⟨mode, atStart, more, -, -, -, hread⟩ := h.read_plain (by rw [htoken]; rfl)
      rw [htoken] at hread
      exact offset_lt_of_tokenAt_string hread rfl
    | _ =>
      rw [htoken] at hm
      contradiction
  rw [h.span_eq]
  exact Nat.lt_of_le_of_lt (Nat.le_add_right _ _) hlt

theorem within (h : w.At notes c after) (hc : c.In t) (hm : w.lexeme.token.isMaskable = true) :
    w.lexeme.span.Within t :=
  ⟨h.start_lt_stop hm, (h.start_in hc).isBoundary, h.stop_eq ▸ (hc.trans h.reaches).isBoundary⟩

end Written.At

theorem Lexeme.ReadAt.exists_written (h : l.ReadAt notes c) :
    ∃ w after, w.lexeme = l ∧ Written.At notes c w after := by
  cases h with
  | plain mode atStart hm hl hn =>
    obtain ⟨gap, front, text, hrest, hspan, hgap, hfront, htoken⟩ := scan_text hl
    have hoffset : (scan mode atStart c).after.offset
        = c.offset + (gap ++ (front ++ text)).byteSize := by
      rw [← (forward_scan mode atStart c).stop_eq l hl, hspan, Text.byteSize_append gap]
      exact Nat.add_assoc _ _ _
    refine ⟨⟨gap, front, text, l⟩, (scan mode atStart c).after, rfl, ?_⟩
    constructor
    case rest_eq => simp only [Written.source, hrest, List.append_assoc]
    case offset_eq => exact hoffset
    case span_eq => rw [hspan, hoffset, Text.byteSize_append gap, Nat.add_assoc]
    case skips => exact .inr ⟨atStart, hgap⟩
    case read =>
      intro hbad
      rcases htoken with ⟨more, ht, -⟩ | ⟨flaw, hflaw⟩
      · rw [← newline_scan hl, hgap] at ht
        exact .inl ⟨mode, atStart, more, hm, hgap, (newline_scan hl).symm, ht⟩
      · exact absurd hflaw (hbad flaw)
    case front_cases =>
      rw [hgap] at hfront
      exact hfront.imp_right (.imp_right (.imp_right fun h => hn h))
  | inner b after hp hb ha hs hr =>
    obtain ⟨gap, hgap, hoffset⟩ := hb.reaches
    obtain ⟨text, htext, hstop⟩ := ha
    have hstart : Written.textStart ⟨gap, [], text, l⟩ c after = b := by
      rw [Written.textStart, ← htext, Text.byteSize_nil, Nat.add_zero, ← hoffset]
    refine ⟨⟨gap, [], text, l⟩, after, rfl, ?_⟩
    constructor
    case rest_eq => simp only [Written.source, hgap, htext, List.nil_append, List.append_assoc]
    case offset_eq =>
      rw [hstop, hoffset, Written.source, Text.byteSize_append, Nat.add_assoc]
      rfl
    case span_eq => rw [hs, hoffset]
    case skips => rwa [hstart]
    case read =>
      intro hbad
      rw [hstart]
      exact .inr ⟨hp, hr.resolve_left fun ⟨flaw, hflaw⟩ => hbad flaw hflaw⟩
    case front_cases => exact .inl rfl

theorem Row.exists_cut (h : Row t notes lo ls after.offset) (hafter : after.In t) (hc : c.In t)
    (hlo : c.offset = lo) : ∃ ws, ws.map Written.lexeme = ls ∧ Cut notes c ws after := by
  induction ls generalizing lo c with
  | nil => exact ⟨[], rfl, hc.eq hafter (hlo.trans h)⟩
  | cons l ls ih =>
    obtain ⟨⟨b, hb, hblo, hread⟩, hrow⟩ := h
    obtain rfl := hb.eq hc (hblo.trans hlo.symm)
    obtain ⟨w, mid, rfl, hw⟩ := hread.exists_written
    have hstop : mid.offset = w.lexeme.span.stop := by rw [hw.span_eq]
    obtain ⟨ws, rfl, hws⟩ := ih hrow (hc.trans hw.reaches) hstop
    exact ⟨w :: ws, rfl, mid, hw, hws⟩

namespace Cut

theorem rest_eq (h : Cut notes c ws after) : c.rest = ws.flatMap Written.source ++ after.rest := by
  induction ws generalizing c with
  | nil => exact congrArg Cursor.rest h
  | cons w ws ih =>
    obtain ⟨mid, hw, hws⟩ := h
    rw [hw.rest_eq, ih hws, List.flatMap_cons, List.append_assoc]

theorem exists_at (h : Cut notes c ws after) (hc : c.In t) (hw : w ∈ ws) :
    ∃ b mid : Cursor, b.In t ∧ c.offset ≤ b.offset ∧ w.At notes b mid := by
  induction ws generalizing c with
  | nil => contradiction
  | cons w' ws ih =>
    obtain ⟨mid, hw', hws⟩ := h
    rcases List.mem_cons.1 hw with rfl | hw
    · exact ⟨c, mid, hc, le_rfl, hw'⟩
    · obtain ⟨b, mid', hb, hle, hat⟩ := ih hws (hc.trans hw'.reaches) hw
      exact ⟨b, mid', hb, hw'.reaches.offset_le.trans hle, hat⟩

theorem le_start (h : Cut notes c ws after) (hc : c.In t) (hw : w ∈ ws) :
    c.offset ≤ w.lexeme.span.start := by
  obtain ⟨b, mid, -, hle, hat⟩ := h.exists_at hc hw
  rw [hat.span_eq]
  exact hle.trans (Nat.le_add_right _ _)

theorem before (h : Cut notes c ws after) (hc : c.In t) :
    ws.Pairwise fun v w => v.lexeme.span.Before w.lexeme.span := by
  induction ws generalizing c with
  | nil => exact .nil
  | cons w ws ih =>
    obtain ⟨mid, hw, hws⟩ := h
    have hmid := hc.trans hw.reaches
    refine .cons (fun v hv => ?_) (ih hws hmid)
    rw [Span.Before, hw.span_eq]
    exact hws.le_start hmid hv

theorem exists_adjacent {k l : Lexeme} (h : Cut notes c ws after) (hc : c.In t)
    (hkl : [k, l] <:+: ws.map Written.lexeme) :
    ∃ (v w : Written) (a b d : Cursor), v.lexeme = k ∧ w.lexeme = l ∧ w ∈ ws ∧ a.In t
      ∧ v.At notes a b ∧ w.At notes b d := by
  induction ws generalizing c with
  | nil => simp at hkl
  | cons v ws ih =>
    obtain ⟨mid, hv, hws⟩ := h
    rw [List.map_cons, List.infix_cons_iff, List.cons_prefix_cons] at hkl
    rcases hkl with ⟨rfl, hl⟩ | hkl
    · cases ws with
      | nil => simp at hl
      | cons w ws =>
        obtain ⟨d, hw, -⟩ := hws
        obtain ⟨rfl, -⟩ := List.cons_prefix_cons.1 hl
        exact ⟨v, w, c, mid, d, rfl, rfl, by simp, hc, hv, hw⟩
    · obtain ⟨v', w, a, b, d, hk, hl, hmem, hrest⟩ := ih hws (hc.trans hv.reaches) hkl
      exact ⟨v', w, a, b, d, hk, hl, List.mem_cons_of_mem _ hmem, hrest⟩

/-- No two tokens have the same range, unless it is empty. -/
theorem eq_of_span_eq (h : Cut notes c ws after) (hc : c.In t) (hv : v ∈ ws) (hw : w ∈ ws)
    (hspan : v.lexeme.span = w.lexeme.span)
    (hlt : w.lexeme.span.start < w.lexeme.span.stop) : v = w := by
  have hempty {v w : Written} (hb : v.lexeme.span.Before w.lexeme.span)
      (hs : v.lexeme.span = w.lexeme.span) : ¬ w.lexeme.span.start < w.lexeme.span.stop := by
    rw [Span.Before, hs] at hb
    exact not_lt.2 hb
  refine List.Pairwise.forall_of_forall_of_flip
    (R := fun v w => v.lexeme.span = w.lexeme.span →
      w.lexeme.span.start < w.lexeme.span.stop → v = w)
    (fun _ _ _ _ => rfl) ((h.before hc).imp fun hb hs hlt => absurd hlt (hempty hb hs))
    ((h.before hc).imp fun {v w} hb (hs : w.lexeme.span = v.lexeme.span) hlt => ?_) hv hw hspan hlt
  rw [← hs] at hlt
  exact absurd hlt (hempty hb hs.symm)

end Cut

/-- A script that is read is cut into the tokens that were taken, behind a first line that starts
with `#!` and in front of a gap. Its words and strings are among them. -/
theorem Document.exists_cut {input : Text} {d : Document}
    (hd : (Document.read input).document = .ok d) (hmark : d.source.head? ≠ some byteOrderMark) :
    ∃ (notes : List Diagnostic) (ws : List Written) (after : Cursor),
      (Document.read input).mistakes = notes.reverse.map (·.locate d.source)
        ∧ ws.map Written.lexeme = (Document.read input).tokens
        ∧ Cut notes (initialState d.source).cursor ws after ∧ after.AtEnd
        ∧ Among.Tokens d.source notes (ws.map Written.lexeme) (spots d.body) := by
  obtain ⟨-, -, hbody, htaken, hmistakes⟩ := Document.of_read hd
  obtain ⟨notes, after, hafter, hend, hrow, htokens, hnotes⟩ := parse_row hbody
  rw [withoutMark_eq_self hmark] at hafter hrow htokens hnotes
  obtain ⟨ws, hws, hcut⟩ := hrow.exists_cut hafter (in_initialState _) rfl
  rw [← hws] at htokens
  exact ⟨notes, ws, after, hmistakes ▸ hnotes, hws.trans htaken, hcut, hend, htokens⟩

theorem Among.Tokens.exists_is {d : Document} {s : Site}
    (h : Among.Tokens t notes ls (spots d.body)) (hs : s ∈ d.sites) : ∃ l ∈ ls, s.Is l := by
  rw [Document.sites, Document.stmts, ← map_toSite_spots] at hs
  obtain ⟨x, hx, rfl⟩ := List.mem_map.1 hs
  exact (h.spots_in x hx).exists_is

theorem Document.sites_cuts {input : Text} {d : Document}
    (hd : (Document.read input).document = .ok d) (hmark : d.source.head? ≠ some byteOrderMark) :
    ∀ s ∈ d.sites, s.Cuts d.source := by
  intro s hs
  obtain ⟨notes, ws, after, -, -, hcut, -, htokens⟩ := Document.exists_cut hd hmark
  obtain ⟨l, hl, his⟩ := htokens.exists_is hs
  obtain ⟨w, hw, rfl⟩ := List.mem_map.1 hl
  obtain ⟨b, mid, hb, -, hat⟩ := hcut.exists_at (in_initialState _) hw
  have hwithin := hat.within hb his.isMaskable
  rw [his.span_eq] at hwithin
  cases s with
  | reference id | shorthand id => trivial
  | string lit => exact hwithin.cuts

end ScriptVeil.Script
