import ScriptVeil.Proofs.Script.Scan.Reaches

namespace ScriptVeil.Script

variable {c : Cursor}

theorem reaches_append (s t : Text) (offset : Nat) :
    (⟨s ++ t, offset⟩ : Cursor).Reaches ⟨t, offset + s.byteSize⟩ :=
  ⟨s, rfl, rfl⟩

theorem reaches_gapFrom (mode : GapMode) (seen : GapSeen) (offset : Nat) (t : Text) :
    (⟨t, offset⟩ : Cursor).Reaches (gapFrom mode seen offset t).after := by
  fun_induction gapFrom mode seen offset t
  all_goals first
    | exact .refl _
    | next ih => exact (reaches_append [_] _ _).trans ih
    | next ih => exact (reaches_append [_, _] _ _).trans ih
    | next ih => exact (reaches_append [_, _, _, _] _ _).trans ih

def markupOpeners : List Char :=
  ['<', '-', '=', '>']

def StartsHtmlComment (t : Text) : Prop :=
  "<!--".toList <+: t ∨ "-->".toList <+: t

/-- A place in a gap where a comment or a marker starts that belongs to the token behind it. A
marker is a mistake. -/
def MarkupBetween (c : Cursor) (gap : Gap) (m : Nat) : Prop :=
  ∃ b : Cursor, c.Reaches b ∧ b.Reaches gap.after ∧ b.offset = m
    ∧ (StartsHtmlComment b.rest
      ∨ startsConflict b.rest = true ∧ ⟨.conflictMarker, m⟩ ∈ gap.notes)

variable {b : Cursor} {gap : Gap} {seen : GapSeen} {m : Nat}

theorem head_mem_markupOpeners {s t : Text} (h : s <+: t)
    (hs : ∃ d ∈ markupOpeners, s.head? = some d) : ∃ d ∈ markupOpeners, t.head? = some d := by
  obtain ⟨d, hd, hs⟩ := hs
  obtain ⟨u, rfl⟩ := h
  obtain ⟨s, rfl⟩ := List.head?_eq_some_iff.1 hs
  exact ⟨d, hd, rfl⟩

theorem head_mem_of_markup {t : Text} (h : StartsHtmlComment t ∨ startsConflict t = true) :
    ∃ d ∈ markupOpeners, t.head? = some d := by
  rcases h with (h | h) | h
  · exact head_mem_markupOpeners h ⟨'<', by decide, rfl⟩
  · exact head_mem_markupOpeners h ⟨'-', by decide, rfl⟩
  · obtain ⟨s, hs, hp⟩ := List.any_eq_true.1 h
    have hall : ∀ s ∈ conflictMarkers, s.head?.any markupOpeners.contains = true := by decide
    obtain ⟨d, hd, hm⟩ := (Option.any_eq_true _ _).1 (hall s hs)
    exact head_mem_markupOpeners (List.isPrefixOf_iff_prefix.1 hp)
      ⟨d, List.contains_iff_mem.1 hm, hd⟩

theorem MarkupBetween.of_reaches (h : c.Reaches b) (hm : MarkupBetween b gap m) :
    MarkupBetween c gap m := by
  obtain ⟨d, hd, hr⟩ := hm
  exact ⟨d, h.trans hd, hr⟩

theorem markupStart_or_of_reaches (h : c.Reaches b)
    (hm : seen.markupStart = some m ∨ MarkupBetween b gap m) :
    seen.markupStart = some m ∨ MarkupBetween c gap m :=
  hm.imp_right (.of_reaches h)

/-- Markup that starts here is the first one unless there was some before. -/
theorem markupStart_or_of_markup (h : c.Reaches b) (h' : b.Reaches gap.after)
    (hc : StartsHtmlComment c.rest
      ∨ startsConflict c.rest = true ∧ ⟨.conflictMarker, c.offset⟩ ∈ gap.notes)
    (hm : (seen.markup c.offset).markupStart = some m ∨ MarkupBetween b gap m) :
    seen.markupStart = some m ∨ MarkupBetween c gap m := by
  rcases hm with hm | hm
  · cases hs : seen.markupStart with
    | some k =>
      rw [GapSeen.markup, hs] at hm
      exact .inl hm
    | none =>
      rw [GapSeen.markup, hs] at hm
      obtain rfl := Option.some.inj hm
      exact .inr ⟨c, .refl c, h.trans h', rfl, hc⟩
  · exact .inr (hm.of_reaches h)

theorem notes_gapFrom (mode : GapMode) (seen : GapSeen) (offset : Nat) (t : Text) :
    seen.notes ⊆ (gapFrom mode seen offset t).notes := by
  fun_induction gapFrom mode seen offset t
  case case1 => exact List.subset_append_left _ _
  case case2 | case10 => exact List.Subset.refl _
  case case9 ih => exact List.Subset.trans (List.subset_append_left _ _) ih
  case case14 ih =>
    refine List.Subset.trans ?_ ih
    split <;> exact List.Subset.refl _
  all_goals
    next ih => exact ih

theorem markup_gapFrom {mode : GapMode} {seen : GapSeen} {offset : Nat} {t : Text} {m : Nat}
    (h : (gapFrom mode seen offset t).markupStart = some m) :
    seen.markupStart = some m ∨ MarkupBetween ⟨t, offset⟩ (gapFrom mode seen offset t) m := by
  fun_induction gapFrom mode seen offset t
  case case1 | case2 | case10 => exact .inl h
  case case3 ih | case4 ih | case13 ih =>
    exact markupStart_or_of_reaches (reaches_append [_, _] _ _) (ih h)
  case case6 ih | case7 ih | case11 ih | case12 ih =>
    exact markupStart_or_of_reaches (reaches_append [_] _ _) (ih h)
  case case14 ih =>
    refine markupStart_or_of_reaches (reaches_append [_] _ _) ((ih h).imp_left fun hm => ?_)
    split at hm <;> exact hm
  case case5 ih =>
    exact markupStart_or_of_markup (reaches_append [_, _, _, _] _ _) (reaches_gapFrom _ _ _ _)
      (.inl (.inl (List.prefix_append _ _))) (ih h)
  case case8 hp ih =>
    have hp := List.isPrefixOf_iff_prefix.1 (Bool.and_eq_true_iff.1 hp).2
    exact markupStart_or_of_markup (reaches_append [_] _ _) (reaches_gapFrom _ _ _ _)
      (.inl (.inr hp)) (ih h)
  case case9 hp ih =>
    refine markupStart_or_of_markup (reaches_append [_] _ _) (reaches_gapFrom _ _ _ _)
      (.inr ⟨(Bool.and_eq_true_iff.1 hp).2, ?_⟩) (ih h)
    exact notes_gapFrom _ _ _ _ (by simp [GapSeen.mistake])

theorem reaches_gapAt (atStart : Bool) (c : Cursor) : c.Reaches (gapAt atStart c).after :=
  reaches_gapFrom _ _ c.offset c.rest

theorem markup_gapAt {atStart : Bool} (h : (gapAt atStart c).markupStart = some m) :
    MarkupBetween c (gapAt atStart c) m :=
  (markup_gapFrom h).resolve_left (by simp)

/-- A gap in two parts: the one that belongs to the token behind it comes second. It is empty
unless there is markup. -/
theorem exists_front (atStart : Bool) (c : Cursor) :
    ∃ blank front, c.rest = blank ++ (front ++ (gapAt atStart c).after.rest)
      ∧ (gapAt atStart c).markupStart.getD (gapAt atStart c).after.offset
        = c.offset + blank.byteSize
      ∧ (gapAt atStart c).after.offset = c.offset + blank.byteSize + front.byteSize
      ∧ ((gapAt atStart c).markupStart = none ∧ front = []
        ∨ StartsHtmlComment (front ++ (gapAt atStart c).after.rest)
        ∨ startsConflict (front ++ (gapAt atStart c).after.rest) = true
          ∧ ⟨.conflictMarker, c.offset + blank.byteSize⟩ ∈ (gapAt atStart c).notes) := by
  cases hm : (gapAt atStart c).markupStart with
  | none =>
    obtain ⟨blank, hrest, hoffset⟩ := reaches_gapAt atStart c
    exact ⟨blank, [], hrest, hoffset, hoffset, .inl ⟨rfl, rfl⟩⟩
  | some m =>
    obtain ⟨b, ⟨blank, hrest, hoffset⟩, ⟨front, hb, hbo⟩, rfl, hmarkup⟩ := markup_gapAt hm
    rw [hb] at hrest hmarkup
    rw [hoffset] at hbo hmarkup
    exact ⟨blank, front, hrest, hoffset, hbo, .inr hmarkup⟩

theorem reaches_punctuatorAt (c : Cursor) : c.Reaches (punctuatorAt c).after := by
  rw [punctuatorAt]
  split
  · exact Cursor.reaches_advance c _
  · split
    · exact .refl c
    · exact Cursor.reaches_advance c 1

theorem reaches_wordAt (mode : ScanMode) (c : Cursor) : c.Reaches (wordAt mode c).after :=
  (reaches_nameAt c).andThen fun _ after => .ite (.refl after) (.refl after)

theorem reaches_tokenAt (mode : ScanMode) (newline : Bool) (c : Cursor) :
    c.Reaches (tokenAt mode newline c).after := by
  rw [tokenAt]
  split
  · exact reaches_punctuatorAt c
  · exact .ite (reaches_stringAt _ _ c) (.ite (reaches_numberAt _ c) (.ite (reaches_wordAt mode c)
      (.ite (reaches_gapFrom _ _ c.offset c.rest) (reaches_punctuatorAt c))))

structure Scan.Forward (c : Cursor) (s : Scan) : Prop where
  reaches : c.Reaches s.after
  start_le : ∀ l ∈ s.lexeme, c.offset ≤ l.span.start
  start_le_stop : ∀ l ∈ s.lexeme, l.span.start ≤ l.span.stop
  stop_eq : ∀ l ∈ s.lexeme, l.span.stop = s.after.offset

@[simp]
theorem Reading.scan_after (newline : Bool) (start : Nat) (r : Reading Token) :
    (r.scan newline start).after = r.after := by
  cases r <;> rfl

theorem Reading.notes_subset_scan (notes : List Diagnostic) (newline : Bool) (start : Nat)
    (r : Reading Token) : notes ⊆ ((r.behind notes).scan newline start).notes := by
  cases r <;> exact List.subset_append_left _ _

theorem Reading.span_scan {newline : Bool} {start : Nat} {r : Reading Token} {l : Lexeme}
    (h : l ∈ (r.scan newline start).lexeme) : l.span = ⟨start, r.after.offset⟩ := by
  cases r <;> exact (Option.some.inj h) ▸ rfl

theorem Reading.forward_scan {newline : Bool} {start : Nat} {r : Reading Token}
    (h : c.Reaches r.after)
    (hs : c.offset ≤ start) (hs' : start ≤ r.after.offset) :
      Scan.Forward c (r.scan newline start) where
  reaches := by rwa [scan_after]
  start_le l hl := by rw [span_scan hl]; exact hs
  start_le_stop l hl := by rw [span_scan hl]; exact hs'
  stop_eq l hl := by rw [span_scan hl, scan_after]

theorem forward_none (h : c.Reaches b) (notes : List Diagnostic) :
    Scan.Forward c ⟨none, b, notes⟩ :=
  ⟨h, nofun, nofun, nofun⟩

theorem forward_scan (mode : ScanMode) (atStart : Bool) (c : Cursor) :
    Scan.Forward c (scan mode atStart c) := by
  have hg := reaches_gapAt atStart c
  rw [scan]
  split
  · exact forward_none hg _
  · have ht := reaches_tokenAt mode (gapAt atStart c).newline (gapAt atStart c).after
    rw [← Reading.after_behind (gapAt atStart c).notes] at ht
    refine Reading.forward_scan (hg.trans ht) ?_ ?_
    · cases hm : (gapAt atStart c).markupStart with
      | none => exact hg.offset_le
      | some m =>
        obtain ⟨b, hb, _, rfl, _⟩ := markup_gapAt hm
        exact hb.offset_le
    · cases hm : (gapAt atStart c).markupStart with
      | none => exact ht.offset_le
      | some m =>
        obtain ⟨b, _, hb, rfl, _⟩ := markup_gapAt hm
        exact (hb.trans ht).offset_le

/-- What a scan that gives a token goes over: a gap, the part of it that belongs to the token, and
the text that was read as the token. -/
theorem scan_text {mode : ScanMode} {atStart : Bool} {l : Lexeme}
    (h : (scan mode atStart c).lexeme = some l) :
    ∃ blank front s, c.rest = blank ++ (front ++ (s ++ (scan mode atStart c).after.rest))
      ∧ l.span = ⟨c.offset + blank.byteSize,
        c.offset + blank.byteSize + (front ++ s).byteSize⟩
      ∧ (gapAt atStart c).after = ⟨s ++ (scan mode atStart c).after.rest,
        c.offset + blank.byteSize + front.byteSize⟩
      ∧ (front = [] ∨ StartsHtmlComment (front ++ (gapAt atStart c).after.rest)
        ∨ startsConflict (front ++ (gapAt atStart c).after.rest) = true
          ∧ ⟨.conflictMarker, l.span.start⟩ ∈ (scan mode atStart c).notes)
      ∧ ((∃ notes, tokenAt mode (gapAt atStart c).newline (gapAt atStart c).after
            = .done l.token (scan mode atStart c).after notes
            ∧ (scan mode atStart c).notes = (gapAt atStart c).notes ++ notes)
        ∨ ∃ flaw, l.token = .bad flaw) := by
  obtain ⟨blank, front, hrest, hstart, hgap, hfront⟩ := exists_front atStart c
  have hreach := reaches_tokenAt mode (gapAt atStart c).newline (gapAt atStart c).after
  rw [scan] at h ⊢
  split at h
  · contradiction
  next hne =>
  rw [if_neg hne]
  obtain ⟨s, hs, hso⟩ := hreach
  have hspan := Reading.span_scan h
  rw [hstart, Reading.after_behind, hso, hgap] at hspan
  rw [Reading.scan_after, Reading.after_behind]
  refine ⟨blank, front, s, ?_, ?_, ?_, ?_, ?_⟩
  · rw [hrest, hs]
  · rw [hspan, Text.byteSize_append, Nat.add_assoc _ front.byteSize]
  · rw [← hs, ← hgap]
  · rw [hspan]
    rcases hfront with ⟨-, rfl⟩ | hcomment | ⟨hconflict, hn⟩
    · exact .inl rfl
    · exact .inr (.inl hcomment)
    · exact .inr (.inr ⟨hconflict, Reading.notes_subset_scan _ _ _ _ hn⟩)
  · cases hr : tokenAt mode (gapAt atStart c).newline (gapAt atStart c).after with
    | done token after notes =>
      rw [hr] at h
      rw [← Option.some.inj h]
      exact .inl ⟨notes, rfl, rfl⟩
    | failed flaw after notes =>
      rw [hr] at h
      rw [← Option.some.inj h]
      exact .inr ⟨flaw, rfl⟩

theorem reaches_templateToken (around : Surroundings) (c : Cursor) :
    c.Reaches (match around.previous, templateMark? c.rest with
      | some (.template _ _), some m => Reading.done (Token.mark m) (c.advance m.text.length) []
      | _, _ => templateTextAt around.templateStart c).after := by
  split
  · exact Cursor.reaches_advance c _
  · exact reaches_templateTextAt _ c

end ScriptVeil.Script
