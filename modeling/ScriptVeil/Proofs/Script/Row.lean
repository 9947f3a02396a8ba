import ScriptVeil.Proofs.Script.Scan.Lexeme
import ScriptVeil.Proofs.Text.Span
import ScriptVeil.Script.Parser.Basic

namespace ScriptVeil.Script

def Cursor.In (t : Text) (c : Cursor) : Prop :=
  (⟨t, 0⟩ : Cursor).Reaches c

/-- Whether a token is read behind a gap and on its own. The text of a template, with the marks
behind it, and regular expressions are not. -/
def Token.isPlain : Token → Bool
  | .template _ _ | .regex _ _ | .mark .backtick | .mark .placeholder | .bad _ => false
  | _ => true

/-- Whether a place is the one behind a gap, if there is one. -/
def Cursor.Skips (c b : Cursor) : Prop :=
  c = b ∨ ∃ atStart, (gapAt atStart c).after = b

def ScanMode.Reserves (mode : ScanMode) : Prop :=
  ∀ word ∈ alwaysReserved, mode.reserved word = true

/-- Whether a regular expression is read from a place behind its slash. It starts with the sign that
the token `/=` may have taken. -/
def OpenRegex.StartsAt (r : OpenRegex) (c : Cursor) : Prop :=
  r.body = c ∨ r.body = ⟨'=' :: c.rest, c.offset - 1⟩

/-- How a token is read that does not stand on its own: a part of a template or a regular
expression. -/
inductive Cursor.ReadsInside (c : Cursor) (token : Token) (after : Cursor) : Prop where
  | templateText (start : Nat) (notes : List Diagnostic)
      (h : templateTextAt start c = .done token after notes)
  | templateMark (m : Mark) (hm : templateMark? c.rest = some m) (ht : token = .mark m)
      (ha : after = c.advance m.text.length)
  | regex (r : OpenRegex) (hr : r.StartsAt c) (notes : List Diagnostic)
      (h : r.reading = .done token after notes)

/-- How a token is read at a place, with the mistakes met there among the given ones. -/
inductive Lexeme.ReadAt (notes : List Diagnostic) (c : Cursor) (l : Lexeme) : Prop where
  | plain (mode : ScanMode) (atStart : Bool) (hm : mode.Reserves)
      (hl : (scan mode atStart c).lexeme = some l) (hn : (scan mode atStart c).notes ⊆ notes)
  | inner (b after : Cursor) (hp : l.token.isPlain = false) (hb : c.Skips b) (ha : b.Reaches after)
      (hs : l.span = ⟨b.offset, after.offset⟩)
      (hr : (∃ flaw, l.token = .bad flaw) ∨ b.ReadsInside l.token after)

def Lexeme.Behind (t : Text) (notes : List Diagnostic) (lo : Nat) (l : Lexeme) : Prop :=
  ∃ c : Cursor, c.In t ∧ c.offset = lo ∧ l.ReadAt notes c

def Row (t : Text) (notes : List Diagnostic) : Nat → List Lexeme → Nat → Prop
  | lo, [], hi => lo = hi
  | lo, l :: ls, hi => l.Behind t notes lo ∧ Row t notes l.span.stop ls hi

def Cursor.AtEnd (c : Cursor) : Prop :=
  ∃ atStart, (gapAt atStart c).after.rest = []

/-- Whether reading goes on at an offset. At the end of the text, a gap may have been skipped. -/
def Cursor.Resumes (t : Text) (hi : Nat) (c : Cursor) : Prop :=
  ∃ b : Cursor, b.In t ∧ b.offset = hi
    ∧ (b = c ∨ (∃ atStart, (gapAt atStart b).after = c) ∧ c.rest = [])

variable {t : Text} {notes notes' : List Diagnostic} {lo mid hi : Nat} {l : Lexeme}
  {ls ls' : List Lexeme} {b c : Cursor}

theorem Cursor.In.trans (h : c.In t) (hb : c.Reaches b) : b.In t :=
  Cursor.Reaches.trans h hb

theorem Cursor.In.dropBytes_eq (h : c.In t) : t.dropBytes c.offset = c.rest := by
  obtain ⟨s, rfl, ho⟩ := h
  rw [ho, Nat.zero_add]
  exact Text.dropBytes_byteSize_append s c.rest

theorem Cursor.In.reaches (h : c.In t) (hb : b.In t) (hle : c.offset ≤ b.offset) : c.Reaches b := by
  obtain ⟨s, hs, ho⟩ := h
  obtain ⟨s', hs', ho'⟩ := hb
  obtain ⟨v, rfl, hv⟩ := Text.exists_append_of_byteSize_le (hs.symm.trans hs') (by omega)
  refine ⟨v, hv, ?_⟩
  rw [ho, ho', Text.byteSize_append, Nat.add_assoc]

theorem Cursor.Skips.reaches (h : c.Skips b) : c.Reaches b := by
  obtain rfl | ⟨atStart, rfl⟩ := h
  · exact .refl c
  · exact reaches_gapAt atStart c

namespace Lexeme

theorem ReadAt.mono (h : l.ReadAt notes c) (hn : notes ⊆ notes') : l.ReadAt notes' c := by
  cases h with
  | plain mode atStart hm hl hs => exact .plain mode atStart hm hl (List.Subset.trans hs hn)
  | inner b after hp hb ha hs hr => exact .inner b after hp hb ha hs hr

theorem ReadAt.exists_after (h : l.ReadAt notes c) :
    ∃ after, c.Reaches after ∧ after.offset = l.span.stop ∧ c.offset ≤ l.span.start
      ∧ l.span.start ≤ l.span.stop := by
  cases h with
  | plain mode atStart hm hl hn =>
    have hf := forward_scan mode atStart c
    exact ⟨_, hf.reaches, (hf.stop_eq l hl).symm, hf.start_le l hl, hf.start_le_stop l hl⟩
  | inner b after hp hb ha hs =>
    rw [hs]
    exact ⟨after, hb.reaches.trans ha, rfl, hb.reaches.offset_le, ha.offset_le⟩

theorem Behind.mono (h : l.Behind t notes lo) (hn : notes ⊆ notes') : l.Behind t notes' lo := by
  obtain ⟨c, hc, hlo, hr⟩ := h
  exact ⟨c, hc, hlo, hr.mono hn⟩

theorem Behind.le_start (h : l.Behind t notes lo) : lo ≤ l.span.start := by
  obtain ⟨c, hc, rfl, hr⟩ := h
  obtain ⟨-, -, -, hle, -⟩ := hr.exists_after
  exact hle

theorem Behind.start_le_stop (h : l.Behind t notes lo) : l.span.start ≤ l.span.stop := by
  obtain ⟨c, hc, rfl, hr⟩ := h
  obtain ⟨-, -, -, -, hle⟩ := hr.exists_after
  exact hle

theorem Behind.exists_scan (h : l.Behind t notes lo) (hp : l.token.isPlain = true) :
    ∃ (mode : ScanMode) (atStart : Bool) (c : Cursor), c.In t ∧ c.offset = lo
      ∧ (scan mode atStart c).lexeme = some l ∧ (scan mode atStart c).notes ⊆ notes := by
  obtain ⟨c, hc, hlo, hr⟩ := h
  cases hr with
  | plain mode atStart hm hl hn => exact ⟨mode, atStart, c, hc, hlo, hl, hn⟩
  | inner b after hp' =>
    rw [hp] at hp'
    contradiction

theorem Behind.exists_token (h : l.Behind t notes lo) (hp : l.token.isPlain = true) :
    ∃ (mode : ScanMode) (atStart : Bool) (c : Cursor) (more : List Diagnostic), c.In t
      ∧ c.offset = lo ∧ (scan mode atStart c).lexeme = some l
      ∧ tokenAt mode (gapAt atStart c).newline (gapAt atStart c).after
        = .done l.token (scan mode atStart c).after more
      ∧ more ⊆ notes := by
  obtain ⟨mode, atStart, c, hc, hlo, hscan, hnotes⟩ := h.exists_scan hp
  obtain ⟨-, -, -, -, -, -, -, ⟨more, htoken, hmore⟩ | ⟨flaw, hbad⟩⟩ := scan_text hscan
  · rw [hmore] at hnotes
    exact ⟨mode, atStart, c, more, hc, hlo, hscan, htoken, (List.append_subset.1 hnotes).2⟩
  · rw [hbad] at hp
    contradiction

end Lexeme

namespace Row

theorem mono (h : Row t notes lo ls hi) (hn : notes ⊆ notes') : Row t notes' lo ls hi := by
  induction ls generalizing lo with
  | nil => exact h
  | cons l ls ih => exact ⟨h.1.mono hn, ih h.2⟩

theorem append (h : Row t notes lo ls mid) (h' : Row t notes mid ls' hi) :
    Row t notes lo (ls ++ ls') hi := by
  induction ls generalizing lo with
  | nil =>
    obtain rfl : lo = mid := h
    exact h'
  | cons l ls ih => exact ⟨h.1, ih h.2⟩

theorem exists_behind (h : Row t notes lo ls hi) (hl : l ∈ ls) : ∃ lo', l.Behind t notes lo' := by
  induction ls generalizing lo with
  | nil => contradiction
  | cons l' ls ih =>
    rcases List.mem_cons.1 hl with rfl | hl
    · exact ⟨lo, h.1⟩
    · exact ih h.2 hl

theorem chain (h : Row t notes lo ls hi) : Chain lo (ls.map Lexeme.span) hi := by
  induction ls generalizing lo with
  | nil => exact Nat.le_of_eq h
  | cons l ls ih => exact ⟨h.1.le_start, h.1.start_le_stop, ih h.2⟩

end Row

namespace Cursor.Resumes

theorem of_in (h : c.In t) : c.Resumes t c.offset :=
  ⟨c, h, rfl, .inl rfl⟩

theorem in_text (h : c.Resumes t hi) : c.In t := by
  obtain ⟨b, hb, -, rfl | ⟨⟨atStart, rfl⟩, -⟩⟩ := h
  · exact hb
  · exact hb.trans (reaches_gapAt atStart b)

theorem le_offset (h : c.Resumes t hi) : hi ≤ c.offset := by
  obtain ⟨b, hb, rfl, rfl | ⟨⟨atStart, rfl⟩, -⟩⟩ := h
  · exact le_rfl
  · exact (reaches_gapAt atStart b).offset_le

theorem offset_eq (h : c.Resumes t hi) (hne : c.rest ≠ []) : c.offset = hi := by
  obtain ⟨b, hb, rfl, rfl | ⟨-, he⟩⟩ := h
  · rfl
  · contradiction

theorem exists_skips (h : c.Resumes t hi) : ∃ b : Cursor, b.In t ∧ b.offset = hi ∧ b.Skips c := by
  obtain ⟨b, hb, hhi, hc | ⟨hc, -⟩⟩ := h
  · exact ⟨b, hb, hhi, .inl hc⟩
  · exact ⟨b, hb, hhi, .inr hc⟩

theorem exists_atEnd (h : c.Resumes t hi) (he : c.rest = []) :
    ∃ b : Cursor, b.In t ∧ b.offset = hi ∧ b.AtEnd := by
  obtain ⟨b, hb, hhi, rfl | ⟨⟨atStart, rfl⟩, hrest⟩⟩ := h
  · obtain ⟨gap, hgap, -⟩ := reaches_gapAt false b
    rw [he] at hgap
    exact ⟨b, hb, hhi, false, (List.append_eq_nil_iff.1 hgap.symm).2⟩
  · exact ⟨b, hb, hhi, atStart, hrest⟩

theorem gapAt (h : c.Resumes t hi) {atStart : Bool} (he : (gapAt atStart c).after.rest = []) :
    (Script.gapAt atStart c).after.Resumes t hi := by
  obtain ⟨b, hb, rfl, rfl | ⟨hb', hc⟩⟩ := h
  · exact ⟨b, hb, rfl, .inr ⟨⟨atStart, rfl⟩, he⟩⟩
  · have hsame : (Script.gapAt atStart c).after = c := by
      obtain ⟨rest, offset⟩ := c
      obtain rfl : rest = [] := hc
      rfl
    rw [hsame]
    exact ⟨b, hb, rfl, .inr ⟨hb', hc⟩⟩

end Cursor.Resumes

end ScriptVeil.Script
