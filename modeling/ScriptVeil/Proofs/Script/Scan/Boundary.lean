import ScriptVeil.Proofs.Script.Scan.Quoted
import ScriptVeil.Proofs.Text.CharClass

namespace ScriptVeil.Script

def StartsNoWord (t : Text) : Prop :=
  ∀ ch ∈ t.head?, isWordChar ch = false

def EndsWord (t : Text) (offset : Nat) : Prop :=
  StartsNoWord (t.dropBytes offset)

theorem isWordChar_eq_false_of_not_has {c : Char} (h : wordChars.has c = false) :
    isWordChar c = false := by
  rw [← Bool.not_eq_true]
  intro hc
  rw [wordChars_has hc] at h
  contradiction

theorem lineBlanks_apart_wordChars : CharSet.Apart lineBlanks wordChars := by
  decide +kernel

theorem isWordChar_eq_false_of_lineBlank {c : Char} (h : lineBlanks.has c = true) :
    isWordChar c = false :=
  isWordChar_eq_false_of_not_has (lineBlanks_apart_wordChars.not_has h)

theorem isWordChar_eq_false_of_isLineEnd {c : Char} (h : isLineEnd c = true) :
    isWordChar c = false := by
  rw [isLineEnd] at h
  simp only [Bool.or_eq_true, decide_eq_true_eq] at h
  rcases h with ((rfl | rfl) | rfl) | rfl <;> decide +kernel

theorem isWordChar_eq_false_of_markup {c : Char} (h : c ∈ markupOpeners) :
    isWordChar c = false := by
  have hall : markupOpeners.any isWordChar = false := by decide
  simpa using List.any_eq_false.1 hall c h

theorem startsNoWord_nil : StartsNoWord [] :=
  fun _ h => absurd h (Option.not_mem_none _)

theorem startsNoWord_cons {c : Char} (h : isWordChar c = false) (t : Text) :
    StartsNoWord (c :: t) := by
  rintro _ ⟨⟩
  exact h

theorem startsNoWord_of_markup {t : Text} (h : StartsHtmlComment t ∨ startsConflict t = true) :
    StartsNoWord t := by
  obtain ⟨d, hd, ht⟩ := head_mem_of_markup h
  intro ch hch
  rw [Option.mem_def, ht] at hch
  exact Option.some.inj hch ▸ isWordChar_eq_false_of_markup hd

variable {c : Cursor} {l : Lexeme} {mode : ScanMode}

theorem gapFrom_cases {gapMode : GapMode} (hm : gapMode = .blank) (seen : GapSeen) (offset : Nat)
    (t : Text) :
    StartsNoWord t ∨ (gapFrom gapMode seen offset t).after = ⟨t, offset⟩
      ∧ (gapFrom gapMode seen offset t).newline = seen.newline := by
  fun_cases gapFrom gapMode seen offset t
  case case1 | case11 | case12 | case13 | case14 => contradiction
  case case10 => exact .inr ⟨rfl, rfl⟩
  all_goals left
  case case2 => exact startsNoWord_nil
  case case3 | case4 | case5 => exact startsNoWord_cons (by decide) _
  case case6 h => exact startsNoWord_cons (isWordChar_eq_false_of_isLineEnd h) _
  case case7 h => exact startsNoWord_cons (isWordChar_eq_false_of_lineBlank h) _
  case case8 h =>
    exact startsNoWord_of_markup
      (.inl (.inr (List.isPrefixOf_iff_prefix.1 (Bool.and_eq_true_iff.1 h).2)))
  case case9 h => exact startsNoWord_of_markup (.inr (Bool.and_eq_true_iff.1 h).2)

/-- A gap that is there starts with no word, and only behind it a line may have ended. -/
theorem gapAt_cases (atStart : Bool) (c : Cursor) :
    StartsNoWord c.rest ∨ (gapAt atStart c).after = c ∧ (gapAt atStart c).newline = atStart :=
  gapFrom_cases rfl _ _ _

theorem punctuatorAt_head {token : Token} {after : Cursor} {notes : List Diagnostic}
    (h : punctuatorAt c = .done token after notes) : StartsNoWord c.rest := by
  rw [punctuatorAt] at h
  split at h
  · next text token' hp =>
    have hall : punctuators.all (fun p => p.1.head?.any fun ch => !isWordChar ch) = true := by
      decide
    have hhead := List.all_eq_true.1 hall _ (List.mem_of_find?_eq_some hp)
    have hprefix : text.isPrefixOf c.rest = true := by simpa using List.find?_some hp
    obtain ⟨u, hu⟩ := List.isPrefixOf_iff_prefix.1 hprefix
    rw [← hu]
    cases text with
    | nil => contradiction
    | cons ch text => exact startsNoWord_cons (by simpa using hhead) _
  · split at h <;> contradiction

theorem Reading.newline_scan {newline : Bool} {start : Nat} {r : Reading Token}
    (h : (r.scan newline start).lexeme = some l) : l.newline = newline := by
  cases r <;> exact (Option.some.inj h) ▸ rfl

theorem newline_scan {atStart : Bool} (h : (scan mode atStart c).lexeme = some l) :
    l.newline = (gapAt atStart c).newline := by
  rw [scan] at h
  split at h
  · contradiction
  · exact Reading.newline_scan h

theorem startsNoWord_of_newline (h : (scan mode false c).lexeme = some l)
    (hn : l.newline = true) : StartsNoWord c.rest := by
  rcases gapAt_cases false c with hc | ⟨-, hnewline⟩
  · exact hc
  · rw [newline_scan h, hnewline] at hn
    contradiction

theorem startsNoWord_of_punctuator {atStart : Bool} (h : (scan mode atStart c).lexeme = some l)
    (hp : l.token.isPunctuator = true) : StartsNoWord c.rest := by
  rcases gapAt_cases atStart c with hc | ⟨hafter, -⟩
  · exact hc
  · obtain ⟨-, -, -, -, -, -, -, ⟨notes, ht, -⟩ | ⟨flaw, hflaw⟩⟩ := scan_text h
    · rw [hafter] at ht
      exact punctuatorAt_head (tokenAt_eq_punctuator ht hp)
    · rw [hflaw] at hp
      contradiction

theorem startsNoWord_of_gap {atStart : Bool} (h : (gapAt atStart c).after.rest = []) :
    StartsNoWord c.rest := by
  rcases gapAt_cases atStart c with hc | ⟨hafter, -⟩
  · exact hc
  · rw [← hafter, h]
    exact startsNoWord_nil

end ScriptVeil.Script
