import ScriptVeil.Proofs.Script.Scan.Boundary

namespace ScriptVeil.Script

variable {s t : Text}

theorem StartsNoWord.append_reverse (h : StartsNoWord s.reverse) (hs : s ≠ []) (u : Text) :
    StartsNoWord (u ++ s).reverse := by
  obtain ⟨c, w, hw⟩ := List.exists_cons_of_ne_nil (List.reverse_ne_nil_iff.2 hs)
  rw [List.reverse_append]
  rw [hw] at h ⊢
  exact startsNoWord_cons (h c rfl) _

theorem StartsNoWord.cons_reverse {c : Char} (h : StartsNoWord s.reverse)
    (hc : isWordChar c = false) : StartsNoWord (c :: s).reverse := by
  cases s with
  | nil => exact startsNoWord_cons hc []
  | cons d s => exact h.append_reverse (List.cons_ne_nil d s) [c]

/-- A gap in front of a token ends with no word character. From the middle of a comment on there is
some of it left. -/
theorem exists_gap_gapFrom {mode : GapMode} {seen : GapSeen} {offset : Nat}
    (hne : (gapFrom mode seen offset t).after.rest ≠ []) :
    ∃ s, t = s ++ (gapFrom mode seen offset t).after.rest ∧ StartsNoWord s.reverse
      ∧ (mode ≠ .blank → s ≠ []) := by
  fun_induction gapFrom mode seen offset t
  case case1 | case2 => contradiction
  case case10 => exact ⟨[], rfl, startsNoWord_nil, fun h => absurd rfl h⟩
  case case3 ih =>
    obtain ⟨s, hs, hend, hmore⟩ := ih hne
    exact ⟨'/' :: '/' :: s, congrArg ('/' :: '/' :: ·) hs,
      hend.append_reverse (hmore (by simp)) ['/', '/'], by simp⟩
  case case4 ih =>
    obtain ⟨s, hs, hend, hmore⟩ := ih hne
    exact ⟨'/' :: '*' :: s, congrArg ('/' :: '*' :: ·) hs,
      hend.append_reverse (hmore (by simp)) ['/', '*'], by simp⟩
  case case5 ih =>
    obtain ⟨s, hs, hend, hmore⟩ := ih hne
    exact ⟨'<' :: '!' :: '-' :: '-' :: s, congrArg ('<' :: '!' :: '-' :: '-' :: ·) hs,
      hend.append_reverse (hmore (by simp)) ['<', '!', '-', '-'], by simp⟩
  case case6 h ih | case11 h ih =>
    obtain ⟨s, hs, hend, -⟩ := ih hne
    exact ⟨_ :: s, congrArg (_ :: ·) hs,
      hend.cons_reverse (isWordChar_eq_false_of_isLineEnd h), by simp⟩
  case case7 h ih =>
    obtain ⟨s, hs, hend, -⟩ := ih hne
    exact ⟨_ :: s, congrArg (_ :: ·) hs,
      hend.cons_reverse (isWordChar_eq_false_of_lineBlank h), by simp⟩
  case case13 ih =>
    obtain ⟨s, hs, hend, -⟩ := ih hne
    exact ⟨'*' :: '/' :: s, congrArg ('*' :: '/' :: ·) hs,
      (hend.cons_reverse (by decide)).cons_reverse (by decide), by simp⟩
  -- The first character of a comment to the end of the line, or one in the middle of a comment.
  all_goals
    next ih =>
    obtain ⟨s, hs, hend, hmore⟩ := ih hne
    exact ⟨_ :: s, congrArg (_ :: ·) hs, hend.append_reverse (hmore (by simp)) [_], by simp⟩

theorem exists_gap_gapAt {atStart : Bool} {c : Cursor} (hne : (gapAt atStart c).after.rest ≠ []) :
    ∃ s, c.rest = s ++ (gapAt atStart c).after.rest ∧ StartsNoWord s.reverse := by
  obtain ⟨s, hs, hend, -⟩ := exists_gap_gapFrom hne
  exact ⟨s, hs, hend⟩

theorem exists_text_punctuatorAt {c after : Cursor} {token : Token} {notes : List Diagnostic}
    (h : punctuatorAt c = .done token after notes) :
    ∃ s, c.rest = s ++ after.rest ∧ s ≠ [] ∧ StartsNoWord s.reverse := by
  rw [punctuatorAt] at h
  split at h
  · next text token' hp =>
    cases h
    have hall : punctuators.all (fun p => p.1.getLast?.any fun ch => !isWordChar ch) = true := by
      decide
    obtain ⟨ch, hlast, hch⟩ := (Option.any_eq_true _ _).1
      (List.all_eq_true.1 hall _ (List.mem_of_find?_eq_some hp))
    have hprefix : text.isPrefixOf c.rest = true := by simpa using List.find?_some hp
    obtain ⟨u, hu⟩ := List.isPrefixOf_iff_prefix.1 hprefix
    refine ⟨text, ?_, ?_, ?_⟩
    · rw [Cursor.advance, ← hu, List.drop_left]
    · rintro rfl
      contradiction
    · intro d hd
      rw [List.head?_reverse, hlast] at hd
      obtain rfl := Option.some.inj hd
      simpa using hch
  · split at h <;> contradiction

end ScriptVeil.Script
