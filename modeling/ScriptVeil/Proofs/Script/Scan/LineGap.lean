import ScriptVeil.Proofs.Script.Scan.Boundary

namespace ScriptVeil

namespace Text

variable {u v : Text}

theorem trimStart_append (u v : Text) :
    trimStart (u ++ v) = if trimStart u = [] then trimStart v else trimStart u ++ v := by
  rw [trimStart, trimStart, trimStart, List.dropWhile_append]
  cases u.dropWhile isBlank with
  | nil => exact (if_pos rfl).symm
  | cons c w => exact (if_neg (List.cons_ne_nil c w)).symm

theorem head_trimStart_append {ch : Char} (h : ch ∈ (trimStart (u ++ v)).head?) :
    ch ∈ (trimStart u).head? ∨ trimStart u = [] ∧ ch ∈ (trimStart v).head? := by
  rw [trimStart_append] at h
  split at h
  · next hu => exact .inr ⟨hu, h⟩
  · next hu =>
    obtain ⟨c, w, hw⟩ := List.exists_cons_of_ne_nil hu
    rw [hw] at h ⊢
    exact .inl h

end Text

namespace Script

/-- Whether a text ends like a gap within a line, where blanks at the end do not count. -/
def EndsInLineGap (s : Text) : Prop :=
  ∀ ch ∈ (Text.trimStart s.reverse).head?, ch = '/' ∨ lineBlanks.has ch = true

variable {s t : Text} {mode : GapMode} {seen : GapSeen} {offset : Nat}

theorem newline_gapFrom (h : seen.newline = true) :
    (gapFrom mode seen offset t).newline = true := by
  fun_induction gapFrom mode seen offset t
  case case1 | case2 | case10 => exact h
  case case6 ih | case11 ih => exact ih rfl
  case case14 ih =>
    refine ih ?_
    split
    · rfl
    · exact h
  all_goals
    next ih => exact ih h

theorem endsInLineGap_nil : EndsInLineGap [] :=
  nofun

theorem EndsInLineGap.blank_cons {c : Char} (hc : lineBlanks.has c = true) (h : EndsInLineGap s) :
    EndsInLineGap (c :: s) := by
  intro ch hch
  rw [List.reverse_cons] at hch
  rcases Text.head_trimStart_append hch with hch | ⟨-, hch⟩
  · exact h ch hch
  · have hmem := (List.dropWhile_sublist isBlank).subset (List.mem_of_mem_head? hch)
    exact .inr (List.mem_singleton.1 hmem ▸ hc)

theorem EndsInLineGap.append_left (h : EndsInLineGap s) (hs : Text.trimStart s.reverse ≠ [])
    (u : Text) : EndsInLineGap (u ++ s) := by
  intro ch hch
  rw [List.reverse_append] at hch
  rcases Text.head_trimStart_append hch with hch | ⟨hnil, -⟩
  · exact h ch hch
  · contradiction

theorem trimStart_reverse_append_ne_nil (hs : Text.trimStart s.reverse ≠ []) (u : Text) :
    Text.trimStart (u ++ s).reverse ≠ [] := by
  rw [List.reverse_append, Text.trimStart_append, if_neg hs]
  exact List.append_ne_nil_of_left_ne_nil hs _

theorem EndsInLineGap.close (h : EndsInLineGap s) :
    EndsInLineGap ('*' :: '/' :: s) ∧ Text.trimStart ('*' :: '/' :: s).reverse ≠ [] := by
  have hrev : ('*' :: '/' :: s).reverse = s.reverse ++ ['/', '*'] := by simp
  have htrim : Text.trimStart ['/', '*'] = ['/', '*'] := by decide
  rw [EndsInLineGap, hrev]
  constructor
  · intro ch hch
    rcases Text.head_trimStart_append hch with hch | ⟨-, hch⟩
    · exact h ch hch
    · rw [htrim] at hch
      exact .inl (Option.some.inj hch).symm
  · rw [Text.trimStart_append, htrim]
    split
    · exact List.cons_ne_nil _ _
    · exact List.append_ne_nil_of_right_ne_nil _ (List.cons_ne_nil _ _)

theorem endsInLineGap_gapFrom (h : (gapFrom mode seen offset t).newline = false)
    (hne : (gapFrom mode seen offset t).after.rest ≠ []) :
    mode ≠ .lineComment ∧ ∃ s, t = s ++ (gapFrom mode seen offset t).after.rest
      ∧ EndsInLineGap s ∧ (mode = .blockComment → Text.trimStart s.reverse ≠ []) := by
  fun_induction gapFrom mode seen offset t
  case case1 => contradiction
  case case2 => contradiction
  case case3 ih => exact absurd rfl (ih h hne).1
  case case4 ih =>
    obtain ⟨-, s, hs, hgap, hclosed⟩ := ih h hne
    exact ⟨by simp, '/' :: '*' :: s, congrArg ('/' :: '*' :: ·) hs,
      hgap.append_left (hclosed rfl) ['/', '*'], by simp⟩
  case case5 ih => exact absurd rfl (ih h hne).1
  case case6 ih =>
    rw [newline_gapFrom rfl] at h
    contradiction
  case case7 c t _ _ _ _ hc ih =>
    obtain ⟨-, s, hs, hgap, -⟩ := ih h hne
    exact ⟨by simp, c :: s, congrArg (c :: ·) hs, hgap.blank_cons hc, by simp⟩
  case case8 ih => exact absurd rfl (ih h hne).1
  case case9 ih => exact absurd rfl (ih h hne).1
  case case10 => exact ⟨by simp, [], rfl, endsInLineGap_nil, by simp⟩
  case case11 ih =>
    rw [newline_gapFrom rfl] at h
    contradiction
  case case12 ih => exact absurd rfl (ih h hne).1
  case case13 ih =>
    obtain ⟨-, s, hs, hgap, -⟩ := ih h hne
    exact ⟨by simp, '*' :: '/' :: s, congrArg ('*' :: '/' :: ·) hs, hgap.close.1,
      fun _ => hgap.close.2⟩
  case case14 c t _ ih =>
    obtain ⟨-, s, hs, hgap, hclosed⟩ := ih h hne
    exact ⟨by simp, c :: s, congrArg (c :: ·) hs, hgap.append_left (hclosed rfl) [c],
      fun _ => trimStart_reverse_append_ne_nil (hclosed rfl) [c]⟩

theorem EndsInLineGap.startsNoWord (h : EndsInLineGap s) (hs : s ≠ []) (u : Text) :
    StartsNoWord (s.reverse ++ u) := by
  obtain ⟨c, w, hrev⟩ := List.exists_cons_of_ne_nil (List.reverse_ne_nil_iff.2 hs)
  rw [hrev]
  apply startsNoWord_cons
  by_cases hc : isBlank c = true
  · rw [← Bool.not_eq_true]
    intro hw
    rw [isBlank_eq_false_of_isWordChar hw] at hc
    contradiction
  · have hhead : c ∈ (Text.trimStart s.reverse).head? := by
      rw [hrev, Text.trimStart, List.dropWhile_cons_of_neg hc]
      rfl
    rcases h c hhead with rfl | hblank
    · decide
    · exact isWordChar_eq_false_of_lineBlank hblank

end Script

end ScriptVeil
