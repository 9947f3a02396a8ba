import ScriptVeil.Proofs.Script.Scan.Quoted
import ScriptVeil.Proofs.Text.CharClass
import ScriptVeil.Proofs.Text.Offset

namespace ScriptVeil.Script

def StartsNoName (t : Text) : Prop :=
  ∀ ch ∈ t.head?, isNamePart ch = false ∧ ch ≠ '\\'

variable {c after : Cursor} {notes : List Diagnostic}

theorem nameStarts_inside_nameParts : nameStartsBeyondAscii.Inside namePartsBeyondAscii :=
  .of_uncovered (by decide +kernel)

theorem isNamePart_of_isNameStart {ch : Char} (h : isNameStart ch = true) :
    isNamePart ch = true := by
  rw [isNameStart] at h
  rw [isNamePart]
  split at h
  · next hascii =>
    rw [if_pos hascii]
    rw [Char.isAlphanum]
    simp only [Bool.or_eq_true] at h ⊢
    exact h.imp_left (.imp_left .inl)
  · next hascii =>
    rw [if_neg hascii, Bool.or_eq_true]
    exact .inr (nameStarts_inside_nameParts.has h)

theorem Cursor.Reaches.length_le {b : Cursor} (h : c.Reaches b) :
    b.rest.length ≤ c.rest.length := by
  obtain ⟨s, hs, -⟩ := h
  rw [hs, List.length_append]
  exact Nat.le_add_left _ _

theorem Reading.behind_eq_done {α : Type} {r : Reading α} {a : α} {more : List Diagnostic}
    (h : r.behind more = .done a after notes) :
    ∃ rest, r = .done a after rest ∧ notes = more ++ rest := by
  cases r with
  | failed flaw after notes => contradiction
  | done b mid rest =>
    cases h
    exact ⟨rest, rfl, rfl⟩

theorem nameFrom_end {steps : Nat} {seen word : NameReading} (hsteps : c.rest.length < steps)
    (h : nameFrom steps seen c = .done word after notes) : StartsNoName after.rest := by
  induction steps generalizing seen c notes with
  | zero => contradiction
  | succ steps ih =>
    have hplain := (Cursor.reaches_skipWhile c isNamePart).length_le
    rw [nameFrom] at h
    dsimp only at h
    split at h
    · next t hrest =>
      obtain ⟨chars, mid, more, _, hescape, hname, -⟩ := Reading.andThen_eq_done h
      obtain ⟨_, hname, -⟩ := Reading.behind_eq_done hname
      have hmid := (reaches_unicodeEscapeAt ((c.skipWhile isNamePart).advance 2)).length_le
      rw [hescape, Reading.after_done] at hmid
      refine ih (Nat.lt_of_le_of_lt hmid ?_) hname
      have hdrop : ((c.skipWhile isNamePart).advance 2).rest = t := by
        rw [Cursor.advance, hrest]
        rfl
      rw [hrest] at hplain
      rw [hdrop]
      simp only [List.length_cons] at hplain
      omega
    · contradiction
    · next hne =>
      cases h
      intro ch hch
      obtain ⟨t, ht⟩ := List.head?_eq_some_iff.1 hch
      refine ⟨?_, ?_⟩
      · have hnot := List.head?_dropWhile_not isNamePart c.rest
        rw [show (c.rest.dropWhile isNamePart).head? = some ch from hch] at hnot
        exact hnot
      · rintro rfl
        exact hne t ht

theorem escaped_nameFrom {steps : Nat} {seen word : NameReading} (hseen : seen.escaped = true)
    (h : nameFrom steps seen c = .done word after notes) : word.escaped = true := by
  induction steps generalizing seen c notes with
  | zero =>
    cases h
    exact hseen
  | succ steps ih =>
    rw [nameFrom] at h
    dsimp only at h
    split at h
    · obtain ⟨chars, mid, more, _, -, hname, -⟩ := Reading.andThen_eq_done h
      obtain ⟨_, hname, -⟩ := Reading.behind_eq_done hname
      exact ih rfl hname
    · contradiction
    · cases h
      exact hseen

theorem textTo_skipWhile (c : Cursor) (p : Char → Bool) :
    c.textTo (c.skipWhile p) = c.rest.takeWhile p := by
  have htake := Text.takeBytes_byteSize_append (c.rest.takeWhile p) (c.rest.dropWhile p)
  rw [List.takeWhile_append_dropWhile] at htake
  rw [Cursor.textTo, Cursor.skipWhile, Nat.add_sub_cancel_left]
  exact htake

theorem rest_eq_of_nameAt {word : NameReading} (h : nameAt c = .done word after notes)
    (he : word.escaped = false) : c.rest = word.name ++ after.rest := by
  rw [nameAt, nameFrom] at h
  dsimp only at h
  split at h
  · obtain ⟨chars, mid, more, _, -, hname, -⟩ := Reading.andThen_eq_done h
    obtain ⟨_, hname, -⟩ := Reading.behind_eq_done hname
    rw [escaped_nameFrom rfl hname] at he
    contradiction
  · contradiction
  · cases h
    rw [List.nil_append, textTo_skipWhile]
    exact List.takeWhile_append_dropWhile.symm

/-- The text of a name is the name, or there is the backslash of an escape in it. -/
theorem text_of_nameAt {word : NameReading} {s : Text} (h : nameAt c = .done word after notes)
    (hs : c.rest = s ++ after.rest) :
    s = word.name ∧ (∀ ch ∈ s, isNamePart ch = true) ∨ '\\' ∈ s := by
  rw [nameAt, nameFrom] at h
  dsimp only at h
  split at h
  · next t hrest =>
    obtain ⟨chars, mid, more, _, hescape, hname, -⟩ := Reading.andThen_eq_done h
    obtain ⟨_, hname, -⟩ := Reading.behind_eq_done hname
    have hmid := reaches_unicodeEscapeAt ((c.skipWhile isNamePart).advance 2)
    have hafter := reaches_nameFrom c.rest.length
      ⟨([] : Text) ++ c.textTo (c.skipWhile isNamePart) ++ chars, true⟩ mid
    rw [hescape] at hmid
    rw [hname] at hafter
    obtain ⟨u, hu, -⟩ := hmid.trans hafter
    have ht : ((c.skipWhile isNamePart).advance 2).rest = t := by
      rw [Cursor.advance, hrest]
      rfl
    have hescaped : c.rest = c.rest.takeWhile isNamePart ++ '\\' :: 'u' :: u ++ after.rest := by
      have hsplit : c.rest = c.rest.takeWhile isNamePart ++ (c.skipWhile isNamePart).rest :=
        List.takeWhile_append_dropWhile.symm
      rw [hrest, ← ht, hu] at hsplit
      simpa using hsplit
    have hs : s = _ := List.append_cancel_right (hs.symm.trans hescaped)
    exact .inr (by simp [hs])
  · contradiction
  · cases h
    left
    have hs : s = c.rest.takeWhile isNamePart := by
      apply List.append_cancel_right (hs.symm.trans _)
      exact List.takeWhile_append_dropWhile.symm
    rw [List.nil_append, textTo_skipWhile]
    exact ⟨hs, fun ch hch => List.all_eq_true.1 List.all_takeWhile ch (hs ▸ hch)⟩

theorem isNamePart_of_nameEscapeNotes {offset : Nat} {isFirst : Bool} {chars : Text}
    (h : nameEscapeNotes offset isFirst chars = []) : ∀ ch ∈ chars, isNamePart ch = true := by
  match chars with
  | [] => exact fun _ hch => absurd hch List.not_mem_nil
  | [ch] =>
    refine List.forall_mem_singleton.2 ?_
    rw [nameEscapeNotes] at h
    by_cases hfits : (if isFirst then isNameStart ch else isNamePart ch) = true
    · split at hfits
      · exact isNamePart_of_isNameStart hfits
      · exact hfits
    · rw [if_neg hfits] at h
      contradiction
  | _ :: _ :: _ => contradiction

theorem isNamePart_of_nameFrom {steps : Nat} {seen word : NameReading}
    (h : nameFrom steps seen c = .done word after [])
    (hseen : ∀ ch ∈ seen.name, isNamePart ch = true) : ∀ ch ∈ word.name, isNamePart ch = true := by
  induction steps generalizing seen c with
  | zero =>
    cases h
    exact hseen
  | succ steps ih =>
    have hplain : ∀ ch ∈ seen.name ++ c.textTo (c.skipWhile isNamePart), isNamePart ch = true := by
      intro ch hch
      rw [textTo_skipWhile] at hch
      rcases List.mem_append.1 hch with hch | hch
      · exact hseen ch hch
      · exact List.all_eq_true.1 List.all_takeWhile ch hch
    rw [nameFrom] at h
    dsimp only at h
    split at h
    · obtain ⟨chars, mid, more, rest, -, hname, hnotes⟩ := Reading.andThen_eq_done h
      obtain rfl := (List.append_eq_nil_iff.1 hnotes.symm).2
      obtain ⟨_, hname, hnotes⟩ := Reading.behind_eq_done hname
      obtain ⟨hfits, rfl⟩ := List.append_eq_nil_iff.1 hnotes.symm
      refine ih hname fun ch hch => ?_
      rcases List.mem_append.1 hch with hch | hch
      · exact hplain ch hch
      · exact isNamePart_of_nameEscapeNotes hfits ch hch
    · contradiction
    · cases h
      exact hplain

/-- A word token is a name that starts with its first character or with an escape. If it is
reserved, there is no escape in it. -/
theorem tokenAt_eq_word {mode : ScanMode} {newline : Bool} {name : Text}
    (h : tokenAt mode newline c = .done (.word name) after notes) :
    ∃ ch word, c.rest.head? = some ch ∧ (isNameStart ch = true ∨ ch = '\\')
      ∧ word.name = name ∧ nameAt c = .done word after notes
      ∧ (word.escaped && mode.reserved word.name) = false := by
  rcases tokenAt_cases h with ⟨q, _, _, hs⟩ | hn | ⟨ch, hch, hstart, hw⟩ | hp
  · have hs := string_stringAt _ _ _ _ _ _ hs
    contradiction
  · contradiction
  · obtain ⟨word, mid, more, _, hname, hdone, rfl⟩ := Reading.andThen_eq_done hw
    split at hdone
    · contradiction
    · next hfree =>
      cases hdone
      rw [List.append_nil]
      exact ⟨ch, word, hch, hstart, rfl, hname, Bool.not_eq_true _ ▸ hfree⟩
  · have hp := punctuator_punctuatorAt _ _ _ _ hp
    contradiction

theorem startsNoName_of_tokenAt {mode : ScanMode} {newline : Bool} {name : Text}
    (h : tokenAt mode newline c = .done (.word name) after notes) : StartsNoName after.rest := by
  obtain ⟨-, word, -, -, -, hname, -⟩ := tokenAt_eq_word h
  exact nameFrom_end (Nat.lt_succ_self _) hname

theorem rest_eq_of_reserved {mode : ScanMode} {newline : Bool} {name : Text}
    (h : tokenAt mode newline c = .done (.word name) after notes) (hr : mode.reserved name = true) :
    c.rest = name ++ after.rest := by
  obtain ⟨-, word, -, -, rfl, hname, hfree⟩ := tokenAt_eq_word h
  rw [hr, Bool.and_true] at hfree
  exact rest_eq_of_nameAt hname hfree

theorem offset_lt_of_tokenAt_word {mode : ScanMode} {newline : Bool} {name : Text}
    (h : tokenAt mode newline c = .done (.word name) after notes) : c.offset < after.offset := by
  obtain ⟨ch, word, hch, hstart, -, hname, -⟩ := tokenAt_eq_word h
  have hend := startsNoName_of_tokenAt h
  have hreach := reaches_nameAt c
  rw [hname] at hreach
  obtain ⟨s, hs, ho⟩ := hreach
  cases s with
  | nil =>
    rw [hs] at hch
    obtain ⟨hpart, hslash⟩ := hend ch hch
    rcases hstart with hstart | hstart
    · rw [isNamePart_of_isNameStart hstart] at hpart
      contradiction
    · contradiction
  | cons d s =>
    have hd := d.utf8Size_pos
    rw [Reading.after_done, Text.byteSize_cons] at ho
    omega

theorem offset_lt_of_tokenAt_string {mode : ScanMode} {newline : Bool} {token : Token}
    (h : tokenAt mode newline c = .done token after notes) (ht : token.isString = true) :
    c.offset < after.offset := by
  obtain ⟨quote, -, hquote, hstring⟩ := tokenAt_eq_string h ht
  obtain ⟨t, hrest⟩ := List.head?_eq_some_iff.1 hquote
  have hreach : (c.advance 1).Reaches (stringAt mode.strict quote c).after :=
    (reaches_stringFrom mode.strict quote _ _ _).andThen fun _ after => .refl after
  rw [hstring] at hreach
  refine Nat.lt_of_lt_of_le ?_ hreach.offset_le
  have hpos := quote.utf8Size_pos
  rw [Cursor.advance, hrest]
  exact Nat.lt_add_of_pos_right hpos

end ScriptVeil.Script
