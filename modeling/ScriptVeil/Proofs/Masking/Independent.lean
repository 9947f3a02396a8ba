import ScriptVeil.Proofs.Candidate
import ScriptVeil.Proofs.Masking.Renaming

namespace ScriptVeil.Masking

/-- Renames of different names, none to the name of another one. -/
structure Independent (renames : List Rename) : Prop where
  isPlain : ∀ r ∈ renames, IsPlain r
  names : renames.Pairwise fun r s => r.name ≠ s.name
  masks : renames.Pairwise fun r s => r.mask ≠ s.name ∧ s.mask ≠ r.name

instance (renames : List Rename) : Decidable (Independent renames) :=
  decidable_of_iff ((∀ r ∈ renames, IsPlain r)
      ∧ (renames.Pairwise fun r s => r.name ≠ s.name)
      ∧ renames.Pairwise fun r s => r.mask ≠ s.name ∧ s.mask ≠ r.name)
    ⟨fun h => ⟨h.1, h.2.1, h.2.2⟩, fun h => ⟨h.1, h.2, h.3⟩⟩

def renameOf (renames : List Rename) (word : Text) : Option Rename :=
  renames.find? fun r => r.name = word

def maskedWord (renames : List Rename) (inKeyPlace : Bool) (word : Text) : Text :=
  match renameOf renames word with
  | some r => if r.category = .variable ∧ inKeyPlace = true then word else r.mask
  | none => word

/-- A single pass over a text with all renames. -/
def renamePass (renames : List Rename) (t : Text) : Text :=
  (mapWordsFrom (fun back word after => maskedWord renames (isKeyPlace back after) word) []
    (pieces t)).flatten

variable {r : Rename} {renames renames' : List Rename} {t word : Text} {inKeyPlace : Bool}

namespace Independent

theorem tail (h : Independent (r :: renames)) : Independent renames :=
  ⟨fun s hs => h.isPlain s (List.mem_cons_of_mem r hs), h.names.tail, h.masks.tail⟩

theorem perm (h : Independent renames) (hp : renames.Perm renames') : Independent renames' := by
  refine ⟨fun r hr => h.isPlain r (hp.mem_iff.2 hr), ?_, ?_⟩
  · exact hp.pairwise h.names fun hne => hne.symm
  · exact hp.pairwise h.masks fun hne => hne.symm

end Independent

theorem renameOf_eq_none (h : ∀ s ∈ renames, word ≠ s.name) : renameOf renames word = none := by
  apply List.find?_eq_none.2
  intro s hs he
  exact h s hs (of_decide_eq_true he).symm

theorem renameOf_eq_some_iff (h : renames.Pairwise fun r s => r.name ≠ s.name) :
    renameOf renames word = some r ↔ r ∈ renames ∧ r.name = word :=
  find?_key_eq_some_iff h

theorem renameOf_perm (h : renames.Pairwise fun r s => r.name ≠ s.name)
    (hp : renames.Perm renames') : renameOf renames' word = renameOf renames word := by
  have h' : renames'.Pairwise fun r s => r.name ≠ s.name := hp.pairwise h fun hne => hne.symm
  apply Option.ext
  intro r
  rw [renameOf_eq_some_iff h, renameOf_eq_some_iff h', hp.mem_iff]

theorem maskedWord_of_none (h : renameOf renames word = none) :
    maskedWord renames inKeyPlace word = word := by
  rw [maskedWord, h]

/-- A word to which the first rename has been applied becomes what looking it up once would make of
it. -/
theorem maskedWord_renameWord (h : Independent (r :: renames)) :
    maskedWord renames inKeyPlace (renameWord inKeyPlace word r)
      = maskedWord (r :: renames) inKeyPlace word := by
  by_cases hw : word = r.name
  · subst hw
    have hfirst : renameOf (r :: renames) r.name = some r :=
      List.find?_cons_of_pos (decide_eq_true rfl)
    -- What the first rename leaves behind, the name or its mask, is no name of the others.
    have hname : renameOf renames r.name = none :=
      renameOf_eq_none fun s hs => List.rel_of_pairwise_cons h.names hs
    have hmask : renameOf renames r.mask = none :=
      renameOf_eq_none fun s hs => (List.rel_of_pairwise_cons h.masks hs).1
    by_cases hkept : r.category = .variable ∧ inKeyPlace = true
    · rw [renameWord, if_neg fun hr => hr.2 hkept, maskedWord_of_none hname, maskedWord, hfirst]
      exact (if_pos hkept).symm
    · rw [renameWord, if_pos ⟨rfl, hkept⟩, maskedWord_of_none hmask, maskedWord, hfirst]
      exact (if_neg hkept).symm
  · have hrest : renameOf (r :: renames) word = renameOf renames word :=
      List.find?_cons_of_neg (by simpa using Ne.symm hw)
    rw [renameWord, if_neg fun hr => hw hr.1, maskedWord, maskedWord, hrest]

theorem renamePass_eq_mapIdx (renames : List Rename) (t : Text) :
    renamePass renames t = ((pieces t).mapIdx fun i p =>
      if IsWord p then
        maskedWord renames (isKeyPlace (textBefore (pieces t) i) (textAfter (pieces t) i)) p
      else p).flatten := by
  simp only [renamePass, mapWordsFrom_eq_mapIdx, List.append_nil]

theorem renamePass_nil (t : Text) : renamePass [] t = t := by
  have hid : (fun (_ : Nat) (p : Text) => if IsWord p then p else p) = fun _ p => p := by
    funext i p
    exact ite_self p
  have hw (k : Bool) (p : Text) : maskedWord [] k p = p := rfl
  rw [renamePass_eq_mapIdx]
  simp only [hw, hid]
  rw [List.mapIdx_eq_iff.2 fun i => Option.map_id'.symm, flatten_pieces]

theorem renamePass_applyRename (h : Independent (r :: renames)) (t : Text) :
    renamePass renames (applyRename t r) = renamePass (r :: renames) t := by
  have hr : IsPlain r := h.isPlain r List.mem_cons_self
  have hone : ∀ s ∈ [r], IsPlain s := List.forall_mem_singleton.2 hr
  have hp := pieces_applyRename hr.mask_isWord t
  -- Words have become words, so every place is what it was before the first rename.
  have hex : List.Forall₂ Exchangeable (pieces t) (pieces (applyRename t r)) := by
    rw [hp]
    exact forall₂_mapIdx fun i p => exchangeable_renamedPiece hone i p
  rw [renamePass_eq_mapIdx, renamePass_eq_mapIdx]
  simp only [← isKeyPlace_of_exchangeable (alternating_pieces t) hex]
  rw [hp, List.mapIdx_mapIdx]
  congr 2
  funext i p
  have hw : IsWord p ↔ IsWord (renamedPiece [r] (pieces t) i p) :=
    (exchangeable_renamedPiece hone i p).matching.isWord_iff
  by_cases hword : IsWord p
  · rw [Function.comp_apply, if_pos hword, if_pos (hw.1 hword), renamedPiece, if_pos hword]
    exact maskedWord_renameWord h
  · rw [Function.comp_apply, if_neg hword, if_neg (mt hw.2 hword), renamedPiece, if_neg hword]

theorem applyRenames_eq_renamePass (h : Independent renames) (t : Text) :
    applyRenames renames t = renamePass renames t := by
  induction renames generalizing t with
  | nil => exact (renamePass_nil t).symm
  | cons r renames ih =>
    calc applyRenames (r :: renames) t
        = applyRenames renames (applyRename t r) := rfl
      _ = renamePass renames (applyRename t r) := ih h.tail (applyRename t r)
      _ = renamePass (r :: renames) t := renamePass_applyRename h t

theorem renamePass_perm (h : Independent renames) (hp : renames.Perm renames') (t : Text) :
    renamePass renames' t = renamePass renames t := by
  have hw (k : Bool) (p : Text) : maskedWord renames' k p = maskedWord renames k p := by
    rw [maskedWord, maskedWord, renameOf_perm h.names hp]
  simp only [renamePass, hw]

/-- The order of independent renames does not matter, and they take effect all at once, before the
literals are encoded. -/
theorem textual_perm (h : Independent renames) (t : Text) (literals : List Quotation) :
    (∀ renames', renames.Perm renames' →
      textual t renames' literals = textual t renames literals)
      ∧ textual t renames literals = applyLiterals literals (renamePass renames t)
      ∧ applyRenames renames t = renamePass renames t := by
  have hpass := applyRenames_eq_renamePass h t
  refine ⟨fun renames' hp => ?_, by rw [textual, hpass], hpass⟩
  rw [textual, textual, hpass, applyRenames_eq_renamePass (h.perm hp) t, renamePass_perm h hp]

/-- A mask may be the name that it stands for. The variable keeps its name behind the dot and in
front of the colon, the function does not. -/
theorem textual_perm_keys :
    let r : Rename := ⟨"f".toList, "gg".toList, .function⟩
    let s : Rename := ⟨"x".toList, "yy".toList, .variable⟩
    let u : Rename := ⟨"v".toList, "v".toList, .variable⟩
    let t : Text := "f.x = \x7bx: v, f: x, y: 'k'\x7d".toList
    let literals : List Quotation := [⟨"'k'".toList, [107], ⟨23, 26⟩⟩]
    Independent [r, s, u] ∧ [r, s, u].Perm [u, s, r]
      ∧ textual t [u, s, r] literals = textual t [r, s, u] literals
      ∧ textual t [r, s, u] literals = applyLiterals literals (renamePass [r, s, u] t)
      ∧ renamePass [r, s, u] t = "gg.x = \x7bx: v, gg: yy, y: 'k'\x7d".toList := by
  intro r s u t literals
  have h : Independent [r, s, u] := by decide
  have hp : [r, s, u].Perm [u, s, r] := by decide
  obtain ⟨hperm, hpass, -⟩ := textual_perm h t literals
  exact ⟨h, hp, hperm _ hp, hpass, by decide⟩

end ScriptVeil.Masking
