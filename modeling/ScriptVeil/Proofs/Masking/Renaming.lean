import Mathlib.Data.List.Induction
import ScriptVeil.Masking.Textual
import ScriptVeil.Proofs.Masking.KeyPlace

namespace ScriptVeil.Masking

def renameWord (inKeyPlace : Bool) (word : Text) (r : Rename) : Text :=
  if word = r.name ∧ ¬ (r.category = .variable ∧ inKeyPlace = true) then r.mask else word

/-- What a list of renames makes of a piece of a text, one after the other. -/
def renamedPiece (renames : List Rename) (ps : List Text) (i : Nat) (p : Text) : Text :=
  if IsWord p then renames.foldl (renameWord (isKeyPlace (textBefore ps i) (textAfter ps i))) p
  else p

/-- A rename to a word, where neither the name nor the mask opens a block. -/
structure IsPlain (r : Rename) : Prop where
  mask_isWord : IsWord r.mask
  name_notMem : r.name ∉ blockOpeners
  mask_notMem : r.mask ∉ blockOpeners

instance (r : Rename) : Decidable (IsPlain r) :=
  decidable_of_iff (IsWord r.mask ∧ r.name ∉ blockOpeners ∧ r.mask ∉ blockOpeners)
    ⟨fun h => ⟨h.1, h.2.1, h.2.2⟩, fun h => ⟨h.1, h.2, h.3⟩⟩

variable {r : Rename} {renames : List Rename} {ps : List Text} {t word : Text} {inKeyPlace : Bool}

theorem pieces_applyRename (h : IsWord r.mask) (t : Text) :
    pieces (applyRename t r) = (pieces t).mapIdx (renamedPiece [r] (pieces t)) := by
  rw [applyRename, pieces_replaceWord h, mapWordsFrom_eq_mapIdx]
  congr 1
  funext i p
  rw [renamedPiece, List.append_nil]
  congr 1
  simp only [replacement, List.foldl_cons, List.foldl_nil, renameWord, Bool.and_eq_true,
    Bool.not_eq_true', Bool.and_eq_false_iff, decide_eq_true_eq, decide_eq_false_iff_not,
      not_and_or, Bool.not_eq_true]

theorem Exchangeable.trans {p q s : Text} (h : Exchangeable p q) (h' : Exchangeable q s) :
    Exchangeable p s := by
  rcases h with rfl | ⟨hp, hq, hpo, hqo⟩
  · exact h'
  · rcases h' with rfl | ⟨-, hs, -, hso⟩
    · exact .inr ⟨hp, hq, hpo, hqo⟩
    · exact .inr ⟨hp, hs, hpo, hso⟩

theorem IsPlain.exchangeable (h : IsPlain r) (hw : IsWord word) :
    Exchangeable word (renameWord inKeyPlace word r) := by
  rw [renameWord]
  split
  · next hn => exact .inr ⟨hw, h.mask_isWord, hn.1 ▸ h.name_notMem, h.mask_notMem⟩
  · exact .inl rfl

theorem exchangeable_foldl (h : ∀ r ∈ renames, IsPlain r) (hw : IsWord word) :
    Exchangeable word (renames.foldl (renameWord inKeyPlace) word) := by
  induction renames generalizing word with
  | nil => exact .inl rfl
  | cons r renames ih =>
    have hr : Exchangeable word (renameWord inKeyPlace word r) :=
      (h r List.mem_cons_self).exchangeable hw
    have hw' := hr.matching.isWord_iff.1 hw
    exact hr.trans (ih (fun s hs => h s (List.mem_cons_of_mem _ hs)) hw')

theorem exchangeable_renamedPiece (h : ∀ r ∈ renames, IsPlain r) (i : Nat) (p : Text) :
    Exchangeable p (renamedPiece renames ps i p) := by
  rw [renamedPiece]
  split
  · next hp => exact exchangeable_foldl h hp
  · exact .inl rfl

theorem forall₂_mapIdx {R : Text → Text → Prop} {f : Nat → Text → Text} (h : ∀ i p, R p (f i p)) :
    List.Forall₂ R ps (ps.mapIdx f) := by
  induction ps generalizing f with
  | nil => exact .nil
  | cons p ps ih =>
    rw [List.mapIdx_cons]
    exact .cons (h 0 p) (ih fun i => h (i + 1))

theorem renamedPiece_append {qs : List Text} (h : ∀ r ∈ renames, IsPlain r) (hps : Alternating ps)
    (hex : List.Forall₂ Exchangeable ps qs) (r : Rename) (i : Nat) (p : Text) :
    renamedPiece [r] qs i (renamedPiece renames ps i p) = renamedPiece (renames ++ [r]) ps i p := by
  have hw : IsWord p ↔ IsWord (renamedPiece renames ps i p) :=
    (exchangeable_renamedPiece h i p).matching.isWord_iff
  rw [renamedPiece, ← isKeyPlace_of_exchangeable hps hex i]
  by_cases hp : IsWord p
  · rw [if_pos (hw.1 hp), renamedPiece, renamedPiece, if_pos hp, if_pos hp, List.foldl_append]
  · rw [if_neg (mt hw.2 hp), renamedPiece, renamedPiece, if_neg hp, if_neg hp]

/-- The renames taken together, with every place looked at in the text as it was before them: gaps
stay, and a word becomes what the renames make of it one after the other. -/
theorem pieces_applyRenames (h : ∀ r ∈ renames, IsPlain r) (t : Text) :
    pieces (applyRenames renames t) = (pieces t).mapIdx (renamedPiece renames (pieces t)) := by
  induction renames using List.reverseRecOn with
  | nil =>
    have hid : renamedPiece [] (pieces t) = fun _ p => p := by
      funext i p
      rw [renamedPiece, List.foldl_nil, ite_self]
    rw [hid, eq_comm, List.mapIdx_eq_iff]
    exact fun i => Option.map_id'.symm
  | append_singleton renames r ih =>
    have hr : IsPlain r := h r (List.mem_append_right _ (List.mem_singleton_self r))
    have hrs : ∀ s ∈ renames, IsPlain s := fun s hs => h s (List.mem_append_left _ hs)
    have hu := ih hrs
    have hex : List.Forall₂ Exchangeable (pieces t) (pieces (applyRenames renames t)) := by
      rw [hu]
      exact forall₂_mapIdx fun i p => exchangeable_renamedPiece hrs i p
    calc pieces (applyRenames (renames ++ [r]) t)
        = pieces (applyRename (applyRenames renames t) r) := by
          rw [applyRenames, List.foldl_append]
          rfl
      _ = ((pieces t).mapIdx (renamedPiece renames (pieces t))).mapIdx
            (renamedPiece [r] (pieces (applyRenames renames t))) := by
          rw [pieces_applyRename hr.mask_isWord, ← hu]
      _ = (pieces t).mapIdx (renamedPiece (renames ++ [r]) (pieces t)) := by
          rw [List.mapIdx_mapIdx]
          congr 1
          funext i p
          exact renamedPiece_append hrs (alternating_pieces t) hex r i p

/-- A mask of one rename is the name of the next one, which spares member names and keys. -/
theorem pieces_applyRenames_chain :
    let renames : List Rename := [⟨"foo".toList, "bar".toList, .function⟩,
      ⟨"bar".toList, "qux".toList, .variable⟩]
    (∀ r ∈ renames, IsPlain r) ∧
      pieces (applyRenames renames "foo.bar = \x7bbar: foo, foo: 1\x7d".toList)
        = ["qux", ".", "bar", " = \x7b", "bar", ": ", "qux", ", ", "bar", ": ", "1", "\x7d"].map
            String.toList := by
  intro renames
  have h : ∀ r ∈ renames, IsPlain r := by decide
  exact ⟨h, (pieces_applyRenames h _).trans (by decide)⟩

end ScriptVeil.Masking
