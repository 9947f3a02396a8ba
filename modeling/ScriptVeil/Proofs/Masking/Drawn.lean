import Mathlib.Data.List.Forall2
import ScriptVeil.Masking.Rename
import ScriptVeil.Proofs.Candidate
import ScriptVeil.Text.WordChar

namespace ScriptVeil

namespace Mask

variable {σ : Type} {source : Source σ} {s s' : σ} {n attempts : Nat} {word : Text}

theorem isWordChar_of_mem_alphabet {c : Char} (h : c ∈ alphabet) : isWordChar c = true := by
  have hall : alphabet.all isWordChar = true := by decide +kernel
  exact List.all_eq_true.1 hall c h

theorem word_spec (h : source.word n s = some (word, s')) :
    word.length = n ∧ ∀ c ∈ word, c ∈ alphabet := by
  induction n generalizing s s' word with
  | zero =>
    obtain ⟨rfl, -⟩ := Prod.mk.inj (Option.some.inj h)
    exact ⟨rfl, nofun⟩
  | succ n ih =>
    obtain ⟨⟨i, s₁⟩, -, h⟩ := Option.bind_eq_some_iff.1 h
    obtain ⟨⟨rest, s₂⟩, hrest, h⟩ := Option.bind_eq_some_iff.1 h
    obtain ⟨rfl, -⟩ := Prod.mk.inj (Option.some.inj h)
    obtain ⟨hlength, hchars⟩ := ih hrest
    exact ⟨congrArg (· + 1) hlength, List.forall_mem_cons.2 ⟨List.get_mem _ _, hchars⟩⟩

theorem mask_spec (h : source.mask n attempts s = some (word, s')) :
    word.length = n ∧ (∀ c ∈ word, c ∈ alphabet) ∧ isReserved word = false := by
  induction attempts generalizing s with
  | zero => contradiction
  | succ attempts ih =>
    obtain ⟨⟨drawn, s₁⟩, hdrawn, h⟩ := Option.bind_eq_some_iff.1 h
    dsimp only at h
    split at h
    · exact ih h
    · next hfree =>
      obtain ⟨rfl, -⟩ := Prod.mk.inj (Option.some.inj h)
      obtain ⟨hlength, hchars⟩ := word_spec hdrawn
      exact ⟨hlength, hchars, Bool.eq_false_iff.2 hfree⟩

end Mask

namespace Masking

/-- Whether a rename is one that can be drawn for a declaration. -/
structure Renames (d : Declaration) (r : Rename) : Prop where
  name_eq : r.name = d.name
  category_eq : r.category = d.category
  length_eq : r.mask.length = r.name.length
  mem_alphabet : ∀ c ∈ r.mask, c ∈ Mask.alphabet
  free : Mask.isReserved r.mask = false

/-- Whether a rename gives one of some names a mask that can take its place in a text. -/
structure Masks (names : List Text) (r : Rename) : Prop where
  name_mem : r.name ∈ names
  length_eq : r.mask.length = r.name.length
  isWordChar : ∀ c ∈ r.mask, isWordChar c = true
  free : Mask.isReserved r.mask = false

variable {σ : Type} {source : Mask.Source σ} {s s' : σ} {declarations : List Declaration}
  {renames : List Rename} {attempts : Nat}

theorem drawRenames_forall₂ (h : drawRenames source attempts declarations s = some (renames, s')) :
    List.Forall₂ Renames declarations renames := by
  induction declarations generalizing s s' renames with
  | nil =>
    obtain ⟨rfl, -⟩ := Prod.mk.inj (Option.some.inj h)
    exact .nil
  | cons d ds ih =>
    obtain ⟨⟨mask, s₁⟩, hmask, h⟩ := Option.bind_eq_some_iff.1 h
    obtain ⟨⟨rest, s₂⟩, hrest, h⟩ := Option.bind_eq_some_iff.1 h
    obtain ⟨rfl, -⟩ := Prod.mk.inj (Option.some.inj h)
    obtain ⟨hlength, hchars, hfree⟩ := Mask.mask_spec hmask
    exact .cons ⟨rfl, rfl, hlength, hchars, hfree⟩ (ih hrest)

theorem exists_of_mem_drawn (h : List.Forall₂ Renames declarations renames) {r : Rename}
    (hr : r ∈ renames) : ∃ d ∈ declarations, Renames d r := by
  induction h with
  | nil => contradiction
  | cons hd h ih =>
    rcases List.mem_cons.1 hr with rfl | hr
    · exact ⟨_, List.mem_cons_self, hd⟩
    · obtain ⟨d, hmem, hd⟩ := ih hr
      exact ⟨d, List.mem_cons_of_mem _ hmem, hd⟩

theorem plan_spec (h : plan source declarations s attempts = some (renames, s')) :
    ∀ r ∈ renames, Masks (declarations.map Declaration.name) r := by
  obtain ⟨⟨drawn, s₁⟩, hdrawn, h⟩ := Option.bind_eq_some_iff.1 h
  obtain ⟨rfl, -⟩ := Prod.mk.inj (Option.some.inj h)
  intro r hr
  obtain ⟨d, hd, hname, -, hlength, hchars, hfree⟩ :=
    exists_of_mem_drawn (drawRenames_forall₂ hdrawn) (List.mem_mergeSort.1 hr)
  exact ⟨hname ▸ List.mem_map_of_mem (firstsBy_subset hd), hlength,
    fun c hc => Mask.isWordChar_of_mem_alphabet (hchars c hc), hfree⟩

end Masking

end ScriptVeil
