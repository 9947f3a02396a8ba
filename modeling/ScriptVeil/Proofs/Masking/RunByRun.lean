import Mathlib.Data.List.DropRight
import ScriptVeil.Proofs.Masking.WholeWord

namespace ScriptVeil

def Text.trimEnd (t : Text) : Text :=
  t.rdropWhile isBlank

namespace Masking

open Script

/-- Behind a full stop that is not the last of the three of a spread. -/
def BehindDot (before : Text) : Prop :=
  ['.'] <:+ before.trimEnd ∧ ¬ ['.', '.', '.'] <:+ before.trimEnd

/-- Whether a brace behind a text opens a block: at the start, behind certain marks, and behind
certain words that stand there as a whole. -/
def BlockBrace (before : Text) : Prop :=
  before.trimEnd = []
    ∨ (∃ mark ∈ [[')'], [';'], ['{'], ['}'], ['=', '>']], mark <:+ before.trimEnd)
    ∨ ∃ word ∈ blockOpeners, (pieces before.trimEnd).getLast? = some word

def BeforeColon (before after : Text) : Prop :=
  [':'] <+: after.trimStart ∧ ([','] <:+ before.trimEnd
    ∨ ['{'] <:+ before.trimEnd ∧ ¬ BlockBrace before.trimEnd.dropLast)

def KeptPlace (before after : Text) : Prop :=
  BehindDot before ∨ BeforeColon before after

instance (before : Text) : Decidable (BehindDot before) :=
  inferInstanceAs (Decidable (_ ∧ _))

instance (before : Text) : Decidable (BlockBrace before) :=
  inferInstanceAs (Decidable (_ ∨ _))

instance (before after : Text) : Decidable (BeforeColon before after) :=
  inferInstanceAs (Decidable (_ ∧ _))

instance (before after : Text) : Decidable (KeptPlace before after) :=
  inferInstanceAs (Decidable (_ ∨ _))

def replacedPieces (name mask : Text) (keepKeys : Bool) (t : Text) : List Text :=
  (pieces t).mapIdx fun i p =>
    if IsWord p ∧ p = name ∧ ¬ (keepKeys = true
      ∧ KeptPlace ((pieces t).take i).flatten ((pieces t).drop (i + 1)).flatten)
    then mask else p

variable {t p name : Text}

theorem trimStart_reverse (t : Text) : Text.trimStart t.reverse = t.trimEnd.reverse := by
  rw [Text.trimEnd, List.rdropWhile, List.reverse_reverse]
  rfl

theorem isPrefix_trimStart_reverse {mark : Text} :
    mark <+: Text.trimStart t.reverse ↔ mark.reverse <:+ t.trimEnd := by
  rw [trimStart_reverse, ← List.reverse_prefix, List.reverse_reverse]

theorem getLast?_pieces_eq_some_iff (hp : IsWord p) :
    (pieces t).getLast? = some p ↔ t.rtakeWhile isWordChar = p := by
  constructor
  · intro h
    obtain ⟨ps, hps⟩ := List.getLast?_eq_some_iff.1 h
    have ht : t = ps.flatten ++ p := by
      rw [← flatten_pieces t, hps, List.flatten_append, List.flatten_singleton]
    have hstart : StartsNoWord ps.flatten.reverse := (hps ▸ alternating_pieces t).before_word hp
    rw [List.rtakeWhile, ht, List.reverse_append,
      takeWhile_append_word (isWord_reverse.2 hp).2 hstart, List.reverse_reverse]
  · rintro rfl
    have hstart : StartsNoWord (t.rdropWhile isWordChar).reverse := by
      intro c hc
      have hnot := List.head?_dropWhile_not isWordChar t.reverse
      rw [List.rdropWhile, List.reverse_reverse] at hc
      rwa [Option.mem_def.1 hc] at hnot
    have hpieces := pieces_append hp hstart startsNoWord_nil
    rw [List.append_nil, List.rdropWhile_append_rtakeWhile] at hpieces
    rw [hpieces]
    exact List.getLast?_concat

theorem isMemberName_reverse_iff : isMemberName t.reverse = true ↔ BehindDot t := by
  rw [isMemberName_iff, isPrefix_trimStart_reverse, isPrefix_trimStart_reverse]
  rfl

theorem opensBlock_reverse_iff : opensBlock t.reverse = true ↔ BlockBrace t := by
  have hmarks : (∃ mark ∈ [[')'], [';'], ['{'], ['}'], ['=', '>']], mark <:+ t.trimEnd)
      ↔ ['=', '>'] <:+ t.trimEnd ∨ ∃ c ∈ [')', ';', '{', '}'], [c] <:+ t.trimEnd := by
    simp only [List.mem_cons, List.not_mem_nil, or_false, exists_eq_or_imp, exists_eq_left]
    tauto
  have hwords : ∀ w ∈ blockOpeners, IsWord w := by decide
  have hlast : ((Text.trimStart t.reverse).takeWhile isWordChar).reverse ∈ blockOpeners
      ↔ ∃ word ∈ blockOpeners, (pieces t.trimEnd).getLast? = some word := by
    rw [trimStart_reverse]
    change t.trimEnd.rtakeWhile isWordChar ∈ blockOpeners ↔ _
    constructor
    · exact fun h => ⟨_, h, (getLast?_pieces_eq_some_iff (hwords _ h)).2 rfl⟩
    · rintro ⟨w, hw, h⟩
      rw [getLast?_pieces_eq_some_iff (hwords w hw)] at h
      exact h ▸ hw
  rw [opensBlock_iff, hlast, BlockBrace, hmarks, or_assoc, isPrefix_trimStart_reverse,
    trimStart_reverse, List.reverse_eq_nil_iff]
  simp only [← List.reverse_prefix, List.reverse_singleton]
  rfl

theorem isObjectKey_reverse_iff {after : Text} :
    isObjectKey t.reverse after = true ↔ BeforeColon t after := by
  rw [isObjectKey_iff, isPrefix_trimStart_reverse, isPrefix_trimStart_reverse, trimStart_reverse,
    List.tail_reverse, ← Bool.not_eq_true, opensBlock_reverse_iff]
  rfl

theorem isKeyPlace_reverse_iff {after : Text} :
    isKeyPlace t.reverse after = true ↔ KeptPlace t after := by
  rw [isKeyPlace, Bool.or_eq_true, isMemberName_reverse_iff, isObjectKey_reverse_iff]
  rfl

theorem mapWordsFrom_replacement (name mask t : Text) (keepKeys : Bool) :
    mapWordsFrom (replacement name mask keepKeys) [] (pieces t)
      = replacedPieces name mask keepKeys t := by
  rw [mapWordsFrom_eq_mapIdx, replacedPieces]
  congr 1
  funext i p
  by_cases hp : IsWord p
  · simp only [hp, if_true, true_and, replacement, textBefore, textAfter, List.append_nil,
      Bool.and_eq_true, Bool.not_eq_true', ← Bool.not_eq_true, decide_eq_true_eq,
      isKeyPlace_reverse_iff]
  · rw [if_neg hp, if_neg fun h => hp h.1]

/-- Replacing a word cuts the text into its maximal runs of word characters and the gaps between
them, and replaces just the runs that are the name, but none in a place where it is kept. Nothing
is replaced for a name that is no such run. -/
theorem replaceWord_eq_pieces (name mask t : Text) (keepKeys : Bool) :
    (Alternating (pieces t) ∧ (pieces t).flatten = t)
    ∧ replaceWord name mask keepKeys t = (replacedPieces name mask keepKeys t).flatten
    ∧ (¬ IsWord name → replaceWord name mask keepKeys t = t) := by
  refine ⟨⟨alternating_pieces t, flatten_pieces t⟩, ?_, fun hname => ?_⟩
  · rw [replaceWord_eq_flatten, mapWordsFrom_replacement]
  · exact replaceWord_of_not_isWord hname mask t keepKeys

end Masking

end ScriptVeil
