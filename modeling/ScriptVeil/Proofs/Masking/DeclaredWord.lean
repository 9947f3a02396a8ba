import ScriptVeil.Proofs.Masking.WholeWord
import ScriptVeil.Proofs.Script.Declared
import ScriptVeil.Proofs.Script.NameChar

namespace ScriptVeil.Masking

open Script

def StandsWhole (name t : Text) (place : Span) : Prop :=
  IsWord name ∧ ∃ a b, t = a ++ (name ++ b)
    ∧ place = ⟨a.byteSize, a.byteSize + name.byteSize⟩ ∧ StartsNoWord a.reverse ∧ StartsNoWord b

variable {t name : Text} {v w : Word} {r : Rename} {place : Span} {e : Edit}

theorem words_eq_or_apart (hv : v ∈ words t) (hw : w ∈ words t) :
    v = w ∨ v.span.Apart w.span := by
  have h : (words t).Pairwise fun v w => v.span.Before w.span :=
    wordsFrom_pairwise (flatten_pieces t).symm
  exact List.Pairwise.forall_of_forall_of_flip (R := fun v w : Word => v = w ∨ v.span.Apart w.span)
    (fun _ _ => .inl rfl) (h.imp fun h => .inr (.inl h)) (h.imp fun h => .inr (.inr h)) hv hw

namespace StandsWhole

theorem exists_word (h : StandsWhole name t place) :
    ∃ w ∈ words t, w.text = name ∧ w.span = place := by
  obtain ⟨hword, a, b, ht, rfl, ha, hb⟩ := h
  refine ⟨wordBetween a.reverse name b, mem_words_iff.2 ⟨a, _, b, ht, hword, ha, hb, rfl⟩, rfl, ?_⟩
  rw [wordBetween, Text.byteSize_reverse]

theorem eq_or_apart (h : StandsWhole name t place) (he : e ∈ maskEdits r t) :
    r.name = name ∧ e.span = place ∨ e.span.Apart place := by
  obtain ⟨w, hw, rfl, rfl⟩ := h.exists_word
  obtain ⟨hr, a, b, ht, ha, hb, -, rfl⟩ := mem_maskEdits_iff.1 he
  obtain ⟨v, hv, hname, hspan⟩ := exists_word ⟨hr, a, b, ht, rfl, ha, hb⟩
  dsimp only
  rw [← hspan, ← hname]
  exact (words_eq_or_apart hv hw).imp_left fun h => ⟨congrArg Word.text h, congrArg Word.span h⟩

end StandsWhole

theorem mem_maskEdits_function {token : Text} :
    ⟨place, token⟩ ∈ maskEdits ⟨name, token, .function⟩ t ↔ StandsWhole name t place := by
  rw [mem_maskEdits_iff]
  refine and_congr_right fun _ => exists_congr fun a => exists_congr fun b => ?_
  simp only [Edit.mk.injEq, reduceCtorEq, false_and, not_false_eq_true, true_and, and_true]
  tauto

theorem replaceWord_eq_weave (name token t : Text) :
    replaceWord name token false t = weave t 0 (maskEdits ⟨name, token, .function⟩ t) := by
  rw [← textual_singleton, textual_nil, applyRenames, List.foldl_cons, List.foldl_nil, applyRename]
  rfl

/-- A declared name that is written as it is stands where a word starts. It is a whole word if all
its characters are word characters and the word ends with it. -/
theorem standsWhole_iff {id : Ident} {notes : List Diagnostic} (h : id.Placed t notes)
    (hs : t.slice id.span = id.name) :
    StandsWhole id.name t id.span ↔ '\\' ∉ id.name
      ∧ (∀ ch ∈ id.name, wordBreaks.has ch = false) ∧ EndsWord t id.span.stop := by
  have hrest {a b : Text} :
      (a ++ (id.name ++ b)).dropBytes (a.byteSize + id.name.byteSize) = b := by
    rw [← List.append_assoc]
    exact Text.dropBytes_append (Text.byteSize_append _ _) b
  constructor
  · rintro ⟨hword, a, b, ht, hspan, -, hb⟩
    refine ⟨fun hslash => ?_, fun ch hch => ?_, ?_⟩
    · have hch := hword.2 _ hslash
      contradiction
    · rw [← Bool.not_eq_true]
      intro hbreak
      have hch := hword.2 ch hch
      rw [isWordChar_eq_false_of_wordBreak hbreak] at hch
      contradiction
    · rw [EndsWord, hspan, ht, hrest]
      exact hb
  · rintro ⟨hslash, hbreaks, hend⟩
    obtain ⟨hne, hparts, a, b, ht, hspan, ha⟩ := h.exists_append hs hslash
    refine ⟨⟨hne, fun ch hch => ?_⟩, a, b, ht, hspan, ha, ?_⟩
    · rw [isWordChar_eq_not_wordBreaks (hparts ch hch), hbreaks ch hch]
      rfl
    · rw [EndsWord, hspan, ht, hrest] at hend
      exact hend

variable {input : Text} {d : Document} {x : Declaration}

/-- Declared names that are written as they are, as words of the text. Such a name is whole just if
it has no characters but those of words and its word ends with it; in a script that is read without
a mistake, the characters alone decide. Replacing the name replaces the declaration just if it is
whole, and then no rename edits a part of it. -/
theorem declaration_masked_iff (hd : (Document.read input).document = .ok d)
    (hmark : d.source.head? ≠ some byteOrderMark) (hx : x ∈ d.candidates.declarations)
    (hs : d.source.slice x.span = x.name) :
    let whole := StandsWhole x.name d.source x.span
    (whole ↔ '\\' ∉ x.name ∧ (∀ ch ∈ x.name, wordBreaks.has ch = false)
        ∧ EndsWord d.source x.span.stop)
      ∧ ((Document.read input).mistakes = [] →
        (whole ↔ ∀ ch ∈ x.name, wordBreaks.has ch = false))
      ∧ (∀ token, replaceWord x.name token false d.source
          = weave d.source 0 (maskEdits ⟨x.name, token, .function⟩ d.source)
        ∧ (⟨x.span, token⟩ ∈ maskEdits ⟨x.name, token, .function⟩ d.source ↔ whole))
      ∧ (whole → ∀ r, ∀ e ∈ maskEdits r d.source,
        r.name = x.name ∧ e.span = x.span ∨ e.span.Apart x.span) := by
  intro whole
  obtain ⟨notes, hnotes, hdeclared⟩ := Document.exists_declared hd hmark
  obtain ⟨id, hname, hspan, hid⟩ := hdeclared x hx
  rw [← hname, ← hspan] at hs
  have hwhole := standsWhole_iff hid.placed hs
  rw [hname, hspan] at hwhole
  refine ⟨hwhole, fun hm => ?_, fun token => ⟨replaceWord_eq_weave _ _ _, mem_maskEdits_function⟩,
    fun h r e he => h.eq_or_apart he⟩
  obtain rfl := hnotes hm
  have hslash := hid.placed.backslash_notMem
  have hend := hid.ends_word rfl
  rw [hname] at hslash
  rw [hspan] at hend
  exact hwhole.trans ((and_iff_right hslash).trans (and_iff_left hend))

theorem declaration_masked_iff_generator :
    let input := "function*größe()\x7b\x7dvar $x=größe".toList
    let x : Declaration := ⟨"größe".toList, .function, ⟨9, 16⟩⟩
    ∃ d, (Document.read input).document = .ok d ∧ (Document.read input).mistakes = []
      ∧ d.source.head? ≠ some byteOrderMark ∧ x ∈ d.candidates.declarations
      ∧ d.source.slice x.span = x.name
      ∧ StandsWhole x.name d.source x.span
      ∧ replaceWord x.name "XXXXX".toList false d.source
        = "function*XXXXX()\x7b\x7dvar $x=XXXXX".toList := by
  intro input x
  have hread : (Document.read input).document.toOption.map (fun d =>
      (d.source, d.candidates.functions)) = some (input, [x]) := by
    decide +kernel
  have hm : (Document.read input).mistakes = [] := by decide +kernel
  obtain ⟨d, hd, h⟩ := exists_of_toOption_map hread
  obtain ⟨hs, hf⟩ : d.source = input ∧ d.candidates.functions = [x] := by
    simpa only [Prod.mk.injEq] using h
  have hmark : d.source.head? ≠ some byteOrderMark := by
    rw [hs]
    decide
  have hx : x ∈ d.candidates.declarations := by
    rw [Candidates.declarations, hf]
    exact List.mem_cons_self
  have hslice : d.source.slice x.span = x.name := by
    rw [hs]
    decide +kernel
  have hbreaks : x.name.all (fun ch => !wordBreaks.has ch) = true := by decide +kernel
  obtain ⟨-, hwhole, hreplace, -⟩ := declaration_masked_iff hd hmark hx hslice
  refine ⟨d, hd, hm, hmark, hx, hslice, (hwhole hm).2 fun ch hch => ?_, ?_⟩
  · simpa using List.all_eq_true.1 hbreaks ch hch
  rw [(hreplace _).1, hs]
  decide +kernel

/-- A middle dot cuts a name into two words. The name is not replaced, and a rename of its first
word puts a mask into it. -/
theorem declaration_masked_dot :
    let input := "function a·b()\x7b\x7d".toList
    let x : Declaration := ⟨"a·b".toList, .function, ⟨9, 13⟩⟩
    ∃ d, (Document.read input).document = .ok d ∧ (Document.read input).mistakes = []
      ∧ d.source = input ∧ d.candidates.functions = [x] ∧ d.source.slice x.span = x.name
      ∧ ¬ StandsWhole x.name d.source x.span
      ∧ replaceWord x.name "XXX".toList false d.source = d.source
      ∧ maskEdits ⟨['a'], ['X'], .function⟩ d.source = [⟨⟨9, 10⟩, ['X']⟩] := by
  intro input x
  have hread : (Document.read input).document.toOption.map (fun d =>
      (d.source, d.candidates.functions)) = some (input, [x]) := by
    decide +kernel
  obtain ⟨d, hd, h⟩ := exists_of_toOption_map hread
  obtain ⟨hs, hf⟩ : d.source = input ∧ d.candidates.functions = [x] := by
    simpa only [Prod.mk.injEq] using h
  refine ⟨d, hd, by decide +kernel, hs, hf, ?_⟩
  rw [hs]
  have hword : ¬ IsWord x.name := by decide +kernel
  exact ⟨by decide +kernel, fun h => hword h.1, by decide +kernel, by decide +kernel⟩

end ScriptVeil.Masking
