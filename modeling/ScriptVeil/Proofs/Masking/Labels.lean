import ScriptVeil.Proofs.Masking.WholeWord
import ScriptVeil.Proofs.Script.Label

namespace ScriptVeil.Masking

open Script

variable {t back after s : Text} {c : Cursor} {ws : List Written} {w : Written}

theorem isKeyPlace_eq_false (h : ∀ ch ∈ (Text.trimStart back).head?, ch ∉ ['.', ',', '{']) :
    isKeyPlace back after = false := by
  have hnot {ch : Char} (hch : ch ∈ ['.', ',', '{']) : ¬ [ch] <+: Text.trimStart back := by
    rintro ⟨u, hu⟩
    refine h ch ?_ hch
    rw [← hu]
    rfl
  rw [isKeyPlace, Bool.or_eq_false_iff, ← Bool.not_eq_true, ← Bool.not_eq_true, isMemberName_iff,
    isObjectKey_iff]
  refine ⟨fun hm => hnot (by decide) hm.1, fun hk => ?_⟩
  rcases hk.2 with hcomma | ⟨hbrace, -⟩
  · exact hnot (by decide) hcomma
  · exact hnot (by decide) hbrace

/-- Behind the keyword of a jump and a gap on its line, no key can stand. -/
theorem isKeyPlace_of_jump {keyword : Text} (hk : Token.isJump (.word keyword))
    (hs : EndsInLineGap s) (front after : Text) :
    isKeyPlace (s.reverse ++ (keyword.reverse ++ front)) after = false := by
  apply isKeyPlace_eq_false
  intro ch hch
  rcases Text.head_trimStart_append hch with hch | ⟨-, hch⟩
  · rcases hs ch hch with rfl | hblank
    · decide
    · have hall : ['.', ',', '{'].all (fun ch => !lineBlanks.has ch) = true := by decide
      intro hmem
      simpa [hblank] using List.all_eq_true.1 hall ch hmem
  · obtain ⟨u, hu | hu⟩ : ∃ u, keyword.reverse = 'k' :: u ∨ keyword.reverse = 'e' :: u := by
      rcases hk with hk | hk
      · exact ⟨_, .inl (by rw [Token.word.inj hk]; rfl)⟩
      · exact ⟨_, .inr (by rw [Token.word.inj hk]; rfl)⟩
    all_goals
      rw [hu, List.cons_append, Text.trimStart, List.dropWhile_cons_of_neg (by decide)] at hch
      obtain rfl := Option.some.inj hch
      decide

theorem standsFree_of_jump {id : Ident} {name : Text} {after : Cursor} (h : Cut [] c ws after)
    (hc : c.In t) (hid : (Spot.jump id).In t [] (ws.map Written.lexeme)) (hw : w ∈ ws)
    (hspan : w.lexeme.span = id.span) (hname : w.text = name) :
    StandsFree name t w.place := by
  obtain ⟨k, l, hkl, hjump, hline, his, hend⟩ := hid
  obtain ⟨v, w', a, b, d, rfl, rfl, hw', ha, hv, hat⟩ := h.exists_adjacent hc hkl
  obtain rfl := h.eq_of_span_eq hc hw hw' (hspan.trans his.span_eq.symm)
    (hat.start_lt_stop his.isMaskable)
  obtain ⟨htoken, hno⟩ := hv.token_of_jump hjump
  obtain ⟨hne, hgap⟩ := hat.gap_of_line hno his.2 hline
  rw [htoken] at hjump
  obtain ⟨front, hfront, hoffset⟩ := ha
  have ht : t = front ++ (v.source ++ b.rest) := by
    rw [← hv.rest_eq]
    exact hfront
  refine ⟨front ++ v.source ++ (w.gap ++ w.front), d.rest, ?_, ?_, ?_, ?_, ?_⟩
  · rw [ht, hat.rest_eq, ← hname, Written.source, Written.source]
    simp only [List.append_assoc]
  · rw [hat.place_eq, hv.offset_eq, hoffset, ← hname]
    simp only [Text.byteSize_append, Nat.zero_add, Nat.add_assoc]
  · rw [List.reverse_append]
    exact hgap.startsNoWord hne _
  · have hd : d.In t := (Cursor.Reaches.trans ⟨front, hfront, hoffset⟩ hv.reaches).trans hat.reaches
    have hword := hend rfl
    rw [EndsWord, ← hspan, hat.stop_eq, hd.dropBytes_eq] at hword
    exact hword
  · have hback : (front ++ v.source ++ (w.gap ++ w.front)).reverse = (w.gap ++ w.front).reverse
        ++ (v.text.reverse ++ (v.front.reverse ++ (v.gap.reverse ++ front.reverse))) := by
      simp only [Written.source, List.reverse_append, List.append_assoc]
    rw [hback]
    exact isKeyPlace_of_jump hjump hgap _ _

def placesOf (ws : List Written) (name : Text) (ids : List Ident) : List Span :=
  (ws.filter fun w => w.text = name ∧ w.lexeme.span ∈ ids.map Ident.span).map Written.place

def MasksAlike (r : Rename) (t : Text) (places : List Span) : Prop :=
  (∀ place ∈ places, IsMaskedAt r t place) ∨ ∀ place ∈ places, ¬ IsMaskedAt r t place

/-- A place that is masked under one more condition than others is masked alike with them just if
that condition does not matter. -/
theorem masksAlike_cons_iff {r : Rename} {place : Span} {places : List Span} {word free : Prop}
    (hp : IsMaskedAt r t place ↔ word ∧ free) (hps : ∀ p ∈ places, IsMaskedAt r t p ↔ word) :
    MasksAlike r t (place :: places) ↔ (places ≠ [] → word → free) := by
  rw [MasksAlike, List.forall_mem_cons, List.forall_mem_cons, hp]
  constructor
  · rintro (⟨hlabel, -⟩ | ⟨-, hnone⟩) hne hword
    · exact hlabel.2
    · obtain ⟨p, hmem⟩ := List.exists_mem_of_ne_nil places hne
      exact absurd ((hps p hmem).2 hword) (hnone p hmem)
  · intro hfree
    by_cases hword : word
    · by_cases h : free
      · exact .inl ⟨⟨hword, h⟩, fun p hmem => (hps p hmem).2 hword⟩
      · obtain rfl : places = [] := by
          by_contra hne
          exact h (hfree hne hword)
        exact .inr ⟨fun hboth => h hboth.2, fun p hmem => absurd hmem List.not_mem_nil⟩
    · exact .inr ⟨fun hboth => hword hboth.1, fun p hmem h => hword ((hps p hmem).1 h)⟩

variable {input : Text} {d : Document} {r : Rename} {id : Ident} {ids : List Ident} {x : Spot}
  {notes : List Diagnostic} {xs : List Spot} {stop : Cursor}

theorem exists_written_of_spot (h : Among.Tokens t notes (ws.map Written.lexeme) xs)
    (hx : x ∈ xs) (hid : x.toSite = .reference id) :
    ∃ w ∈ ws, w.lexeme.span = id.span ∧ w.lexeme.token = .word id.name := by
  obtain ⟨l, hl, his⟩ := (h.spots_in x hx).exists_is
  rw [hid] at his
  obtain ⟨w, hw, rfl⟩ := List.mem_map.1 hl
  exact ⟨w, hw, his⟩

/-- The labels of jumps are masked wherever they are written as a name that is a word. -/
theorem isMaskedAt_jumps (hr : r.category = .variable) (h : Cut [] c ws stop) (hc : c.In t)
    (hids : ∀ id ∈ ids, (Spot.jump id).In t [] (ws.map Written.lexeme)) {place : Span}
    (hplace : place ∈ placesOf ws r.name ids) : IsMaskedAt r t place ↔ IsWord r.name := by
  obtain ⟨w, hw, rfl⟩ := List.mem_map.1 hplace
  obtain ⟨hw, htext⟩ := List.mem_filter.1 hw
  obtain ⟨htext, hspan⟩ := of_decide_eq_true htext
  obtain ⟨id, hid, hspan⟩ := List.mem_map.1 hspan
  rw [isMaskedAt_iff hr]
  exact and_iff_left (standsFree_of_jump h hc (hids id hid) hw hspan.symm htext)

/-- Labels in a script that is read without a mistake, when a variable is renamed. The edits at
words are put in place of them. Each label of a statement and each one that is jumped to is a token
of the script. A jump is masked wherever its label is written as the name and the name is a word;
the label of a statement is masked only where it stands free of what looks like the place of a key.
With jumps to it, they are masked alike just if it does. -/
theorem labels_masked_iff (hd : (Document.read input).document = .ok d)
    (hm : (Document.read input).mistakes = []) (hmark : d.source.head? ≠ some byteOrderMark)
    (r : Rename) (hr : r.category = .variable) :
    textual d.source [r] [] = weave d.source 0 (maskEdits r d.source)
      ∧ ∃ (ws : List Written) (after : Cursor), ws.map Written.lexeme = (Document.read input).tokens
        ∧ Cut [] (initialState d.source).cursor ws after ∧ after.AtEnd
        ∧ ∀ label body, .stmt (.labelled label body) ∈ d.nodes → label.name = r.name →
          let jumps := placesOf ws r.name (body.jumpsTo r.name)
          (∀ id ∈ body.jumpsTo r.name, ∃ w ∈ ws, w.lexeme.span = id.span
              ∧ w.lexeme.token = .word r.name ∧ (w.text = r.name → w.place ∈ jumps))
            ∧ (∀ place ∈ jumps, IsMaskedAt r d.source place ↔ IsWord r.name)
            ∧ ∃ w ∈ ws, w.lexeme.span = label.span ∧ w.lexeme.token = .word r.name
              ∧ (IsMaskedAt r d.source w.place
                ↔ IsWord r.name ∧ StandsFree r.name d.source w.place)
              ∧ (MasksAlike r d.source (w.place :: jumps)
                ↔ (jumps ≠ [] → IsWord r.name → StandsFree r.name d.source w.place)) := by
  obtain ⟨notes, ws, after, hnotes, htaken, hcut, hend, htokens⟩ := Document.exists_cut hd hmark
  obtain rfl : notes = [] := by simpa [hm] using hnotes
  refine ⟨textual_singleton r d.source, ws, after, htaken, hcut, hend, ?_⟩
  intro label body hlabel hname jumps
  obtain ⟨hspot, hjumps⟩ := Document.spots_of_labelled hlabel
  rw [hname] at hjumps
  have hmasked : ∀ place ∈ jumps, IsMaskedAt r d.source place ↔ IsWord r.name :=
    fun place => isMaskedAt_jumps hr hcut (in_initialState d.source)
      fun id hid => htokens.spots_in _ (hjumps id hid).1
  refine ⟨fun id hid => ?_, hmasked, ?_⟩
  · obtain ⟨hjump, hidname⟩ := hjumps id hid
    obtain ⟨w, hw, hspan, htoken⟩ := exists_written_of_spot htokens hjump rfl
    refine ⟨w, hw, hspan, hidname ▸ htoken, fun htext => ?_⟩
    refine List.mem_map_of_mem (List.mem_filter.2 ⟨hw, decide_eq_true ⟨htext, ?_⟩⟩)
    exact hspan ▸ List.mem_map_of_mem hid
  · obtain ⟨w, hw, hspan, htoken⟩ := exists_written_of_spot htokens hspot rfl
    exact ⟨w, hw, hspan, hname ▸ htoken, isMaskedAt_iff hr,
      masksAlike_cons_iff (isMaskedAt_iff hr) hmasked⟩

def labelSpans? : Node → Option (Span × List Span)
  | .stmt (.labelled label body) =>
    some (label.span, (body.jumpsTo label.name).map Ident.span)
  | _ => none

theorem labels_masked_iff_loop :
    let input := "var name=1;\nname:for(;;)\x7bif(name)break name;continue/* . */name\x7d".toList
    let r : Rename := ⟨"name".toList, "XXXX".toList, .variable⟩
    ∃ d, (Document.read input).document = .ok d ∧ (Document.read input).mistakes = []
      ∧ d.source.head? ≠ some byteOrderMark ∧ r.category = .variable
      ∧ d.nodes.filterMap labelSpans? = [(⟨12, 16⟩, [⟨39, 43⟩, ⟨59, 63⟩])]
      ∧ (∃ ws after, ws.map Written.lexeme = (Document.read input).tokens
        ∧ Cut [] (initialState d.source).cursor ws after
        ∧ ∀ label body, .stmt (.labelled label body) ∈ d.nodes → label.name = r.name →
          ∀ id ∈ body.jumpsTo r.name, ∃ w ∈ ws, w.lexeme.span = id.span
            ∧ (w.text = r.name → (IsMaskedAt r d.source w.place ↔ IsWord r.name)))
      ∧ textual d.source [r] []
        = "var XXXX=1;\nXXXX:for(;;)\x7bif(XXXX)break XXXX;continue/* . */XXXX\x7d".toList := by
  intro input r
  have hread : (Document.read input).document.toOption.map
      (fun d => (d.source, d.nodes.filterMap labelSpans?))
      = some (input, [(⟨12, 16⟩, [⟨39, 43⟩, ⟨59, 63⟩])]) := by
    decide +kernel
  have hm : (Document.read input).mistakes = [] := by decide +kernel
  obtain ⟨d, hd, h⟩ := exists_of_toOption_map hread
  obtain ⟨hs, hl⟩ : d.source = input ∧ d.nodes.filterMap labelSpans? = _ := by
    simpa only [Prod.mk.injEq] using h
  have hmark : d.source.head? ≠ some byteOrderMark := by
    rw [hs]
    decide
  obtain ⟨htextual, ws, after, htaken, hcut, -, hlabels⟩ := labels_masked_iff hd hm hmark r rfl
  refine ⟨d, hd, hm, hmark, rfl, hl,
    ⟨ws, after, htaken, hcut, fun label body hlabel hname id hid => ?_⟩, ?_⟩
  · obtain ⟨hjumps, hmasked, -⟩ := hlabels label body hlabel hname
    obtain ⟨w, hw, hspan, -, hplace⟩ := hjumps id hid
    exact ⟨w, hw, hspan, fun htext => hmasked _ (hplace htext)⟩
  · rw [htextual, hs]
    decide +kernel

/-- A label in a block behind a colon is taken for a key, but the jump to it is not. -/
theorem labels_masked_apart :
    let input := "var name=1;switch(name)\x7bcase 1:\x7bname:for(;;)break name;\x7d\x7d".toList
    let r : Rename := ⟨"name".toList, "XXXX".toList, .variable⟩
    ∃ d, (Document.read input).document = .ok d ∧ (Document.read input).mistakes = []
      ∧ d.source = input ∧ d.candidates.vars.map Declaration.name = [r.name]
      ∧ ¬ r.mask <:+: d.source
      ∧ d.nodes.filterMap labelSpans? = [(⟨32, 36⟩, [⟨50, 54⟩])]
      ∧ d.source.slice ⟨32, 36⟩ = r.name ∧ d.source.slice ⟨50, 54⟩ = r.name
      ∧ ¬ MasksAlike r d.source [⟨32, 36⟩, ⟨50, 54⟩]
      ∧ textual d.source [r] []
        = "var XXXX=1;switch(XXXX)\x7bcase 1:\x7bname:for(;;)break XXXX;\x7d\x7d".toList := by
  intro input r
  have hread : (Document.read input).document.toOption.map (fun d =>
      (d.source, d.candidates.vars.map Declaration.name, d.nodes.filterMap labelSpans?))
      = some (input, [r.name], [(⟨32, 36⟩, [⟨50, 54⟩])]) := by
    decide +kernel
  obtain ⟨d, hd, h⟩ := exists_of_toOption_map hread
  obtain ⟨hs, hv, hl⟩ : d.source = input ∧ d.candidates.vars.map Declaration.name = _
      ∧ d.nodes.filterMap labelSpans? = _ := by
    simpa only [Prod.mk.injEq] using h
  have hlabel : ¬ IsMaskedAt r input ⟨32, 36⟩ := by decide +kernel
  have hjump : IsMaskedAt r input ⟨50, 54⟩ := by decide +kernel
  refine ⟨d, hd, by decide +kernel, hs, hv, ?_, hl, ?_⟩
  · rw [hs]
    decide +kernel
  rw [textual_singleton, hs]
  refine ⟨by decide +kernel, by decide +kernel, ?_, by decide +kernel⟩
  rintro (hall | hnone)
  · exact hlabel (hall _ List.mem_cons_self)
  · exact hnone _ (List.mem_cons_of_mem _ List.mem_cons_self) hjump

end ScriptVeil.Masking
