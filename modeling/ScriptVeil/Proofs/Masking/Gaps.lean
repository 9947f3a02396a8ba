import ScriptVeil.Proofs.Masking.Found
import ScriptVeil.Proofs.Masking.Splice
import ScriptVeil.Proofs.Script.Written

namespace ScriptVeil.Masking

open Script

def editOf? (edits : List Edit) (w : Written) : Option Edit :=
  edits.find? fun e => e.span = w.lexeme.span

def editedSource (edits : List Edit) (w : Written) : Text :=
  w.gap ++ ((editOf? edits w).map Edit.text).getD (w.front ++ w.text)

variable {t : Text} {notes : List Diagnostic} {c after : Cursor} {ws : List Written} {w : Written}
  {edits : List Edit} {e : Edit}

theorem span_editOf? (h : editOf? edits w = some e) : e.span = w.lexeme.span := by
  simpa using List.find?_some h

theorem weave_cut (h : Cut notes c ws after) (hc : c.In t)
    (ho : Ordered t (ws.filterMap (editOf? edits))) :
    weave t c.offset (ws.filterMap (editOf? edits))
      = ws.flatMap (editedSource edits) ++ after.rest := by
  induction ws generalizing c with
  | nil =>
    obtain rfl : c = after := h
    exact hc.dropBytes_eq
  | cons w ws ih =>
    obtain ⟨mid, hw, hws⟩ := h
    have hmid := hc.trans hw.reaches
    rw [List.flatMap_cons, List.append_assoc, editedSource]
    cases he : editOf? edits w with
    | none =>
      rw [List.filterMap_cons_none he] at ho ⊢
      have hle : ∀ e ∈ ws.filterMap (editOf? edits), mid.offset ≤ e.span.start := by
        intro e hmem
        obtain ⟨v, hv, hve⟩ := List.mem_filterMap.1 hmem
        rw [span_editOf? hve]
        exact hws.le_start hmid hv
      rw [← slice_append_weave ho hc.isBoundary hmid.isBoundary hw.reaches.offset_le hle,
        hw.slice_source hc, ih hws hmid ho]
      rfl
    | some e =>
      rw [List.filterMap_cons_some he] at ho ⊢
      rw [weave, span_editOf? he, hw.slice_gap hc, hw.stop_eq, ih hws hmid ho.tail]
      rfl

/-- Edits that cover different tokens are put in place of them. What is between the tokens is kept,
and nothing else is. -/
theorem applyEdits?_cut (h : Cut notes c ws after) (hc : c.In t)
    (hcover : ∀ e ∈ edits, ∃ w ∈ ws, e.span = w.lexeme.span ∧ w.lexeme.token.isMaskable = true)
    (hspans : edits.Pairwise fun e f => e.span ≠ f.span) :
    applyEdits? t edits
      = some (t.takeBytes c.offset ++ (ws.flatMap (editedSource edits) ++ after.rest)) := by
  have hmem {e : Edit} : e ∈ ws.filterMap (editOf? edits) ↔ e ∈ edits := by
    rw [List.mem_filterMap]
    constructor
    · rintro ⟨w, -, hw⟩
      exact List.mem_of_find?_eq_some hw
    · intro he
      obtain ⟨w, hw, hspan, -⟩ := hcover e he
      exact ⟨w, hw, (find?_key_eq_some_iff hspans).2 ⟨he, hspan⟩⟩
  have ho : Ordered t (ws.filterMap (editOf? edits)) := by
    refine ⟨fun e he => ?_, List.pairwise_filterMap.2 ((h.before hc).imp fun hb d hd e he => ?_)⟩
    · obtain ⟨w, hw, hspan, hmaskable⟩ := hcover e (hmem.1 he)
      obtain ⟨b, mid, hb, -, hat⟩ := h.exists_at hc hw
      rw [hspan]
      exact hat.within hb hmaskable
    · rw [span_editOf? hd, span_editOf? he]
      exact hb
  have hperm : (ws.filterMap (editOf? edits)).Perm edits :=
    (List.perm_ext_iff_of_nodup (nodup_of_apart ho.within ho.apart)
      (hspans.imp fun hne he => hne (congrArg Edit.span he))).2 fun _ => hmem
  have hle : ∀ e ∈ ws.filterMap (editOf? edits), c.offset ≤ e.span.start := by
    intro e he
    obtain ⟨w, hw, hwe⟩ := List.mem_filterMap.1 he
    rw [span_editOf? hwe]
    exact h.le_start hc hw
  rw [applyEdits?_eq_weave ho hperm,
    ← slice_append_weave ho (Text.isBoundary_zero t) hc.isBoundary (Nat.zero_le _) hle,
    weave_cut h hc ho, Text.slice, Text.dropBytes_zero]
  rfl

variable {input : Text} {d : Document}

/-- Masking by position. The script is cut into the tokens that were taken, with gaps between them
and behind the last one. Every edit covers one word or string as it is written, together with the
comment or marker in front of it that belongs to its range. Where no two edits cover the same token,
all that is not covered is kept in its order: the gaps, the other tokens, a first line that starts
with `#!` and the end of the text. -/
theorem ranged_keeps_gaps (hd : (Document.read input).document = .ok d)
    (hmark : d.source.head? ≠ some byteOrderMark) (renames : List Rename)
    (literals : List Quotation) :
    let start := (initialState d.source).cursor
    let front := d.source.takeBytes start.offset
    ∃ (notes : List Diagnostic) (ws : List Written) (after : Cursor) (edits : List Edit),
      (Document.read input).mistakes = notes.reverse.map (·.locate d.source)
        ∧ ws.map Written.lexeme = (Document.read input).tokens
        ∧ Cut notes start ws after ∧ after.AtEnd
        ∧ d.source = front ++ (ws.flatMap Written.source ++ after.rest)
        ∧ editsAt? d.source d.sites renames literals = some edits
        ∧ (∀ e ∈ edits, ∃ w ∈ ws, e.span = w.lexeme.span ∧ w.lexeme.token.isMaskable = true
          ∧ d.source.slice e.span = w.front ++ w.text
          ∧ (d.source.slice e.span = w.text ↔ w.front = []))
        ∧ ((edits.Pairwise fun e f => e.span ≠ f.span) →
          ranged? d.source d.sites renames literals
            = some (front ++ (ws.flatMap (editedSource edits) ++ after.rest))) := by
  intro start front
  obtain ⟨notes, ws, after, hnotes, htaken, hcut, hend, htokens⟩ := Document.exists_cut hd hmark
  have hstart : start.In d.source := in_initialState d.source
  have hedits : editsAt? d.source d.sites renames literals
      = some (editsAt d.source d.sites renames literals) :=
    editsAt?_eq_some (Document.sites_cuts hd hmark)
  have hcover : ∀ e ∈ editsAt d.source d.sites renames literals,
      ∃ w ∈ ws, e.span = w.lexeme.span ∧ w.lexeme.token.isMaskable = true := by
    intro e he
    obtain ⟨s, hs, hse⟩ := List.mem_filterMap.1 he
    obtain ⟨l, hl, his⟩ := htokens.exists_is hs
    obtain ⟨w, hw, rfl⟩ := List.mem_map.1 hl
    exact ⟨w, hw, (span_editAt hse).trans his.span_eq.symm, his.isMaskable⟩
  refine ⟨notes, ws, after, _, hnotes, htaken, hcut, hend, ?_, hedits, fun e he => ?_,
    fun hspans => ?_⟩
  · rw [← hcut.rest_eq, ← hstart.dropBytes_eq]
    exact (Text.takeBytes_append_dropBytes _ _).symm
  · obtain ⟨w, hw, hspan, hmaskable⟩ := hcover e he
    obtain ⟨b, mid, hb, -, hat⟩ := hcut.exists_at hstart hw
    have hslice := hspan ▸ hat.slice_span hb
    refine ⟨w, hw, hspan, hmaskable, hslice, ?_⟩
    rw [hslice]
    exact List.append_left_eq_self
  · rw [ranged?, hedits]
    exact applyEdits?_cut hcut hstart hcover hspans

theorem ranged_keeps_gaps_comments :
    let input := "#!/x\n/* s */ a /* p */ + 'b' // e".toList
    let renames : List Rename := [⟨['a'], "long".toList, .variable⟩]
    let literals : List Quotation := [⟨"'b'".toList, [98], ⟨25, 28⟩⟩]
    let edits : List Edit := [⟨⟨13, 14⟩, "long".toList⟩, ⟨⟨25, 28⟩, Literal.encode [98]⟩]
    ∃ d, (Document.read input).document = .ok d ∧ d.source.head? ≠ some byteOrderMark
      ∧ editsAt? d.source d.sites renames literals = some edits
      ∧ (∃ notes ws after, Cut notes (initialState d.source).cursor ws after ∧ after.AtEnd
        ∧ ws.map (fun w => w.lexeme.token) = [.word ['a'], .binary .add, .string ['b'] "'b'".toList]
        ∧ ranged? d.source d.sites renames literals
          = some ("#!/x".toList ++ (ws.flatMap (editedSource edits) ++ after.rest)))
      ∧ ranged? d.source d.sites renames literals
        = some
          "#!/x\n/* s */ long /* p */ + String.fromCharCode.apply(null, [98]) // e".toList := by
  intro input renames literals edits
  have hread : (Document.read input).document.toOption.map (fun d =>
      (d.source, editsAt? d.source d.sites renames literals)) = some (input, some edits) := by
    decide +kernel
  have htokens : (Document.read input).tokens.map Lexeme.token
      = [.word ['a'], .binary .add, .string ['b'] "'b'".toList] := by
    decide +kernel
  obtain ⟨d, hd, h⟩ := exists_of_toOption_map hread
  obtain ⟨hs, hedits⟩ : d.source = input ∧ editsAt? d.source d.sites renames literals = _ := by
    simpa only [Prod.mk.injEq] using h
  have hmark : d.source.head? ≠ some byteOrderMark := by
    rw [hs]
    decide
  obtain ⟨notes, ws, after, _, -, htaken, hcut, hend, -, hfound, -, hkept⟩ :=
    ranged_keeps_gaps hd hmark renames literals
  obtain rfl := Option.some.inj (hedits.symm.trans hfound)
  have hfront : d.source.takeBytes (initialState d.source).cursor.offset = "#!/x".toList := by
    rw [hs]
    decide +kernel
  rw [hfront] at hkept
  rw [← htaken, List.map_map] at htokens
  have hranged : ranged? d.source d.sites renames literals
      = some "#!/x\n/* s */ long /* p */ + String.fromCharCode.apply(null, [98]) // e".toList := by
    have ho : Ordered d.source edits := by
      rw [hs]
      exact ⟨by decide +kernel, by decide +kernel⟩
    rw [ranged?, hedits, Option.bind_some, applyEdits?_eq_weave ho (.refl _), hs]
    decide +kernel
  exact ⟨d, hd, hmark, hedits, ⟨notes, ws, after, hcut, hend, htokens, hkept (by decide)⟩, hranged⟩

/-- The parameter of an arrow function whose arrow stands on a line of its own is in the tree twice,
and two edits cover it. -/
example : (Document.read "(x/* c */\n=> 1)".toList).document.toOption.map (fun d =>
    editsAt d.source d.sites [⟨['x'], ['y'], .variable⟩] [])
      = some [⟨⟨1, 2⟩, ['y']⟩, ⟨⟨1, 2⟩, ['y']⟩] := by
  decide +kernel

/-- An HTML-like comment in front of a word is lost with the word. -/
theorem ranged_drops_comment :
    let input := "<!-- c\na;".toList
    let renames : List Rename := [⟨['a'], ['b'], .variable⟩]
    ∃ d, (Document.read input).document = .ok d ∧ (Document.read input).mistakes = []
      ∧ d.source.head? ≠ some byteOrderMark
      ∧ editsAt? d.source d.sites renames [] = some [⟨⟨0, 8⟩, ['b']⟩]
      ∧ d.source.slice ⟨0, 8⟩ = "<!-- c\na".toList
      ∧ ranged? d.source d.sites renames [] = some "b;".toList
      ∧ ¬ "<!-- c".toList <:+: "b;".toList := by
  intro input renames
  have hread : (Document.read input).document.toOption.map (fun d =>
      (d.source, editsAt? d.source d.sites renames [])) = some (input, some [⟨⟨0, 8⟩, ['b']⟩]) := by
    decide +kernel
  have hm : (Document.read input).mistakes = [] := by decide +kernel
  obtain ⟨d, hd, h⟩ := exists_of_toOption_map hread
  obtain ⟨hs, hedits⟩ : d.source = input ∧ editsAt? d.source d.sites renames [] = _ := by
    simpa only [Prod.mk.injEq] using h
  have hmark : d.source.head? ≠ some byteOrderMark := by
    rw [hs]
    decide
  have hranged : ranged? d.source d.sites renames [] = some "b;".toList := by
    have ho : Ordered d.source [⟨⟨0, 8⟩, ['b']⟩] := by
      rw [hs]
      exact ⟨by decide +kernel, by decide +kernel⟩
    rw [ranged?, hedits, Option.bind_some, applyEdits?_eq_weave ho (.refl _), hs]
    decide +kernel
  exact ⟨d, hd, hm, hmark, hedits, by rw [hs]; decide +kernel, hranged, by decide⟩

end ScriptVeil.Masking
