import ScriptVeil.Proofs.Script.Finding
import ScriptVeil.Proofs.Script.Parser.Declaration
import ScriptVeil.Proofs.Script.Scan.WordStart
import ScriptVeil.Proofs.Script.Written

namespace ScriptVeil.Script

section

variable {t name : Text} {notes : List Diagnostic} {lo : Nat} {b l : Lexeme} {c : Cursor}
  {id : Ident}

theorem Lexeme.Behind.opens (h : b.Behind t notes lo) (hb : b.token.opensName = true)
    (hc : c.In t) (ho : c.offset = b.span.stop) :
    StartsNoName c.rest ∨ ∀ a, t = a ++ c.rest → StartsNoWord a.reverse := by
  have hplain : b.token.isPlain = true := by
    cases hk : b.token <;> rw [hk] at hb <;> first | rfl | contradiction
  obtain ⟨mode, atStart, c₀, more, hc₀, -, hscan, htoken, -⟩ := h.exists_token hplain
  have hforward := forward_scan mode atStart c₀
  obtain rfl : (scan mode atStart c₀).after = c :=
    (hc₀.trans hforward.reaches).eq hc ((hforward.stop_eq b hscan).symm.trans ho.symm)
  cases hk : b.token with
  | word name =>
    rw [hk] at htoken
    exact .inl (startsNoName_of_tokenAt htoken)
  | binary op =>
    have hstar := tokenAt_eq_punctuator htoken (by rw [hk]; rfl)
    obtain ⟨p, hp, hne, hend⟩ := exists_text_punctuatorAt hstar
    obtain ⟨front, hfront, -⟩ := hc₀.trans (reaches_gapAt atStart c₀)
    refine .inr fun a ha => ?_
    have hsplit : t = front ++ p ++ (scan mode atStart c₀).after.rest := by
      rw [List.append_assoc, ← hp]
      exact hfront
    rw [List.append_cancel_right (ha.symm.trans hsplit)]
    exact hend.append_reverse hne front
  | _ =>
    rw [hk] at hb
    contradiction

/-- Without a mistake, there is no backslash in the name that is read from a word. -/
theorem Lexeme.Behind.backslash_notMem (h : l.Behind t [] lo) (hl : l.token = .word name) :
    '\\' ∉ name := by
  obtain ⟨mode, atStart, c, more, -, -, -, htoken, hmore⟩ := h.exists_token (by rw [hl]; rfl)
  obtain rfl := List.subset_nil.1 hmore
  rw [hl] at htoken
  obtain ⟨-, word, -, -, rfl, hname, -⟩ := tokenAt_eq_word htoken
  intro hslash
  have hpart := isNamePart_of_nameFrom hname (fun _ h => absurd h List.not_mem_nil) _ hslash
  contradiction

theorem Lexeme.Behind.exists_gap (h : l.Behind t notes lo) (hl : l.token = .word name)
    (hs : t.slice l.span = name) (hslash : '\\' ∉ name) :
    name ≠ [] ∧ (∀ ch ∈ name, isNamePart ch = true)
      ∧ ∃ a gap rest, t = a ++ (gap ++ (name ++ rest)) ∧ a.byteSize = lo
        ∧ l.span = ⟨(a ++ gap).byteSize, (a ++ gap).byteSize + name.byteSize⟩
        ∧ StartsNoWord gap.reverse := by
  obtain ⟨mode, atStart, c, more, ⟨a, ha, hlo⟩, rfl, hscan, htoken, -⟩ :=
    h.exists_token (by rw [hl]; rfl)
  obtain ⟨gap, front, s, hrest, hspan, hgap, -⟩ := scan_text hscan
  have ht : t = (a ++ gap) ++ ((front ++ s) ++ (scan mode atStart c).after.rest) := by
    rw [List.append_assoc, List.append_assoc, ← hrest]
    exact ha
  have hspan : l.span = ⟨(a ++ gap).byteSize, (a ++ gap).byteSize + (front ++ s).byteSize⟩ := by
    rw [hspan, hlo, Nat.zero_add, Text.byteSize_append a]
  obtain rfl : front ++ s = name := by
    rw [← hs, hspan, ht, Text.slice_append]
  rw [hl] at htoken
  have hpos := offset_lt_of_tokenAt_word htoken
  obtain ⟨ch, word, hch, -, hword, hname, -⟩ := tokenAt_eq_word htoken
  have hne : (gapAt atStart c).after.rest ≠ [] := by
    intro hnil
    rw [hnil] at hch
    contradiction
  obtain ⟨gap', hgap', hend⟩ := exists_gap_gapAt hne
  rw [hgap] at hname hpos hgap'
  rcases text_of_nameAt hname rfl with ⟨hword', hparts⟩ | hescape
  · -- There is no room in the name for a part of the gap.
    obtain rfl : front = [] := List.append_left_eq_self.1 (hword.symm.trans hword'.symm)
    obtain rfl : gap' = gap := List.append_cancel_right (hgap'.symm.trans hrest)
    refine ⟨?_, hparts, a, gap', (scan mode atStart c).after.rest, ?_,
      by rw [hlo, Nat.zero_add], hspan, hend⟩
    · rintro rfl
      have hstop := (forward_scan mode atStart c).stop_eq l hscan
      rw [hspan, Text.byteSize_append] at hstop
      dsimp only at hstop hpos
      rw [← hstop, hlo] at hpos
      exact absurd hpos (by simp)
    · rw [ht, List.append_assoc]
  · exact absurd (List.mem_append_right front hescape) hslash

theorem Ident.Placed.backslash_notMem (h : id.Placed t []) : '\\' ∉ id.name := by
  obtain ⟨b, l, lo, -, -, hbehind, -, hl⟩ := h
  exact hbehind.backslash_notMem hl

/-- A declared name that is written as it is stands where a word starts. -/
theorem Ident.Placed.exists_append (h : id.Placed t notes) (hs : t.slice id.span = id.name)
    (hslash : '\\' ∉ id.name) :
    id.name ≠ [] ∧ (∀ ch ∈ id.name, isNamePart ch = true)
      ∧ ∃ a b, t = a ++ (id.name ++ b)
        ∧ id.span = ⟨a.byteSize, a.byteSize + id.name.byteSize⟩ ∧ StartsNoWord a.reverse := by
  obtain ⟨b, l, lo, hb, hopener, hbehind, hspan, hl⟩ := h
  rw [← hspan] at hs ⊢
  obtain ⟨hne, hparts, a, gap, rest, ht, ho, hspan, hgap⟩ := hbehind.exists_gap hl hs hslash
  refine ⟨hne, hparts, a ++ gap, rest, by rw [ht, List.append_assoc], hspan, ?_⟩
  by_cases hempty : gap = []
  · subst hempty
    have hin : (⟨id.name ++ rest, b.span.stop⟩ : Cursor).In t := ⟨a, ht, by rw [← ho]; simp⟩
    rcases hopener.opens hb hin rfl with hopen | hopen
    · obtain ⟨ch, name, hname⟩ := List.exists_cons_of_ne_nil hne
      have hpart := hparts ch (by rw [hname]; exact List.mem_cons_self)
      rw [(hopen ch (by rw [hname]; rfl)).1] at hpart
      contradiction
    · rw [List.append_nil]
      exact hopen a ht
  · exact hgap.append_reverse hempty a

end

namespace Parser

theorem tooDeep_goes {α : Type} {t : Text} {s : State} {Q : State → α → Prop} :
    Goes t s tooDeep Q := by
  rw [tooDeep]
  exact (Moves.goes s).bind fun _ _ _ _ => .throw

/-- Every level of nesting declares names where they stand, because the levels further in do. -/
theorem grammar_finds (t : Text) (depth : Nat) : (grammar depth).Finds t := by
  induction depth with
  | zero => exact ⟨grammar_sound t 0, fun _ _ _ => tooDeep_goes, fun _ _ _ => tooDeep_goes⟩
  | succ depth ih =>
    exact ⟨grammar_sound t (depth + 1), fun denyLet s hs => binding_names ih.sound hs denyLet,
      statement_finds⟩

end Parser

theorem parse_findings {source : Text} {body : List TopLevel}
    (hb : (parse source).body = .ok body) :
    ∃ notes, (∀ f ∈ findings body, f.In (withoutMark source) notes)
      ∧ ((parse source).mistakes = [] → notes = []) := by
  let g := Parser.grammar (Parser.depthFor (withoutMark source))
  have : g.Finds (withoutMark source) := Parser.grammar_finds _ _
  have h := Parser.statements_finds (t := withoutMark source) (g := g) .topLevel false true _ nofun
    { limit := (withoutMark source).length + 2 } (sound_initialState (withoutMark source))
  unfold parse at hb ⊢
  dsimp only at hb ⊢
  split at h
  · next found s hs =>
    rw [hs] at hb ⊢
    cases hb
    exact ⟨s.notes, h.2.2, fun hm => by simpa using hm⟩
  · next hs =>
    rw [hs] at hb
    contradiction

theorem Document.exists_declared {input : Text} {d : Document}
    (hd : (Document.read input).document = .ok d) (hmark : d.source.head? ≠ some byteOrderMark) :
    ∃ notes, ((Document.read input).mistakes = [] → notes = [])
      ∧ ∀ x ∈ d.candidates.declarations, ∃ id : Ident, id.name = x.name ∧ id.span = x.span
        ∧ id.Declared d.source notes := by
  obtain ⟨-, -, hbody, -, hmistakes⟩ := Document.of_read hd
  obtain ⟨notes, hin, hnotes⟩ := parse_findings hbody
  rw [withoutMark_eq_self hmark] at hin
  refine ⟨notes, hmistakes ▸ hnotes, fun x hx => ?_⟩
  obtain ⟨category, id, hid, rfl⟩ := exists_declared_of_mem_declarations hx
  rw [findingsOfStmts_eq_findings, stmts, findings_map_stmt] at hid
  exact ⟨id, rfl, rfl, hin _ hid⟩

end ScriptVeil.Script
