import ScriptVeil.Proofs.ByteOrderMark
import ScriptVeil.Proofs.Masking.Drawn
import ScriptVeil.Proofs.Masking.WholeWord
import ScriptVeil.Proofs.Script.Finding

namespace ScriptVeil

namespace Masking

open Script

/-- What may come of a piece of a text: the same piece or, if it is one of some names, a word of the
same length that is not reserved. -/
inductive Veiled (names : List Text) : Text → Text → Prop where
  | kept (p : Text) : Veiled names p p
  | masked {p q : Text} (hp : IsWord p) (hn : p ∈ names) (hq : IsWord q)
    (hl : q.length = p.length) (hf : Mask.isReserved q = false) : Veiled names p q

/-- Whether a text differs from another one in words only, and there as `Veiled` allows. -/
structure KeepsLayout (names : List Text) (t u : Text) : Prop where
  length_eq : u.length = t.length
  others : ∀ (i : Nat) c, t[i]? = some c → isWordChar c = false → u[i]? = some c
  words : ∀ a p b, t = a ++ (p ++ b) → IsWord p → StartsNoWord a.reverse → StartsNoWord b →
    ∃ a' q b', u = a' ++ (q ++ b') ∧ a'.length = a.length ∧ Veiled names p q

variable {names : List Text} {p q t u : Text} {ps qs rs : List Text} {r : Rename}
  {renames : List Rename}

theorem Veiled.length_eq (h : Veiled names p q) : q.length = p.length := by
  cases h with
  | kept => rfl
  | masked hp hn hq hl hf => exact hl

theorem Veiled.trans {s : Text} (h : Veiled names p q) (h' : Veiled names q s) :
    Veiled names p s := by
  cases h with
  | kept => exact h'
  | masked hp hn hq hl hf =>
    cases h' with
    | kept => exact .masked hp hn hq hl hf
    | masked hq' hn' hs hl' hf' => exact .masked hp hn hs (hl'.trans hl) hf'

theorem forall₂_veiled_trans (h : List.Forall₂ (Veiled names) ps qs)
    (h' : List.Forall₂ (Veiled names) qs rs) : List.Forall₂ (Veiled names) ps rs := by
  induction h generalizing rs with
  | nil => exact h'
  | cons hpq h ih =>
    cases h' with
    | cons hqr h' => exact .cons (hpq.trans hqr) (ih h')

theorem length_flatten_of_veiled (h : List.Forall₂ (Veiled names) ps qs) :
    qs.flatten.length = ps.flatten.length := by
  induction h with
  | nil => rfl
  | cons hpq h ih =>
    rw [List.flatten_cons, List.flatten_cons, List.length_append, List.length_append, ih,
      hpq.length_eq]

theorem getElem?_flatten_of_veiled (h : List.Forall₂ (Veiled names) ps qs) {i : Nat} {c : Char}
    (hi : ps.flatten[i]? = some c) (hc : isWordChar c = false) : qs.flatten[i]? = some c := by
  induction h generalizing i with
  | nil => exact hi
  | @cons p q ps qs hpq h ih =>
    rw [List.flatten_cons] at hi ⊢
    by_cases hlt : i < p.length
    · rw [List.getElem?_append_left hlt] at hi
      rw [List.getElem?_append_left (hpq.length_eq ▸ hlt)]
      cases hpq with
      | kept => exact hi
      | masked hp hn hq hl hf =>
        rw [hp.2 c (List.mem_of_getElem? hi)] at hc
        contradiction
    · rw [List.getElem?_append_right (Nat.le_of_not_lt hlt)] at hi
      rw [List.getElem?_append_right (hpq.length_eq ▸ Nat.le_of_not_lt hlt), hpq.length_eq]
      exact ih hi

theorem keepsLayout_of_pieces (h : List.Forall₂ (Veiled names) (pieces t) (pieces u)) :
    KeepsLayout names t u := by
  constructor
  · have hlength := length_flatten_of_veiled h
    rwa [flatten_pieces, flatten_pieces] at hlength
  · intro i c hi hc
    rw [← flatten_pieces t] at hi
    rw [← flatten_pieces u]
    exact getElem?_flatten_of_veiled h hi hc
  · rintro a p b rfl hp ha hb
    rw [pieces_append hp ha hb] at h
    have hfront := List.forall₂_take (pieces a).length h
    have hback := List.forall₂_drop (pieces a).length h
    rw [List.take_left] at hfront
    rw [List.drop_left] at hback
    have hu := List.take_append_drop (pieces a).length (pieces u)
    generalize (pieces u).take (pieces a).length = as at hfront hu
    generalize (pieces u).drop (pieces a).length = bs at hback hu
    cases hback with
    | @cons _ q _ bs hpq hbs =>
      refine ⟨as.flatten, q, bs.flatten, ?_, ?_, hpq⟩
      · rw [← flatten_pieces u, ← hu, List.flatten_append, List.flatten_cons]
      · rw [length_flatten_of_veiled hfront, flatten_pieces]

theorem KeepsLayout.append_left {g : Text} (hg : ∀ c ∈ g, isWordChar c = false)
    (h : KeepsLayout names t u) : KeepsLayout names (g ++ t) (g ++ u) := by
  constructor
  · rw [List.length_append, List.length_append, h.length_eq]
  · intro i c hi hc
    by_cases hlt : i < g.length
    · rw [List.getElem?_append_left hlt] at hi ⊢
      exact hi
    · rw [List.getElem?_append_right (Nat.le_of_not_lt hlt)] at hi ⊢
      exact h.others _ c hi hc
  · intro a p b ht hp ha hb
    -- The word cannot start in front of the text, so the part before it takes up all of `g`.
    obtain ⟨a', rfl, rfl⟩ : ∃ a', a = g ++ a' ∧ t = a' ++ (p ++ b) := by
      rcases List.append_eq_append_iff.1 ht with ⟨a', ha', ht⟩ | ⟨c, hgc, hpb⟩
      · exact ⟨a', ha', ht⟩
      · cases c with
        | nil => exact ⟨[], by rw [hgc, List.append_nil, List.append_nil], hpb.symm⟩
        | cons d c =>
          obtain ⟨e, w, rfl, he⟩ := hp.exists_cons
          obtain ⟨rfl, -⟩ := List.cons.inj hpb
          rw [hg e (hgc ▸ List.mem_append_right a List.mem_cons_self)] at he
          contradiction
    have ha' : StartsNoWord a'.reverse := by
      intro c hc
      apply ha
      rw [List.reverse_append]
      exact List.mem_head?_append_of_mem_head? hc
    obtain ⟨a₁, q, b₁, rfl, hlength, hpq⟩ := h.words a' p b rfl hp ha' hb
    refine ⟨g ++ a₁, q, b₁, (List.append_assoc _ _ _).symm, ?_, hpq⟩
    rw [List.length_append, List.length_append, hlength]

theorem veiled_applyRename (h : Masks names r) (t : Text) :
    List.Forall₂ (Veiled names) (pieces t) (pieces (applyRename t r)) := by
  by_cases hn : r.name = []
  · rw [applyRename, replaceWord_of_not_isWord fun hw => hw.ne_nil hn]
    exact List.forall₂_same.2 fun p _ => .kept p
  · have hmask : IsWord r.mask := by
      refine ⟨fun hnil => hn ?_, h.isWordChar⟩
      rw [← List.length_eq_zero_iff, ← h.length_eq, hnil, List.length_nil]
    rw [pieces_applyRename hmask]
    apply forall₂_mapIdx
    intro i p
    rw [renamedPiece]
    split
    · next hp =>
      rw [List.foldl_cons, List.foldl_nil, renameWord]
      split
      · next hname => exact .masked hp (hname.1 ▸ h.name_mem) hmask (hname.1 ▸ h.length_eq) h.free
      · exact .kept p
    · exact .kept p

theorem veiled_applyRenames (h : ∀ r ∈ renames, Masks names r) (t : Text) :
    List.Forall₂ (Veiled names) (pieces t) (pieces (applyRenames renames t)) := by
  induction renames generalizing t with
  | nil => exact List.forall₂_same.2 fun p _ => .kept p
  | cons r renames ih =>
    obtain ⟨hr, hrs⟩ := List.forall_mem_cons.1 h
    exact forall₂_veiled_trans (veiled_applyRename hr t) (ih hrs (applyRename t r))

end Masking

open Script

theorem Script.Document.mark_append_source {input : Text} {d : Document}
    (h : (Document.read input).document = .ok d) : d.mark ++ d.source = input := by
  obtain ⟨hmarked, hsource, -⟩ := of_read h
  rw [mark, hmarked, hsource]
  by_cases hmark : input.head? = some byteOrderMark
  · obtain ⟨u, rfl⟩ := eq_cons_of_head hmark
    rw [withoutMark_cons]
    rfl
  · rw [withoutMark_eq_self hmark, decide_eq_false hmark]
    rfl

/-- Where no literal is encoded, masking over the text keeps the layout of a script: its length and
every character outside its words. Only words that are declared names change, to words of the same
length that are not reserved. However often a mask may be drawn again, a run can only end otherwise
where one of the masks was not drawn within that number of attempts. -/
theorem obfuscate_keeps_layout {input : Text} {d : Document} (seed : UInt64) (attempts : Nat)
    (hd : (Document.read input).document = .ok d) (hl : d.candidates.literals = []) :
    (Obfuscation.renamesFor seed d.candidates attempts = none
      ∧ (obfuscate .textual seed input attempts).result = .error .noMask)
    ∨ ∃ out, (obfuscate .textual seed input attempts).result = .ok out
      ∧ Masking.KeepsLayout (d.candidates.declarations.map Declaration.name) input out := by
  have hrun : (obfuscate .textual seed input attempts).result
      = (Obfuscation.ofDocument .textual seed d attempts).result := by
    simp only [obfuscate, hd]
  have hc : d.candidates? = some d.candidates :=
    Document.candidates?_eq_some (Document.cuts_of_literals_eq_nil hl)
  rw [hrun, Obfuscation.ofDocument, hc]
  cases hplan : Obfuscation.renamesFor seed d.candidates attempts with
  | none => exact .inl ⟨rfl, by simp only [hplan]⟩
  | some renames =>
    refine .inr ⟨d.mark ++ Masking.applyRenames renames d.source, ?_, ?_⟩
    · simp only [hplan, Masking.run?, hl, Masking.textual_nil]
    · obtain ⟨⟨drawn, s⟩, hdrawn, rfl⟩ := Option.map_eq_some_iff.1 hplan
      have hmark : ∀ c ∈ d.mark, isWordChar c = false := by
        rw [Document.mark]
        split
        · exact List.forall_mem_singleton.2 (by decide +kernel)
        · exact fun _ h => absurd h List.not_mem_nil
      have hpieces := Masking.veiled_applyRenames (Masking.plan_spec hdrawn) d.source
      have hlayout := (Masking.keepsLayout_of_pieces hpieces).append_left hmark
      rw [Document.mark_append_source hd] at hlayout
      exact hlayout

/-- The name has a letter of two bytes, its mask has none. The member of that name stays. -/
theorem obfuscate_keeps_layout_umlaut :
    let input := "var näme = 1; näme(o.näme, x)".toList
    ∃ d out, (Document.read input).document = .ok d ∧ d.candidates.literals = []
      ∧ d.candidates.declarations.map Declaration.name = ["näme".toList]
      ∧ (obfuscate .textual 7 input 1).result = .ok out
      ∧ Masking.KeepsLayout (d.candidates.declarations.map Declaration.name) input out
      ∧ out = "var biDp = 1; biDp(o.näme, x)".toList := by
  intro input
  have hread : (Document.read input).document.toOption.map
      (fun d => (d.candidates.literals, d.candidates.declarations.map Declaration.name))
      = some ([], ["näme".toList]) := by
    decide +kernel
  have hresult : (obfuscate .textual 7 input 1).result.toOption.map id
      = some "var biDp = 1; biDp(o.näme, x)".toList := by
    decide +kernel
  obtain ⟨d, hd, h⟩ := exists_of_toOption_map hread
  obtain ⟨out, hout, hmasked⟩ := exists_of_toOption_map hresult
  obtain ⟨hl, hnames⟩ := Prod.mk.inj h
  rcases obfuscate_keeps_layout 7 1 hd hl with ⟨-, hfail⟩ | ⟨out', hout', hlayout⟩
  · exact absurd (hfail.symm.trans hout) nofun
  · obtain rfl := Except.ok.inj (hout'.symm.trans hout)
    exact ⟨d, out', hd, hl, hnames, hout, hlayout, hmasked⟩

end ScriptVeil
