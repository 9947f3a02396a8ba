import ScriptVeil.Obfuscation

namespace ScriptVeil

open Script

def Obfuscation.marked (o : Obfuscation) : Obfuscation :=
  ⟨o.events, o.result.map (byteOrderMark :: ·)⟩

def Obfuscation.syntaxError? (o : Obfuscation) : Option Fault :=
  match o.result with
  | .error (.syntaxError fault) => some fault
  | _ => none

variable {s : Text} {strategy : Strategy} {seed : UInt64}

@[simp]
theorem syntaxError?_marked (o : Obfuscation) : o.marked.syntaxError? = o.syntaxError? := by
  obtain ⟨events, result⟩ := o
  cases result <;> rfl

@[simp]
theorem withoutMark_cons (s : Text) : withoutMark (byteOrderMark :: s) = s := by
  rw [withoutMark, if_pos rfl]

theorem withoutMark_eq_self (h : s.head? ≠ some byteOrderMark) : withoutMark s = s := by
  cases s with
  | nil => rfl
  | cons c s => rw [withoutMark, if_neg fun hc => h (congrArg some hc)]

theorem eq_cons_of_head (h : s.head? = some byteOrderMark) : ∃ u, s = byteOrderMark :: u := by
  cases s with
  | nil => contradiction
  | cons c u => exact ⟨u, congrArg (· :: u) (Option.some.inj h)⟩

theorem Script.Document.of_read {input : Text} {d : Document}
    (h : (Document.read input).document = .ok d) :
    d.marked = decide (input.head? = some byteOrderMark) ∧ d.source = withoutMark input
      ∧ (parse d.source).body = .ok d.body
      ∧ (parse d.source).tokens = (Document.read input).tokens
      ∧ (parse d.source).mistakes = (Document.read input).mistakes := by
  unfold Document.read at h ⊢
  dsimp only at h ⊢
  cases hbody : (parse (withoutMark input)).body with
  | error fault =>
    rw [hbody] at h
    contradiction
  | ok body =>
    rw [hbody] at h
    cases h
    exact ⟨rfl, rfl, hbody, rfl, rfl⟩

theorem parse_cons (h : s.head? ≠ some byteOrderMark) : parse (byteOrderMark :: s) = parse s := by
  rw [parse, parse, withoutMark_cons, withoutMark_eq_self h]

theorem read_cons (h : s.head? ≠ some byteOrderMark) :
    Document.read (byteOrderMark :: s) = { Document.read s with
      document := (Document.read s).document.map ({ · with marked := true }) } := by
  have hm : decide (s.head? = some byteOrderMark) = false := decide_eq_false h
  simp only [Document.read, withoutMark_cons, withoutMark_eq_self h, hm]
  cases (parse s).body <;> rfl

theorem read_cons_cons (h : s.head? ≠ some byteOrderMark) :
    Document.read (byteOrderMark :: byteOrderMark :: s)
      = { Document.read (byteOrderMark :: s) with
        document := (Document.read (byteOrderMark :: s)).document.map
          ({ · with source := byteOrderMark :: s }) } := by
  simp only [Document.read, withoutMark_cons, parse_cons h]
  cases (parse s).body <;> rfl

theorem run?_marked (d : Document) (hd : d.marked = false) (renames : List Rename)
    (literals : List Quotation) :
    Masking.run? strategy { d with marked := true } renames literals
      = (Masking.run? strategy d renames literals).map (byteOrderMark :: ·) := by
  have h : d.mark = [] := by rw [Document.mark, hd]; rfl
  have h' : ({ d with marked := true } : Document).mark = [byteOrderMark] := rfl
  cases strategy with
  | textual =>
    rw [Masking.run?, Masking.run?, h, h']
    rfl
  | ranged =>
    simp only [Masking.run?, h, h', Option.map_map]
    rfl

theorem ofDocument_marked (d : Document) (hd : d.marked = false) :
    Obfuscation.ofDocument strategy seed { d with marked := true }
      = (Obfuscation.ofDocument strategy seed d).marked := by
  have hc : ({ d with marked := true } : Document).candidates? = d.candidates? := rfl
  rw [Obfuscation.ofDocument, Obfuscation.ofDocument, hc]
  cases d.candidates? with
  | none => rfl
  | some c =>
    simp only
    cases Obfuscation.renamesFor seed c with
    | none => rfl
    | some renames =>
      simp only [run?_marked d hd]
      cases Masking.run? strategy d renames c.literals <;> rfl

theorem syntaxError?_ofDocument (d : Document) :
    (Obfuscation.ofDocument strategy seed d).syntaxError? = none := by
  rw [Obfuscation.ofDocument]
  cases d.candidates? with
  | none => rfl
  | some c =>
    simp only
    cases Obfuscation.renamesFor seed c with
    | none => rfl
    | some renames =>
      simp only [Obfuscation.syntaxError?]
      cases Masking.run? strategy d renames c.literals <;> rfl

theorem syntaxError?_obfuscate (strategy : Strategy) (seed : UInt64) (s : Text) :
    (obfuscate strategy seed s).syntaxError?
      = match (Document.read s).document with
        | .ok _ => none
        | .error fault => some fault := by
  rw [obfuscate]
  cases (Document.read s).document with
  | error fault => rfl
  | ok d => exact syntaxError?_ofDocument d

theorem marked_eq_false {d : Document} (h : s.head? ≠ some byteOrderMark)
    (hd : (Document.read s).document = .ok d) : d.marked = false := by
  rw [Document.read] at hd
  cases hb : (parse (withoutMark s)).body with
  | error fault => simp only [hb, Except.map, reduceCtorEq] at hd
  | ok body =>
    simp only [hb, Except.map, Except.ok.injEq] at hd
    rw [← hd]
    exact decide_eq_false h

theorem obfuscate_cons (h : s.head? ≠ some byteOrderMark) :
    obfuscate strategy seed (byteOrderMark :: s) = (obfuscate strategy seed s).marked := by
  rw [obfuscate, obfuscate, read_cons h]
  cases hd : (Document.read s).document with
  | error fault => rfl
  | ok d =>
    simp only [Except.map, ofDocument_marked d (marked_eq_false h hd)]
    rfl

theorem syntaxError?_cons_cons (h : s.head? ≠ some byteOrderMark) :
    (obfuscate strategy seed (byteOrderMark :: byteOrderMark :: s)).syntaxError?
      = (obfuscate strategy seed (byteOrderMark :: s)).syntaxError? := by
  rw [syntaxError?_obfuscate, syntaxError?_obfuscate, read_cons_cons h]
  cases (Document.read (byteOrderMark :: s)).document <;> rfl

/-- A mark in front of a text with at most one mark does not change whether the script has a syntax
error, and which one. In front of a text without a mark, all it does is to come back in front of the
output. -/
theorem obfuscate_mark (h : ¬ [byteOrderMark, byteOrderMark] <+: s) :
    (obfuscate strategy seed (byteOrderMark :: s)).syntaxError?
      = (obfuscate strategy seed s).syntaxError?
      ∧ (s.head? ≠ some byteOrderMark →
        obfuscate strategy seed (byteOrderMark :: s) = (obfuscate strategy seed s).marked) := by
  refine ⟨?_, obfuscate_cons⟩
  by_cases hs : s.head? = some byteOrderMark
  · obtain ⟨u, rfl⟩ := eq_cons_of_head hs
    refine syntaxError?_cons_cons fun hu => ?_
    obtain ⟨v, rfl⟩ := eq_cons_of_head hu
    exact h ⟨v, rfl⟩
  · rw [obfuscate_cons hs, syntaxError?_marked]

theorem obfuscate_mark_call :
    let s := "foo(\"abc\")".toList
    ¬ [byteOrderMark, byteOrderMark] <+: s ∧ s.head? ≠ some byteOrderMark
      ∧ obfuscate .textual 0 (byteOrderMark :: s) = (obfuscate .textual 0 s).marked
      ∧ (obfuscate .textual 0 (byteOrderMark :: s)).result.toOption
        = some "\uFEFFfoo(String.fromCharCode.apply(null, [97,98,99]))".toList := by
  intro s
  have hn : ¬ [byteOrderMark, byteOrderMark] <+: s := by decide
  have hs : s.head? ≠ some byteOrderMark := by decide
  have h : obfuscate .textual 0 (byteOrderMark :: s) = (obfuscate .textual 0 s).marked :=
    (obfuscate_mark hn).2 hs
  exact ⟨hn, hs, h, by decide +kernel⟩

/-- The mark that a text already has shifts the literals that are found in it by one character. -/
theorem obfuscate_mark_shifts :
    (obfuscate .textual 0 "\uFEFFfoo(\"abc\")".toList).result.toOption
        = some "\uFEFFfoo(String.fromCharCode.apply(null, [97,98,99]))".toList
      ∧ (obfuscate .textual 0 "\uFEFF\uFEFFfoo(\"abc\")".toList).result.toOption
        = some "\uFEFF\uFEFFfString.fromCharCode.apply(null, [97,98,99])bc\")".toList := by
  constructor <;> decide +kernel

end ScriptVeil
