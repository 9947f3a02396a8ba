import Mathlib.Data.List.Basic
import ScriptVeil.Literal.Encoding
import ScriptVeil.Proofs.Text.CharClass
import ScriptVeil.Script.Scan.Gap

namespace ScriptVeil.Literal

def unitOfNumeral? (numeral : Text) : Option UInt16 :=
  let n := Nat.ofDigitChars 10 numeral 0
  if numeral ≠ [] ∧ numeral.all Char.isDigit ∧ n < 0x10000 then some n.toUInt16 else none

/-- The units of the numerals between commas. Nothing at all is the empty list. -/
def unitsOfNumerals? (t : Text) : Option Units :=
  if t = [] then some [] else (t.splitOn ',').mapM unitOfNumeral?

/-- The units of the string that an expression builds from their numerals. -/
def unitsOfEncoding? (t : Text) : Option Units := do
  let call ← encodingHead.isPrefixOf? t
  let list ← encodingTail.isSuffixOf? call
  unitsOfNumerals? list

/-- The characters with the Unicode property Quotation_Mark, and the back-tick. -/
def quotationMarks : CharSet :=
  [(0x22, 0x22), (0x27, 0x27), (0x60, 0x60), (0xAB, 0xAB), (0xBB, 0xBB), (0x2018, 0x201F),
   (0x2039, 0x203A), (0x2E42, 0x2E42), (0x300C, 0x300F), (0x301D, 0x301F), (0xFE41, 0xFE44),
   (0xFF02, 0xFF02), (0xFF07, 0xFF07), (0xFF62, 0xFF63)]

def encodingChars : CharSet :=
  [(0x20, 0x20), (0x28, 0x29), (0x2C, 0x2C), (0x2E, 0x2E), (0x30, 0x39), (0x41, 0x5B),
   (0x5D, 0x5D), (0x61, 0x7A)]

variable {a b s t : Text} {c : Char} {units : Units}

theorem encodingChars_apart_quotationMarks : CharSet.Apart encodingChars quotationMarks := by
  decide

theorem unitOfNumeral?_toDigits (u : UInt16) :
    unitOfNumeral? (Nat.toDigits 10 u.toNat) = some u := by
  have hvalue : Nat.ofDigitChars 10 (Nat.toDigits 10 u.toNat) 0 = u.toNat :=
    Nat.ofDigitChars_toDigits (by decide) (by decide)
  have hdigits : (Nat.toDigits 10 u.toNat).all Char.isDigit = true := by
    rw [List.all_eq_true]
    exact fun c hc => Nat.isDigit_of_mem_toDigits (by decide) (by decide) hc
  have hlt : u.toNat < 0x10000 := u.toNat_lt
  rw [unitOfNumeral?, hvalue, if_pos ⟨Nat.toDigits_ne_nil, hdigits, hlt⟩]
  exact congrArg some UInt16.ofNat_toNat

theorem mem_numerals (h : c ∈ numerals units) : c = ',' ∨ c.isDigit = true := by
  have hdigit (u : UInt16) (h : c ∈ Nat.toDigits 10 u.toNat) : c.isDigit = true :=
    Nat.isDigit_of_mem_toDigits (by decide) (by decide) h
  rw [numerals] at h
  induction units with
  | nil => contradiction
  | cons u units ih =>
    cases units with
    | nil =>
      rw [List.map_singleton, List.intercalate_singleton] at h
      exact .inr (hdigit u h)
    | cons v units =>
      rw [List.map_cons, List.map_cons, List.intercalate_cons_cons, List.append_assoc,
        List.mem_append, List.mem_append] at h
      rcases h with h | h | h
      · exact .inr (hdigit u h)
      · exact .inl (List.mem_singleton.1 h)
      · exact ih h

theorem mapM_unitOfNumeral? (units : Units) :
    (units.map fun u => Nat.toDigits 10 u.toNat).mapM unitOfNumeral? = some units := by
  induction units with
  | nil => rfl
  | cons u units ih =>
    rw [List.map_cons, List.mapM_cons, unitOfNumeral?_toDigits, ih]
    rfl

theorem numerals_cons_ne_nil (u : UInt16) (units : Units) : numerals (u :: units) ≠ [] := by
  rw [numerals, List.map_cons]
  cases units.map fun u => Nat.toDigits 10 u.toNat with
  | nil =>
    rw [List.intercalate_singleton]
    exact Nat.toDigits_ne_nil
  | cons v vs =>
    rw [List.intercalate_cons_cons, List.append_assoc]
    exact List.append_ne_nil_of_left_ne_nil Nat.toDigits_ne_nil _

theorem unitsOfNumerals?_numerals (units : Units) :
    unitsOfNumerals? (numerals units) = some units := by
  cases units with
  | nil => rfl
  | cons u units =>
    have hcomma : ∀ l ∈ (u :: units).map (fun u => Nat.toDigits 10 u.toNat), ',' ∉ l := by
      intro l hl hmem
      obtain ⟨v, -, rfl⟩ := List.mem_map.1 hl
      have hdigit : Char.isDigit ',' = true :=
        Nat.isDigit_of_mem_toDigits (by decide) (by decide) hmem
      contradiction
    rw [unitsOfNumerals?, if_neg (numerals_cons_ne_nil u units), numerals,
      List.splitOn_intercalate ',' hcomma (List.cons_ne_nil _ _)]
    exact mapM_unitOfNumeral? (u :: units)

theorem unitsOfEncoding?_encode (units : Units) : unitsOfEncoding? (encode units) = some units := by
  have hcall : encodingHead.isPrefixOf? (encode units) = some (numerals units ++ encodingTail) := by
    rw [List.isPrefixOf?_eq_some_iff_append_eq, encode, List.append_assoc]
  have hlist : encodingTail.isSuffixOf? (numerals units ++ encodingTail)
      = some (numerals units) := by
    rw [List.isSuffixOf?_eq_some_iff_append_eq]
  rw [unitsOfEncoding?, hcall, Option.bind_eq_bind, Option.bind_some, hlist, Option.bind_some,
    unitsOfNumerals?_numerals]

theorem encodingChars_has_of_isDigit (h : c.isDigit = true) : encodingChars.has c = true := by
  rw [Char.isDigit, Bool.and_eq_true, decide_eq_true_eq, decide_eq_true_eq] at h
  exact CharSet.has_iff.2 ⟨(0x30, 0x39), by decide, h⟩

theorem mem_encode (h : c ∈ encode units) : encodingChars.has c = true := by
  have hframe : (encodingHead ++ encodingTail).all encodingChars.has = true := by decide
  rw [List.all_append, Bool.and_eq_true] at hframe
  rw [encode, List.mem_append, List.mem_append] at h
  rcases h with (h | h) | h
  · exact List.all_eq_true.1 hframe.1 c h
  · rcases mem_numerals h with rfl | h
    · decide
    · exact encodingChars_has_of_isDigit h
  · exact List.all_eq_true.1 hframe.2 c h

theorem isLineEnd_eq_false_of_has (h : encodingChars.has c = true) :
    Script.isLineEnd c = false := by
  rw [← Bool.not_eq_true]
  intro hc
  simp only [Script.isLineEnd, Bool.or_eq_true, decide_eq_true_eq] at hc
  rcases hc with ((rfl | rfl) | rfl) | rfl <;> contradiction

/-- What stands in front of a text is empty if the whole starts with a character of that text that
it has nowhere else. -/
theorem eq_nil_of_append_eq_cons (h : a ++ s = c :: t) (hs : c ∈ s) (ht : c ∉ t) : a = [] := by
  cases a with
  | nil => rfl
  | cons d a =>
    obtain ⟨-, rfl⟩ := List.cons.inj h
    exact absurd (List.mem_append_right a hs) ht

theorem eq_nil_of_append_eq_concat (h : s ++ b = t ++ [c]) (hs : c ∈ s) (ht : c ∉ t) : b = [] := by
  have hreverse := congrArg List.reverse h
  rw [List.reverse_append, List.reverse_concat] at hreverse
  exact List.reverse_eq_nil_iff.1 (eq_nil_of_append_eq_cons hreverse (List.mem_reverse.2 hs)
    (mt List.mem_reverse.1 ht))

theorem exists_encode_eq_cons (units : Units) : ∃ t, encode units = 'S' :: t ∧ 'S' ∉ t := by
  refine ⟨encodingHead.tail ++ numerals units ++ encodingTail, rfl, ?_⟩
  rw [List.mem_append, List.mem_append]
  rintro ((h | h) | h)
  · exact absurd h (by decide)
  · exact absurd (mem_numerals h) (by decide)
  · exact absurd h (by decide)

theorem exists_encode_eq_concat (units : Units) : ∃ t, encode units = t ++ [')'] ∧ ')' ∉ t := by
  refine ⟨encodingHead ++ numerals units ++ [']'], ?_, ?_⟩
  · rw [List.append_assoc _ [']'], List.singleton_append]
    rfl
  · rw [List.mem_append, List.mem_append]
    rintro ((h | h) | h)
    · exact absurd h (by decide)
    · exact absurd (mem_numerals h) (by decide)
    · exact absurd h (by decide)

/-- An encoding has no other one as a proper part. -/
theorem encode_eq_of_isInfix {vs : Units} (h : encode units <:+: encode vs) :
    encode units = encode vs := by
  obtain ⟨a, b, h⟩ := h
  obtain ⟨t, ht, hfirst⟩ := exists_encode_eq_cons vs
  obtain ⟨t', ht', hlast⟩ := exists_encode_eq_concat vs
  obtain ⟨s, hs, -⟩ := exists_encode_eq_cons units
  obtain ⟨s', hs', -⟩ := exists_encode_eq_concat units
  have hb : b = [] := by
    refine eq_nil_of_append_eq_concat (h.trans ht') ?_ hlast
    rw [hs']
    simp
  have ha : a = [] := by
    rw [hb, List.append_nil] at h
    refine eq_nil_of_append_eq_cons (h.trans ht) ?_ hfirst
    rw [hs]
    exact List.mem_cons_self
  rw [← h, ha, hb, List.append_nil, List.nil_append]

/-- Encodings are a lossless code for all lists of units: they are read back as they were, have
neither quotation marks nor backslashes nor line ends, and none is a proper part of another. -/
theorem encode_lossless :
    (∀ units, unitsOfEncoding? (encode units) = some units)
    ∧ Function.Injective encode
    ∧ (∀ units, ∀ c ∈ encode units, quotationMarks.has c = false ∧ c ≠ '\\'
      ∧ Script.isLineEnd c = false)
    ∧ ∀ units vs, encode units <:+: encode vs → units = vs := by
  have hinj : Function.Injective encode := by
    intro units vs h
    have hread := congrArg unitsOfEncoding? h
    rw [unitsOfEncoding?_encode, unitsOfEncoding?_encode] at hread
    exact Option.some.inj hread
  refine ⟨unitsOfEncoding?_encode, hinj, ?_, fun units vs h => hinj (encode_eq_of_isInfix h)⟩
  intro units c hc
  have hchar := mem_encode hc
  refine ⟨encodingChars_apart_quotationMarks.not_has hchar, ?_, isLineEnd_eq_false_of_has hchar⟩
  rintro rfl
  contradiction

end ScriptVeil.Literal
