import Mathlib.Data.List.Basic
import ScriptVeil.Proofs.Literal.Digits

namespace ScriptVeil.Literal

def controlEscapes : List (Char × UInt16) :=
  [('n', 0x0A), ('t', 0x09), ('r', 0x0D), ('b', 0x08), ('f', 0x0C), ('v', 0x0B)]

def lineEnds : List Text :=
  ["\n", "\r", "\r\n", "\u2028", "\u2029"].map String.toList

/-- How many digits an octal escape may have behind its first one. -/
def octalLimit (first : Char) : Nat :=
  if first ≤ '3' then 2 else 1

def specialEscapes : Text :=
  "ntrbfv\n\r\u2028\u2029xu".toList

def IsPlainEscape (c : Char) : Prop :=
  c ∉ specialEscapes ∧ isOctalDigit c = false

/-- One character or escape of a literal, its units and the text behind it. That text decides where
the item ends: an octal escape takes all the digits that it can. -/
inductive Item (bare : Char → Prop) : Text → Units → Text → Prop where
  | bare {c : Char} {us : Units} (h : bare c) (hc : c ≠ '\\') (hu : codeOfUnits? us = some c.toNat)
    (rest : Text) : Item bare [c] us rest
  | control {c : Char} {u : UInt16} (h : (c, u) ∈ controlEscapes) (rest : Text) :
    Item bare ['\\', c] [u] rest
  | continuation {s rest : Text} (h : s ∈ lineEnds) (hr : s = ['\r'] → ∀ c ∈ rest.head?, c ≠ '\n') :
    Item bare ('\\' :: s) [] rest
  | hex {digits : Text} {u : UInt16} (hl : digits.length = 2) (hd : digits.all isHexDigit = true)
    (hu : u.toNat = number 16 digits) (rest : Text) : Item bare ('\\' :: 'x' :: digits) [u] rest
  | unicode {digits : Text} {u : UInt16} (hl : digits.length = 4)
    (hd : digits.all isHexDigit = true) (hu : u.toNat = number 16 digits) (rest : Text) :
    Item bare ('\\' :: 'u' :: digits) [u] rest
  | braced {digits : Text} {us : Units} (hn : digits ≠ []) (hd : digits.all isHexDigit = true)
    (hv : number 16 digits ≤ 0x10FFFF) (hu : codeOfUnits? us = some (number 16 digits))
    (rest : Text) : Item bare ('\\' :: 'u' :: '{' :: (digits ++ ['}'])) us rest
  | octal {first : Char} {more rest : Text} {u : UInt16} (hf : isOctalDigit first = true)
    (hm : more.all isOctalDigit = true) (hl : more.length ≤ octalLimit first)
    (hr : more.length = octalLimit first ∨ ∀ c ∈ rest.head?, isOctalDigit c = false)
    (hu : u.toNat = number 8 (first :: more)) : Item bare ('\\' :: first :: more) [u] rest
  | plain {c : Char} {us : Units} (h : IsPlainEscape c) (hu : codeOfUnits? us = some c.toNat)
    (rest : Text) : Item bare ['\\', c] us rest

inductive Body (bare : Char → Prop) : Text → Units → Prop where
  | nil : Body bare [] []
  | cons {s rest : Text} {us vs : Units} (hs : Item bare s us rest) (h : Body bare rest vs) :
    Body bare (s ++ rest) (us ++ vs)

def IsBare (quote c : Char) : Prop :=
  c ≠ quote ∧ c ≠ '\n' ∧ c ≠ '\r'

/-- Whether a text is a string literal for some units. -/
def IsStringLiteral (raw : Text) (units : Units) : Prop :=
  ∃ quote body, isQuote quote = true ∧ raw = quote :: (body ++ [quote])
    ∧ Body (IsBare quote) body units

/-- An escape that is no item of a literal: its digits are broken off by an underscore or, in
braces, by any other character. -/
inductive BrokenEscape : Text → Prop where
  | hex {digits : Text} (hn : digits ≠ []) (hd : digits.all isHexDigit = true)
    (hl : digits.length < 2) (rest : Text) :
    BrokenEscape ('\\' :: 'x' :: (digits ++ '_' :: rest))
  | unicode {digits : Text} (hn : digits ≠ []) (hd : digits.all isHexDigit = true)
    (hl : digits.length < 4) (rest : Text) :
    BrokenEscape ('\\' :: 'u' :: (digits ++ '_' :: rest))
  | braced {digits : Text} {c : Char} (hn : digits ≠ []) (hd : digits.all isHexDigit = true)
    (hc : isHexDigit c = false) (hb : c ≠ '}') (rest : Text) :
    BrokenEscape ('\\' :: 'u' :: '{' :: (digits ++ c :: rest))

def HasBrokenEscape (raw : Text) : Prop :=
  ∃ quote body units s, isQuote quote = true ∧ raw = quote :: (body ++ (s ++ [quote]))
    ∧ Body (IsBare quote) body units ∧ BrokenEscape s

variable {bare : Char → Prop} {s t rest rest' body raw : Text} {us units : Units} {c : Char}
  {n : Nat}

/-- How an item is read does not depend on text that it cannot go on with. -/
theorem Item.of_head (h : Item bare s us rest)
    (hr : ∀ c ∈ rest'.head?, c ∈ rest.head? ∨ c ≠ '\n' ∧ isOctalDigit c = false) :
    Item bare s us rest' := by
  cases h with
  | bare hb hc hu => exact .bare hb hc hu rest'
  | control hc => exact .control hc rest'
  | continuation hs hn =>
    refine .continuation hs fun he c hc => ?_
    exact (hr c hc).elim (hn he c) And.left
  | hex hl hd hu => exact .hex hl hd hu rest'
  | unicode hl hd hu => exact .unicode hl hd hu rest'
  | braced hn hd hv hu => exact .braced hn hd hv hu rest'
  | octal hf hm hl hn hu =>
    refine .octal hf hm hl (hn.imp_right fun hn c hc => ?_) hu
    exact (hr c hc).elim (hn c) And.right
  | plain hc hu => exact .plain hc hu rest'

theorem exists_unit (h : n < 0x10000) : ∃ u : UInt16, u.toNat = n :=
  ⟨n.toUInt16, UInt16.toNat_ofNat_of_lt' h⟩

theorem Item.exists_hex (bare : Char → Prop) (hl : s.length = 2) (hd : s.all isHexDigit = true)
    (rest : Text) : ∃ units, Item bare ('\\' :: 'x' :: s) units rest := by
  have hlt : number 16 s < Nat.pow 16 2 := hl ▸ number_hex_lt hd
  obtain ⟨u, hu⟩ := exists_unit (Nat.lt_trans hlt (by decide))
  exact ⟨[u], .hex hl hd hu rest⟩

theorem Item.exists_unicode (bare : Char → Prop) (hl : s.length = 4)
    (hd : s.all isHexDigit = true) (rest : Text) :
    ∃ units, Item bare ('\\' :: 'u' :: s) units rest := by
  have hlt : number 16 s < Nat.pow 16 4 := hl ▸ number_hex_lt hd
  obtain ⟨u, hu⟩ := exists_unit hlt
  exact ⟨[u], .unicode hl hd hu rest⟩

theorem Item.exists_braced (bare : Char → Prop) (hn : s ≠ []) (hd : s.all isHexDigit = true)
    (hv : number 16 s ≤ 0x10FFFF) (rest : Text) :
    ∃ units, Item bare ('\\' :: 'u' :: '{' :: (s ++ ['}'])) units rest :=
  ⟨_, .braced hn hd hv (codeOfUnits?_unitsOfCode hv) rest⟩

theorem BrokenEscape.append (h : BrokenEscape s) (rest : Text) : BrokenEscape (s ++ rest) := by
  cases h with
  | hex hn hd hl later => simpa using BrokenEscape.hex hn hd hl (later ++ rest)
  | unicode hn hd hl later => simpa using BrokenEscape.unicode hn hd hl (later ++ rest)
  | braced hn hd hc hb later => simpa using BrokenEscape.braced hn hd hc hb (later ++ rest)

theorem length_takeWhile_take {p : Char → Bool} (n : Nat) (t : Text) :
    ((t.take n).takeWhile p).length ≤ n ∧ (((t.take n).takeWhile p).length = n
      ∨ ∀ d ∈ (t.drop ((t.take n).takeWhile p).length).head?, p d = false) := by
  induction t generalizing n with
  | nil =>
    rw [List.take_nil]
    exact ⟨Nat.zero_le n, .inr nofun⟩
  | cons c t ih =>
    cases n with
    | zero => exact ⟨Nat.le_refl 0, .inl rfl⟩
    | succ n =>
      rw [List.take_succ_cons]
      cases hc : p c with
      | false =>
        rw [List.takeWhile_cons_of_neg (by simp [hc])]
        refine ⟨Nat.zero_le _, .inr ?_⟩
        rintro _ ⟨⟩
        exact hc
      | true =>
        rw [List.takeWhile_cons_of_pos hc, List.length_cons, List.drop_succ_cons]
        obtain ⟨hle, hstop⟩ := ih n
        exact ⟨Nat.succ_le_succ hle, hstop.imp_left (congrArg (· + 1))⟩

theorem number_octal_lt_unit (hf : isOctalDigit c = true) (hm : s.all isOctalDigit = true)
    (hl : s.length ≤ octalLimit c) : number 8 (c :: s) < 0x10000 := by
  have hlimit : octalLimit c ≤ 2 := by
    rw [octalLimit]
    split <;> decide
  have hlt : number 8 (c :: s) < Nat.pow 8 (c :: s).length :=
    number_octal_lt (by rw [List.all_cons, hf, hm, Bool.and_self])
  have hle : Nat.pow 8 (c :: s).length ≤ Nat.pow 8 3 :=
    Nat.pow_le_pow_right (by decide) (Nat.succ_le_succ (Nat.le_trans hl hlimit))
  exact Nat.lt_trans (Nat.lt_of_lt_of_le hlt hle) (by decide)

theorem octalDigits_spec (c : Char) (t : Text) :
    (octalDigits c t).all isOctalDigit = true ∧ (octalDigits c t).length ≤ octalLimit c
      ∧ ((octalDigits c t).length = octalLimit c
        ∨ ∀ d ∈ (t.drop (octalDigits c t).length).head?, isOctalDigit d = false) :=
  ⟨List.all_takeWhile, length_takeWhile_take _ t⟩

theorem Item.exists_octal (bare : Char → Prop) (hc : isOctalDigit c = true) (t : Text) :
    ∃ units, Item bare ('\\' :: c :: octalDigits c t) units
      (t.drop (octalDigits c t).length) := by
  obtain ⟨hall, hle, hstop⟩ := octalDigits_spec c t
  obtain ⟨u, hu⟩ := exists_unit (number_octal_lt_unit hc hall hle)
  exact ⟨[u], .octal hc hall hle hstop hu⟩

theorem octalDigits_append_drop (c : Char) (t : Text) :
    octalDigits c t ++ t.drop (octalDigits c t).length = t := by
  have hp : octalDigits c t <+: t := (List.takeWhile_prefix _).trans (List.take_prefix _ _)
  exact List.prefix_iff_eq_append.1 hp

theorem escape?_of_not_special (h : c ∉ specialEscapes) (t : Text) :
    escape? (c :: t)
      = if isOctalDigit c then
          (digit? 8 c).bind fun first =>
            (octalCode? (octalLimit c) first t).map fun (code, rest) => ([code.toUInt16], rest)
        else some (Text.units [c], t) := by
  have hne : ∀ d ∈ specialEscapes, c ≠ d := by
    rintro d hd rfl
    exact h hd
  rw [escape?]
  any_goals exact hne _ (by decide)
  · rfl
  · exact fun _ hr _ => hne '\r' (by decide) hr
  · exact fun _ hu _ => hne 'u' (by decide) hu

theorem not_special_of_isOctalDigit (h : isOctalDigit c = true) : c ∉ specialEscapes := by
  intro hc
  have hall : specialEscapes.all (fun c => !isOctalDigit c) = true := by decide
  have hn := List.all_eq_true.1 hall c hc
  rw [h] at hn
  contradiction

theorem units_of_codeOfUnits? (h : codeOfUnits? us = some c.toNat) : us = Text.units [c] := by
  rw [(codeOfUnits?_eq_some_iff.1 h).2, Text.units, List.flatMap_singleton]

theorem hexCode?_unit {u : UInt16} (hn : n ≤ 4) (hl : s.length = n)
    (hd : s.all isHexDigit = true) (hu : u.toNat = number 16 s) (rest : Text) :
    (hexCode? n 0 (s ++ rest)).map (fun (code, rest) => ([code.toUInt16], rest))
      = some ([u], rest) := by
  have hcode : u.toUInt32.toNat = number 16 s := by rw [UInt16.toNat_toUInt32, hu]
  rw [(hexCode?_eq_some_iff hn).2 ⟨s, hl, hd, rfl, hcode⟩]
  simp

theorem exists_octalCode? (hf : isOctalDigit c = true) (hm : s.all isOctalDigit = true)
    (hl : s.length ≤ octalLimit c)
    (hr : s.length = octalLimit c ∨ ∀ d ∈ rest.head?, isOctalDigit d = false) :
    ∃ first code, digit? 8 c = some first
      ∧ octalCode? (octalLimit c) first (s ++ rest) = some (code, rest)
      ∧ code.toNat = number 8 (c :: s) ∧ code.toUInt16.toNat = code.toNat := by
  have hfit := number_octal_lt_unit hf hm hl
  obtain ⟨hlt, hhex⟩ := digitOf_lt_of_isOctalDigit hf
  obtain ⟨first, hfirst, hdigit⟩ := exists_digit? hhex hlt
  have hseen : first.toNat = number 8 [c] := by simpa [number] using hdigit
  obtain ⟨code, hcode, hvalue⟩ :=
    octalCode?_append hseen hm (Nat.lt_trans hfit (by decide)) hl hr
  refine ⟨first, code, hfirst, hcode, hvalue, ?_⟩
  rw [UInt32.toNat_toUInt16, hvalue]
  exact Nat.mod_eq_of_lt hfit

theorem escape?_octal {u : UInt16} (hf : isOctalDigit c = true) (hm : s.all isOctalDigit = true)
    (hl : s.length ≤ octalLimit c)
    (hr : s.length = octalLimit c ∨ ∀ d ∈ rest.head?, isOctalDigit d = false)
    (hu : u.toNat = number 8 (c :: s)) : escape? (c :: (s ++ rest)) = some ([u], rest) := by
  obtain ⟨first, code, hfirst, hcode, hvalue, hfits⟩ := exists_octalCode? hf hm hl hr
  have hunit : code.toUInt16 = u :=
    UInt16.toNat_inj.1 (hfits.trans (hvalue.trans hu.symm))
  rw [escape?_of_not_special (not_special_of_isOctalDigit hf), if_pos hf, hfirst,
    Option.bind_some, hcode, ← hunit]
  rfl

/-- The text of an item behind its backslash is read as its units. -/
theorem Item.escape?_eq (h : Item bare ('\\' :: s) us rest) :
    escape? (s ++ rest) = some (us, rest) := by
  generalize hs : '\\' :: s = s' at h
  cases h with
  | bare hb hc => exact absurd (List.cons.inj hs).1.symm hc
  | control hc =>
    obtain ⟨-, rfl⟩ := List.cons.inj hs
    simp only [controlEscapes, List.mem_cons, Prod.mk.injEq, List.not_mem_nil, or_false] at hc
    rcases hc with
      ⟨rfl, rfl⟩ | ⟨rfl, rfl⟩ | ⟨rfl, rfl⟩ | ⟨rfl, rfl⟩ | ⟨rfl, rfl⟩ | ⟨rfl, rfl⟩ <;> rfl
  | continuation hc hn =>
    obtain ⟨-, rfl⟩ := List.cons.inj hs
    simp only [lineEnds, List.map_cons, List.map_nil, List.mem_cons, List.not_mem_nil,
      or_false] at hc
    rcases hc with rfl | rfl | rfl | rfl | rfl
    case inr.inl =>
      -- A line feed behind the carriage return would belong to the same line end.
      change escape? ('\r' :: rest) = some ([], rest)
      rw [escape?]
      rintro t rfl
      exact hn rfl '\n' rfl rfl
    all_goals rfl
  | hex hl hd hu =>
    obtain ⟨-, rfl⟩ := List.cons.inj hs
    exact hexCode?_unit (by decide) hl hd hu rest
  | unicode hl hd hu =>
    obtain ⟨-, rfl⟩ := List.cons.inj hs
    obtain ⟨c, digits, rfl⟩ := List.exists_cons_of_length_eq_add_one hl
    rw [List.cons_append, escape?, hexCode?_unit (by decide) hl hd hu]
    intro t ht
    obtain ⟨rfl, -⟩ := List.cons.inj ht
    contradiction
  | @braced digits _ hn hd hv hu =>
    obtain ⟨-, rfl⟩ := List.cons.inj hs
    have htext : '{' :: (digits ++ ['}']) ++ rest = '{' :: (digits ++ '}' :: rest) := by simp
    rw [List.cons_append, htext, escape?]
    exact bracedUnits?_eq_some_iff.2 ⟨digits, hn, hd, rfl, hu⟩
  | octal hf hm hl hr hu =>
    obtain ⟨-, rfl⟩ := List.cons.inj hs
    exact escape?_octal hf hm hl hr hu
  | plain hc hu =>
    obtain ⟨-, rfl⟩ := List.cons.inj hs
    rw [List.singleton_append, escape?_of_not_special hc.1, if_neg (by simp [hc.2]),
      units_of_codeOfUnits? hu]

theorem bodyUnits?_backslash {r : Option (Units × Text)} (h : escape? t = r) :
    bodyUnits? ('\\' :: t) = r.bind fun p => (bodyUnits? p.2).map (p.1 ++ ·) := by
  subst h
  rw [bodyUnits?, if_pos rfl]
  split
  · next he =>
    rw [he]
    rfl
  · next us rest he => simp only [he, Option.bind_some]

theorem Item.bodyUnits?_eq (h : Item bare s us rest) :
    bodyUnits? (s ++ rest) = (bodyUnits? rest).map (us ++ ·) := by
  have hescape {s : Text} (h : Item bare ('\\' :: s) us rest) :
      bodyUnits? ('\\' :: s ++ rest) = (bodyUnits? rest).map (us ++ ·) :=
    bodyUnits?_backslash h.escape?_eq
  cases h with
  | bare hb hc hu => rw [List.singleton_append, bodyUnits?, if_neg hc, units_of_codeOfUnits? hu]
  | control hc => exact hescape (.control hc rest)
  | continuation hc hn => exact hescape (.continuation hc hn)
  | hex hl hd hu => exact hescape (.hex hl hd hu rest)
  | unicode hl hd hu => exact hescape (.unicode hl hd hu rest)
  | braced hn hd hv hu => exact hescape (.braced hn hd hv hu rest)
  | octal hf hm hl hn hu => exact hescape (.octal hf hm hl hn hu)
  | plain hc hu => exact hescape (.plain hc hu rest)

theorem Body.bodyUnits?_append (h : Body bare body units)
    (hr : ∀ c ∈ rest.head?, c ≠ '\n' ∧ isOctalDigit c = false) :
    bodyUnits? (body ++ rest) = (bodyUnits? rest).map (units ++ ·) := by
  induction h with
  | nil => exact (congrFun Option.map_id _).symm
  | @cons s body us vs hs h ih =>
    have hitem : Item bare s us (body ++ rest) := by
      apply hs.of_head
      intro c hc
      cases body with
      | nil => exact .inr (hr c hc)
      | cons d body => exact .inl hc
    rw [List.append_assoc, hitem.bodyUnits?_eq, ih, Option.map_map]
    simp only [List.append_assoc]
    rfl

theorem Body.bodyUnits?_eq (h : Body bare body units) : bodyUnits? body = some units := by
  have hnil : ∀ c ∈ ([] : Text).head?, c ≠ '\n' ∧ isOctalDigit c = false := nofun
  have hu := h.bodyUnits?_append hnil
  rw [List.append_nil, bodyUnits?, Option.map_some, List.append_nil] at hu
  exact hu

theorem BrokenEscape.bodyUnits?_eq (h : BrokenEscape s) : bodyUnits? s = none := by
  have hnone {t : Text} (h : escape? t = none) : bodyUnits? ('\\' :: t) = none :=
    bodyUnits?_backslash h
  cases h with
  | hex hn hd hl rest =>
    apply hnone
    rw [escape?, hexCode?_underscore hl]
    rfl
  | unicode hn hd hl rest =>
    apply hnone
    obtain ⟨c, digits, rfl⟩ := List.exists_cons_of_ne_nil hn
    rw [escape?, hexCode?_underscore hl]
    · rfl
    · intro t ht
      obtain ⟨rfl, -⟩ := List.cons.inj ht
      contradiction
  | braced hn hd hc hb rest =>
    apply hnone
    rw [escape?, bracedUnits?_broken hd hc hb]

theorem decode_quoted {quote : Char} (h : isQuote quote = true) (body : Text) :
    decode (quote :: (body ++ [quote])) = bodyUnits? body := by
  rw [decode, List.getLast?_concat, List.dropLast_concat]
  exact if_pos ⟨h, rfl⟩

theorem decode_of_isStringLiteral (h : IsStringLiteral raw units) : decode raw = some units := by
  obtain ⟨quote, body, hq, rfl, hbody⟩ := h
  rw [decode_quoted hq, hbody.bodyUnits?_eq]

theorem decode_of_hasBrokenEscape (h : HasBrokenEscape raw) : decode raw = none := by
  obtain ⟨quote, body, units, s, hq, rfl, hbody, hs⟩ := h
  have hhead : ∀ c ∈ s.head?, c ≠ '\n' ∧ isOctalDigit c = false := by
    cases hs <;>
    · rintro _ ⟨⟩
      decide
  rw [← List.append_assoc, decode_quoted hq, hbody.bodyUnits?_append hhead, hs.bodyUnits?_eq]
  rfl

end ScriptVeil.Literal
