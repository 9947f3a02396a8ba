import ScriptVeil.Literal.Digit

namespace ScriptVeil.Literal

/-- Reads exactly `n` hexadecimal digits behind a code; gives the code and what is left. -/
def hexCode? : Nat → UInt32 → Text → Option (UInt32 × Text)
  | 0, code, t => some (code, t)
  | _ + 1, _, [] => none
  | n + 1, code, c :: t => (digit? 16 c).bind fun digit => hexCode? n (code * 16 + digit) t

/-- A code with one more hexadecimal digit, unless that takes more than 32 bits. -/
def pushDigit? (code : UInt32) (c : Char) : Option UInt32 :=
  (checkedMul? code 16).bind fun shifted => (digit? 16 c).bind (checkedAdd? shifted)

/-- Reads all hexadecimal digits behind a code; gives the code, how many digits there are with the
`count` before, and what is left. -/
def bracedDigits? : UInt32 → Nat → Text → Option (UInt32 × Nat × Text)
  | code, count, [] => some (code, count, [])
  | code, count, c :: t =>
    if isHexDigit c then (pushDigit? code c).bind fun code => bracedDigits? code (count + 1) t
    else some (code, count, c :: t)

/-- The units of a code point, which may be half of a surrogate pair. -/
def codeUnits? (code : UInt32) : Option Units :=
  if code.toNat < UInt16.size then some [code.toUInt16]
  else if h : code.isValidChar then some (Text.units [⟨code, h⟩])
  else none

def bracedUnits? (t : Text) : Option (Units × Text) :=
  match bracedDigits? 0 0 t with
  | some (code, count, '}' :: rest) =>
    if count = 0 then none else (codeUnits? code).map fun units => (units, rest)
  | _ => none

/-- Reads up to `n` octal digits behind a code; gives the code and what is left. -/
def octalCode? : Nat → UInt32 → Text → Option (UInt32 × Text)
  | 0, code, t => some (code, t)
  | _ + 1, code, [] => some (code, [])
  | n + 1, code, c :: t =>
    if isOctalDigit c then (digit? 8 c).bind fun digit => octalCode? n (code * 8 + digit) t
    else some (code, c :: t)

/-- The units of the escape whose text, without the backslash, is at the front, and what
follows it. -/
def escape? : Text → Option (Units × Text)
  | [] => none
  | 'n' :: t => some ([0x0A], t)
  | 't' :: t => some ([0x09], t)
  | 'r' :: t => some ([0x0D], t)
  | 'b' :: t => some ([0x08], t)
  | 'f' :: t => some ([0x0C], t)
  | 'v' :: t => some ([0x0B], t)
  | '\r' :: '\n' :: t => some ([], t)
  | '\r' :: t => some ([], t)
  | '\n' :: t => some ([], t)
  | '\u2028' :: t => some ([], t)
  | '\u2029' :: t => some ([], t)
  | 'x' :: t => (hexCode? 2 0 t).map fun (code, rest) => ([code.toUInt16], rest)
  | 'u' :: '{' :: t => bracedUnits? t
  | 'u' :: t => (hexCode? 4 0 t).map fun (code, rest) => ([code.toUInt16], rest)
  | c :: t =>
    if isOctalDigit c then
      (digit? 8 c).bind fun first =>
        (octalCode? (if c ≤ '3' then 2 else 1) first t).map fun (code, rest) =>
          ([code.toUInt16], rest)
    else some (Text.units [c], t)

theorem hexCode?_length {n : Nat} {code code' : UInt32} {t rest : Text}
    (h : hexCode? n code t = some (code', rest)) : rest.length ≤ t.length := by
  induction n generalizing code t with
  | zero =>
    obtain ⟨-, rfl⟩ := Prod.mk.inj (Option.some.inj h)
    exact Nat.le_refl _
  | succ n ih =>
    cases t with
    | nil => contradiction
    | cons c t =>
      obtain ⟨digit, -, h⟩ := Option.bind_eq_some_iff.1 h
      exact Nat.le_succ_of_le (ih h)

theorem bracedDigits?_length {count count' : Nat} {code code' : UInt32} {t rest : Text}
    (h : bracedDigits? code count t = some (code', count', rest)) : rest.length ≤ t.length := by
  induction t generalizing code count with
  | nil =>
    obtain ⟨-, -, rfl⟩ : _ ∧ _ ∧ [] = rest := by simpa [bracedDigits?] using h
    exact Nat.le_refl _
  | cons c t ih =>
    rw [bracedDigits?] at h
    split at h
    · obtain ⟨code, -, h⟩ := Option.bind_eq_some_iff.1 h
      exact Nat.le_succ_of_le (ih h)
    · obtain ⟨-, -, rfl⟩ : _ ∧ _ ∧ c :: t = rest := by simpa using h
      exact Nat.le_refl _

theorem bracedUnits?_length {units : Units} {t rest : Text}
    (h : bracedUnits? t = some (units, rest)) : rest.length ≤ t.length := by
  rw [bracedUnits?] at h
  split at h
  · next hd =>
    split at h
    · contradiction
    · obtain ⟨_, -, he⟩ := Option.map_eq_some_iff.1 h
      obtain ⟨-, rfl⟩ := Prod.mk.inj he
      exact Nat.le_of_succ_le (bracedDigits?_length hd)
  · contradiction

theorem octalCode?_length {n : Nat} {code code' : UInt32} {t rest : Text}
    (h : octalCode? n code t = some (code', rest)) : rest.length ≤ t.length := by
  induction n generalizing code t with
  | zero =>
    obtain ⟨-, rfl⟩ := Prod.mk.inj (Option.some.inj h)
    exact Nat.le_refl _
  | succ n ih =>
    cases t with
    | nil =>
      obtain ⟨-, rfl⟩ := Prod.mk.inj (Option.some.inj h)
      exact Nat.le_refl _
    | cons c t =>
      rw [octalCode?] at h
      split at h
      · obtain ⟨digit, -, h⟩ := Option.bind_eq_some_iff.1 h
        exact Nat.le_succ_of_le (ih h)
      · obtain ⟨-, rfl⟩ := Prod.mk.inj (Option.some.inj h)
        exact Nat.le_refl _

theorem escape?_length {t rest : Text} {units : Units} (h : escape? t = some (units, rest)) :
    rest.length < t.length := by
  unfold escape? at h
  split at h
  case h_1 => contradiction
  case h_13 | h_15 =>
    obtain ⟨⟨code, r⟩, hr, he⟩ := Option.map_eq_some_iff.1 h
    obtain ⟨-, rfl⟩ := Prod.mk.inj he
    exact Nat.lt_succ_of_le (hexCode?_length hr)
  case h_14 => exact Nat.lt_succ_of_lt (Nat.lt_succ_of_le (bracedUnits?_length h))
  case h_16 =>
    split at h
    · obtain ⟨first, -, h⟩ := Option.bind_eq_some_iff.1 h
      obtain ⟨⟨code, r⟩, hr, he⟩ := Option.map_eq_some_iff.1 h
      obtain ⟨-, rfl⟩ := Prod.mk.inj he
      exact Nat.lt_succ_of_le (octalCode?_length hr)
    · obtain ⟨-, rfl⟩ := Prod.mk.inj (Option.some.inj h)
      exact Nat.lt_succ_self _
  all_goals
    obtain ⟨-, rfl⟩ := Prod.mk.inj (Option.some.inj h)
    simp only [List.length_cons]
    omega

def bodyUnits? (t : Text) : Option Units :=
  match t with
  | [] => some []
  | c :: t =>
    if c = '\\' then
      match h : escape? t with
      | none => none
      | some (units, rest) =>
        have := escape?_length h
        (bodyUnits? rest).map (units ++ ·)
    else (bodyUnits? t).map (Text.units [c] ++ ·)
termination_by t.length

def isQuote (c : Char) : Bool :=
  c = '"' || c = '\''

/-- The units of a quoted literal, or nothing if the text is not one. -/
def decode (raw : Text) : Option Units :=
  match raw with
  | [] => none
  | q :: t => if isQuote q ∧ t.getLast? = some q then bodyUnits? t.dropLast else none

end ScriptVeil.Literal
