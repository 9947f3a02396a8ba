import ScriptVeil.Script.Parser.Grammar

namespace ScriptVeil.Script.Parser

def anyWord : Parser Ident := do
  match ← current with
  | .word name =>
    take
    return ⟨name, (← get).last⟩
  | _ => fail .nameExpected

/-- A variable or label name. Reserved words are faults, except that `yield` and `await` may be
admitted. -/
def identifier (admitYield admitAwait : Bool) : Parser Ident := do
  let id ← anyWord
  let start := id.span.start
  let c ← read
  if id.name = "enum".toList then
    note start (.reservedName id.name)
    return id
  else if id.name = "await".toList then
    if c.inStaticBlock then failAt start .nameExpected
    else if c.inAsync then failAt start .awaitAsName
    else if admitAwait then return id
    else failAt start .nameExpected
  else if id.name = "yield".toList then
    if admitYield then return id else failAt start .nameExpected
  else if id.name = "let".toList then return id
  else if isKeyword id.name then failAt start .nameExpected
  else
    if c.inField && id.name = "arguments".toList then note start .argumentsInField
    return id

def reference : Parser Ident := do
  let c ← read
  identifier (!c.inGenerator) (!c.inAsync)

def bindingName (denyLet : Bool) : Parser Ident := do
  if denyLet then
    if (← current) = .word "let".toList then
      unexpected "let is reserved in const, let, class declaration"
  let id ← identifier true true
  let c ← read
  if (c.inAsync || c.inStaticBlock) && id.name = "await".toList then
    note id.span.start .nameExpected
  if c.inGenerator && id.name = "yield".toList then
    note id.span.start .nameExpected
  return id

def seesName : Parser Bool := do
  match ← ahead with
  | some ⟨.word name, _, _⟩ => return !(← read).isReserved name
  | _ => return false

def bindingName? (denyLet : Bool) : Parser (Option Ident) := do
  if ← seesName then return some (← bindingName denyLet) else return none

/-- A private name; no blank may follow its hash. The value is the word behind the hash. -/
def privateName : Parser Ident := do
  let start ← here
  expectMark .hash
  let stop ← lastStop
  if (← here) ≠ stop then failAt start .spaceAfterHash
  anyWord

end ScriptVeil.Script.Parser
