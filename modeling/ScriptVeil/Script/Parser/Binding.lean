import ScriptVeil.Script.Parser.Name

namespace ScriptVeil.Script.Parser

def memberKey (g : Grammar) : Parser Key := do
  match ← current with
  | .string value _ =>
    take
    return .string ⟨value, (← get).last⟩
  | .number _ | .bigNumber _ =>
    take
    return .number
  | .word _ => return .word (← anyWord)
  | .mark .bracketOpen =>
    take
    let key ← allowingIn g.assignment
    expectMark .bracketClose
    return .computed key
  | _ => unexpected "identifier, string literal, numeric literal or [ for the computed key"

def bindingElement (g : Grammar) : Parser Expr := do
  let target ← g.binding false
  if ← eat (.assign none) then
    return .withDefault target (← allowingIn g.assignment)
  else return target

/-- An element of an array pattern. The state is where a rest element started before. -/
def arrayPatternItem (g : Grammar) (restStart : Option Nat) :
    Parser (Option (Expr × Option Nat)) := do
  if (← atEnd) || (← isMark .bracketClose) then return none
  let start ← here
  if ← eatMark .comma then return some (.atom .hole start, restStart)
  if let some offset := restStart then note offset .restElementNotLast
  let isRest ← eatMark .ellipsis
  let item ← if isRest then pure (.rest start (← g.binding false)) else bindingElement g
  if !(← isMark .bracketClose) then
    expectMark .comma
    if isRest && (← isMark .bracketClose) then note (← lastStart) .commaAfterRest
  return some (item, if isRest then some start else restStart)

def arrayPattern (g : Grammar) : Parser Expr := do
  let start ← here
  expectMark .bracketOpen
  let (items, _) ← repeatedWith none (arrayPatternItem g)
  expectMark .bracketClose
  return .arrayPattern start items

def objectPatternMember (g : Grammar) : Parser Member := do
  let start ← here
  if ← eatMark .ellipsis then return .spread start (← g.binding false)
  let key ← memberKey g
  if ← eatMark .colon then return .pair start key (← bindingElement g)
  match key.name? with
  | none => unexpected "an identifier"
  | some id =>
    if ← eat (.assign none) then
      return .shorthandTarget id (some (← allowingIn g.assignment))
    else return .shorthandTarget id none

/-- The members up to a closing brace, each with the comma behind the last one. -/
def bracedMembers (member : Parser Member) : Parser (List Member × Option Nat) :=
  repeatedWith none fun comma => do
    if ← eatMark .braceClose then return none
    let m ← member
    if ← isMark .braceClose then return some (m, comma)
    expectMark .comma
    if ← isMark .braceClose then return some (m, some (← lastStart)) else return some (m, comma)

/-- Only the last member of an object pattern may be a rest, of a plain name. -/
def checkRests (comma : Option Nat) : List Member → Parser Unit
  | [] => return
  | [.spread start target] => do
    match target with
    | .name _ => if let some offset := comma then note offset .commaAfterRest
    | _ => failAt start .restWithoutName
  | .spread start _ :: ms => do
    note start .restElementNotLast
    checkRests comma ms
  | _ :: ms => checkRests comma ms

def objectPattern (g : Grammar) : Parser Expr := do
  let start ← here
  expectMark .braceOpen
  let (members, comma) ← bracedMembers (objectPatternMember g)
  checkRests comma members
  return .objectPattern start members

def binding (g : Grammar) (denyLet : Bool) : Parser Expr := do
  match ← current with
  | .word _ => return .name (← bindingName denyLet)
  | .mark .bracketOpen => arrayPattern g
  | .mark .braceOpen => objectPattern g
  | _ => unexpected "yield, an identifier, [ or \x7b"

end ScriptVeil.Script.Parser
