import ScriptVeil.Script.Parser.Function

namespace ScriptVeil.Script.Parser

def methodContext (c : Context) : Context :=
  { c with allowSuper := true, inField := false }

def methodRest (g : Grammar) (start : Nat) (key : Key) (isAsync isGenerator : Bool)
    (check : List Expr → Parser Unit) : Parser Member := do
  let (params, body) ← within methodContext (functionRest g isAsync isGenerator check)
  return .method start key params body

/-- A getter of an object literal from its key on. Parameters, which are a mistake, are dropped. -/
def getterMember (g : Grammar) (start : Nat) : Parser Member := do
  let offset ← here
  let key ← memberKey g
  let (_, body) ← within methodContext (functionRest g false false (getterParameters offset))
  return .method start key [] body

/-- A setter of an object literal from its key on. Of several parameters two are kept; that there is
none is a mistake twice. -/
def setterMember (g : Grammar) (start : Nat) : Parser Member := do
  let offset ← here
  let key ← memberKey g
  let (params, body) ← within methodContext (functionRest g false false (setterParameters offset))
  if params.isEmpty then note offset .setterParameter
  return .method start key (params.take 2) body

/-- A member whose name turned out to be `get`, `set` or `async` in front of the real key. -/
def modifiedMember (g : Grammar) (start : Nat) (modifier : Ident) : Parser Member := do
  if modifier.name = "get".toList then getterMember g start
  else if modifier.name = "set".toList then setterMember g start
  else
    let isGenerator ← eat (.binary .multiply)
    let key ← memberKey g
    methodRest g start key true isGenerator anyParameters

/-- A member of an object literal whose key is a word and which is neither a pair nor a method. -/
def shorthandMember (g : Grammar) (start : Nat) (id : Ident) : Parser Member := do
  if ← eatMark .question then note (← lastStart) .optionalMember
  if ← sees fun t => t = .assign none || t = .mark .comma || t = .mark .braceClose then
    if ← eat (.assign none) then
      return .shorthandDefault id (← allowingIn g.assignment)
    else return .shorthand id
  else if ["get", "set", "async"].any (·.toList = id.name) then modifiedMember g start id
  else unexpected "... , *,  (, [, :, , ?, = or an identifier"

def objectMember (g : Grammar) : Parser Member := do
  let start ← here
  if ← eatMark .ellipsis then return .spread start (← allowingIn g.assignment)
  if ← eat (.binary .multiply) then
    let key ← memberKey g
    methodRest g start key false true anyParameters
  else
    let key ← memberKey g
    if ← eatMark .colon then return .pair start key (← allowingIn g.assignment)
    else if ← isMark .parenOpen then methodRest g start key false false anyParameters
    else
      match key.name? with
      | some id => shorthandMember g start id
      | none => unexpected "identifier"

def objectLiteral (g : Grammar) : Parser Expr := do
  let start ← here
  expectMark .braceOpen
  let (members, comma) ← bracedMembers (objectMember g)
  return .object start members comma

def classKey (g : Grammar) : Parser Key := do
  if ← isMark .hash then
    let start ← here
    let id ← privateName
    if id.name = "constructor".toList then note start .privateConstructor
    return .privateWord id
  else memberKey g

def seesFieldEnd (insertSemicolon : Bool) : Parser Bool := do
  if ← sees fun t => t = .assign none || t = .mark .braceClose || t = .mark .semicolon then
    return true
  else if insertSemicolon then isStatementEnd
  else return false

def fieldRest (g : Grammar) (offset : Nat) (key : Key) : Parser Member := do
  if key.isConstructor then failAt offset .fieldNamedConstructor
  within (fun c => { c with allowIn := true, inField := true }) do
    let value ← if ← eat (.assign none) then pure (some (← g.assignment)) else pure none
    if !(← eatStatementEnd) then note (← pointed) .missingSemicolon
    return .field key value

abbrev ClassMember := Member × Bool

/-- A constructor from its parameters on. Its parameters are not set off from the code around the
class. -/
def constructorRest (g : Grammar) (start : Nat) (key : Key) (isStatic : Bool) : Parser Member := do
  expectMark .parenOpen
  let params ← parameters g false
  expectMark .parenClose
  let body ← functionBody g false false params
  if isStatic then note start .staticConstructor
  return .method start key params body

def keyedClassMember (g : Grammar) (start offset : Nat) (key : Key) (isStatic : Bool) :
    Parser ClassMember := do
  let isModifier (w : String) : Bool := key.name?.any (·.name = w.toList)
  if ← isMark .parenOpen then
    if key.isConstructor then return (← constructorRest g start key isStatic, true)
    else return (← methodRest g start key false false anyParameters, false)
  let newline ← afterNewline
  let generatorBelow := newline && (← isNext (.binary .multiply))
  let accessor := (isModifier "get" || isModifier "set") && !(← seesFieldEnd false)
    && !generatorBelow
  if !accessor && (← seesFieldEnd true) then
    return (← fieldRest g offset key, false)
  else if isModifier "async" && !newline then
    let isGenerator ← eat (.binary .multiply)
    let keyStart ← here
    let key ← classKey g
    if key.isConstructor then failAt keyStart .asyncConstructor
    return (← methodRest g start key true isGenerator anyParameters, false)
  else if accessor then
    let isGetter := isModifier "get"
    let key ← classKey g
    if key.isConstructor then note offset .accessorConstructor
    let check := if isGetter then getterParameters offset else setterParameters offset
    return (← methodRest g start key false false check, false)
  else unexpected "* for generator, private key, identifier or async"

def staticBlock (g : Grammar) : Parser ClassMember := do
  let body ← within (fun c => { c with inStaticBlock := true, inField := true }) (block g false)
  return (.staticBlock body, false)

def classMemberRest (g : Grammar) (start : Nat) (isStatic : Bool) : Parser ClassMember := do
  if isStatic && (← isMark .braceOpen) then staticBlock g
  else if ← seesPair (· = .word "static".toList) (·.token = .mark .braceOpen) then
    if isStatic then note start .repeatedModifier
    take
    staticBlock g
  else if ← eat (.binary .multiply) then
    let key ← classKey g
    if key.isConstructor then note start .generatorConstructor
    return (← methodRest g start key false true anyParameters, false)
  else
    let offset ← here
    let key ← classKey g
    keyedClassMember g start offset key isStatic

/-- A class member. The word `static` may also be its key. -/
def classMember (g : Grammar) : Parser ClassMember := do
  let start ← here
  if ← eatWord "static" then
    let key := Key.word ⟨"static".toList, ⟨start, ← lastStop⟩⟩
    if ← isMark .parenOpen then
      return (← methodRest g start key false false anyParameters, false)
    else if ← seesFieldEnd false then
      return (← fieldRest g start key, false)
    else classMemberRest g start true
  else classMemberRest g start false

/-- The members of a class. The state says whether a constructor was found. -/
def classMembers (g : Grammar) : Parser (List Member) := do
  let (members, _) ← repeatedWith false fun found => do
    let _ ← repeated do
      if ← eatMark .semicolon then return some () else return none
    if (← atEnd) || (← isMark .braceClose) then return none
    let start ← here
    let (m, isConstructor) ← within (fun c => { c with allowSuper := true }) (classMember g)
    if isConstructor && found then note start .repeatedConstructor
    return some (m, found || isConstructor)
  return members

def classRest (g : Grammar) (leftHandSide : Parser Expr) : Parser (Option Expr × List Member) := do
  let base ← if ← eatWord "extends" then pure (some (← leftHandSide)) else pure none
  if ← eatWord "extends" then
    note (← lastStart) .secondExtends
    let _ ← leftHandSide
  expectMark .braceOpen
  let members ← within (fun c => { c with inClass := true }) (classMembers g)
  if ← atEnd then note (← pointed) (.expected ['}'] endOfTextShown) else expectMark .braceClose
  return (base, members)

def classContext (c : Context) : Context :=
  { c with strict := true }

end ScriptVeil.Script.Parser
