import ScriptVeil.Script.Parser.Member
import ScriptVeil.Script.Parser.Target

namespace ScriptVeil.Script.Parser

def spreadable (g : Grammar) : Parser Expr := do
  let start ← here
  if ← eatMark .ellipsis then return .spread start (← allowingIn g.assignment)
  else allowingIn g.assignment

/-- The arguments of a call, with their parentheses. An import takes no comma behind the last
one. -/
def arguments (g : Grammar) (isImport : Bool) : Parser (List Expr) := do
  let start ← here
  expectMark .parenOpen
  let (args, _) ← repeatedWith true fun first => do
    if (← atEnd) || (← isMark .parenClose) then return none
    if !first then
      expectMark .comma
      if ← isMark .parenClose then
        if isImport then failAt start .importTrailingComma
        return none
    return some (← spreadable g, false)
  expectMark .parenClose
  return args

def arrayLiteral (g : Grammar) : Parser Expr := do
  let start ← here
  expectMark .bracketOpen
  let (items, comma) ← repeatedWith none fun comma => do
    if (← atEnd) || (← isMark .bracketClose) then return none
    let start ← here
    if ← eatMark .comma then return some (.atom .hole start, comma)
    let item ← spreadable g
    if ← isMark .bracketClose then return some (item, comma)
    expectMark .comma
    if ← isMark .bracketClose then return some (item, some (← lastStart))
    else return some (item, comma)
  expectMark .bracketClose
  return .array start items comma

/-- The next text of a template. Only a tagged template may hold faulty escapes. The value says
whether an expression follows. -/
def templateText (isTagged : Bool) : Parser Bool := do
  match ← current with
  | .template _ flaw =>
    take
    if let some flaw := flaw then
      if !isTagged then throw flaw.diagnostic
  | _ => unexpected "template token"
  if ← isMark .backtick then return false
  expectMark .placeholder
  return true

def templateParts (g : Grammar) (isTagged : Bool) : Parser (List Expr) := do
  expectMark .backtick
  let parts ← repeated do
    if ← templateText isTagged then
      let part ← allowingIn g.expression
      expectMark .braceClose
      return some part
    else return none
  expectMark .backtick
  return parts

def checkRegexFlags (offset : Nat) (flags : Text) : Parser Unit := do
  let known := flags.filter fun c => "dgimsuvy".toList.contains c
  if known.length < flags.length then note offset .unknownRegexFlags
  match known.find? fun c => known.count c > 1 with
  | some flag => note offset (.repeatedRegexFlag flag)
  | none => return

/-- A regular expression, whose opening slash was read as an operator. One that cannot be read stays
open. -/
def regexLiteral (withEquals : Bool) : Parser Expr := do
  let start ← here
  take
  let c := (← get).cursor
  let body := if withEquals then ⟨'=' :: c.rest, c.offset - 1⟩ else c
  modify ({ · with openRegex := some ⟨start, body⟩ })
  match ← token? with
  | some (.regex _ flags) =>
    take
    checkRegexFlags start flags
    return .atom .literal start
  | _ => failAt (← here) .expressionExpected

/-- An item of a parenthesis. Behind an arrow on a line of its own, a plain name is followed by the
arrow function of that parameter; any other arrow is skipped. -/
def parenItem (g : Grammar) : Parser (List Expr) := do
  let item ← spreadable g
  if ← eatMark .arrow then
    match item with
    | .name id =>
      let (_, body) ← arrowBody g false [item]
      return [item, .arrow id.span.start [item] body]
    | _ => return [item]
  else return [item]

def parenItems (g : Grammar) : Parser (List Expr × Option Nat) := do
  expectMark .parenOpen
  let (items, comma) ← repeatedWith none fun comma => do
    if (← atEnd) || (← isMark .parenClose) then return none
    let item ← allowingIn (parenItem g)
    if ← isMark .parenClose then return some (item, comma)
    expectMark .comma
    if ← isMark .parenClose then return some (item, some (← lastStart))
    else return some (item, comma)
  expectMark .parenClose
  return (items.flatten, comma)

/-- The default of a shorthand is a mistake in an object literal, spread or not, that turns out to
be none of a pattern. -/
def noteShorthandDefaults (item : Expr) : Parser Unit := do
  let e := match item with
    | .spread _ value => value
    | e => e
  match e with
  | .object _ members _ => members.forM fun
    | .shorthandDefault id _ => note id.span.start .shorthandDefaultInLiteral
    | _ => return
  | _ => return

def spreadValue? : Expr → Option Expr
  | .spread _ value => some value
  | _ => none

/-- An expression in parentheses that are not the head of an arrow function. -/
def parenthesised (start : Nat) (items : List Expr) : Parser Expr := do
  match items.findSome? spreadValue? with
  | some e => failAt e.start .spreadInParentheses
  | none =>
    match items with
    | [] => failAt start .emptyParentheses
    | [e] => return .paren start e
    | e :: es => return .paren start (.sequence e es)

/-- A block body of an arrow function cannot be an operand. -/
def afterArrowBlock (g : Grammar) (e : Expr) : Parser Expr := do
  match ← token? with
  | some (.binary _) =>
    note (← pointed) .missingSemicolon
    let e ← g.operators e 0
    if !(← isStatementEnd) then note (← pointed) .missingSemicolon
    return e
  | _ => return e

/-- The arrow and the body behind the items of a parenthesis, which are the parameters. -/
def arrowRest (g : Grammar) (start : Nat) (isAsync : Bool) (comma : Option Nat)
    (items : List Expr) : Parser Expr := do
  expectMark .arrow
  let params ← asParameters comma items
  let (isBlock, body) ← arrowBody g isAsync params
  let e := Expr.arrow start params body
  if isBlock then afterArrowBlock g e else return e

/-- A parenthesis, which may be the head of an arrow function or, behind `async`, the arguments of
a call. -/
def parenOrArrow (g : Grammar) (canBeArrow : Bool) (async? : Option Ident) : Parser Expr := do
  let start ← match async? with
    | some id => pure id.span.start
    | none => here
  let (items, comma) ← parenItems g
  if ← isMark .arrow then
    if ← afterNewline then failAt start .lineBreakBeforeArrow
    if !canBeArrow then failAt start .arrowNotAllowed
    arrowRest g start async?.isSome comma items
  else
    items.forM noteShorthandDefaults
    match async? with
    | some id => return .call (.name id) items
    | none => parenthesised start items

/-- Whether an `of` that is no parameter follows in the head of a loop. -/
def seesLoopKeyword : Parser Bool := do
  if (← read).inLoopHead && (← isWord "of") then
    return !(← seesPair (· = .word "of".toList) (·.token = .mark .arrow))
  else return false

def nameOrArrow (g : Grammar) (start : Nat) (canBeArrow : Bool) : Parser Expr := do
  let id ← reference
  if canBeArrow && !(← afterNewline) then
    if id.name = "async".toList && (← seesName) then
      if ← seesLoopKeyword then
        if !(← read).inAwaitLoopHead then note (← lastStart) .asyncLoopVariable
        return .name id
      let param := Expr.name (← bindingName false)
      expectMark .arrow
      let (_, body) ← arrowBody g true [param]
      return .arrow start [param] body
    else if ← eatMark .arrow then
      let (_, body) ← arrowBody g false [.name id]
      return .arrow start [.name id] body
    else return .name id
  else return .name id

def classLiteral (g : Grammar) (leftHandSide : Parser Expr) : Parser Expr := do
  let start ← here
  within classContext do
    expectWord "class"
    let name ← bindingName? true
    let (base, members) ← classRest g leftHandSide
    return .classExpr start name base members

def startsAsyncParen : Parser Bool :=
  seesPair (· = .word "async".toList) fun l => l.token = .mark .parenOpen && !l.newline

def wordExpr (g : Grammar) (leftHandSide : Parser Expr) (canBeArrow : Bool) (word : Text) :
    Parser Expr := do
  let start ← here
  let is (w : String) : Bool := word = w.toList
  if is "this" then
    take
    return .atom .this start
  else if is "null" || is "true" || is "false" then
    take
    return .atom .literal start
  else if is "function" then functionExpr g start false
  else if is "class" then classLiteral g leftHandSide
  else if ← areWords "async" "function" then
    take
    functionExpr g start true
  else if canBeArrow && (← startsAsyncParen) then
    let id ← anyWord
    parenOrArrow g canBeArrow (some id)
  else if is "let" || (← seesName) then nameOrArrow g start canBeArrow
  else fail .expressionExpected

def primary (g : Grammar) (leftHandSide : Parser Expr) : Parser Expr := do
  let start ← here
  let canBeArrow := (← read).arrowStart = some start
  match ← ahead with
  | some ⟨.word word, _, _⟩ => wordExpr g leftHandSide canBeArrow word
  | some ⟨.string value _, span, _⟩ =>
    take
    return .string ⟨value, span⟩
  | some ⟨.number _, _, _⟩ | some ⟨.bigNumber _, _, _⟩ =>
    take
    return .atom .literal start
  | some ⟨.binary .divide, _, _⟩ => regexLiteral false
  | some ⟨.assign (some .divide), _, _⟩ => regexLiteral true
  | some ⟨.mark .bracketOpen, _, _⟩ => arrayLiteral g
  | some ⟨.mark .braceOpen, _, _⟩ => objectLiteral g
  | some ⟨.mark .parenOpen, _, _⟩ => parenOrArrow g canBeArrow none
  | some ⟨.mark .backtick, _, _⟩ => return .template start (← templateParts g false)
  | some ⟨.mark .hash, _, _⟩ =>
    take
    return .privateName start (← anyWord)
  | _ => fail .expressionExpected

def isOptional : Expr → Bool
  | .optional _ _ => true
  | _ => false

def isAtom (kind : Atom) : Expr → Bool
  | .atom k _ => k = kind
  | _ => false

/-- Access through something optional is optional itself. -/
def linked (owner : Expr) (optional : Bool) (e : Expr) : Expr :=
  if optional || isOptional owner then .optional optional e else e

/-- A member of `super` needs a method around it and cannot be optional. -/
def checkOwner (noCall : Bool) (owner : Expr) (optional : Bool) : Parser Unit := do
  if isAtom .superRef owner then
    if !(← read).allowSuper then fail .badSuper
    else if optional then fail (if noCall then .badSuperCall else .badSuper)

def dottedMember (noCall : Bool) (owner : Expr) (optional : Bool) : Parser Expr := do
  let isPrivate ← isMark .hash
  let key ← if isPrivate then pure (.privateWord (← privateName)) else pure (.word (← anyWord))
  checkOwner noCall owner optional
  if isPrivate && isAtom .superRef owner then fail .badSuperCall
  return linked owner optional (.member owner key)

/-- The next member access, call or template behind an expression. Of `import` there are only
calls. -/
def subscript (g : Grammar) (noCall : Bool) (owner : Expr) : Parser (Option Expr) := do
  let optional ← if ← seesPair (· = .mark .question) (·.token = .mark .dot) then
      take
      pure true
    else pure false
  let dotBefore (m : Mark) : Parser Bool :=
    if optional then seesPair (· = .mark .dot) (·.token = .mark m) else pure false
  let isImport := isAtom .importRef owner
  if !isImport && ((← dotBefore .bracketOpen) || (← isMark .bracketOpen)) then
    let _ ← eatMark .dot
    expectMark .bracketOpen
    let key ← allowingIn g.expression
    expectMark .bracketClose
    checkOwner noCall owner optional
    return some (linked owner optional (.member owner (.computed key)))
  else if (← dotBefore .parenOpen) || (!noCall && (← isMark .parenOpen)) then
    let _ ← eatMark .dot
    let args ← arguments g isImport
    if optional && (isImport || isAtom .superRef owner) then fail .optionalSuperCall
    return some (linked owner optional (.call owner args))
  else if isImport then fail .importNotAllowed
  else if ← eatMark .dot then
    return some (← dottedMember noCall owner optional)
  else if isAtom .superRef owner then fail (if noCall then .badSuperCall else .badSuper)
  else if ← isMark .backtick then
    let parts ← templateParts g true
    if isOptional owner then note owner.start .optionalTemplate
    return some (.tagged owner parts)
  else return none

def subscripts (g : Grammar) (noCall : Bool) (owner : Expr) : Parser Expr :=
  iterated owner (subscript g noCall)

/-- An arrow function at the place where one may start takes no operators. -/
def isArrowHere (e : Expr) : Parser Bool := do
  match e with
  | .arrow start _ _ => return (← read).arrowStart = some start
  | _ => return false

def newTarget (g : Grammar) (start : Nat) : Parser Expr := do
  if ← eatWord "target" then
    let c ← read
    if !c.inOwnFunction && !c.inParameters && !c.inClass then
      note start .newTargetOutsideFunction
    subscripts g true (.atom .metaProperty start)
  else unexpected "target"

def newRest (g : Grammar) (start : Nat) : Parser Expr := do
  if ← eatMark .dot then newTarget g start
  else
    let callee ← g.construction
    if ← isArrowHere callee then return callee
    match callee with
    | .optional true _ => failAt callee.start .optionalNew
    | _ => pure ()
    if ← isMark .parenOpen then
      let args ← arguments g false
      subscripts g true (.new start callee args)
    else return .newBare start callee

/-- An import that is an expression, behind its keyword: `import.meta`, or a call, which may have a
phase. -/
def importRest (g : Grammar) (noCall : Bool) (start : Nat) : Parser Expr := do
  let isImport ← sees fun t => t = .mark .dot || t = .mark .parenOpen
  if !isImport then unexpected "`.` or `(`"
  if ← eatMark .dot then
    let name ← anyWord
    if name.name = "meta".toList then
      note start .importMetaInScript
      subscripts g noCall (.atom .metaProperty start)
    else if ["source", "defer"].any (·.toList = name.name) then
      subscripts g noCall (.atom .importRef start)
    else unexpected "meta"
  else subscripts g noCall (.atom .importRef start)

/-- A member access or a constructor call, without calls. -/
def construction (g : Grammar) (leftHandSide : Parser Expr) : Parser Expr := do
  let start ← here
  if ← eatWord "new" then newRest g start
  else if ← eatWord "super" then subscripts g true (.atom .superRef start)
  else if ← eatWord "import" then importRest g true start
  else
    let e ← primary g leftHandSide
    if ← isArrowHere e then return e else subscripts g true e

def leftHandSide (g : Grammar) : Parser Expr := do
  let start ← here
  if ← eatWord "super" then subscripts g false (.atom .superRef start)
  else if ← eatWord "import" then importRest g false start
  else
    let callee ← g.construction
    if ← isArrowHere callee then return callee
    match callee with
    | .newBare _ _ => return callee
    | _ =>
      if ← isMark .parenOpen then
        let args ← arguments g false
        subscripts g false (linked callee false (.call callee args))
      else return callee

end ScriptVeil.Script.Parser
