import ScriptVeil.Script.Parser.Binding

namespace ScriptVeil.Script.Parser

/-- The directive that makes code strict: the plain literal, alone in its statement. -/
def isStrictDirective : Stmt → Bool
  | .expr (.string lit) =>
    lit.value = "use strict".toList && lit.span.stop - lit.span.start = 12
  | _ => false

def statementSpan (start : Nat) : Stmt → Parser Span
  | .recovered span => return span
  | _ => return ⟨start, ← lastStop⟩

/-- How far the parsing of a list of statements has come: whether a directive may still follow and
whether one made the list strict. -/
structure ListProgress where
  directive : Bool
  strict : Bool

/-- The next statement of a list, which ends at a closing brace if it is `braced` and else with the
text. A brace that is missing at the end of the text is a mistake. -/
def listedStatement (g : Grammar) (place : StatementPlace) (braced : Bool) (p : ListProgress) :
    Parser (Option (TopLevel × ListProgress)) :=
  within (fun c => { c with strict := c.strict || p.strict }) do
    if braced && (← atEnd) then
      note (← pointed) (.expected ['}'] endOfTextShown)
      return none
    match ← token? with
    | none => return none
    | some t =>
      if braced && t = .mark .braceClose then return none
      let start ← here
      let stmt ← g.statement place
      let span ← statementSpan start stmt
      return some (⟨span, stmt⟩, ⟨false, p.strict || (p.directive && isStrictDirective stmt)⟩)

/-- A list of statements. Only its first statement can be a directive. -/
def statements (g : Grammar) (place : StatementPlace) (braced directives : Bool) :
    Parser (List TopLevel) := do
  let (found, _) ← repeatedWith ⟨directives, false⟩ (listedStatement g place braced)
  if braced then
    let _ ← eatMark .braceClose
  return found

def block (g : Grammar) (directives : Bool) : Parser (List Stmt) := do
  expectMark .braceOpen
  return (← statements g .list true directives).map TopLevel.stmt

def isPlainName : Expr → Bool
  | .name _ => true
  | _ => false

def bodyContext (c : Context) (isAsync isGenerator isArrow : Bool) : Context :=
  { c with
    inAsync := isAsync, inGenerator := isGenerator, inFunction := true, inStaticBlock := false,
    inOwnFunction := c.inOwnFunction || !isArrow,
    allowBreak := false, allowContinue := false, labels := [], arrowStart := none }

def isStringStatement : Stmt → Bool
  | .expr (.string _) => true
  | _ => false

/-- A directive for strict code among the string statements at the start of a body needs plain
parameters. -/
def checkDirectives (params : List Expr) (body : List TopLevel) : Parser Unit := do
  if !params.all isPlainName then
    let directives := body.takeWhile fun s => isStringStatement s.stmt
    match directives.find? fun s => isStrictDirective s.stmt with
    | some s => note s.span.start .strictWithComplexParameters
    | none => return

def functionBody (g : Grammar) (isAsync isGenerator : Bool) (params : List Expr) :
    Parser (List Stmt) :=
  within (bodyContext · isAsync isGenerator false) do
    expectMark .braceOpen
    let body ← allowingIn (statements g .list true true)
    checkDirectives params body
    return body.map TopLevel.stmt

/-- A parameter. The state is where a rest parameter started before. Only where it is said so, a
rest parameter may have a default, which is a mistake. -/
def parameter (g : Grammar) (restDefaults : Bool) (restStart : Option Nat) :
    Parser (Option (Expr × Option Nat)) := do
  if (← atEnd) || (← isMark .parenClose) then return none
  if let some offset := restStart then note offset .restNotLast
  let start ← here
  let isRest ← eatMark .ellipsis
  let target ← g.binding false
  let hasDefault ← if isRest && !restDefaults then pure false else eat (.assign none)
  let param ← if hasDefault then
      let value ← g.assignment
      if isRest then note target.start .restWithDefault
      pure (.withDefault target value)
    else pure target
  if !(← isMark .parenClose) then
    expectMark .comma
    if isRest && (← isMark .parenClose) then note (← lastStart) .commaAfterRest
  return if isRest then some (.rest start param, some start) else some (param, restStart)

def parameters (g : Grammar) (restDefaults : Bool) : Parser (List Expr) := do
  let (params, _) ← repeatedWith none (parameter g restDefaults)
  return params

/-- The parameters and the body of a function that is not an arrow function; `check` looks at the
parameters. -/
def functionRest (g : Grammar) (isAsync isGenerator : Bool) (check : List Expr → Parser Unit) :
    Parser (List Expr × List Stmt) :=
  within (fun c => { c with inAsync := isAsync, inGenerator := isGenerator }) do
    expectMark .parenOpen
    let params ← within (fun c => { c with inParameters := true, inFunction := false }) do
      let params ← parameters g true
      check params
      return params
    expectMark .parenClose
    let body ← functionBody g isAsync isGenerator params
    return (params, body)

def anyParameters (_ : List Expr) : Parser Unit :=
  return

def getterParameters (offset : Nat) (params : List Expr) : Parser Unit := do
  if !params.isEmpty then note offset .getterParameter

/-- A setter takes exactly one parameter, which is no rest parameter. -/
def setterParameters (offset : Nat) (params : List Expr) : Parser Unit := do
  if params.length ≠ 1 then note offset .setterParameter
  match params with
  | .rest start _ :: _ => note start .restInSetter
  | _ => return

def outsideClass (c : Context) : Context :=
  { c with allowSuper := false, inField := false }

def namedFunction (g : Grammar) (isAsync : Bool) :
    Parser (Ident × Bool × List Expr × List Stmt) := do
  expectWord "function"
  let isGenerator ← eat (.binary .multiply)
  within outsideClass do
    let name ← bindingName false
    let (params, body) ← functionRest g isAsync isGenerator anyParameters
    return (name, isGenerator, params, body)

def functionExpr (g : Grammar) (start : Nat) (isAsync : Bool) : Parser Expr := do
  expectWord "function"
  let isGenerator ← eat (.binary .multiply)
  within outsideClass do
    let name ← within (fun c => { c with inAsync := isAsync, inGenerator := isGenerator })
      (bindingName? false)
    let (params, body) ← functionRest g isAsync isGenerator anyParameters
    return .function start name params body

/-- The body of an arrow function: a block, in which no directive makes code strict, or an
expression that it returns. The first value tells which. -/
def arrowBody (g : Grammar) (isAsync : Bool) (params : List Expr) : Parser (Bool × List Stmt) :=
  within (bodyContext · isAsync false true) do
    if ← eatMark .braceOpen then
      let body ← statements g .list true false
      checkDirectives params body
      return (true, body.map TopLevel.stmt)
    else return (false, [.returns (some (← g.assignment))])

end ScriptVeil.Script.Parser
