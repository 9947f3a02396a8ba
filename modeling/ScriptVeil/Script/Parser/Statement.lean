import ScriptVeil.Script.Parser.Expression

namespace ScriptVeil.Script.Parser

def fullExpression (g : Grammar) : Parser Expr :=
  allowingIn g.expression

def condition (g : Grammar) : Parser Expr := do
  expectMark .parenOpen
  let e ← fullExpression g
  expectMark .parenClose
  return e

def loopBody (g : Grammar) : Parser Stmt :=
  within (fun c => { c with allowBreak := true, allowContinue := true }) (g.statement .single)

/-- A statement that starts with `import` or `export`: an expression, or one that only modules
have. -/
def moduleStatement (g : Grammar) : Parser Stmt := do
  let isExpression ← seesPair (· = .word "import".toList) fun l =>
    l.token = .mark .parenOpen || l.token = .mark .dot
  if isExpression then
    let e ← g.expression
    let _ ← eatStatementEnd
    return .expr e
  else fail .moduleOnlyStatement

def jumpLabel : Parser (Option Ident) := do
  if ← eatStatementEnd then return none
  else
    let id ← reference
    expectStatementEnd
    return some id

def breakStatement : Parser Stmt := do
  let start ← here
  take
  let label ← jumpLabel
  let c ← read
  if label.any fun id => !c.labels.contains id.name then note start .breakToUnknownLabel
  else if !c.allowBreak then note start .breakOutsideLoop
  return .breakTo label

def continueStatement : Parser Stmt := do
  let start ← here
  take
  let label ← jumpLabel
  let c ← read
  if !c.allowContinue then note start .continueOutsideLoop
  else if label.any fun id => !c.labels.contains id.name then note start .continueToUnknownLabel
  return .continueTo label

def debuggerStatement : Parser Stmt := do
  take
  expectStatementEnd
  return .debugger

def doStatement (g : Grammar) : Parser Stmt := do
  take
  let body ← loopBody g
  expectWord "while"
  let test ← condition g
  let _ ← eatStatementEnd
  return .doWhile body test

def whileStatement (g : Grammar) : Parser Stmt := do
  take
  let test ← condition g
  return .while test (← loopBody g)

/-- A missing `else` is an empty one. -/
def ifStatement (g : Grammar) : Parser Stmt := do
  take
  let test ← condition g
  let yes ← g.statement .single
  if ← eatWord "else" then return .ifElse test yes (← g.statement .single)
  else return .ifElse test yes .empty

/-- A `return` outside a function is a mistake, also if the rest of it is none. -/
def returnStatement (g : Grammar) : Parser Stmt := do
  let start ← here
  take
  let noteOutside : Parser Unit := do
    if !(← read).inFunction then note start .returnOutsideFunction
  let value ← try
      let value ← if ← isStatementEnd then pure none else pure (some (← fullExpression g))
      expectStatementEnd
      pure value
    catch fault =>
      noteOutside
      throw fault
  noteOutside
  return .returns value

/-- The next clause of a `switch`. The state says whether there was a default. -/
def switchClause (g : Grammar) (hasDefault : Bool) : Parser (Option (Stmt × Bool)) := do
  let isClause ← sees fun t => t = .word "case".toList || t = .word "default".toList
  if !isClause then return none
  let isCase ← isWord "case"
  take
  let test ← if isCase then pure (some (← fullExpression g)) else pure none
  if !isCase && hasDefault then fail .repeatedDefault
  expectMark .colon
  let body ← repeated do
    let closes ← sees fun t =>
      t = .word "case".toList || t = .word "default".toList || t = .mark .braceClose
    if (← atEnd) || closes then return none
    return some (← g.statement .list)
  return some (.clause test body, hasDefault || !isCase)

def switchStatement (g : Grammar) : Parser Stmt := do
  take
  let subject ← condition g
  expectMark .braceOpen
  let (clauses, _) ← within (fun c => { c with allowBreak := true })
    (repeatedWith false (switchClause g))
  expectMark .braceClose
  return .switch subject clauses

def throwStatement (g : Grammar) : Parser Stmt := do
  take
  if ← afterNewline then fail .lineBreakInThrow
  let value ← fullExpression g
  expectStatementEnd
  return .throws value

def catchClause (g : Grammar) : Parser (Option (Option Expr × List Stmt)) := do
  if ← eatWord "catch" then
    let param ← if ← eatMark .parenOpen then
        let param ← g.binding false
        expectMark .parenClose
        pure (some param)
      else pure none
    return some (param, ← block g false)
  else return none

def finallyClause (g : Grammar) : Parser (Option (List Stmt)) := do
  if ← eatWord "finally" then return some (← block g false) else return none

def tryStatement (g : Grammar) : Parser Stmt := do
  take
  let body ← block g false
  let clausesStart ← here
  let handler ← catchClause g
  let finalizer ← finallyClause g
  if handler.isNone && finalizer.isNone then note clausesStart .missingSemicolon
  return .tryCatch body (handler.bind Prod.fst) ((handler.map Prod.snd).getD [])
    (finalizer.getD [])

/-- Runs a parser and forgets its result, also a fault. -/
def skipping {α : Type} (p : Parser α) : Parser Unit := do
  try
    let _ ← p
  catch _ => pure ()

/-- Clauses without their `try` are skipped. -/
def strayClause (g : Grammar) : Parser Stmt := do
  let start ← here
  note start .missingSemicolon
  let isCatch ← isWord "catch"
  let stop := start + Text.byteSize (if isCatch then "catch".toList else "finally".toList)
  if isCatch then skipping (catchClause g)
  skipping (finallyClause g)
  return .recovered ⟨start, stop⟩

/-- The body of a `with` counts as a function's. -/
def withStatement (g : Grammar) : Parser Stmt := do
  take
  let object ← condition g
  return .withObject object
    (← within (fun c => { c with inFunction := true }) (g.statement .single))

inductive VariableKind where
  | var
  | lexical
  | constant
deriving DecidableEq, Repr

def isPattern : Expr → Bool
  | .name _ => false
  | _ => true

/-- A variable and its initial value. Only in the head of a loop over a collection a pattern need
not have one. A constant without one is a mistake in strict code. -/
def declarator (g : Grammar) (kind : VariableKind) (inLoop : Bool) : Parser Expr := do
  let start ← here
  let target ← g.binding (kind ≠ .var)
  let isSubject ← sees fun t => t = .word "in".toList || t = .word "of".toList
  if inLoop && isSubject then return target
  else if ← eat (.assign none) then return .withDefault target (← g.assignment)
  else
    if kind = .constant && (← read).strict then note start .constantWithoutInit
    else if isPattern target then failAt start .patternWithoutInit
    return target

/-- Takes tokens up to the end of a statement that cannot be parsed further. -/
def skipStatement : Parser Unit := do
  let _ ← repeated do
    if ← eatStatementEnd then return none
    take
    match ← ahead with
    | some ⟨.bad _, _, _⟩ => return none
    | _ => return some ()

/-- The variables behind the keyword. Where one is missing at the end, the list ends. -/
def declarators (g : Grammar) (kind : VariableKind) (inLoop : Bool) (keyword : Span) :
    Parser (List Expr) := do
  let (found, _) ← repeatedWith true fun more => do
    if !more then return none
    if (← isMark .semicolon) || (← atEnd) then
      let last := (← get).last
      note (if last = keyword then last.stop else last.start) .trailingComma
      return none
    let d ← declarator g kind inLoop
    return some (d, ← eatMark .comma)
  return found

/-- A declaration of variables, from its keyword on. In a loop head it ends without a semicolon. -/
def varDeclaration (g : Grammar) (kind : VariableKind) (inLoop : Bool) : Parser (List Expr) := do
  take
  let keyword := (← get).last
  let found ← within (fun c => { c with allowIn := c.allowIn || kind ≠ .var || !inLoop })
    (declarators g kind inLoop keyword)
  if inLoop then return found
  if !(← eatStatementEnd) then
    note (← pointed) .missingSemicolon
    skipping g.expression
    skipStatement
  return found

def startsUsing : Parser Bool := do
  let c ← read
  seesPair (· = .word "using".toList) fun l =>
    match l.token with
    | .word name => !c.isReserved name && !l.newline
    | _ => false

def checkResource (start : Nat) : Expr → Parser Unit
  | .withDefault (.name _) _ => return
  | .withDefault _ _ => note start .usingPattern
  | _ => note start .usingWithoutInit

/-- A declaration of resources, from its keyword on, which is a mistake as a whole; `start` is where
its statement starts. Nothing is declared if no name follows on the same line. -/
def using? (g : Grammar) (start : Nat) : Parser (Option Stmt) := do
  if !(← startsUsing) then return none
  take
  let keyword := (← get).last
  let found ← declarators g .var false keyword
  note start .usingNotEnabled
  found.forM (checkResource start)
  expectStatementEnd
  return some (.using found)

/-- An `await` in a list of statements. At the top level it is a mistake. It may start a declaration
of resources. -/
def awaitStatement? (g : Grammar) (place : StatementPlace) : Parser (Option Stmt) := do
  let start ← here
  if place = .topLevel then note start .topLevelAwait
  if ← seesPair (· = .word "await".toList) (·.token = .word "using".toList) then
    let id ← anyWord
    match ← using? g start with
    | some declaration => return some declaration
    | none =>
      let first ← awaitRest g id
      let e ← allowingIn (operators g first 0)
      let _ ← eatMark .semicolon
      return some (.expr e)
  else return none

def followsLet : Token → Bool
  | .word w => ["let", "yield", "await"].any (·.toList = w) || !isKeyword w
  | .mark m => m = .braceOpen || m = .bracketOpen
  | _ => false

def variableKind? : Parser (Option VariableKind) := do
  if ← isWord "var" then return some .var
  else if ← isWord "const" then return some .constant
  else if ← seesPair (· = .word "let".toList) fun l => followsLet l.token then return some .lexical
  else return none

inductive LoopHead where
  | counting (init : Stmt) (test update : Option Expr)
  | collection (target : Stmt) (isOf : Bool) (subject : Expr)

def countingHead (g : Grammar) (init : Stmt) : Parser LoopHead := do
  let test ← if ← eatMark .semicolon then pure none
    else do
      let test ← fullExpression g
      expectMark .semicolon
      pure (some test)
  let update ← if ← isMark .parenClose then pure none else pure (some (← fullExpression g))
  return .counting init test update

def collectionHead (g : Grammar) (target : Stmt) : Parser LoopHead := do
  let isOf ← isWord "of"
  take
  let subject ← allowingIn (if isOf then g.assignment else g.expression)
  return .collection target isOf subject

def seesCollection : Parser Bool :=
  sees fun t => t = .word "in".toList || t = .word "of".toList

/-- A loop over a collection has one variable, which only `in` may initialise, and only outside
strict code. -/
def checkLoopVariables (declared : List Expr) : Parser Unit := do
  match declared with
  | [.withDefault target _] =>
    if (← read).strict || (← isWord "of") then note target.start .loopVariableInitialised
  | ds => ds.tail.forM fun d => note d.start .tooManyLoopVariables

def loopHead (g : Grammar) : Parser LoopHead := do
  match ← variableKind? with
  | some kind =>
    let declared ← varDeclaration g kind true
    if ← seesCollection then
      checkLoopVariables declared
      collectionHead g (.vars declared)
    else
      expectMark .semicolon
      countingHead g (.vars declared)
  | none =>
    if ← eatMark .semicolon then countingHead g .empty
    else
      let e ← within ({ · with allowIn := false }) g.expression
      if ← seesCollection then collectionHead g (.expr (← asAssignmentTarget e))
      else
        expectMark .semicolon
        countingHead g (.expr e)

def forStatement (g : Grammar) : Parser Stmt := do
  take
  let awaitStart ← here
  let isAwait ← eatWord "await"
  expectMark .parenOpen
  let head ← within ({ · with inLoopHead := true, inAwaitLoopHead := isAwait }) (loopHead g)
  expectMark .parenClose
  let body ← loopBody g
  match head with
  | .collection target true subject => return .forEach target subject body
  | .collection target false subject =>
    if isAwait then failAt awaitStart .awaitInPlainLoop
    return .forEach target subject body
  | .counting init test update =>
    if isAwait then failAt awaitStart .awaitInPlainLoop
    return .forLoop init test update body

def functionStatement (g : Grammar) (isAsync : Bool) : Parser Stmt := do
  let (name, _, params, body) ← namedFunction g isAsync
  return .functionDecl name params body

def classStatement (g : Grammar) : Parser Stmt :=
  within classContext do
    expectWord "class"
    let name ← bindingName true
    let (base, members) ← classRest g (leftHandSide g)
    return .classDecl name base members

/-- The statement behind a label and its colon. It may be a plain function outside strict code. -/
def labelledStatement (g : Grammar) (label : Ident) : Parser Stmt := do
  let repeats := ((← read).labels.filter (· = label.name)).length
  within (fun c => { c with allowBreak := true, labels := label.name :: c.labels }) do
    let body ← if ← isWord "function" then do
        let start ← here
        let (name, isGenerator, params, body) ← namedFunction g false
        if (← read).strict then note start .labelledFunctionInStrict
        if isGenerator then note start .labelledGenerator
        pure (.functionDecl name params body)
      else g.statement .single
    (List.range repeats).forM fun _ => note label.span.start (.repeatedLabel label.name)
    return .labelled label body

/-- The end of a statement that is an expression. An operator may follow behind a missing
semicolon. -/
def expressionEnd (g : Grammar) (e : Expr) : Parser Stmt := do
  if ← eatStatementEnd then return .expr e
  match ← token? with
  | some (.binary _) =>
    note (← pointed) .missingSemicolon
    return .expr (← operators g e 0)
  | _ => fail .statementEnd

/-- An expression as a statement, or a labelled statement. An operator that goes on behind what
looks like the end is a mistake. -/
def expressionStatement (g : Grammar) : Parser Stmt := do
  let e ← fullExpression g
  match e with
  | .name id => if ← eatMark .colon then return ← labelledStatement g id
  | _ => pure ()
  expressionEnd g e

def checkDeclaration (place : StatementPlace) : Parser Unit := do
  if place = .single then note (← here) .declarationNotAllowed

def keywordStatement? (g : Grammar) (place : StatementPlace) (word : Text) :
    Option (Parser Stmt) :=
  let is (w : String) : Bool := word = w.toList
  if is "break" then some breakStatement
  else if is "continue" then some continueStatement
  else if is "debugger" then some debuggerStatement
  else if is "do" then some (doStatement g)
  else if is "for" then some (forStatement g)
  else if is "function" then some do
    checkDeclaration place
    functionStatement g false
  else if is "class" then some do
    checkDeclaration place
    classStatement g
  else if is "if" then some (ifStatement g)
  else if is "return" then some (returnStatement g)
  else if is "switch" then some (switchStatement g)
  else if is "throw" then some (throwStatement g)
  else if is "catch" || is "finally" then some (strayClause g)
  else if is "try" then some (tryStatement g)
  else if is "with" then some (withStatement g)
  else if is "while" then some (whileStatement g)
  else none

/-- A declaration of variables. Only `var` can stand as a single statement. -/
def variablesHere? (place : StatementPlace) : Parser (Option VariableKind) := do
  match ← variableKind? with
  | some .var => return some .var
  | some kind => return if place = .single then none else some kind
  | none => return none

def otherStatement (g : Grammar) (place : StatementPlace) : Parser Stmt := do
  match ← variablesHere? place with
  | some kind => return .vars (← varDeclaration g kind false)
  | none =>
    if ← isMark .braceOpen then return .block (← block g false)
    else if ← eatMark .semicolon then return .empty
    else if ← areWords "async" "function" then
      take
      functionStatement g true
    else expressionStatement g

def resources? (g : Grammar) (place : StatementPlace) : Parser (Option Stmt) := do
  if place = .single then return none
  else if ← isWord "await" then awaitStatement? g place
  else if ← isWord "using" then using? g (← here)
  else return none

def statement (g : Grammar) (place : StatementPlace) : Parser Stmt := do
  if (← isWord "import") || (← isWord "export") then moduleStatement g
  else
    match ← current with
    | .word word =>
      match ← resources? g place with
      | some s => return s
      | none =>
        match keywordStatement? g place word with
        | some p => p
        | none => otherStatement g place
    | _ => otherStatement g place

end ScriptVeil.Script.Parser
