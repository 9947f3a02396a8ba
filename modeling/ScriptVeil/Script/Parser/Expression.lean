import ScriptVeil.Script.Parser.Primary

namespace ScriptVeil.Script.Parser

/-- An `await` expression behind its keyword. Where no operand can follow, `await` is a name. -/
def awaitRest (g : Grammar) (id : Ident) : Parser Expr := do
  let start := id.span.start
  let c ← read
  if ← isNext (.binary .multiply) then fail .awaitStar
  let noOperand ← sees fun t =>
    t = .mark .parenClose || t = .mark .bracketClose || t = .mark .comma
  if !c.inAsync && (noOperand || (← isStatementEnd)) then return .name id
  if c.inFunction && !c.inAsync then note (← pointed) .awaitInPlainFunction
  if c.inParameters && !c.inFunction then note start .awaitInParameters
  return .await start (← g.unary)

def awaitExpr (g : Grammar) : Parser Expr := do
  awaitRest g (← anyWord)

/-- The operand of a prefix operator. One that cannot be parsed is a mistake. -/
def operand (g : Grammar) : Parser Expr := do
  let start ← lastStart
  try g.unary
  catch fault =>
    note fault.offset fault.cause
    pure (.atom .invalid start)

def isUnaryOperator : Token → Bool
  | .word w => ["delete", "void", "typeof"].any (·.toList = w)
  | .binary .add | .binary .subtract | .mark .tilde | .mark .bang => true
  | _ => false

def isIncrement : Token → Bool
  | .mark .increment | .mark .decrement => true
  | _ => false

def unary (g : Grammar) : Parser Expr := do
  let start ← here
  if ← sees isIncrement then
    take
    let e ← g.unary
    checkTarget e
    return .update start e
  else if ← sees isUnaryOperator then
    take
    return .unary start (← operand g)
  else if ← isWord "await" then awaitExpr g
  else
    let e ← leftHandSide g
    if (← isArrowHere e) || (← afterNewline) then return e
    else if ← sees isIncrement then
      checkTarget e
      take
      return .update e.start e
    else return e

def binaryOperator? (c : Context) : Token → Option BinaryOp
  | .binary op => some op
  | .word w =>
    if w = "in".toList && c.allowIn then some .inside
    else if w = "instanceof".toList then some .instanceOf
    else none
  | _ => none

def isLogical : Expr → Bool
  | .binary .and _ _ | .binary .or _ _ => true
  | _ => false

/-- `&&` and `||` must not be mixed with `??` without parentheses. -/
def noteMixed (e : Expr) : Parser Unit := do
  match e with
  | .binary .and (.binary .coalesce left _) _ | .binary .or (.binary .coalesce left _) _ =>
    note left.start .mixedCoalescing
  | _ => return

/-- One more binary operator behind `left`, if it binds more tightly than `level`. -/
def nextOperator (g : Grammar) (level : Nat) (left : Expr) : Parser (Option Expr) := do
  match (← token?).bind (binaryOperator? (← read)) with
  | none => return none
  | some op =>
    if op.precedence ≤ level then return none
    take
    match left with
    | .unary _ _ | .await _ _ => if op = .power then fail .powerOfUnary
    | _ => pure ()
    let first ← unary g
    let right ← g.operators first (if op = .power then op.precedence - 1 else op.precedence)
    if op = .coalesce then
      if isLogical left then note left.start .mixedCoalescing
      if isLogical right then note right.start .mixedCoalescing
    return some (.binary op left right)

def operators (g : Grammar) (left : Expr) (level : Nat) : Parser Expr :=
  iterated left fun left => do
    match ← nextOperator g level left with
    | some e =>
      noteMixed e
      return some e
    | none =>
      noteMixed left
      return none

/-- Binary operators between operands. A first operand that cannot be parsed is a mistake if an
operator follows; at the end of the text the missing rest is the fault. -/
def binary (g : Grammar) : Parser Expr := do
  let first ← try unary g
    catch fault =>
      match binaryOperator? (← read) (← current) with
      | some _ =>
        note (← pointed) .expressionExpected
        pure (.atom .invalid fault.offset)
      | none => throw fault
  if ← isArrowHere first then return first else operators g first 0

def conditional (g : Grammar) : Parser Expr := do
  let test ← binary g
  if ← isArrowHere test then return test
  else if ← eatMark .question then
    let yes ← allowingIn g.assignment
    expectMark .colon
    let no ← g.assignment
    return .conditional test yes no
  else return test

def startsNoExpression : List Text :=
  ["break", "case", "catch", "const", "continue", "debugger", "default", "do", "else", "export",
   "extends", "finally", "for", "if", "in", "instanceof", "return", "switch", "throw", "try",
   "var", "while", "with"].map String.toList

def startsExpression : Token → Bool
  | .word w => !startsNoExpression.contains w
  | .string _ _ | .number _ | .bigNumber _ | .regex _ _ => true
  | .mark m =>
    [Mark.parenOpen, .bracketOpen, .braceOpen, .bang, .tilde, .increment, .decrement, .backtick,
      .hash].contains m
  | .binary op => [BinaryOp.add, .subtract, .divide, .less].contains op
  | .assign op => op = some .divide
  | .template _ _ | .bad _ => false

/-- A `yield` expression. Its operand starts on the same line. -/
def yieldExpr (g : Grammar) : Parser Expr := do
  let start ← here
  take
  let c ← read
  if c.inParameters && !c.inFunction then failAt start .yieldInParameters
  let hasOperand ← sees fun t => t = .binary .multiply || startsExpression t
  if (← afterNewline) || !hasOperand then return .yield start none
  else
    let _ ← eat (.binary .multiply)
    return .yield start (some (← g.assignment))

/-- Operators bind more tightly than assignments, so their results are no targets. -/
def isOperatorResult : Expr → Bool
  | .conditional _ _ _ | .binary _ _ _ | .unary _ _ | .update _ _ => true
  | _ => false

/-- The target of an assignment. Only `=` takes patterns. -/
def assignmentTarget (plain : Bool) (e : Expr) : Parser Expr := do
  let target ← if plain then asAssignmentTarget e
    else do
      if !e.isSimpleTarget (← read).strict then note e.start .notAssignable
      pure e
  if target.canBeAssigned then return target else failAt e.start .badTarget

/-- Where an arrow function can start: at a name, at `yield` or at a parenthesis. -/
def startsArrow : Token → Bool
  | .word w => w = "yield".toList || !isKeyword w
  | .mark .parenOpen => true
  | _ => false

def assignment (g : Grammar) : Parser Expr := do
  if (← read).inGenerator && (← isWord "yield") then yieldExpr g
  else
    let start ← here
    let canBeArrow := startsArrow (← current)
    within (fun c => { c with arrowStart := if canBeArrow then some start else none }) do
      let e ← conditional g
      if (← isArrowHere e) || isOperatorResult e then return e
      match ← token? with
      | some (.assign op) =>
        let target ← assignmentTarget op.isNone e
        take
        return .assign op.isNone target (← g.assignment)
      | _ => return e

def expression (g : Grammar) : Parser Expr := do
  let first ← g.assignment
  if ← isMark .comma then
    let rest ← repeated do
      if ← eatMark .comma then return some (← g.assignment) else return none
    return .sequence first rest
  else return first

end ScriptVeil.Script.Parser
