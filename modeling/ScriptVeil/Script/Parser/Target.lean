import ScriptVeil.Script.Parser.Basic

namespace ScriptVeil.Script

def isRestrictedName (name : Text) : Bool :=
  name = "eval".toList || name = "arguments".toList

/-- Names and member accesses, as far as nothing in them is optional. -/
def Expr.isSimpleTarget (strict : Bool) : Expr → Bool
  | .name id => !(strict && isRestrictedName id.name)
  | .paren _ inner => inner.isSimpleTarget strict
  | .member (.member owner key) _ => (Expr.member owner key).isSimpleTarget strict
  | .member (.optional _ _) _ => false
  | .member _ _ => true
  | .atom .invalid _ => true
  | _ => false

def Expr.canBeAssigned : Expr → Bool
  | .name _ | .member _ _ | .optional _ _ | .paren _ _ | .arrayPattern _ _ | .objectPattern _ _
  | .atom .invalid _ => true
  | _ => false

/-- The role in which an expression is reinterpreted: as the left side of an assignment, as
a parameter, or as a part of either. -/
inductive TargetRole where
  | assignment
  | assignmentPart
  | parameter
  | parameterPart
deriving DecidableEq, Repr

def TargetRole.part : TargetRole → TargetRole
  | .assignment | .assignmentPart => .assignmentPart
  | .parameter | .parameterPart => .parameterPart

namespace Parser

def checkTarget (e : Expr) : Parser Unit := do
  if !e.isSimpleTarget (← read).strict then note e.start .badAssignmentLeft

/-- A part of an assignment pattern that is no pattern itself must be assignable. -/
def checkPart (e : Expr) : Parser Unit := do
  match e with
  | .array _ _ _ | .object _ _ _ | .assign _ _ _ => return
  | .member _ _ | .call _ _ | .new _ _ _ | .newBare _ _ | .atom .literal _ | .string _ | .name _
  | .function _ _ _ _ | .classExpr _ _ _ _ | .paren _ _ | .template _ _ =>
    if !e.isSimpleTarget (← read).strict then note e.start .notAssignable
  | _ => note e.start .notAPattern

def isOpaquePart : Expr → Bool
  | .member _ _ | .call _ _ | .new _ _ _ | .newBare _ _ | .atom .literal _ | .string _ | .name _
  | .function _ _ _ _ | .classExpr _ _ _ _ | .paren _ _ | .template _ _ => true
  | _ => false

def notPattern (e : Expr) : Parser Expr := do
  let isYield := match e with
    | .yield _ _ => true
    | _ => false
  note e.start (if isYield && (← read).inGenerator then .yieldInParameters else .notAPattern)
  return .atom .invalid e.start

def isDefaulted : Expr → Bool
  | .withDefault _ _ => true
  | _ => false

/-- An expression that has no pattern inside. Parts of an assignment pattern may be any
assignable expression. -/
def plainTarget (role : TargetRole) (e : Expr) : Parser Expr := do
  if role = .assignmentPart then
    checkPart e
    if isOpaquePart e then return e else notPattern e
  else
    match e with
    | .name _ => return e
    | _ => notPattern e

def defaultedTarget (role : TargetRole) (target : Expr) : Parser Expr := do
  match target with
  | .arrayPattern _ _ | .objectPattern _ _ | .atom .invalid _ => return target
  | e => plainTarget role e

mutual

/-- Reinterprets an expression as a pattern. A target is first parsed as an expression; when an `=`
or `=>` shows what it is, it is reinterpreted. -/
def reinterpret (role : TargetRole) : Expr → Parser Expr
  | .assign true target value => return .withDefault (← defaultedTarget role target) value
  | .object start members comma =>
    return .objectPattern start (← reinterpretMembers role.part comma members)
  | .array start items comma =>
    return .arrayPattern start (← reinterpretItems role.part comma items)
  | .atom .invalid start => return .atom .invalid start
  | e => plainTarget role e

def reinterpretMembers (role : TargetRole) (comma : Option Nat) :
    List Member → Parser (List Member)
  | [] => return []
  | m :: ms => do
    let m ← reinterpretMember role comma ms.isEmpty m
    return m :: (← reinterpretMembers role comma ms)

def reinterpretMember (role : TargetRole) (comma : Option Nat) (isLast : Bool) :
    Member → Parser Member
  | .shorthand id => return .shorthandTarget id none
  | .shorthandDefault id value => return .shorthandTarget id (some value)
  | .pair start key value => return .pair start key (← reinterpret role value)
  | .spread start value => do
    if !isLast then note start .restElementNotLast
    else if let some offset := comma then note offset .commaAfterRest
    if role = .parameterPart then
      match value with
      | .name id => return .spread start (.name id)
      | _ =>
        note start .restWithoutName
        return .spread start (.atom .invalid start)
    else
      let target ← reinterpret role value
      if isDefaulted target then note start .restWithDefault
      return .spread start target
  | .method start _ _ _ => failAt start .notAPattern
  | m => return m

/-- Only the last element of an array pattern may be a rest element. -/
def reinterpretItems (role : TargetRole) (comma : Option Nat) : List Expr → Parser (List Expr)
  | [] => return []
  | [.spread start value] => do
    if let .assign _ _ _ := value then note start .restWithDefault
    if let some offset := comma then note offset .commaAfterRest
    return [.rest start (← reinterpret role value)]
  | .spread start _ :: es => do
    note start .restElementNotLast
    reinterpretItems role comma es
  | .atom .hole start :: es =>
    return .atom .hole start :: (← reinterpretItems role comma es)
  | e :: es => do
    let e ← reinterpret role e
    return e :: (← reinterpretItems role comma es)

end

def asAssignmentTarget (e : Expr) : Parser Expr := do
  match e with
  | .atom .invalid _ => return e
  | .object _ _ _ | .array _ _ _ => reinterpret .assignment e
  | _ =>
    checkTarget e
    return e

def asParameters (comma : Option Nat) : List Expr → Parser (List Expr)
  | [] => return []
  | [.spread start value] => do
    if let .assign _ _ _ := value then note start .restWithDefault
    if let some offset := comma then note offset .commaAfterRest
    return [.rest start (← reinterpret .parameter value)]
  | [e] => return [← reinterpret .parameter e]
  | .spread start _ :: es => do
    note start .restNotLast
    asParameters comma es
  | e :: es => do
    let e ← reinterpret .parameter e
    return e :: (← asParameters comma es)

end Parser

end ScriptVeil.Script
