import ScriptVeil.CommandLine.Usage
import ScriptVeil.Masking.Strategy

namespace ScriptVeil.CommandLine

structure Options where
  input : Text
  output : Option Text
  seed : Option UInt64
  strategy : Strategy
  verbosity : Nat
deriving DecidableEq, Repr

inductive Request where
  | help (long : Bool)
  | run (options : Options)
deriving DecidableEq, Repr

/-- Reads decimal digits behind a value. The first thing that is wrong from the left counts. -/
def seedFrom (n : Nat) : Text → Except SeedFault UInt64
  | [] => .ok n.toUInt64
  | c :: t =>
    if '0' ≤ c ∧ c ≤ '9' then
      let n := 10 * n + (c.toNat - '0'.toNat)
      if n < Nat.pow 2 64 then seedFrom n t else .error .tooLarge
    else .error .badDigit

/-- A 64-bit number in decimal; a plus sign may stand in front of it. -/
def seedOf : Text → Except SeedFault UInt64
  | [] => .error .empty
  | ['+'] => .error .badDigit
  | '+' :: t => seedFrom 0 t
  | t => seedFrom 0 t

/-- An argument that was read and not yet looked at. A value is looked at when the next known
argument begins or the arguments end, so an unknown argument right behind a faulty value is reported
instead of it. -/
structure Pending where
  parameter : Parameter
  value : Option Text

structure Progress where
  input : Option Text := none
  output : Option Text := none
  seed : Option UInt64 := none
  strategy : Option Strategy := none
  verbosity : Nat := 0
  hasInput : Bool := false
  onlyInputs : Bool := false
  pending : Option Pending := none

namespace Progress

def has (p : Progress) : Parameter → Bool
  | .input => p.input.isSome
  | .output => p.output.isSome
  | .seed => p.seed.isSome
  | .strategy => p.strategy.isSome

def assign (p : Progress) (value : Text) : Parameter → Except UsageError Progress
  | .input => if value = [] then .error (.valueMissing .input) else .ok { p with input := value }
  | .output => if value = [] then .error (.valueMissing .output) else .ok { p with output := value }
  | .seed =>
    match seedOf value with
    | .ok n => .ok { p with seed := n }
    | .error fault => .error (.badSeed value fault)
  | .strategy =>
    if value = [] then .error (.valueMissing .strategy)
    else if value = "textual".toList then .ok { p with strategy := some .textual }
    else if value = "ranged".toList then .ok { p with strategy := some .ranged }
    else .error (.badStrategy value)

def set (p : Progress) (parameter : Parameter) (value : Text) : Except UsageError Progress :=
  if p.has parameter then .error (.repeated parameter) else p.assign value parameter

def settle (p : Progress) : Except UsageError Progress :=
  match p.pending with
  | none => .ok p
  | some ⟨parameter, none⟩ => .error (.valueMissing parameter)
  | some ⟨parameter, some value⟩ => { p with pending := none }.set parameter value

end Progress

inductive Step where
  | on (p : Progress)
  | help (long : Bool)

/-- An option, whose value is attached or follows. -/
def valueStep (p : Progress) (parameter : Parameter) (attached : Option Text) :
    Except UsageError Step := do
  let p ← p.settle
  match attached with
  | some value => return .on (← p.set parameter value)
  | none => return .on { p with pending := some ⟨parameter, none⟩ }

def flagStep (p : Progress) (flag : Flag) (long : Bool) : Except UsageError Step := do
  let p ← p.settle
  match flag with
  | .verbose => return .on { p with verbosity := p.verbosity + 1 }
  | .help => return .help long

def longStep (p : Progress) (arg : Text) : Except UsageError Step :=
  let name := arg.takeWhile (· ≠ '=')
  let attached := (arg.dropWhile (· ≠ '=')).tail?
  match Parameter.ofLong? name, Flag.ofLong? name with
  | some parameter, _ => valueStep p parameter attached
  | none, some flag =>
    match attached with
    | some value => .error (.unexpectedValue value flag)
    | none => flagStep p flag true
  | none, none => .error (.unexpectedArgument ("--".toList ++ name))

/-- The value attached to a short option, where an equals sign may stand between them. -/
def attachedValue : Text → Option Text
  | [] => none
  | '=' :: t => some t
  | t => some t

/-- An argument that starts with one hyphen, behind it: flags in a row, the last of which may be an
option with its value. -/
def shortSteps (p : Progress) : Text → Except UsageError Step
  | [] => .ok (.on p)
  | 'o' :: t => valueStep p .output (attachedValue t)
  | 'v' :: t => do
    match ← flagStep p .verbose false with
    | .on p => shortSteps p t
    | .help long => return .help long
  | 'h' :: _ => flagStep p .help false
  | c :: _ => .error (.unexpectedArgument ['-', c])

def inputStep (p : Progress) (arg : Text) : Except UsageError Step :=
  if p.hasInput then .error (.unexpectedArgument arg)
  else do
    let p ← p.settle
    return .on { p with hasInput := true, pending := some ⟨.input, some arg⟩ }

def plainStep (p : Progress) (arg : Text) : Except UsageError Step :=
  match p.pending with
  | some ⟨parameter, none⟩ => .ok (.on { p with pending := some ⟨parameter, some arg⟩ })
  | _ => inputStep p arg

/-- Reads an argument. Behind `--` there are only inputs. -/
def step (p : Progress) (arg : Text) : Except UsageError Step :=
  if p.onlyInputs then inputStep p arg
  else
    match arg with
    | ['-', '-'] => .ok (.on { p with onlyInputs := true })
    | '-' :: '-' :: t => longStep p t
    | '-' :: c :: t => shortSteps p (c :: t)
    | arg => plainStep p arg

def Progress.request (p : Progress) : Except UsageError Request := do
  let p ← p.settle
  match p.input with
  | none => throw .inputMissing
  | some input => return .run ⟨input, p.output, p.seed, p.strategy.getD .textual, p.verbosity⟩

def requestFrom (p : Progress) : List Text → Except UsageError Request
  | [] => p.request
  | arg :: args => do
    match ← step p arg with
    | .on p => requestFrom p args
    | .help long => return .help long

def Request.ofArgs (args : List Text) : Except UsageError Request :=
  requestFrom {} args

end ScriptVeil.CommandLine
