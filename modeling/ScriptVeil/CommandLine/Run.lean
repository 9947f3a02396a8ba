import ScriptVeil.CommandLine.Files
import ScriptVeil.CommandLine.Request
import ScriptVeil.Obfuscation

namespace ScriptVeil.CommandLine

inductive Failure where
  | unread (path : Text) (e : FileError)
  | refused (path : Text) (refusal : Refusal)
  | unwritten (path : Text) (e : FileError)
deriving DecidableEq, Repr

def Failure.shown : Failure → Text × Text
  | .unread path e => ("Failed to read ".toList ++ path, e.message)
  | .refused path refusal => refusal.shown path
  | .unwritten path e => ("Failed to write ".toList ++ path, e.message)

def Failure.report (f : Failure) : Text :=
  let (summary, reason) := f.shown
  "Error: ".toList ++ summary ++ "\n\nCaused by:\n    ".toList
    ++ reason.replaceAll ['\n'] "\n    ".toList ++ ['\n']

/-- What is left to do when the input has been dealt with. -/
inductive Delivery where
  | crash
  | fail (failure : Failure)
  | print (t : Text)
  | save (path t : Text)

/-- Whether events of a level are logged: warnings always, the others on demand. -/
def isLogged (verbosity : Nat) : Level → Bool
  | .warn => true
  | .debug => 1 ≤ verbosity
  | .trace => 2 ≤ verbosity

def logOf (verbosity : Nat) (events : List Event) : Text :=
  (events.filter fun e => isLogged verbosity e.level).flatMap Event.line

def textOf (content : ByteArray) : Except FileError Text :=
  match String.fromUTF8? content with
  | some s => .ok s.toList
  | none => .error .notText

def bytesOf (t : Text) : ByteArray :=
  (String.ofList t).toUTF8

/-- Deals with what reading the input gave. The first value is the log. Without a seed, `entropy`
is the seed. -/
def process (entropy : UInt64) (o : Options) (content : Except FileError ByteArray)
    (attempts : Nat := Mask.attemptLimit) : Text × Delivery :=
  match content >>= textOf with
  | .error e => ([], .fail (.unread o.input e))
  | .ok input =>
    let run := obfuscate o.strategy (o.seed.getD entropy) input attempts
    let log := logOf o.verbosity run.events
    match run.result, o.output with
    | .error .panic, _ => (log, .crash)
    | .error refusal, _ => (log, .fail (.refused o.input refusal))
    | .ok t, none => (log, .print t)
    | .ok t, some path => (log, .save path t)

/-- The exit code of a run and what it has written to its two streams. The error stream is kept
without colours and without the report of a crash. -/
structure Output where
  code : Nat
  stdout : Text
  stderr : Text

def Output.uncoloured (out : Output) : Output :=
  { out with stderr := out.stderr.withoutColours }

def Output.ofWrite (log path : Text) : Except FileError Unit → Output
  | .ok () => ⟨0, [], log⟩
  | .error e => ⟨1, [], log ++ (Failure.unwritten path e).report⟩

section

variable {m : Type → Type} [Monad m]

def deliver (fs : FileSystem m) (log : Text) : Delivery → m Output
  | .crash => return ⟨101, [], log⟩
  | .fail failure => return ⟨1, [], log ++ failure.report⟩
  | .print t => return ⟨0, t ++ ['\n'], log⟩
  | .save path t => return Output.ofWrite log path (← fs.write path (bytesOf t))

/-- The run of a list of arguments. Each mask is drawn within a number of attempts. -/
def runOn (fs : FileSystem m) (entropy : UInt64) (args : List Text)
    (attempts : Nat := Mask.attemptLimit) : m Output :=
  match Request.ofArgs args with
  | .error e => return ⟨2, [], e.message⟩
  | .ok (.help long) => return ⟨0, if long then longHelp else shortHelp, []⟩
  | .ok (.run o) => do
    let processed := process entropy o (← fs.read o.input) attempts
    return (← deliver fs processed.1 processed.2).uncoloured

end

structure Exit extends Output where
  files : Files

def run (entropy : UInt64) (args : List Text) (files : Files) : Exit :=
  let (out, files) := (runOn directory entropy args).run files
  ⟨out, files⟩

end ScriptVeil.CommandLine
