import ScriptVeil.Text.Basic

namespace ScriptVeil.CommandLine

inductive FileError where
  | missing
  | isDirectory
  | notDirectory
  | nameTooLong
  | notText
  | other (details : Text)
deriving DecidableEq, Repr

def FileError.message : FileError → Text
  | .missing => "No such file or directory (os error 2)".toList
  | .isDirectory => "Is a directory (os error 21)".toList
  | .notDirectory => "Not a directory (os error 20)".toList
  | .nameTooLong => "File name too long (os error 36)".toList
  | .notText => "stream did not contain valid UTF-8".toList
  | .other details => details

/-- The operations on files that a run uses, in a monad that has their effects. -/
structure FileSystem (m : Type → Type) where
  read : Text → m (Except FileError ByteArray)
  write : Text → ByteArray → m (Except FileError Unit)

end ScriptVeil.CommandLine
