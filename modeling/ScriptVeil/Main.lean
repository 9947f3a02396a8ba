import ScriptVeil.CommandLine.Run

namespace ScriptVeil.CommandLine

def fileErrorOf : IO.Error → FileError
  | .noFileOrDirectory _ _ _ => .missing
  | .inappropriateType _ code details =>
    if code = 20 then .notDirectory
    else if code = 21 then .isDirectory
    else .other details.toList
  | .invalidArgument _ code details =>
    if code = 36 then .nameTooLong else .other details.toList
  | e => .other e.toString.toList

def readSystemFile (path : Text) : IO (Except FileError ByteArray) := do
  try
    return .ok (← IO.FS.readBinFile (String.ofList path))
  catch e => return .error (fileErrorOf e)

def writeSystemFile (path : Text) (content : ByteArray) : IO (Except FileError Unit) := do
  try
    IO.FS.writeBinFile (String.ofList path) content
    return .ok ()
  catch e => return .error (fileErrorOf e)

def systemFiles : FileSystem IO :=
  ⟨readSystemFile, writeSystemFile⟩

def systemEntropy : IO UInt64 := do
  let bytes ← IO.getRandomBytes 8
  return bytes.toList.foldl (fun n b => n * 256 + b.toUInt64) 0

end ScriptVeil.CommandLine

open ScriptVeil CommandLine in
def main (args : List String) : IO UInt32 := do
  let out ← runOn systemFiles (← systemEntropy) (args.map String.toList)
  (← IO.getStderr).putStr (String.ofList out.stderr)
  -- The message of a usage error is a single line that has no end yet.
  if out.code = 2 then (← IO.getStderr).putStr "\n"
  IO.print (String.ofList out.stdout)
  return out.code.toUInt32
