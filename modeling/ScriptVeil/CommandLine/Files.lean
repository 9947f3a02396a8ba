import ScriptVeil.CommandLine.FileSystem

namespace ScriptVeil.CommandLine

/-- The files of one directory, each name once. Paths may walk over the directory itself; outside it
no files are known. -/
abbrev Files := List (Text × ByteArray)

/-- Where a path leads: to a name of the directory, which is written as a directory if slashes
follow it, or to no name at all. -/
inductive Place where
  | name (name : Text) (slashed : Bool)
  | nowhere (e : FileError)
deriving DecidableEq, Repr

def segments : Text → List Text
  | [] => [[]]
  | c :: t =>
    if c = '/' then [] :: segments t
    else
      match segments t with
      | [] => [[c]]
      | s :: ss => (c :: s) :: ss

namespace Files

def find? (files : Files) (name : Text) : Option ByteArray :=
  (List.find? (fun f => f.1 = name) files).map Prod.snd

def insert (files : Files) (name : Text) (content : ByteArray) : Files :=
  (name, content) :: files.filter fun f => f.1 ≠ name

def nameLimit : Nat := 255

def pathLimit : Nat := 4095

def isTooLong (name : Text) : Bool :=
  name.byteSize > nameLimit

def walk (files : Files) (inside : Bool) : List Text → Place
  | [] => .nowhere .isDirectory
  | s :: rest =>
    if s = [] ∨ s = ['.'] then files.walk inside rest
    else if s = ['.', '.'] then files.walk false rest
    else if inside && rest.all (· = []) then .name s (!rest.isEmpty)
    else if isTooLong s then .nowhere .nameTooLong
    else if inside && (files.find? s).isSome then .nowhere .notDirectory
    else .nowhere .missing

def place (files : Files) (path : Text) : Place :=
  if path.byteSize > pathLimit then .nowhere .nameTooLong
  else files.walk (path.head? ≠ some '/') (segments path)

def read (files : Files) (path : Text) : Except FileError ByteArray :=
  match files.place path with
  | .nowhere e => .error e
  | .name name slashed =>
    if isTooLong name then .error .nameTooLong
    else
      match files.find? name with
      | none => .error .missing
      | some content => if slashed then .error .notDirectory else .ok content

def write (files : Files) (path : Text) (content : ByteArray) : Except FileError Files :=
  match files.place path with
  | .nowhere e => .error e
  | .name name slashed =>
    if slashed then .error .isDirectory
    else if isTooLong name then .error .nameTooLong
    else .ok (files.insert name content)

end Files

def directory : FileSystem (StateM Files) where
  read path := fun files => (files.read path, files)
  write path content := fun files =>
    match files.write path content with
    | .ok files' => (.ok (), files')
    | .error e => (.error e, files)

end ScriptVeil.CommandLine
