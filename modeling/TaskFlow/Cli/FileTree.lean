import TaskFlow.Cli.Run

/-!
# Files in memory

- `FileTree`: files by path. The directories are those that hold a file, the top, those above it and the root; above
  the top nothing else is known but the null device, so names there are missing;
- `FileTree.access`: reading and writing in such a tree. A file is written into a directory that is there only, and
  the null device stays empty.
-/

namespace TaskFlow

/-- Texts by path. A path leads from the top, and up from it by leading `..`; one that begins with `/` leads from the
root. -/
structure FileTree where
  files : List (List String × String) := []

namespace FileTree

/-- Why a path cannot be read or written. -/
inductive PathError where
  | missing
  | notDirectory
  | isDirectory
  | nameTooLong
deriving DecidableEq

def PathError.message : PathError → String
  | missing => "No such file or directory (os error 2)"
  | notDirectory => "Not a directory (os error 20)"
  | isDirectory => "Is a directory (os error 21)"
  | nameTooLong => "File name too long (os error 36)"

/-- The most bytes of one name, and of a whole path. -/
def nameLimit : Nat := 255

def pathLimit : Nat := 4095

/-- The steps of a path; `.` stays and `..` goes up. -/
def steps (path : String) : List String := (path.splitOn "/").filter (· != "")

/-- The directory that the first step of a path starts from. -/
def start (path : String) : List String := if path.startsWith "/" then ["/"] else []

/-- The directory of the devices. -/
def devices : List String := ["/", "dev"]

/-- The device that is always empty. -/
def nullDevice : List String := devices ++ ["null"]

def text? (t : FileTree) (path : List String) : Option String :=
  if path = nullDevice then some "" else t.files.lookup path

def isDirectory (t : FileTree) (path : List String) : Bool :=
  path.all (· == "..") || path == ["/"] || path == devices ||
    t.files.any fun f => path.isPrefixOf f.1 && f.1 != path

/-- The directory above another one; there is none above the root. -/
def parent (dir : List String) : List String :=
  if dir == ["/"] then dir else if dir.all (· == "..") then dir ++ [".."] else dir.dropLast

/-- One step from a directory on. -/
def step (dir : List String) (name : String) : Except PathError (List String) :=
  if name = "." then .ok dir
  else if name = ".." then .ok (parent dir)
  else if nameLimit < name.utf8ByteSize then .error .nameTooLong
  else .ok (dir ++ [name])

/-- The place that steps lead to from a directory on; all but the last one are directories. -/
def locate (t : FileTree) (dir : List String) : List String → Except PathError (List String)
  | [] => .ok dir
  | [last] => step dir last
  | name :: names => do
    let next ← step dir name
    if t.isDirectory next then locate t next names
    else throw (if (t.text? next).isSome then .notDirectory else .missing)

/-- The place of a path; one that ends in a slash and is to be read goes on to the directory itself. -/
def place (t : FileTree) (path : String) (isRead : Bool) : Except PathError (List String) := do
  if path.isEmpty then throw .missing
  if pathLimit < path.utf8ByteSize then throw .nameTooLong
  t.locate (start path) (steps path ++ if isRead && path.endsWith "/" then ["."] else [])

def read (t : FileTree) (path : String) : Except PathError String := do
  let place ← t.place path true
  match t.text? place with
  | some text => return text
  | none => throw (if t.isDirectory place then .isDirectory else .missing)

/-- Nothing is written to a path that ends in a slash. -/
def write (t : FileTree) (path text : String) : Except PathError FileTree := do
  let place ← t.place path false
  if path.endsWith "/" || t.isDirectory place then throw .isDirectory
  if place = nullDevice then return t
  return { files := (place, text) :: t.files.filter fun f => f.1 != place }

def ofList (files : List (String × String)) : FileTree where
  files := files.map fun f => ((steps f.1).filter (· != "."), f.2)

def access : FileAccess (StateM FileTree) where
  read path := return ((← get).read path).mapError PathError.message
  write path text := do
    match (← get).write path text with
    | .ok t =>
      set t
      return .ok ()
    | .error e => return .error e.message

end FileTree

end TaskFlow
