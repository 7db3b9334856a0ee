import Unsugar.Program.Host

/-!
# A simulated system

A tree of text files seen from a working directory, with input given beforehand and output collected.
Directories are there as far as files are in them. A path is followed as the system does: every part
but the last has to lead to a directory, where `.` stays, `..` leads up and empty parts count for
nothing. The last part may name a file only if no slash follows it, whether or not a directory of
that name is there.
-/

namespace Unsugar

/-- Files by their paths from the working directory, or from the root directory after a part `/`. -/
abbrev Files := List (List String × String)

namespace Files

/-- Why a path leads nowhere. -/
inductive PathFault where
  | missing | notDirectory | isDirectory | tooLong
deriving DecidableEq, Repr

/-- The system's words for a fault. -/
def PathFault.message : PathFault → String
  | missing => "No such file or directory (os error 2)"
  | notDirectory => "Not a directory (os error 20)"
  | isDirectory => "Is a directory (os error 21)"
  | tooLong => "File name too long (os error 36)"

def content? (files : Files) (path : List String) : Option String := files.lookup path

/-- Whether a path is that of a directory: the working directory, one above it, the root directory, or
one that holds files. -/
def isDirectory (files : Files) (path : List String) : Bool :=
  path.all (· = "..") || path = ["/"] ||
    files.any fun file => path.isPrefixOf file.1 && path ≠ file.1

/-- The directory above a directory. The one above the root directory is that itself. -/
def above (dir : List String) : List String :=
  if dir.all (· = "..") then dir ++ [".."] else if dir = ["/"] then dir else dir.dropLast

/-- The bytes in the longest name of a file. -/
def maxName : Nat := 255

/-- The bytes in the longest path. -/
def maxPath : Nat := 4095

/-- The directory one part further from a directory. -/
def descend (files : Files) (dir : List String) (part : String) :
    Except PathFault (List String) :=
  if part = "." then .ok dir
  else if part = ".." then .ok (above dir)
  else
    let place := dir ++ [part]
    if part.utf8ByteSize > maxName then .error .tooLong
    else if files.isDirectory place then .ok place
    else .error (if (files.content? place).isSome then .notDirectory else .missing)

/-- The place for a file that a path names, whether or not a file is there. -/
def place (files : Files) (path : String) : Except PathFault (List String) := do
  if path = "" then throw .missing
  if path.utf8ByteSize > maxPath then throw .tooLong
  let parts := (path.splitOn "/").filter (· ≠ "")
  let start := if path.startsWith "/" then ["/"] else []
  let dir ← parts.dropLast.foldlM files.descend start
  let name := parts.getLastD "."
  if name = "." ∨ name = ".." ∨ path.endsWith "/" then throw .isDirectory
  if name.utf8ByteSize > maxName then throw .tooLong
  let place := dir ++ [name]
  if files.isDirectory place then throw .isDirectory
  return place

def read? (files : Files) (path : String) : Option String :=
  match files.place path with
  | .ok place => files.content? place
  | .error _ => none

/-- The files with one more or one replaced. -/
def put (place : List String) (text : String) : Files → Files
  | [] => [(place, text)]
  | (p, t) :: rest => if p = place then (p, text) :: rest else (p, t) :: put place text rest

/-- Writes a file; a path that leads nowhere leaves all files as they were. -/
def write (files : Files) (path text : String) : Except PathFault Files :=
  (files.place path).map fun place => put place text files

/-- The files in the working directory itself that are new or changed. -/
def changes (before after : Files) : List (String × String) :=
  after.filterMap fun (place, text) =>
    match place with
    | [name] => if before.content? place = some text then none else some (name, text)
    | _ => none

end Files

/-- The state of a simulated system. -/
structure World where
  /-- Standard input, none if it is no text. -/
  input : Option String
  files : Files
  output : String
  reports : String
  /-- The level of the log, if it was opened. -/
  log : Option String

namespace World

/-- The files every system has: one that is always empty, and standard input under a name. -/
def devices (input : Option String) : Files :=
  (["/", "dev", "null"], "") :: (input.toList.map fun text => (["/", "dev", "stdin"], text))

/-- A system with some input and some files before anything has run. -/
def start (input : Option String) (files : Files) : World :=
  ⟨input, files ++ devices input, "", "", none⟩

/-- The operations on a simulated system, in which no time passes. -/
def host : Host (StateM World) where
  openLog level := modify fun w => { w with log := some level }
  readInput := return (← get).input
  readFile path := return (← get).files.read? path
  writeFile path text := do
    let w ← get
    match w.files.write path text with
    | .ok files => set { w with files }; return none
    | .error fault => return some fault.message
  writeOutput text := do
    modify fun w => { w with output := w.output ++ text }
    return none
  report text := modify fun w => { w with reports := w.reports ++ text }
  clock := return 0

end World

end Unsugar
