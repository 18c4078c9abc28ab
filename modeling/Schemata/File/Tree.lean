import Schemata.File.Path
import Schemata.File.Utf8
import Schemata.Text.Quoted

/-! # Trees of files

A file tree tells which directories and files there are, by their place relative to the working
directory or to the root. The working directory and the directories above it are always there. Looking
up a path walks through its names one by one, so that even a name followed by two dots must lead to a
directory. Names and paths are limited in the number of bytes that spell them.
-/

namespace Schemata

/-- Where a walk starts: at the root, or some levels above the working directory. -/
inductive Origin where
  | root
  | above (levels : Nat)
deriving DecidableEq, Repr

/-- A place in the tree: the names that lead there from an origin, innermost first. -/
structure Location where
  origin : Origin
  names : List Text
deriving DecidableEq, Repr

namespace Location

/-- The directory that holds a place; the root holds itself. -/
def parent (location : Location) : Location :=
  match location.names, location.origin with
  | _ :: names, origin => ⟨origin, names⟩
  | [], .root => location
  | [], .above levels => ⟨.above (levels + 1), []⟩

def child (location : Location) (name : Text) : Location :=
  ⟨location.origin, name :: location.names⟩

end Location

inductive Node where
  | directory
  | file (content : List UInt8)
deriving DecidableEq, Repr

/-- Why a path does not lead to what was asked for. -/
inductive AccessFault where
  | missing
  | exists
  | notDirectory
  | isDirectory
  | tooLong
deriving DecidableEq, Repr

structure AccessError where
  fault : AccessFault
  path : Path
deriving DecidableEq, Repr

namespace AccessError

def number (e : AccessError) : Nat :=
  match e.fault with
  | .missing => 2
  | .exists => 17
  | .notDirectory => 20
  | .isDirectory => 21
  | .tooLong => 36

def reason (e : AccessError) : Text :=
  match e.fault with
  | .missing => "No such file or directory"
  | .exists => "File exists"
  | .notDirectory => "Not a directory"
  | .isDirectory => "Is a directory"
  | .tooLong => "File name too long"

def message (e : AccessError) : Text :=
  text "[Errno " ++ Text.ofNat e.number ++ text "] " ++ e.reason ++ text ": "
    ++ Text.quoted e.path.toText

end AccessError

/-- Why a text could not be written to a file. -/
inductive WriteError where
  | invalidPath
  | access (error : AccessError)
  | encoding (error : Utf8.EncodeError)
deriving DecidableEq, Repr

def WriteError.message : WriteError → Text
  | invalidPath => Path.invalidMessage
  | access error => error.message
  | encoding error => error.message

/-- Places with what is there; of two entries for one place the first counts. -/
structure FileTree where
  entries : List (Location × Node)
deriving DecidableEq, Repr

namespace FileTree

def empty : FileTree := ⟨[]⟩

def find? (tree : FileTree) (location : Location) : Option Node :=
  if location.names.isEmpty then some .directory else tree.entries.lookup location

def put (tree : FileTree) (location : Location) (node : Node) : FileTree :=
  ⟨(location, node) :: tree.entries.filter (·.1 ≠ location)⟩

def maxNameBytes : Nat := 255

def maxPathBytes : Nat := 4095

/-- The number of bytes that spell a text. -/
def spelledBytes (t : Text) : Nat := (t.flatMap Utf8.bytes).length

/-- Goes from a place to a name in it. -/
def enter (tree : FileTree) (location : Location) (name : Text) : Except AccessFault Location :=
  match tree.find? location with
  | none => .error .missing
  | some (.file _) => .error .notDirectory
  | some .directory =>
    if maxNameBytes < spelledBytes name then .error .tooLong
    else .ok (if name = text ".." then location.parent else location.child name)

/-- The place that a path leads to; nothing need be there. -/
def locate (tree : FileTree) (path : Path) : Except AccessFault Location :=
  if maxPathBytes < spelledBytes path.toText then .error .tooLong
  else path.names.foldlM tree.enter ⟨if path.absolute then .root else .above 0, []⟩

/-- What a path leads to. -/
def look (tree : FileTree) (path : Path) : Except AccessFault Node := do
  match tree.find? (← tree.locate path) with
  | some node => .ok node
  | none => .error .missing

/-- The content of a file. -/
def read (tree : FileTree) (path : Path) : Except AccessError (List UInt8) :=
  match tree.look path with
  | .ok (.file content) => .ok content
  | .ok .directory => .error ⟨.isDirectory, path⟩
  | .error fault => .error ⟨fault, path⟩

/-- Makes a directory in one that is there. -/
def makeDirectory (tree : FileTree) (path : Path) : Except AccessFault FileTree := do
  let location ← tree.locate path
  match tree.find? location with
  | some _ => .error .exists
  | none => .ok (tree.put location .directory)

/-- Makes a directory unless it is there already. -/
def ensureDirectory (tree : FileTree) (path : Path) : Except AccessError FileTree :=
  match tree.makeDirectory path, tree.look path with
  | .ok made, _ => .ok made
  | .error .missing, _ => .error ⟨.missing, path⟩
  | .error _, .ok .directory => .ok tree
  | .error fault, _ => .error ⟨fault, path⟩

/-- Makes the directory of the given names, innermost first, and those that lead to it. -/
def ensureDirectories (tree : FileTree) (absolute : Bool) :
    List Text → Except AccessError FileTree
  | [] => tree.ensureDirectory ⟨absolute, []⟩
  | name :: outer =>
    let path : Path := ⟨absolute, (name :: outer).reverse⟩
    match tree.ensureDirectory path with
    | .error ⟨.missing, _⟩ => do
      let made ← tree.ensureDirectories absolute outer
      made.ensureDirectory path
    | result => result

/-- Writes a file into a directory that is there, in place of one of that name. -/
def write (tree : FileTree) (path : Path) (content : Text) : Except WriteError FileTree :=
  if !path.isValid then .error .invalidPath
  else
    match tree.locate path with
    | .error fault => .error (.access ⟨fault, path⟩)
    | .ok location =>
      match tree.find? location, Utf8.encode content with
      | some .directory, _ => .error (.access ⟨.isDirectory, path⟩)
      | _, .error error => .error (.encoding error)
      | _, .ok bytes => .ok (tree.put location (.file bytes))

/-- Writes a file, and makes the directories that lead to it. -/
def save (tree : FileTree) (path : Path) (content : Text) : Except WriteError FileTree :=
  let outer : Path := { path with names := path.names.dropLast }
  if !outer.isValid then .error .invalidPath
  else
    match tree.ensureDirectories outer.absolute outer.names.reverse with
    | .error error => .error (.access error)
    | .ok made => made.write path content

end FileTree

end Schemata
