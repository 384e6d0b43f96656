import Spreadsheet.Storage.Path

/-! Files and directories in memory.
-/

namespace Spreadsheet.Storage

/-- The names that lead from the root to a file or directory. -/
abbrev Place := List String

inductive Item where
  | directory
  | file (data : List UInt8)
deriving DecidableEq, Repr

/-- Why an operation on a tree is refused. -/
inductive TreeFault where
  | notFound
  | exists
  | notDirectory
  | isDirectory
  | nameTooLong
  | nullInName
deriving DecidableEq, Repr

def TreeFault.message : TreeFault → String
  | .notFound => "No such file or directory"
  | .exists => "File exists"
  | .notDirectory => "Not a directory"
  | .isDirectory => "Is a directory"
  | .nameTooLong => "File name too long"
  | .nullInName => "file name contained an unexpected NUL byte"

/-- What is at which place. The root is a directory and needs no entry. -/
structure FileTree where
  items : List (Place × Item) := []
deriving DecidableEq, Repr

namespace FileTree

/-- Names have at most this many bytes. -/
def maxName : Nat := 255

/-- Paths have fewer bytes than this. -/
def maxPath : Nat := 4096

def find? (t : FileTree) (place : Place) : Option Item :=
  if place.isEmpty then some .directory else t.items.lookup place

/-- Puts something at a place, instead of what may be there. -/
def put (t : FileTree) (place : Place) (item : Item) : FileTree :=
  ⟨(place, item) :: t.items.filter (·.1 != place)⟩

def erase (t : FileTree) (place : Place) : FileTree := ⟨t.items.filter (·.1 != place)⟩

/-- The number of things right inside a directory. -/
def count (t : FileTree) (place : Place) : Nat :=
  (t.items.filter fun entry => !entry.1.isEmpty && entry.1.dropLast == place).length

/-- The path can be given to the machine at all. -/
def checkPath (path : String) : Except TreeFault Unit :=
  if path.toList.contains '\x00' then .error .nullInName
  else if maxPath ≤ path.utf8ByteSize then .error .nameTooLong
  else .ok ()

/-- Where paths start that do not start at the root. -/
def base (current : Place) (path : String) : Place := if isAbsolute path then [] else current

/-- One step from a directory. -/
def step (t : FileTree) (place : Place) (piece : String) : Except TreeFault Place :=
  match t.find? place with
  | none => .error .notFound
  | some (.file _) => .error .notDirectory
  | some .directory =>
    if staysThere piece then .ok place
    else if piece == ".." then .ok place.dropLast
    else if maxName < piece.utf8ByteSize then .error .nameTooLong
    else .ok (place ++ [piece])

/-- The place a path leads to, whether something is there or not. -/
def locate (t : FileTree) (current : Place) (path : String) : Except TreeFault Place := do
  checkPath path
  if path.isEmpty then throw .notFound
  (pieces path).foldlM t.step (base current path)

/-- Makes one directory, in one that is there. Slashes behind its name do not count. -/
def makeDirectory (t : FileTree) (current : Place) (path : String) : Except TreeFault FileTree := do
  checkPath path
  let names := ((pieces path).reverse.dropWhile (·.isEmpty)).reverse
  let place ← names.foldlM t.step (base current path)
  if (t.find? place).isSome then throw .exists else return t.put place .directory

def isDirectory (t : FileTree) (current : Place) (path : String) : Bool :=
  match t.locate current path with
  | .ok place => t.find? place == some .directory
  | .error _ => false

/-- Makes a directory and those around it, where they are missing. -/
def makeDirectories (current : Place) (path : String) : StateM FileTree (Except TreeFault Unit) :=
  makeOutward
    (fun path t =>
      match t.makeDirectory current path with
      | .ok t => (.ok (), t)
      | .error e => (.error e, t))
    (· == .notFound) (fun path t => (t.isDirectory current path, t)) (outward path)

def write (t : FileTree) (current : Place) (path : String) (data : List UInt8)
    : Except TreeFault FileTree := do
  let place ← t.locate current path
  match t.find? place with
  | some .directory => throw .isDirectory
  | _ => return t.put place (.file data)

def read (t : FileTree) (current : Place) (path : String) : Except TreeFault (List UInt8) := do
  let place ← t.locate current path
  match t.find? place with
  | some (.file data) => return data
  | some .directory => throw .isDirectory
  | none => throw .notFound

/-- The path from the root to a place. -/
def pathOf (place : Place) : String :=
  if place.isEmpty then "/" else String.join (place.map ("/" ++ ·))

def realPath (t : FileTree) (current : Place) (path : String) : Except TreeFault String := do
  let place ← t.locate current path
  if (t.find? place).isNone then throw .notFound else return pathOf place

def remove (t : FileTree) (current : Place) (path : String) : Except TreeFault FileTree := do
  let place ← t.locate current path
  match t.find? place with
  | some (.file _) => return t.erase place
  | some .directory => throw .isDirectory
  | none => throw .notFound

/-- Writes a file and makes the directories around it. -/
def writeBelow (t : FileTree) (current : Place) (path : String) (data : List UInt8)
    : Except TreeFault FileTree :=
  match (outward path).tail with
  | [] => t.write current path data
  | directory :: _ =>
    let (_, t) := makeDirectories current directory t
    t.write current path data

end FileTree

end Spreadsheet.Storage
