import Spreadsheet.Text.Blank

/-! Paths: names with slashes between them, and the order in which the directories on a path are
made.
-/

namespace Spreadsheet.Storage

/-- The pieces between slashes. -/
def pieces (path : String) : List String := Text.splitAtChar '/' path

/-- The piece stays where it is. -/
def staysThere (piece : String) : Bool := piece.isEmpty || piece == "."

/-- The pieces that lead somewhere. -/
def steps (path : String) : List String := (pieces path).filter (!staysThere ·)

/-- The name at the end of a path; a step up is none. -/
def lastName? (path : String) : Option String := (steps path).getLast?.filter (· != "..")

/-- The path of something inside a directory. -/
def inside (directory name : String) : String :=
  if directory.isEmpty || directory.toList.getLast? == some '/' then directory ++ name
  else directory ++ "/" ++ name

/-- The path starts at the root. -/
def isAbsolute (path : String) : Bool := path.toList.head? == some '/'

/-- What a path is made of: the pieces that lead somewhere, and a dot at its very start. -/
def components (path : String) : List String :=
  match pieces path with
  | "." :: rest => "." :: rest.filter (!staysThere ·)
  | all => all.filter (!staysThere ·)

/-- The path with some components. -/
def ofComponents (absolute : Bool) (parts : List String) : String :=
  (if absolute then "/" else "") ++ "/".intercalate parts

/-- A path as it is written, then the directories around it from the inside out, without the
root and the directory in which relative paths start. Nothing lies around those two. -/
def outward (path : String) : List String :=
  match components path with
  | [] => []
  | first :: rest =>
    path :: (List.range rest.length).reverse.map fun k =>
      ofComponents (isAbsolute path) (first :: rest.take k)

variable {m : Type → Type} [Monad m]

/-- Makes a directory, given the paths outward from it. Where it cannot be made as nothing is there
to hold it, the directories around it are made first. A path that cannot be made in the end will do
if it is that of a directory. -/
def makeOutward (make : String → m (Except ε Unit)) (isMissing : ε → Bool)
    (isDirectory : String → m Bool) : List String → m (Except ε Unit)
  | [] => return .ok ()
  | path :: around => do
    let made ← match ← make path with
      | .error e =>
        if isMissing e then
          match ← makeOutward make isMissing isDirectory around with
          | .ok () => make path
          | refused => return refused
        else pure (.error e)
      | made => pure made
    match made with
    | .error e => return if ← isDirectory path then .ok () else .error e
    | .ok () => return .ok ()

end Spreadsheet.Storage
