import ServiceBindings.Files.Error
import ServiceBindings.Files.Path

/-!
A tree of files and folders, and what the system does with it: look up, make folders, write, read and rename. Every
operation gives the tree after it, whether it succeeds or not.
-/

namespace ServiceBindings.Files

/-- What a path leads to. -/
inductive Entry
  | file (content : String)
  | folder
  deriving DecidableEq, Repr

/-- A tree, by the parts of the paths of its files and folders. The folder at the bottom, with no parts, is always
there, and so are the folders above it, whose parts are double dots, and the root of the system. -/
structure Tree where
  entries : List (List String × Entry) := []
  deriving DecidableEq, Repr

/-- Whether parts lead to the bottom of a tree or to a folder above it. -/
def isAbove (key : List String) : Bool :=
  key.all (· == "..")

/-- The folder above that of resolved parts. The root has none but itself. -/
def above (key : List String) : List String :=
  if isAbove key then key ++ [".."] else if key = ["/"] then key else key.dropLast

namespace Tree

/-- What is found at the end of resolved parts. -/
def get? (t : Tree) (key : List String) : Option Entry :=
  if isAbove key ∨ key = ["/"] then some .folder else t.entries.lookup key

/-- The tree without what is at the end of resolved parts. -/
def erase (t : Tree) (key : List String) : Tree :=
  ⟨t.entries.filter (·.1 ≠ key)⟩

/-- The tree with an entry at the end of resolved parts. -/
def set (t : Tree) (key : List String) (e : Entry) : Tree :=
  ⟨(key, e) :: (t.erase key).entries⟩

/-- How many bytes a name may have. -/
def nameLimit : Nat := 255

/-- How many bytes a path may have. -/
def pathLimit : Nat := 4095

/-- Follows parts that must all be folders. -/
def enter (t : Tree) (key : List String) : List String → Except FileError (List String)
  | [] => .ok key
  | "." :: rest => enter t key rest
  | ".." :: rest => enter t (above key) rest
  | p :: rest =>
    if nameLimit < p.utf8ByteSize then .error .nameTooLong
    else
      match t.get? (key ++ [p]) with
      | none => .error .notFound
      | some (.file _) => .error .notDirectory
      | some .folder => enter t (key ++ [p]) rest

/-- A path as far as it can be checked without a tree. -/
def check (path : String) : Except FileError (List String) :=
  if path.toList.contains '\x00' then .error .nullInName
  else if path.isEmpty then .error .notFound
  else if pathLimit < path.utf8ByteSize then .error .nameTooLong
  else .ok (components path)

/-- Whether a part names an entry, and not the folder itself or the one above. -/
def isName (part : String) : Bool :=
  part != "." && part != ".." && part != "/"

/-- The folder and the name that a path ends in. -/
def place (t : Tree) (path : String) : Except FileError (List String × String) := do
  let ps ← check path
  match ps.getLast? with
  | none => .error .notFound
  | some last => return (← t.enter [] ps.dropLast, last)

/-- Makes a folder, unless it is there. `isLast` says whether the path ends with it. -/
def makeFolder (t : Tree) (isLast : Bool) (key : List String) : Except FileError Tree :=
  match t.get? key with
  | some .folder => .ok t
  | some (.file _) => .error (if isLast then .exists else .notDirectory)
  | none => .ok (t.set key .folder)

/-- Makes the folders of parts, from the first on. -/
def makeAll (t : Tree) (key : List String) : List String → Tree × Except FileError Unit
  | [] => (t, .ok ())
  | "." :: rest => makeAll t key rest
  | ".." :: rest => makeAll t (above key) rest
  | p :: rest =>
    if nameLimit < p.utf8ByteSize then (t, .error .nameTooLong)
    else
      match t.makeFolder rest.isEmpty (key ++ [p]) with
      | .ok t => makeAll t (key ++ [p]) rest
      | .error e => (t, .error e)

/-- Makes the folder of a path and those that lead to it. -/
def createFolders (t : Tree) (path : String) : Tree × Except FileError Unit :=
  if path.isEmpty then (t, .ok ())
  else
    match check path with
    | .ok ps => t.makeAll [] ps
    | .error e => (t, .error e)

/-- Writes a file, new or in place of an old one. -/
def write (t : Tree) (path content : String) : Except FileError Tree := do
  let (folder, name) ← t.place path
  if !isName name then .error .isDirectory
  else if nameLimit < name.utf8ByteSize then .error .nameTooLong
  else if path.endsWith "/" then .error .isDirectory
  else
    match t.get? (folder ++ [name]) with
    | some .folder => .error .isDirectory
    | _ => .ok (t.set (folder ++ [name]) (.file content))

/-- The content of a file. -/
def read (t : Tree) (path : String) : Except FileError String := do
  let (folder, name) ← t.place path
  if !isName name then .error .isDirectory
  else if nameLimit < name.utf8ByteSize then .error .nameTooLong
  else
    match t.get? (folder ++ [name]) with
    | none => .error .notFound
    | some .folder => .error .isDirectory
    | some (.file content) => if path.endsWith "/" then .error .notDirectory else .ok content

/-- Gives a file another path, where it takes the place of a file that is there. -/
def rename (t : Tree) (source target : String) : Except FileError Tree := do
  let (sourceFolder, sourceName) ← t.place source
  let (targetFolder, targetName) ← t.place target
  if !isName sourceName || !isName targetName then .error .busy
  else if nameLimit < targetName.utf8ByteSize then .error .nameTooLong
  else
    match t.get? (sourceFolder ++ [sourceName]) with
    | none => .error .notFound
    | some .folder => .error .isDirectory
    | some (.file content) =>
      if target.endsWith "/" then .error .notDirectory
      else
        match t.get? (targetFolder ++ [targetName]) with
        | some .folder => .error .isDirectory
        | _ => .ok ((t.erase (sourceFolder ++ [sourceName])).set (targetFolder ++ [targetName]) (.file content))

/-- The paths of the tree below its bottom, in increasing order; those of folders end in a slash. -/
def paths (t : Tree) : List String :=
  (t.entries.filterMap fun (key, e) =>
    if key.head? = some "/" ∨ key.head? = some ".." then none
    else some ("/".intercalate key ++ (if e = .folder then "/" else ""))).mergeSort fun a b => a < b || a = b

end Tree

end ServiceBindings.Files
