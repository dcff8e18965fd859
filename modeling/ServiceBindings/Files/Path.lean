/-!
Paths as texts: the parts between slashes. Slashes at the end and single dots after the first part add nothing to a
path; they stay in its text, though, and matter to the system that looks the path up.
-/

namespace ServiceBindings.Files

/-- Drops slashes and single dots at the end of a path whose characters come last one first. The root stays. -/
def dropTail : List Char → List Char
  | '/' :: c :: rest => dropTail (c :: rest)
  | '.' :: '/' :: rest => dropTail ('/' :: rest)
  | cs => cs

/-- A path without what adds nothing to it at its end, cut before its last part. -/
def splitLast (path : String) : List Char × List Char :=
  let cs := dropTail path.toList.reverse
  ((cs.dropWhile (· ≠ '/')).reverse, (cs.takeWhile (· ≠ '/')).reverse)

/-- The last part of a path, if it names a file. -/
def fileName? (path : String) : Option (List Char) :=
  match splitLast path with
  | (_, []) => none
  | (_, ['.', '.']) => none
  | ([], ['.']) => none
  | (_, name) => some name

/-- The path of the folder that a path is in; none for the empty path and the root. -/
def parent? (path : String) : Option String :=
  match splitLast path with
  | (_, []) => none
  | (front, _) => some (String.ofList (dropTail front.reverse).reverse)

/-- A name without its extension: up to the last dot, unless nothing comes before it. -/
def stem (name : List Char) : List Char :=
  match (name.reverse.dropWhile (· ≠ '.')).drop 1 with
  | [] => name
  | front => front.reverse

/-- The path of the temporary file that is written in place of a path: the same with the extension `tmp`. -/
def temporary (path : String) : String :=
  match fileName? path with
  | none => path
  | some name => String.ofList ((splitLast path).1 ++ stem name) ++ ".tmp"

/-- A path below a folder. An absolute path stands for itself. -/
def join (folder path : String) : String :=
  if path.startsWith "/" || folder.isEmpty then path
  else if folder.endsWith "/" then folder ++ path
  else folder ++ "/" ++ path

/-- The parts between slashes that are not empty. -/
def parts : List Char → List (List Char)
  | [] => []
  | '/' :: rest => parts rest
  | c :: rest =>
    match rest with
    | [] => [[c]]
    | '/' :: _ => [c] :: parts rest
    | _ =>
      match parts rest with
      | [] => [[c]]
      | p :: ps => (c :: p) :: ps

/-- The parts of a path. The root of the system is a part of its own. -/
def components (path : String) : List String :=
  (if path.startsWith "/" then ["/"] else []) ++ (parts path.toList).map String.ofList

end ServiceBindings.Files
