import ServiceBindings.Text.Blank
import ServiceBindings.Text.Case

/-!
Names and their cases. A name in whatever convention its author chose is cut into words, and the words are put
together again: with underscores for functions and modules, with hyphens for URL segments, capitalised for types.
-/

namespace ServiceBindings

namespace Naming

open Text

/-- Underscores, hyphens and blanks stand between words and belong to none. -/
def isSeparator (c : Char) : Bool :=
  c = '_' || c = '-' || isBlank c

/-- Whether a word begins at `c`, which comes right after `before`: at a capital after a lowercase letter or an
ASCII digit, and at the last capital of an acronym, the one that a lowercase letter follows. -/
def startsWord (before c : Char) (after : Option Char) : Bool :=
  isUpper c && (isLower before || before.isDigit || (isUpper before && after.any isLower))

/-- Puts a character in front of the first word. -/
def extendFirst (c : Char) : List (List Char) → List (List Char)
  | [] => [[c]]
  | w :: ws => (c :: w) :: ws

/-- The words of a text. -/
def words : List Char → List (List Char)
  | [] => []
  | c :: rest =>
    if isSeparator c then words rest
    else
      match rest with
      | [] => [[c]]
      | d :: after =>
        if isSeparator d || startsWord c d after.head? then [c] :: words rest
        else extendFirst c (words rest)

/-- The words in lowercase, with a separator between each two. -/
def lowerJoined (separator : Char) (cs : List Char) : List Char :=
  [separator].intercalate ((words cs).map lowerWord)

/-- A word with its first letter in uppercase and the others in lowercase. -/
def capitalize : List Char → List Char
  | [] => []
  | c :: rest => upper c ++ rest.flatMap lower

end Naming

/-- The words of a name. -/
def nameWords (name : String) : List String :=
  (Naming.words name.toList).map String.ofList

/-- The form of a name for functions, fields and modules: `unknown_return`. -/
def snakeCase (name : String) : String :=
  String.ofList (Naming.lowerJoined '_' name.toList)

/-- The form of a name for URL segments: `unknown-return`. -/
def kebabCase (name : String) : String :=
  String.ofList (Naming.lowerJoined '-' name.toList)

/-- The form of a name for types and constants: `UnknownReturn`. -/
def pascalCase (name : String) : String :=
  String.ofList ((Naming.words name.toList).flatMap Naming.capitalize)

end ServiceBindings
