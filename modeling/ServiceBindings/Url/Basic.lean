import ServiceBindings.Url.Host
import ServiceBindings.Url.Path

/-!
Addresses. An address has a scheme, in most cases an authority, a path, and possibly a query and a fragment, each in
the form in which it is written. Texts can be appended to the path if it consists of segments; the rest of the
address stays as it is.
-/

namespace ServiceBindings

namespace Url

/-- The port that an address of a scheme leaves out. -/
def defaultPort? : String → Option Nat
  | "http" | "ws" => some 80
  | "https" | "wss" => some 443
  | "ftp" => some 21
  | _ => none

/-- Whether a scheme is the one of files. -/
def isFileScheme (scheme : String) : Bool :=
  scheme == "file"

/-- Whether a scheme is special: its addresses have a host, and a path of at least one segment. -/
def isSpecialScheme (scheme : String) : Bool :=
  (defaultPort? scheme).isSome || isFileScheme scheme

/-- How a scheme reads paths. -/
def pathRule (scheme : String) : PathRule :=
  { special := isSpecialScheme scheme, file := isFileScheme scheme }

/-- Who is addressed: a user, who may have a password, at a host and possibly a port. -/
structure Authority where
  user : List Char := []
  password : List Char := []
  host : Host
  port : Option Nat := none
  deriving DecidableEq, Repr

namespace Authority

/-- Whether a user is named. -/
def hasUser (a : Authority) : Bool :=
  !(a.user.isEmpty && a.password.isEmpty)

/-- The user as written before the host. -/
def userText (a : Authority) : List Char :=
  if a.hasUser then a.user ++ (if a.password.isEmpty then [] else ':' :: a.password) ++ ['@'] else []

/-- The text of an authority. -/
def text (a : Authority) : List Char :=
  "//".toList ++ a.userText ++ a.host.text ++ (match a.port with
    | some n => ':' :: (toString n).toList
    | none => [])

end Authority

/-- A path: segments after slashes, or a text that does not begin with one. -/
inductive Path
  | rooted (segments : List Segment)
  | rootless (text : List Char)
  deriving DecidableEq, Repr

namespace Path

/-- The segments of a path. -/
def segments : Path → List Segment
  | rooted ss => ss
  | rootless _ => []

/-- The text of a path. -/
def text : Path → List Char
  | rooted ss => segmentsText ss
  | rootless cs => cs

end Path

end Url

open Url in
/-- An address. -/
structure Url where
  scheme : String
  authority : Option Authority
  /-- whether `/.` is written before the path, which keeps an empty first segment from being taken for an authority -/
  guarded : Bool := false
  path : Path
  query : Option (List Char) := none
  fragment : Option (List Char) := none
  segments_ne_nil : isSpecialScheme scheme = true → path.segments ≠ [] := by simp_all
  deriving DecidableEq, Repr

namespace Url

/-- A part that a mark introduces, if present. -/
def marked (mark : Char) : Option (List Char) → List Char
  | some cs => mark :: cs
  | none => []

/-- The text of an address. -/
def text (u : Url) : String :=
  u.scheme ++ ":" ++ String.ofList (((u.authority.map Authority.text).getD []) ++ (if u.guarded then ['/', '.'] else [])
    ++ u.path.text ++ marked '?' u.query ++ marked '#' u.fragment)

/-- Whether texts can be appended to the path: whether what follows the scheme begins with a slash. -/
def canBeBase (u : Url) : Bool :=
  match u.path with
  | .rooted _ => true
  | .rootless _ => false

/-- Appends texts to the path, each as one segment. -/
def append? (u : Url) (texts : List String) : Option Url :=
  match h : u.path with
  | .rootless _ => none
  | .rooted ss => some { u with
      path := .rooted (appendTexts (pathRule u.scheme) ss (texts.map String.toList))
      segments_ne_nil := fun hs => appendTexts_ne_nil _ (by simpa [h, Path.segments] using u.segments_ne_nil hs) _ }

end Url

end ServiceBindings
