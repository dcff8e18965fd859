import ServiceBindings.Text.Case
import ServiceBindings.Text.Identifier
import ServiceBindings.Url.Address
import ServiceBindings.Url.Error
import ServiceBindings.Url.Punycode

/-!
Hosts. In the special schemes a host is a domain name, in its ASCII form, or a numeric address; in other schemes it
is any text without the characters that delimit the parts of an address.
-/

namespace ServiceBindings.Url

open Text

/-- A host. A name is in the form in which it is written. -/
inductive Host
  | name (text : List Char)
  | address4 (value : Nat)
  | address6 (pieces : List Nat)
  deriving DecidableEq, Repr

namespace Host

/-- The text of a host. -/
def text : Host → List Char
  | name cs => cs
  | address4 n => address4Text n
  | address6 ps => address6Text ps

/-- Whether a host is the empty name. -/
def isEmpty : Host → Bool
  | name [] => true
  | _ => false

end Host

/-- The beginning of a label that stands for one outside ASCII. -/
def encodedLabelStart : List Char := "xn--".toList

/-- ASCII characters that no domain holds. -/
def forbiddenInDomain (c : Char) : Bool :=
  c.toNat ≤ 0x20 || c.toNat = 0x7F || c ∈ ['%', '#', '/', ':', '<', '>', '?', '@', '[', '\\', ']', '^', '|']

/-- Whether a lowercase label may hold a character outside ASCII. -/
def allowedInLabel (c : Char) : Bool :=
  if c.toNat < 0x80 then !forbiddenInDomain c && !c.isUpper
  else continuesIdentifier c && lower c == [c]

/-- The full stops of a domain: the one of ASCII, and the ideographic ones. -/
def isFullStop (c : Char) : Bool :=
  c ∈ ['.', '\u3002', '\uFF0E', '\uFF61']

/-- A label in its ASCII form. -/
def asciiLabel? (label : List Char) : Option (List Char) :=
  if encodedLabelStart.isPrefixOf label then
    match Punycode.decode? (label.drop encodedLabelStart.length) with
    | some cs =>
      if cs.all allowedInLabel && cs.any (0x80 ≤ ·.toNat) && label.all (·.toNat < 0x80) then some label else none
    | none => none
  else if !label.all allowedInLabel then none
  else if label.all (·.toNat < 0x80) then some label
  else some (encodedLabelStart ++ Punycode.encode label)

/-- A domain in its ASCII form, lowercase. -/
def asciiDomain? (cs : List Char) : Option (List Char) := do
  let cs := cs.map fun c => if isFullStop c then '.' else c
  return ['.'].intercalate (← (labels (cs.flatMap lower)).mapM asciiLabel?)

/-- An address of eight pieces, the opening bracket of which has been read. -/
def readAddress6 (cs : List Char) : Except UrlError Host :=
  match cs.getLast? with
  | some ']' =>
    match address6? cs.dropLast with
    | some ps => .ok (.address6 ps)
    | none => .error .invalidAddress6
  | _ => .error .invalidAddress6

/-- Reads the host of an address with a special scheme. -/
def readDomain : List Char → Except UrlError Host
  | '[' :: cs => readAddress6 cs
  | cs =>
    match (decodeUtf8 (percentDecode cs)).chars?.bind asciiDomain? with
    | none => .error .invalidDomain
    | some [] => .error .emptyHost
    | some domain =>
      if endsInNumber domain then
        match address4? domain with
        | some n => .ok (.address4 n)
        | none => .error .invalidAddress4
      else .ok (.name domain)

/-- Characters that a host of another scheme does not hold. -/
def forbiddenInName (c : Char) : Bool :=
  c ∈ ['\x00', '\t', '\n', '\r', ' ', '#', '/', ':', '<', '>', '?', '@', '[', '\\', ']', '^', '|']

/-- Reads the host of an address with another scheme. -/
def readName : List Char → Except UrlError Host
  | '[' :: cs => readAddress6 cs
  | cs =>
    if cs.any forbiddenInName then .error .invalidDomainCharacter
    else .ok (.name (percentEncode controlSet cs))

end ServiceBindings.Url
