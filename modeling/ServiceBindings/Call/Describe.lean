import ServiceBindings.Call.Builder

/-!
Descriptions of calls under construction, in which every part is shown with its name.
-/

namespace ServiceBindings

/-- A named list of shown parts. -/
def describeParts (name : String) (parts : List (String × String)) : String :=
  name ++ " \x7b " ++ ", ".intercalate (parts.map fun (k, v) => k ++ ": " ++ v) ++ " \x7d"

/-- Something that may be absent. -/
def describeOption : Option String → String
  | some text => "Some(" ++ text ++ ")"
  | none => "None"

/-- A shown text. -/
def describeChars (cs : List Char) : String :=
  Text.quoted (String.ofList cs)

/-- A byte of a shown body. -/
def describeByte (b : Nat) : String :=
  if b = 0 then "\\0"
  else if b = 9 then "\\t"
  else if b = 10 then "\\n"
  else if b = 13 then "\\r"
  else if b = 34 then "\\\""
  else if b = 92 then "\\\\"
  else if 32 ≤ b ∧ b < 127 then (Char.ofNat b).toString
  else "\\x" ++ String.ofList [Nat.digitChar (b / 16), Nat.digitChar (b % 16)]

/-- A shown body. -/
def describeBody (text : String) : String :=
  "b\"" ++ String.join ((Text.encodeUtf8 text.toList).map describeByte) ++ "\""

namespace Url

/-- A shown host. -/
def Host.describe? : Host → Option String
  | .name [] => none
  | .name cs => some ("Domain(" ++ describeChars cs ++ ")")
  | .address4 n => some ("Ipv4(" ++ String.ofList (address4Text n) ++ ")")
  | .address6 ps => some ("Ipv6(" ++ String.ofList ((address6Text ps).drop 1).dropLast ++ ")")

/-- A shown address. -/
def describe (u : Url) : String :=
  describeParts "Url" [
    ("scheme", Text.quoted u.scheme),
    ("cannot_be_a_base", if u.canBeBase then "false" else "true"),
    ("username", describeChars ((u.authority.map (·.user)).getD [])),
    ("password", describeOption ((u.authority.filter (!·.password.isEmpty)).map (describeChars ·.password))),
    ("host", describeOption (u.authority.bind (·.host.describe?))),
    ("port", describeOption (u.authority.bind (·.port.map toString))),
    ("path", describeChars u.path.text),
    ("query", describeOption (u.query.map describeChars)),
    ("fragment", describeOption (u.fragment.map describeChars))]

end Url

namespace Call

/-- The shown error of a call, of which there is but one kind. -/
def describeError : CallError → String
  | .encode f => "Encode(Error(" ++ Text.quoted f.message ++ ", line: 0, column: 0))"
  | e => Text.quoted e.message

/-- A shown call. -/
def describe (c : Call) : String :=
  describeParts "Call" [
    ("config", c.config.describe),
    ("method", Text.quoted c.method),
    ("verb", c.verb.constant),
    ("url", describeParts "UrlBuilder" [
      ("base", c.config.baseUrl.describe),
      ("segments", "[" ++ ", ".intercalate (c.segments.map Text.quoted) ++ "]")]),
    ("body", describeOption (c.body.map describeBody)),
    ("error", describeOption (c.error.map describeError))]

end Call

end ServiceBindings
