import ServiceBindings.Call.Error
import ServiceBindings.Url.Reader

/-!
The configuration of a client: the base address that all paths are appended to. It is set up in steps, the last
setting wins, and only an address whose path can be extended will do.
-/

namespace ServiceBindings

/-- The name of the base address in errors. -/
def baseUrlField : String := "baseUrl"

/-- The configuration of a client. -/
structure ClientSettings where
  baseUrl : Url
  canBeBase : baseUrl.canBeBase = true
  deriving DecidableEq, Repr

/-- What has been set so far. -/
structure ClientSetup where
  baseUrl : Option Url := none
  deriving DecidableEq, Repr

namespace ClientSetup

/-- Sets the base address. -/
def withBaseUrl (_ : ClientSetup) (url : Url) : ClientSetup :=
  { baseUrl := some url }

/-- Ends the setting up. -/
def build (s : ClientSetup) : Except CallError ClientSettings :=
  match s.baseUrl with
  | none => .error (.missingRequiredField baseUrlField)
  | some url =>
    if h : url.canBeBase then .ok ⟨url, h⟩ else .error (.invalidBaseUrl url.text)

/-- A description of what has been set. -/
def describe (s : ClientSetup) : String :=
  let url :=
    match s.baseUrl with
    | some u => "Some(" ++ Text.quoted u.text ++ ")"
    | none => "None"
  "ClientConfigBuilder \x7b base_url: " ++ url ++ ", .. \x7d"

end ClientSetup

/-- A description of a configuration. -/
def ClientSettings.describe (c : ClientSettings) : String :=
  "ClientConfig \x7b base_url: " ++ Text.quoted c.baseUrl.text ++ ", .. \x7d"

end ServiceBindings
