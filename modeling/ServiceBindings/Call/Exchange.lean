import ServiceBindings.Call.Error
import ServiceBindings.Call.Status
import ServiceBindings.Json.Reader
import ServiceBindings.Url.Basic

/-!
One exchange: a request, and the outcome that the transport reports for it. The outcome settles the call: an error
of the transport as it is, a response without success as a bad response, and any other response as its decoder says.
-/

namespace ServiceBindings

/-- What is sent. The body is JSON. -/
structure Request where
  verb : Verb
  url : Url
  body : Option String := none
  deriving DecidableEq, Repr

/-- What comes back. The body is bytes. -/
structure Response where
  status : Nat
  url : Url
  body : List Nat := []
  deriving DecidableEq, Repr

namespace Response

/-- Whether the status is one of success. -/
def isSuccess (r : Response) : Bool :=
  isSuccessStatus r.status

/-- The status, its reason and the address that answered. -/
def summary (r : Response) : String :=
  let reason :=
    match statusReason? r.status with
    | some text => " " ++ text
    | none => ""
  toString r.status ++ reason ++ " from " ++ r.url.text

end Response

/-- What the transport reports. -/
abbrev Outcome := Except ExchangeError Response

/-- What a call comes to. -/
abbrev Result (α : Type) := Except CallError α

/-- How the body of a response becomes a value. -/
abbrev Decoder (α : Type) := List Nat → Result α

/-- Whether an outcome is handed to the decoder. -/
def Outcome.isDecoded : Outcome → Bool
  | .ok r => r.isSuccess
  | .error _ => false

/-- The result that an outcome settles a call with. -/
def Outcome.result {α : Type} (decode : Decoder α) : Outcome → Result α
  | .error e => .error (.transport e)
  | .ok r => if r.isSuccess then decode r.body else .error (.badResponse r.summary)

/-- Decodes JSON of a shape. -/
def jsonDecoder (records : List Json.Record) (shape : Json.Shape) : Decoder Json := fun bytes =>
  match shape.read records (Text.decodeUtf8 bytes) with
  | .ok v => .ok v
  | .error f => .error (.decode f)

/-- Leaves the body out of account. -/
def emptyDecoder : Decoder Json := fun _ => .ok .null

end ServiceBindings
