import ServiceBindings.Json.Fault
import ServiceBindings.Schema.Basic

/-!
Why a call failed. A failure is local if the call was turned down before anything was sent.
-/

namespace ServiceBindings

/-- Why an exchange was not completed. -/
inductive ExchangeError
  /-- the exchange broke off -/
  | request
  | connection (reason : String)
  | timeout (milliseconds : Nat)
  | runtime (reason : String)
  deriving DecidableEq, Repr

namespace ExchangeError

/-- Whether the same request may well succeed later. -/
def isRetryable : ExchangeError → Bool
  | connection _ | timeout _ => true
  | request | runtime _ => false

/-- The text of an error. -/
def message : ExchangeError → String
  | request => "HTTP request failed"
  | connection reason => "Connection failed: " ++ reason
  | timeout ms => "Request timeout after " ++ toString ms ++ "ms"
  | runtime reason => "Transport runtime unavailable: " ++ reason

end ExchangeError

/-- Why a call, or the setting up of a client, failed. -/
inductive CallError
  | unknownEnumValue (value : String)
  | unsupportedOperation (method : String) (pattern : CallPattern) (profile : String)
  | transportUnavailable (reason : String)
  /-- the status of the response was not one of success -/
  | badResponse (summary : String)
  | decode (fault : Json.Fault)
  | encode (fault : Json.Fault)
  | missingRequiredField (field : String)
  | invalidBaseUrl (url : String)
  | transport (error : ExchangeError)
  /-- nobody is left who could complete the call -/
  | abandoned (method : String)
  deriving DecidableEq, Repr

namespace CallError

/-- The text of an error. -/
def message : CallError → String
  | unknownEnumValue value => "unknown enum value '" ++ value ++ "'"
  | unsupportedOperation method pattern profile =>
    method ++ " is a " ++ pattern.name ++ " method, which transport profile '" ++ profile ++ "' does not support"
  | transportUnavailable reason => reason
  | badResponse summary => "bad response: " ++ summary
  | decode fault => "failed to decode response: " ++ fault.message
  | encode fault => "failed to encode request: " ++ fault.message
  | missingRequiredField field => field ++ ": is a required field"
  | invalidBaseUrl url => "invalid base URL: " ++ url
  | transport error => error.message
  | abandoned method => "call to " ++ method ++ " was abandoned before completing"

/-- Whether the call was turned down before anything was sent. -/
def isLocal : CallError → Bool
  | unsupportedOperation .. | transportUnavailable _ | encode _ | invalidBaseUrl _ => true
  | _ => false

end CallError

end ServiceBindings
