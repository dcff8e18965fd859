import ServiceBindings.Call.Settings
import ServiceBindings.Call.Exchange
import ServiceBindings.Call.SegmentValue

/-!
Building a call. Segments and parameters are appended to the base address in their order, and the last body counts.
A body that cannot be written leaves an error behind, the first of which stays; a call with an error is never sent.
-/

namespace ServiceBindings

/-- Appends segments to an address. -/
def Url.build (base : Url) (segments : List String) : Except CallError Url :=
  match base.append? segments with
  | some url => .ok url
  | none => .error (.invalidBaseUrl base.text)

/-- A call under construction. -/
structure Call where
  config : ClientSettings
  method : String
  verb : Verb
  segments : List String := []
  body : Option String := none
  error : Option CallError := none
  deriving DecidableEq, Repr

/-- A step of building a call. A body is its text, or the reason that it has none. -/
inductive CallPart
  | segment (text : String)
  | param (value : SegmentValue)
  | body (written : Except Json.Fault String)

namespace Call

/-- Takes one step. -/
def add (c : Call) : CallPart → Call
  | .segment text => { c with segments := c.segments ++ [text] }
  | .param value => { c with segments := c.segments ++ [value.segment] }
  | .body written =>
    match c.error, written with
    | some _, _ => c
    | none, .ok text => { c with body := some text }
    | none, .error f => { c with error := some (.encode f) }

/-- Takes several steps. -/
def addAll (c : Call) (parts : List CallPart) : Call :=
  parts.foldl add c

/-- The request of a call, or the error that keeps it from being sent. -/
def request (c : Call) : Except CallError Request :=
  match c.error with
  | some e => .error e
  | none => do
    let url ← c.config.baseUrl.build c.segments
    return { verb := c.verb, url, body := c.body }

end Call

/-- Begins a call. -/
def ClientSettings.call (config : ClientSettings) (method : String) (verb : Verb) : Call :=
  { config, method, verb }

end ServiceBindings
