import ServiceBindings.Call.Exchange
import ServiceBindings.Url.Reader

/-!
Exchanges over HTTP. A peer answers requests one after another. A redirection leads to a further request: after the
statuses 301, 302 and 303 one that only reads, after 307 and 308 the same again. At most ten are followed.
-/

namespace ServiceBindings

/-- One answer of a peer. `length` is the length it announces, if that is not the length of the body. -/
structure Reply where
  status : Nat
  body : List Nat := []
  location : Option String := none
  length : Option Nat := none
  deriving DecidableEq, Repr

/-- How the other side behaves. -/
inductive Peer
  /-- answers as many requests as there are replies, and breaks off at the next -/
  | answering (replies : List Reply)
  /-- never answers -/
  | silent
  /-- is not there -/
  | absent
  deriving DecidableEq, Repr

/-- What a peer sees of a request. -/
structure Received where
  verb : Verb
  target : String
  contentType : Option String
  body : String
  deriving DecidableEq, Repr

namespace Url

/-- The address that a reference on a page denotes. -/
def join? (base : Url) (reference : String) : Option Url :=
  let front := String.ofList ((base.authority.map Authority.text).getD [])
  let resolved :=
    match reference.toList with
    | '/' :: '/' :: _ => base.scheme ++ ":" ++ reference
    | '/' :: _ => base.scheme ++ ":" ++ front ++ reference
    | [] => { base with fragment := none : Url }.text
    | '?' :: _ => base.scheme ++ ":" ++ front ++ String.ofList base.path.text ++ reference
    | '#' :: _ => { base with fragment := none : Url }.text ++ reference
    | _ => base.scheme ++ ":" ++ front ++ String.ofList (segmentsText base.path.segments.dropLast) ++ "/" ++ reference
  match parse reference with
  | .ok u => some u
  | .error .relativeWithoutBase => (parse resolved).toOption
  | .error _ => none

/-- What a request for an address asks the host for. -/
def target (u : Url) : String :=
  String.ofList (u.path.text ++ marked '?' u.query)

end Url

namespace Request

/-- The request as its receiver sees it. -/
def received (r : Request) : Received :=
  { verb := r.verb, target := r.url.target, contentType := r.body.map fun _ => "application/json"
    body := r.body.getD "" }

/-- The request that a redirection leads to, if the reply is one. -/
def redirected? (r : Request) (reply : Reply) : Option Request := do
  let url ← r.url.join? (← reply.location)
  let url := if url.fragment.isNone then { url with fragment := r.url.fragment } else url
  if reply.status ∈ [301, 302, 303] then some { verb := .get, url }
  else if reply.status ∈ [307, 308] then some { r with url }
  else none

end Request

/-- The body that arrives, if all of it does. -/
def Reply.body? (reply : Reply) : Option (List Nat) :=
  if reply.status = 204 || reply.status = 304 then some []
  else
    match reply.length with
    | some n => if reply.body.length < n then none else some (reply.body.take n)
    | none => some reply.body

/-- Carries out a request with a peer that answers, following `redirections` further ones at most. -/
def converse : (redirections : Nat) → Request → List Reply → List Received × Outcome
  | _, r, [] => ([r.received], .error .request)
  | redirections, r, reply :: replies =>
    match r.redirected? reply, redirections with
    | some _, 0 => ([r.received], .error .request)
    | some next, n + 1 =>
      let (seen, outcome) := converse n next replies
      (r.received :: seen, outcome)
    | none, _ =>
      match reply.body? with
      | some body => ([r.received], .ok { status := reply.status, url := r.url, body })
      | none => ([r.received], .error .request)

/-- Carries out a request. The time limit counts only for a peer that never answers, and the requests that such a
peer received are not known. -/
def Peer.exchange (peer : Peer) (limit : Nat) (r : Request) : Option (List Received) × Outcome :=
  match peer with
  | answering replies =>
    let (seen, outcome) := converse 10 r replies
    (some seen, outcome)
  | silent => (none, .error (.timeout limit))
  | absent => (some [], .error (.connection ""))

/-- The error of a client for which nothing drives its exchanges. -/
def noRuntime : ExchangeError :=
  .runtime "there is no reactor running, must be called from the context of a Tokio 1.x runtime"

end ServiceBindings
