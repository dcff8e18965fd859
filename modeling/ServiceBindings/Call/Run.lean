import ServiceBindings.Call.Session

/-!
Runs of a session. A run is a list of steps in any order: calls are started, callbacks are invoked or dropped, and
handles are polled, waited for and dropped, each step with an answer of its own.
-/

namespace ServiceBindings

/-- A step of a run. Handles go by names, and exchanges by the numbers of their requests. -/
inductive Step (α : Type)
  /-- sends a request -/
  | dispatch (id method : String) (request : Request) (decode : Decoder α)
  /-- sends the request of a call, unless the call has an error -/
  | start (id : String) (call : Call) (decode : Decoder α)
  /-- keeps a handle that is settled already -/
  | keep (id : String) (handle : Handle α)
  /-- invokes the callback of an exchange -/
  | settle (number : Nat) (outcome : Outcome)
  /-- drops the callback of an exchange -/
  | dropCallback (number : Nat)
  | poll (id : String)
  | wait (id : String)
  | drop (id : String)
  /-- makes a handle and its writer, without a request -/
  | channel (id method : String)
  | write (id : String) (result : Result α)
  | dropWriter (id : String)

/-- The answer to a step. -/
inductive StepAnswer (α : Type)
  /-- a call was started; its request is there if one was sent -/
  | started (sent : Option Request) (handle : Handle α)
  | kept (handle : Handle α)
  | opened (writer : CellWriter) (handle : Handle α)
  | done
  /-- there is no handle, writer or outstanding callback of that name or number -/
  | absent
  | reading (result : Reading α)

namespace Session

variable {α : Type}

/-- Keeps the handle of a call that was started. -/
def started (before : Session α) (id : String) (after : Session α × Handle α) : Session α × StepAnswer α :=
  (after.1.keep id after.2, .started (after.1.requests.drop before.requests.length).head? after.2)

/-- The session after a step that has nothing to tell. -/
def finished (s : Session α) : Option (Session α) → Session α × StepAnswer α
  | some s => (s, .done)
  | none => (s, .absent)

/-- The session after reading a handle. -/
def answered (s : Session α) : Option (Reading α × Session α) → Session α × StepAnswer α
  | some (r, s) => (s, .reading r)
  | none => (s, .absent)

/-- Takes a step. -/
def step (s : Session α) : Step α → Session α × StepAnswer α
  | .dispatch id method request decode => s.started id (s.dispatch method request decode)
  | .start id call decode => s.started id (s.dispatchCall call decode)
  | .keep id handle => (s.keep id handle, .kept handle)
  | .settle number outcome => s.finished (s.settle? number outcome)
  | .dropCallback number => s.finished (s.dropCallback? number)
  | .poll id => s.answered (s.poll? id)
  | .wait id => s.answered (s.wait? id)
  | .drop id => if (s.handle? id).isSome then (s.drop id, .done) else (s, .absent)
  | .channel id method =>
    let (s, writer, handle) := s.channel id method
    (s, .opened writer handle)
  | .write id result => s.finished (s.complete? id result)
  | .dropWriter id => s.finished (s.dropWriter? id)

/-- Takes steps in order. -/
def run (s : Session α) : List (Step α) → Session α × List (StepAnswer α)
  | [] => (s, [])
  | x :: xs =>
    let (s, a) := s.step x
    let (s, as) := s.run xs
    (s, a :: as)

end Session

end ServiceBindings
