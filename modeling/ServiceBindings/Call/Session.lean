import ServiceBindings.Call.Builder

/-!
A session: calls of one client over a transport that keeps each request and its callback until somebody invokes or
drops it. A call is seen through its handle. A handle that was settled when it was made holds its result; any other
is bridged to a cell, which is written at most once and read at most once.
-/

namespace ServiceBindings

/-- A place for one result. -/
inductive Cell (α : Type)
  | waiting
  | settled (result : Result α)
  /-- nobody is left who could write it -/
  | abandoned
  /-- its result has been read -/
  | taken

/-- What a handle holds: a result that may have been read already, or the number of a cell. -/
inductive HandleState (α : Type)
  | held (result : Option (Result α))
  | bridged (cell : Nat)

/-- What a caller holds of a call. -/
structure Handle (α : Type) where
  method : String
  state : HandleState α

namespace Handle

/-- A handle settled with a value. -/
def ready {α : Type} (method : String) (value : α) : Handle α :=
  ⟨method, .held (some (.ok value))⟩

/-- A handle settled with an error. -/
def failed {α : Type} (method : String) (error : CallError) : Handle α :=
  ⟨method, .held (some (.error error))⟩

/-- A handle for a method whose pattern a profile does not support. -/
def unsupported {α : Type} (method : String) (pattern : CallPattern) (profile : String) : Handle α :=
  failed method (.unsupportedOperation method pattern profile)

/-- A handle for a method of a profile that reaches no service. -/
def unavailable {α : Type} (method : String) : Handle α :=
  failed method (.transportUnavailable "endpoint does not support this transport")

/-- A description of a handle. A bridged handle does not know the state of its cell. -/
def describe {α : Type} (h : Handle α) : String :=
  let state :=
    match h.state with
    | .held (some (.ok _)) => "succeeded"
    | .held (some (.error _)) => "failed"
    | .held none => "taken"
    | .bridged _ => "waiting"
  "Pending \x7b method: " ++ Text.quoted h.method ++ ", state: " ++ Text.quoted state ++ " \x7d"

end Handle

/-- The one who may write a cell. -/
structure CellWriter where
  method : String
  cell : Nat

/-- An exchange under way or over: the request, the decoder of its response, the cell of the call, and whether the
callback is still to be invoked or dropped. -/
structure Exchange (α : Type) where
  request : Request
  decode : Decoder α
  cell : Nat
  outstanding : Bool := true

/-- What reading a handle comes to. -/
inductive Reading (α : Type)
  | pending
  | resolved (result : Result α)
  /-- the result has been read before -/
  | spent

/-- The state of a session. -/
structure Session (α : Type) where
  cells : List (Cell α) := []
  /-- all exchanges, in the order of their requests -/
  exchanges : List (Exchange α) := []
  /-- the numbers of the exchanges whose responses were decoded, the last one first -/
  decoded : List Nat := []
  handles : List (String × Handle α) := []
  writers : List (String × CellWriter) := []

namespace Session

variable {α : Type}

/-- The requests sent so far. -/
def requests (s : Session α) : List Request :=
  s.exchanges.map (·.request)

/-- The handle of a name. -/
def handle? (s : Session α) (id : String) : Option (Handle α) :=
  s.handles.lookup id

/-- Gives a handle a name, dropping the one that had it. -/
def keep (s : Session α) (id : String) (h : Handle α) : Session α :=
  { s with handles := (id, h) :: s.handles.filter (·.1 != id) }

/-- Drops the handle of a name. -/
def drop (s : Session α) (id : String) : Session α :=
  { s with handles := s.handles.filter (·.1 != id) }

/-- Writes a cell, unless it has been written or given up. -/
def write (s : Session α) (cell : Nat) (content : Cell α) : Session α :=
  match s.cells[cell]? with
  | some .waiting => { s with cells := s.cells.set cell content }
  | _ => s

/-- A new cell and a handle bridged to it. -/
def bridge (s : Session α) (method : String) : Session α × Nat × Handle α :=
  let n := s.cells.length
  ({ s with cells := s.cells ++ [.waiting] }, n, ⟨method, .bridged n⟩)

/-- Sends a request. -/
def dispatch (s : Session α) (method : String) (request : Request) (decode : Decoder α) : Session α × Handle α :=
  let (s, cell, h) := s.bridge method
  ({ s with exchanges := s.exchanges ++ [{ request, decode, cell }] }, h)

/-- Sends the request of a call, unless the call has an error. -/
def dispatchCall (s : Session α) (c : Call) (decode : Decoder α) : Session α × Handle α :=
  match c.request with
  | .ok r => s.dispatch c.method r decode
  | .error e => (s, .failed c.method e)

/-- Closes an exchange and gives what it was, if its callback is outstanding. -/
def close? (s : Session α) (n : Nat) : Option (Session α × Exchange α) :=
  match s.exchanges[n]? with
  | some e =>
    if e.outstanding then some ({ s with exchanges := s.exchanges.set n { e with outstanding := false } }, e) else none
  | none => none

/-- Invokes the callback of an exchange with an outcome. -/
def settle? (s : Session α) (n : Nat) (outcome : Outcome) : Option (Session α) :=
  match s.close? n with
  | some (s, e) =>
    let s := if outcome.isDecoded then { s with decoded := n :: s.decoded } else s
    some (s.write e.cell (.settled (outcome.result e.decode)))
  | none => none

/-- Drops the callback of an exchange without invoking it. -/
def dropCallback? (s : Session α) (n : Nat) : Option (Session α) :=
  match s.close? n with
  | some (s, e) => some (s.write e.cell .abandoned)
  | none => none

/-- Reads a handle: the reading, the handle after it, and the session after it. -/
def read (s : Session α) (h : Handle α) : Reading α × Handle α × Session α :=
  let abandoned : Result α := .error (.abandoned h.method)
  match h.state with
  | .held (some r) => (.resolved r, { h with state := .held none }, s)
  | .held none => (.resolved abandoned, h, s)
  | .bridged n =>
    match s.cells[n]? with
    | some (.settled r) => (.resolved r, h, { s with cells := s.cells.set n .taken })
    | some .abandoned => (.resolved abandoned, h, { s with cells := s.cells.set n .taken })
    | some .taken => (.spent, h, s)
    | some .waiting | none => (.pending, h, s)

/-- Polls the handle of a name. -/
def poll? (s : Session α) (id : String) : Option (Reading α × Session α) :=
  match s.handle? id with
  | some h =>
    let (r, h, s) := s.read h
    some (r, s.keep id h)
  | none => none

/-- Waits with a handle that is given up for its result: the reading, and the session after it. A reading that is
pending means that the wait does not end in this state. -/
def await (s : Session α) (h : Handle α) : Reading α × Session α :=
  let abandoned : Result α := .error (.abandoned h.method)
  match h.state with
  | .held result => (.resolved (result.getD abandoned), s)
  | .bridged n =>
    match s.cells[n]? with
    | some (.settled r) => (.resolved r, { s with cells := s.cells.set n .taken })
    | some .abandoned => (.resolved abandoned, { s with cells := s.cells.set n .taken })
    | some .taken => (.spent, s)
    | some .waiting | none => (.pending, s)

/-- Waits for the handle of a name and drops it. A wait that does not end in this state leaves the session as it is,
and is taken up again in a later one. -/
def wait? (s : Session α) (id : String) : Option (Reading α × Session α) :=
  match s.handle? id with
  | some h =>
    match s.await h with
    | (.pending, _) => some (.pending, s)
    | (r, s) => some (r, s.drop id)
  | none => none

/-- Takes away the writer of a name. -/
def takeWriter? (s : Session α) (id : String) : Option (CellWriter × Session α) :=
  match s.writers.lookup id with
  | some c => some (c, { s with writers := s.writers.filter (·.1 != id) })
  | none => none

/-- Drops the writer of a name, if there is one. -/
def retire (s : Session α) (id : String) : Session α :=
  match s.takeWriter? id with
  | some (c, s) => s.write c.cell .abandoned
  | none => s

/-- A handle and its writer under one name, without a request. -/
def channel (s : Session α) (id method : String) : Session α × CellWriter × Handle α :=
  let (s, cell, h) := (s.retire id).bridge method
  let c : CellWriter := ⟨method, cell⟩
  ({ s with writers := (id, c) :: s.writers }.keep id h, c, h)

/-- Writes with the writer of a name. -/
def complete? (s : Session α) (id : String) (result : Result α) : Option (Session α) :=
  (s.takeWriter? id).map fun (c, s) => s.write c.cell (.settled result)

/-- Drops the writer of a name. -/
def dropWriter? (s : Session α) (id : String) : Option (Session α) :=
  (s.takeWriter? id).map fun (c, s) => s.write c.cell .abandoned

end Session

end ServiceBindings
