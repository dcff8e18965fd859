import ServiceBindings.Proofs.Session.Frame

/-!
What a step can do to a session, once for all steps. Every invariant of runs is a case analysis of the relation.
-/

namespace ServiceBindings.Session

variable {α : Type}

/-- The session with a request sent: a new cell, an exchange that is to write it and a handle that reads it. -/
def opened (s : Session α) (o : Opening α) : Session α :=
  keep
    { s with
      cells := s.cells ++ [.waiting]
      exchanges := s.exchanges ++ [{ request := o.request, decode := o.decode, cell := s.cells.length }] }
    o.id ⟨o.method, .bridged s.cells.length⟩

/-- The session with an exchange closed: its callback is used up, and what it leaves is in the cell of the call. -/
def closed (s : Session α) (n : Nat) (e : Exchange α) (f : Fate) : Session α :=
  write
    { s with
      exchanges := s.exchanges.set n { e with outstanding := false }
      decoded := if f.isDecoded then n :: s.decoded else s.decoded }
    e.cell (f.content e.decode)

/-- The session without the writers of a name, one of which has written. -/
def written (s : Session α) (id : String) (w : CellWriter) (content : Cell α) : Session α :=
  write { s with writers := s.writers.filter (·.1 != id) } w.cell content

/-- The session with a new cell, a writer of it and a handle that reads it, under one name. -/
def channelled (s : Session α) (id method : String) : Session α :=
  keep
    { s with
      cells := s.cells ++ [.waiting]
      writers := (id, ⟨method, s.cells.length⟩) :: s.writers }
    id ⟨method, .bridged s.cells.length⟩

/-- What a step makes of a session. -/
inductive Transition (s : Session α) : Step α → Session α → Prop
  | opened {x : Step α} {o : Opening α} (ho : x.opening? = some o) : Transition s x (s.opened o)
  | refused {id : String} {call : Call} {decode : Decoder α} {e : CallError} (he : call.request = .error e) :
      Transition s (.start id call decode) (s.keep id (.failed call.method e))
  | kept {id : String} {h : Handle α} {r : Option (Result α)} (hr : h.state = .held r) :
      Transition s (.keep id h) (s.keep id h)
  | closed {x : Step α} {n : Nat} {e : Exchange α} (hx : x.closes n = true) (he : s.exchanges[n]? = some e)
      (hout : e.outstanding = true) : Transition s x (s.closed n e (fate n [x]))
  | polled {id : String} {h : Handle α} (hh : s.handle? id = some h) :
      Transition s (.poll id) ((s.read h).2.2.keep id (s.read h).2.1)
  | awaited {id : String} {h : Handle α} (hh : s.handle? id = some h) (hdone : (s.read h).1 ≠ .pending) :
      Transition s (.wait id) ((s.read h).2.2.drop id)
  | dropped {id : String} : Transition s (.drop id) (s.drop id)
  | channelled {id method : String} : Transition s (.channel id method) ((s.retire id).channelled id method)
  | wrote {id : String} {w : CellWriter} {r : Result α} (hw : (id, w) ∈ s.writers) :
      Transition s (.write id r) (s.written id w (.settled r))
  | retired {id : String} : Transition s (.dropWriter id) (s.retire id)
  /-- nothing to close, nothing to write, nothing to read yet, or no such handle -/
  | idle {x : Step α} (hsends : x.opening? = none)
      (hcloses : ∀ n, x.closes n = true → ∀ e, s.exchanges[n]? = some e → e.outstanding = false)
      (hreads : ∀ id, x.reads id = true → ∀ h, s.handle? id = some h → (s.read h).1 = .pending) :
      Transition s x s

variable {s : Session α}

/-! ### Sending -/

/-- A step that sends a request opens an exchange. -/
theorem step_of_opening? {x : Step α} {o : Opening α} (hx : x.opening? = some o) :
    (s.step x).1 = s.opened o := by
  cases x with
  | dispatch id method request decode =>
    simp only [Step.opening?, Option.some.injEq] at hx
    subst hx
    rfl
  | start id call decode =>
    simp only [Step.opening?] at hx
    split at hx
    · next request hrequest =>
      simp only [Option.some.injEq] at hx
      subst hx
      simp only [step, dispatchCall, hrequest]
      rfl
    · cases hx
  | _ => cases hx

theorem transition_of_opening? {x : Step α} {o : Opening α} (hx : x.opening? = some o) :
    Transition s x (s.step x).1 := by
  rw [step_of_opening? hx]
  exact .opened hx

/-- A call is sent, or its error is kept for the handle. -/
theorem transition_start (id : String) (call : Call) (decode : Decoder α) :
    Transition s (.start id call decode) (s.step (.start id call decode)).1 := by
  cases hrequest : call.request with
  | ok request =>
    have hopening : (Step.start id call decode).opening? = some ⟨id, call.method, request, decode⟩ := by
      simp [Step.opening?, hrequest]
    exact transition_of_opening? hopening
  | error e =>
    have hstep : (s.step (.start id call decode)).1 = s.keep id (.failed call.method e) := by
      simp [step, started, dispatchCall, hrequest]
    rw [hstep]
    exact .refused hrequest

/-! ### Callbacks -/

/-- A step on a callback that is not outstanding does nothing. -/
theorem step_of_close?_eq_none {x : Step α} {n : Nat} (hx : x.closes n = true) (hclose : s.close? n = none) :
    (s.step x).1 = s := by
  cases x with
  | settle k o =>
    obtain rfl : k = n := by simpa [Step.closes] using hx
    simp [step, settle?, hclose, finished]
  | dropCallback k =>
    obtain rfl : k = n := by simpa [Step.closes] using hx
    simp [step, dropCallback?, hclose, finished]
  | _ => cases hx

/-- A step on a callback that is outstanding closes the exchange. -/
theorem step_of_closes {x : Step α} {n : Nat} {e : Exchange α} (hx : x.closes n = true)
    (he : s.exchanges[n]? = some e) (hout : e.outstanding = true) : (s.step x).1 = s.closed n e (fate n [x]) := by
  have hclose := close?_eq_some_iff.mpr ⟨he, hout, rfl⟩
  cases x with
  | settle k o =>
    obtain rfl : k = n := by simpa [Step.closes] using hx
    simp only [step, settle?, hclose, finished, Session.closed, fate, Fate.isDecoded, Fate.content, if_true]
    split <;> rfl
  | dropCallback k =>
    obtain rfl : k = n := by simpa [Step.closes] using hx
    simp [step, dropCallback?, hclose, finished, Session.closed, fate, Fate.isDecoded, Fate.content]
  | _ => cases hx

theorem transition_of_closes {x : Step α} {n : Nat} (hx : x.closes n = true) : Transition s x (s.step x).1 := by
  cases hclose : s.close? n with
  | none =>
    rw [step_of_close?_eq_none hx hclose]
    refine .idle (Step.opening?_of_closes hx) ?_ (by simp [Step.reads_of_closes hx])
    intro k hk
    obtain rfl := Step.eq_of_closes hx hk
    exact close?_eq_none_iff.mp hclose
  | some found =>
    obtain ⟨he, hout, -⟩ := close?_eq_some_iff.mp hclose
    rw [step_of_closes hx he hout]
    exact .closed hx he hout

/-! ### Handles -/

/-- A step that reads a name does nothing when the handle of that name, if there is one, has nothing to read. -/
theorem Transition.idle_of_reads {x : Step α} {id : String} (hx : x.reads id = true)
    (hpending : ∀ h, s.handle? id = some h → (s.read h).1 = .pending) : Transition s x s := by
  refine .idle (Step.opening?_of_reads hx) (by simp [Step.closes_of_reads hx]) ?_
  intro other hother
  obtain rfl := Step.eq_of_reads hx hother
  exact hpending

theorem transition_poll (id : String) : Transition s (.poll id) (s.step (.poll id)).1 := by
  have hreads : (Step.poll (α := α) id).reads id = true := by simp [Step.reads]
  cases hh : s.handle? id with
  | none =>
    have hstep : (s.step (.poll id)).1 = s := by simp [step, poll?, hh, answered]
    rw [hstep]
    exact .idle_of_reads hreads (by simp [hh])
  | some h =>
    have hstep : (s.step (.poll id)).1 = (s.read h).2.2.keep id (s.read h).2.1 := by
      simp [step, poll?, hh, answered]
    rw [hstep]
    exact .polled hh

/-- A wait that reads nothing is taken up again later. -/
theorem step_wait_of_pending {id : String} {h : Handle α} (hh : s.handle? id = some h)
    (hpending : (s.read h).1 = .pending) : (s.step (.wait id)).1 = s := by
  simp [step, wait?, hh, await_eq_read, hpending, answered]

/-- A wait that reads something gives up the handle. -/
theorem step_wait_of_ne_pending {id : String} {h : Handle α} (hh : s.handle? id = some h)
    (hdone : (s.read h).1 ≠ .pending) : (s.step (.wait id)).1 = (s.read h).2.2.drop id := by
  simp only [step, wait?, hh, await_eq_read]
  cases hreading : (s.read h).1 with
  | pending => exact absurd hreading hdone
  | resolved r => rfl
  | spent => rfl

theorem transition_wait (id : String) : Transition s (.wait id) (s.step (.wait id)).1 := by
  have hreads : (Step.wait (α := α) id).reads id = true := by simp [Step.reads]
  cases hh : s.handle? id with
  | none =>
    have hstep : (s.step (.wait id)).1 = s := by simp [step, wait?, hh, answered]
    rw [hstep]
    exact .idle_of_reads hreads (by simp [hh])
  | some h =>
    by_cases hpending : (s.read h).1 = .pending
    · rw [step_wait_of_pending hh hpending]
      exact .idle_of_reads hreads (by simpa [hh] using hpending)
    · rw [step_wait_of_ne_pending hh hpending]
      exact .awaited hh hpending

theorem transition_drop (id : String) : Transition s (.drop id) (s.step (.drop id)).1 := by
  by_cases hh : (s.handle? id).isSome = true
  · have hstep : (s.step (.drop id)).1 = s.drop id := by simp [step, hh]
    rw [hstep]
    exact .dropped
  · have hstep : (s.step (.drop id)).1 = s := by simp [step, hh]
    rw [hstep]
    exact .idle rfl (by simp [Step.closes]) (by simp [Step.reads])

/-! ### Writers -/

theorem transition_write (id : String) (r : Result α) : Transition s (.write id r) (s.step (.write id r)).1 := by
  cases htake : s.takeWriter? id with
  | none =>
    have hstep : (s.step (.write id r)).1 = s := by simp [step, complete?, htake, finished]
    rw [hstep]
    exact .idle rfl (by simp [Step.closes]) (by simp [Step.reads])
  | some taken =>
    obtain ⟨w, t⟩ := taken
    obtain ⟨hw, rfl⟩ := takeWriter?_eq_some htake
    have hstep : (s.step (.write id r)).1 = s.written id w (.settled r) := by
      simp [step, complete?, htake, finished, written]
    rw [hstep]
    exact .wrote hw

theorem transition_dropWriter (id : String) : Transition s (.dropWriter id) (s.step (.dropWriter id)).1 := by
  have hstep : (s.step (.dropWriter id)).1 = s.retire id := by
    cases htake : s.takeWriter? id <;> simp [step, dropWriter?, retire, htake, finished]
  rw [hstep]
  exact .retired

/-- Every step does one of the things that the relation lists. -/
theorem step_transition {x : Step α} (hx : x.Sound) : Transition s x (s.step x).1 := by
  cases x with
  | dispatch id method request decode => exact transition_of_opening? rfl
  | start id call decode => exact transition_start id call decode
  | keep id h =>
    obtain ⟨r, hr⟩ := hx
    exact .kept hr
  | settle n o => exact transition_of_closes (n := n) (by simp [Step.closes])
  | dropCallback n => exact transition_of_closes (n := n) (by simp [Step.closes])
  | poll id => exact transition_poll id
  | wait id => exact transition_wait id
  | drop id => exact transition_drop id
  | channel id method => exact .channelled
  | write id r => exact transition_write id r
  | dropWriter id => exact transition_dropWriter id

end ServiceBindings.Session
