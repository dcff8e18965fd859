import Mathlib.Data.List.Induction
import ServiceBindings.Call.Run

/-!
What becomes of the callback of an exchange over a run. The callback is outstanding until the first step that invokes
or drops it, and that step alone decides: whether the response is decoded, and what is there to read.
-/

namespace ServiceBindings

variable {α : Type}

/-- A request that a step sends, with the method and the decoder of the call and the name of its handle. -/
structure Opening (α : Type) where
  id : String
  method : String
  request : Request
  decode : Decoder α

namespace Step

/-- What a step sends. A call with an error sends nothing. -/
def opening? : Step α → Option (Opening α)
  | .dispatch id method request decode => some { id, method, request, decode }
  | .start id call decode =>
    match call.request with
    | .ok request => some { id, method := call.method, request, decode }
    | .error _ => none
  | _ => none

/-- Whether a step invokes or drops the callback of an exchange. -/
def closes (n : Nat) : Step α → Bool
  | .settle k _ | .dropCallback k => k == n
  | _ => false

/-- Whether a step polls or waits for the handle of a name. -/
def reads (id : String) : Step α → Bool
  | .poll i | .wait i => i == id
  | _ => false

/-- Whether a step takes a name away from the handle that has it, other than by reading the handle. -/
def releases (id : String) : Step α → Bool
  | .dispatch i .. | .start i .. | .keep i _ | .channel i _ | .drop i => i == id
  | _ => false

/-- A handle that is kept without a call has been settled already: a bridged one comes from its call alone. -/
def Sound : Step α → Prop
  | .keep _ h => ∃ r, h.state = .held r
  | _ => True

/-! A step that acts on a callback or reads a handle does nothing else, and acts on that one alone. -/

theorem opening?_of_closes {x : Step α} {n : Nat} (hx : x.closes n = true) : x.opening? = none := by
  cases x <;> first | rfl | cases hx

theorem closes_of_opening? {x : Step α} {o : Opening α} (ho : x.opening? = some o) (n : Nat) :
    x.closes n = false := by
  cases x <;> first | rfl | cases ho

theorem reads_of_closes {x : Step α} {n : Nat} (hx : x.closes n = true) (id : String) : x.reads id = false := by
  cases x <;> first | rfl | cases hx

theorem eq_of_closes {x : Step α} {n k : Nat} (hn : x.closes n = true) (hk : x.closes k = true) : n = k := by
  cases x <;> simp_all [closes]

theorem opening?_of_reads {x : Step α} {id : String} (hx : x.reads id = true) : x.opening? = none := by
  cases x <;> first | rfl | cases hx

theorem closes_of_reads {x : Step α} {id : String} (hx : x.reads id = true) (n : Nat) : x.closes n = false := by
  cases x <;> first | rfl | cases hx

theorem eq_of_reads {x : Step α} {id other : String} (hid : x.reads id = true) (hother : x.reads other = true) :
    id = other := by
  cases x <;> simp_all [reads]

end Step

/-- What has become of a callback. -/
inductive Fate
  | outstanding
  | invoked (outcome : Outcome)
  | dropped
  deriving DecidableEq, Repr

/-- What becomes of the callback of an exchange in the steps that follow its request. -/
def fate (n : Nat) : List (Step α) → Fate
  | [] => .outstanding
  | .settle k o :: rest => if k = n then .invoked o else fate n rest
  | .dropCallback k :: rest => if k = n then .dropped else fate n rest
  | _ :: rest => fate n rest

namespace Fate

/-- Whether the response was handed to the decoder. -/
def isDecoded : Fate → Bool
  | .invoked o => o.isDecoded
  | _ => false

/-- What the callback leaves in the cell of its call. -/
def content (decode : Decoder α) : Fate → Cell α
  | .outstanding => .waiting
  | .invoked o => .settled (o.result decode)
  | .dropped => .abandoned

end Fate

theorem fate_cons_of_not_closes {n : Nat} {x : Step α} (hx : x.closes n = false) (rest : List (Step α)) :
    fate n (x :: rest) = fate n rest := by
  cases x <;> simp_all [fate, Step.closes]

theorem fate_cons_of_closes {n : Nat} {x : Step α} (hx : x.closes n = true) (rest : List (Step α)) :
    fate n (x :: rest) = fate n [x] ∧ fate n [x] ≠ .outstanding := by
  cases x <;> simp_all [fate, Step.closes]

/-- A callback is outstanding exactly as long as no step has invoked or dropped it. -/
theorem fate_eq_outstanding_iff {n : Nat} {mid : List (Step α)} :
    fate n mid = .outstanding ↔ ∀ y ∈ mid, y.closes n = false := by
  induction mid with
  | nil => simp [fate]
  | cons x rest ih =>
    cases hx : x.closes n with
    | true =>
      obtain ⟨hfate, hclosed⟩ := fate_cons_of_closes hx rest
      simp [hfate, hclosed, hx]
    | false => simp [fate_cons_of_not_closes hx, ih, hx]

/-- The steps up to the first that invokes or drops a callback decide what becomes of it. -/
theorem fate_append {n : Nat} (front back : List (Step α)) :
    fate n (front ++ back) = if fate n front = .outstanding then fate n back else fate n front := by
  induction front with
  | nil => simp [fate]
  | cons x rest ih =>
    cases hx : x.closes n with
    | true =>
      obtain ⟨hfront, hclosed⟩ := fate_cons_of_closes hx rest
      obtain ⟨hwhole, _⟩ := fate_cons_of_closes hx (rest ++ back)
      simp [hfront, hwhole, hclosed]
    | false => simp [fate_cons_of_not_closes hx, ih]

end ServiceBindings
