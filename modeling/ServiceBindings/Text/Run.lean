/-!
Runs of code points, the form in which character properties and case mappings are stored. A property is a list
of runs in increasing order, and a look-up stops at the first run that begins beyond the code point.
-/

namespace ServiceBindings.Text

/-- The code points `first`, `first + step`, `first + 2 * step` and so on, up to `last`. -/
structure Run where
  first : Nat
  last : Nat
  step : Nat
  deriving DecidableEq, Repr

/-- Whether a code point is one of the run. -/
def Run.contains (r : Run) (n : Nat) : Bool :=
  r.first ≤ n && n ≤ r.last && (n - r.first) % r.step == 0

theorem Run.contains_iff {r : Run} {n : Nat} :
    r.contains n = true ↔ r.first ≤ n ∧ n ≤ r.last ∧ (n - r.first) % r.step = 0 := by
  simp only [Run.contains, Bool.and_eq_true, decide_eq_true_eq, beq_iff_eq, and_assoc]

/-- Whether a code point is in one of the runs, which are in increasing order. -/
def memRuns : List Run → Nat → Bool
  | [], _ => false
  | r :: rest, n => if n < r.first then false else if n ≤ r.last then r.contains n else memRuns rest n

/-- A code point in one of the runs lies between the ends of a run. -/
theorem exists_run_of_memRuns {runs : List Run} {n : Nat} (hmem : memRuns runs n = true) :
    ∃ r ∈ runs, r.first ≤ n ∧ n ≤ r.last := by
  induction runs with
  | nil => cases hmem
  | cons r rest ih =>
    by_cases hfirst : n < r.first
    · simp [memRuns, hfirst] at hmem
    · by_cases hlast : n ≤ r.last
      · exact ⟨r, List.mem_cons_self, by omega, hlast⟩
      · simp only [memRuns, if_neg hfirst, if_neg hlast] at hmem
        obtain ⟨found, hfound, hbounds⟩ := ih hmem
        exact ⟨found, List.mem_cons_of_mem r hfound, hbounds⟩

/-- A case mapping that moves every code point of a run by the same distance. -/
structure Shift where
  run : Run
  distance : Int
  deriving DecidableEq, Repr

/-- The image of a code point under a list of shifts, or the code point itself where none applies. -/
def shiftBy : List Shift → Nat → Nat
  | [], n => n
  | s :: rest, n =>
    if n < s.run.first then n
    else if n ≤ s.run.last then
      if s.run.contains n then (n + s.distance).toNat else n
    else shiftBy rest n

end ServiceBindings.Text
