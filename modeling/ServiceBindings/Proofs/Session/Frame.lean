import ServiceBindings.Proofs.Session.Callback

/-!
What the operations of a session leave alone, and what closing an exchange, taking a writer and reading a handle do.
-/

namespace ServiceBindings.Session

variable {α : Type} {s : Session α}

/-! ### Names -/

@[simp]
theorem keep_cells (id : String) (h : Handle α) : (s.keep id h).cells = s.cells := rfl

@[simp]
theorem keep_exchanges (id : String) (h : Handle α) : (s.keep id h).exchanges = s.exchanges := rfl

@[simp]
theorem keep_decoded (id : String) (h : Handle α) : (s.keep id h).decoded = s.decoded := rfl

@[simp]
theorem keep_writers (id : String) (h : Handle α) : (s.keep id h).writers = s.writers := rfl

@[simp]
theorem drop_cells (id : String) : (s.drop id).cells = s.cells := rfl

@[simp]
theorem drop_exchanges (id : String) : (s.drop id).exchanges = s.exchanges := rfl

@[simp]
theorem drop_decoded (id : String) : (s.drop id).decoded = s.decoded := rfl

@[simp]
theorem drop_writers (id : String) : (s.drop id).writers = s.writers := rfl

private theorem lookup_filter_ne {β : Type} (entries : List (String × β)) {id other : String} (hne : other ≠ id) :
    (entries.filter fun p => p.1 != id).lookup other = entries.lookup other := by
  induction entries with
  | nil => rfl
  | cons p rest ih =>
    obtain ⟨name, value⟩ := p
    by_cases hname : name = id
    · subst hname
      have hother : (other == name) = false := by simpa using hne
      simp [List.lookup_cons, hother, ih]
    · simp [hname, List.lookup_cons, ih]

private theorem lookup_filter_self {β : Type} (entries : List (String × β)) (id : String) :
    (entries.filter fun p => p.1 != id).lookup id = none := by
  induction entries with
  | nil => rfl
  | cons p rest ih =>
    obtain ⟨name, value⟩ := p
    by_cases hname : name = id
    · simpa [hname] using ih
    · have hid : (id == name) = false := by simpa using Ne.symm hname
      simp [hname, List.lookup_cons, hid, ih]

@[simp]
theorem handle?_keep_self (id : String) (h : Handle α) : (s.keep id h).handle? id = some h := by
  simp [handle?, keep]

theorem handle?_keep_of_ne {id other : String} (hne : other ≠ id) (h : Handle α) :
    (s.keep id h).handle? other = s.handle? other := by
  have hbeq : (other == id) = false := by simpa using hne
  simp [handle?, keep, List.lookup_cons, hbeq, lookup_filter_ne _ hne]

@[simp]
theorem handle?_drop_self (id : String) : (s.drop id).handle? id = none :=
  lookup_filter_self _ _

theorem handle?_drop_of_ne {id other : String} (hne : other ≠ id) : (s.drop id).handle? other = s.handle? other :=
  lookup_filter_ne _ hne

/-- A handle that is found under a name is among the handles of the session. -/
theorem mem_handles_of_handle? {id : String} {h : Handle α} (hfound : s.handle? id = some h) :
    (id, h) ∈ s.handles := by
  have hlookup : s.handles.lookup id = some h := hfound
  obtain ⟨front, back, hsplit, _⟩ := List.lookup_eq_some_iff.mp hlookup
  simp [hsplit]

/-! ### Cells -/

@[simp]
theorem write_exchanges (cell : Nat) (content : Cell α) : (s.write cell content).exchanges = s.exchanges := by
  unfold write
  split <;> rfl

@[simp]
theorem write_decoded (cell : Nat) (content : Cell α) : (s.write cell content).decoded = s.decoded := by
  unfold write
  split <;> rfl

@[simp]
theorem write_handles (cell : Nat) (content : Cell α) : (s.write cell content).handles = s.handles := by
  unfold write
  split <;> rfl

@[simp]
theorem write_writers (cell : Nat) (content : Cell α) : (s.write cell content).writers = s.writers := by
  unfold write
  split <;> rfl

@[simp]
theorem write_cells_length (cell : Nat) (content : Cell α) :
    (s.write cell content).cells.length = s.cells.length := by
  unfold write
  split <;> simp

theorem write_cells_of_ne {cell other : Nat} (hne : cell ≠ other) (content : Cell α) :
    (s.write cell content).cells[other]? = s.cells[other]? := by
  unfold write
  split
  · simp [List.getElem?_set_ne hne]
  · rfl

theorem write_cells_of_waiting {cell : Nat} (hwaiting : s.cells[cell]? = some .waiting) (content : Cell α) :
    (s.write cell content).cells[cell]? = some content := by
  have hlt : cell < s.cells.length := (List.getElem?_eq_some_iff.mp hwaiting).1
  unfold write
  rw [hwaiting]
  simp [hlt]

/-! ### Exchanges -/

/-- An exchange is closed when its callback is outstanding, and is the same afterwards but for that. -/
theorem close?_eq_some_iff {n : Nat} {t : Session α} {e : Exchange α} :
    s.close? n = some (t, e) ↔ s.exchanges[n]? = some e ∧ e.outstanding = true ∧
      t = { s with exchanges := s.exchanges.set n { e with outstanding := false } } := by
  unfold close?
  cases hn : s.exchanges[n]? with
  | none => simp
  | some f =>
    dsimp only
    by_cases hout : f.outstanding = true
    · rw [if_pos hout]
      constructor
      · intro h
        obtain ⟨rfl, rfl⟩ := Prod.mk.inj (Option.some.inj h)
        exact ⟨rfl, hout, rfl⟩
      · rintro ⟨hf, _, rfl⟩
        rw [Option.some.inj hf]
    · rw [if_neg hout]
      constructor
      · intro h
        cases h
      · rintro ⟨hf, he, _⟩
        exact absurd (Option.some.inj hf ▸ he) hout

theorem close?_eq_none_iff {n : Nat} :
    s.close? n = none ↔ ∀ e, s.exchanges[n]? = some e → e.outstanding = false := by
  unfold close?
  cases s.exchanges[n]? with
  | none => simp
  | some f => simp

/-! ### Writers -/

theorem takeWriter?_eq_some {id : String} {w : CellWriter} {t : Session α} (htake : s.takeWriter? id = some (w, t)) :
    (id, w) ∈ s.writers ∧ t = { s with writers := s.writers.filter (·.1 != id) } := by
  unfold takeWriter? at htake
  cases hlookup : s.writers.lookup id with
  | none => simp [hlookup] at htake
  | some c =>
    obtain ⟨front, back, hsplit, _⟩ := List.lookup_eq_some_iff.mp hlookup
    simp only [hlookup, Option.some.injEq, Prod.mk.injEq] at htake
    obtain ⟨rfl, rfl⟩ := htake
    exact ⟨by simp [hsplit], rfl⟩

/-! ### Readings -/

/-- Reading a handle leaves the session as it is or empties the cell that the handle is bridged to. -/
theorem read_session (h : Handle α) :
    (s.read h).2.2 = s ∨
      ∃ c, h.state = .bridged c ∧ (s.read h).2.2 = { s with cells := s.cells.set c .taken } := by
  unfold read
  dsimp only
  split
  · exact .inl rfl
  · exact .inl rfl
  · next c hstate =>
    split
    · exact .inr ⟨c, hstate, rfl⟩
    · exact .inr ⟨c, hstate, rfl⟩
    · exact .inl rfl
    · exact .inl rfl
    · exact .inl rfl

/-- A handle is bridged after it was read if it was before, and to the same cell. -/
theorem read_handle_bridged {h : Handle α} {c : Nat} (hbridged : (s.read h).2.1.state = .bridged c) :
    h.state = .bridged c := by
  unfold read at hbridged
  dsimp only at hbridged
  split at hbridged
  · cases hbridged
  · exact hbridged
  · split at hbridged <;> exact hbridged

/-- Waiting with a handle finds what polling it finds, and leaves the session that polling leaves. -/
theorem await_eq_read (h : Handle α) : s.await h = ((s.read h).1, (s.read h).2.2) := by
  unfold await read
  dsimp only
  cases h.state with
  | held result => cases result <;> rfl
  | bridged c =>
    dsimp only
    rcases s.cells[c]? with _ | _ | _ | _ | _ <;> rfl

end ServiceBindings.Session
