import ServiceBindings.Proofs.Session.Transition

/-!
Who refers to which cell. Exchanges and writers write cells and handles read them; a step makes references to new
cells only, so what is known of all references to older cells stays known.
-/

namespace ServiceBindings.Session

variable {α : Type}

/-- A condition on all references to cells: on those of exchanges by their numbers, on those of handles by their
names, and on those of writers. -/
structure Refers (s : Session α) (E : Nat → Nat → Prop) (H : String → Nat → Prop) (W : Nat → Prop) : Prop where
  exchange : ∀ n e, s.exchanges[n]? = some e → E n e.cell
  handle : ∀ p ∈ s.handles, ∀ c, p.2.state = .bridged c → H p.1 c
  writer : ∀ p ∈ s.writers, W p.2.cell

namespace Refers

variable {s : Session α} {E : Nat → Nat → Prop} {H : String → Nat → Prop} {W : Nat → Prop}

theorem mono (hs : s.Refers E H W) {E' : Nat → Nat → Prop} {H' : String → Nat → Prop} {W' : Nat → Prop}
    (hE : ∀ n c, E n c → E' n c) (hH : ∀ i c, H i c → H' i c) (hW : ∀ c, W c → W' c) : s.Refers E' H' W' :=
  ⟨fun n e he => hE n e.cell (hs.exchange n e he), fun p hp c hc => hH p.1 c (hs.handle p hp c hc),
    fun p hp => hW p.2.cell (hs.writer p hp)⟩

theorem keep (hs : s.Refers E H W) {id : String} {h : Handle α} (hh : ∀ c, h.state = .bridged c → H id c) :
    (s.keep id h).Refers E H W := by
  refine ⟨hs.exchange, ?_, hs.writer⟩
  intro p hp
  rcases List.mem_cons.mp hp with rfl | hp
  · exact hh
  · exact hs.handle p (List.mem_filter.mp hp).1

theorem drop (hs : s.Refers E H W) (id : String) : (s.drop id).Refers E H W :=
  ⟨hs.exchange, fun p hp => hs.handle p (List.mem_filter.mp hp).1, hs.writer⟩

theorem write (hs : s.Refers E H W) (cell : Nat) (content : Cell α) : (s.write cell content).Refers E H W := by
  refine ⟨?_, ?_, ?_⟩
  · simpa using hs.exchange
  · simpa using hs.handle
  · simpa using hs.writer

theorem withCells (hs : s.Refers E H W) (cells : List (Cell α)) : { s with cells }.Refers E H W :=
  ⟨hs.exchange, hs.handle, hs.writer⟩

theorem read (hs : s.Refers E H W) (h : Handle α) : (s.read h).2.2.Refers E H W := by
  obtain heq | ⟨c, _, heq⟩ := read_session (s := s) h
  · rw [heq]
    exact hs
  · rw [heq]
    exact hs.withCells _

theorem written (hs : s.Refers E H W) (id : String) (w : CellWriter) (content : Cell α) :
    (s.written id w content).Refers E H W := by
  have hbase : Refers { s with writers := s.writers.filter (·.1 != id) } E H W :=
    ⟨hs.exchange, hs.handle, fun p hp => hs.writer p (List.mem_filter.mp hp).1⟩
  exact hbase.write w.cell content

theorem retire (hs : s.Refers E H W) (id : String) : (s.retire id).Refers E H W := by
  unfold Session.retire
  cases htake : s.takeWriter? id with
  | none => exact hs
  | some taken =>
    obtain ⟨w, t⟩ := taken
    obtain ⟨_, rfl⟩ := takeWriter?_eq_some htake
    exact hs.written id w .abandoned

theorem closed (hs : s.Refers E H W) {n : Nat} {e : Exchange α} (he : s.exchanges[n]? = some e) (f : Fate) :
    (s.closed n e f).Refers E H W := by
  have hexchange : ∀ k g, (s.exchanges.set n { e with outstanding := false })[k]? = some g → E k g.cell := by
    intro k g hg
    by_cases hk : n = k
    · subst hk
      have hlt : n < s.exchanges.length := (List.getElem?_eq_some_iff.mp he).1
      simp only [List.getElem?_set_self hlt, Option.some.injEq] at hg
      subst hg
      exact hs.exchange n e he
    · rw [List.getElem?_set_ne hk] at hg
      exact hs.exchange k g hg
  have hbase : Refers
      { s with
        exchanges := s.exchanges.set n { e with outstanding := false }
        decoded := if f.isDecoded then n :: s.decoded else s.decoded } E H W :=
    ⟨hexchange, hs.handle, hs.writer⟩
  exact hbase.write e.cell (f.content e.decode)

theorem opened (hs : s.Refers E H W) (o : Opening α) (hE : E s.exchanges.length s.cells.length)
    (hH : H o.id s.cells.length) : (s.opened o).Refers E H W := by
  have hbase : Refers
      { s with
        cells := s.cells ++ [.waiting]
        exchanges := s.exchanges ++ [{ request := o.request, decode := o.decode, cell := s.cells.length }] } E H W := by
    refine ⟨?_, hs.handle, hs.writer⟩
    intro k g hg
    rcases Nat.lt_trichotomy k s.exchanges.length with hlt | rfl | hgt
    · rw [List.getElem?_append_left hlt] at hg
      exact hs.exchange k g hg
    · simp only [List.getElem?_concat_length, Option.some.injEq] at hg
      subst hg
      exact hE
    · have hbound := (List.getElem?_eq_some_iff.mp hg).1
      simp only [List.length_append, List.length_singleton] at hbound
      omega
  refine hbase.keep ?_
  intro c hc
  cases hc
  exact hH

theorem channelled (hs : s.Refers E H W) (id method : String) (hH : H id s.cells.length) (hW : W s.cells.length) :
    (s.channelled id method).Refers E H W := by
  have hbase : Refers
      { s with
        cells := s.cells ++ [.waiting]
        writers := (id, ⟨method, s.cells.length⟩) :: s.writers } E H W := by
    refine ⟨hs.exchange, hs.handle, ?_⟩
    intro p hp
    rcases List.mem_cons.mp hp with rfl | hp
    · exact hW
    · exact hs.writer p hp
  refine hbase.keep ?_
  intro c hc
  cases hc
  exact hH

end Refers

theorem retire_exchanges (s : Session α) (id : String) : (s.retire id).exchanges = s.exchanges := by
  unfold retire takeWriter?
  cases s.writers.lookup id <;> simp

theorem retire_decoded (s : Session α) (id : String) : (s.retire id).decoded = s.decoded := by
  unfold retire takeWriter?
  cases s.writers.lookup id <;> simp

theorem retire_handles (s : Session α) (id : String) : (s.retire id).handles = s.handles := by
  unfold retire takeWriter?
  cases s.writers.lookup id <;> simp

theorem retire_cells_length (s : Session α) (id : String) : (s.retire id).cells.length = s.cells.length := by
  unfold retire takeWriter?
  cases s.writers.lookup id <;> simp

/-- A step keeps a condition on references that its own new references meet. -/
theorem Transition.refers {s t : Session α} {x : Step α} (h : Transition s x t) {E : Nat → Nat → Prop}
    {H : String → Nat → Prop} {W : Nat → Prop} (hs : s.Refers E H W)
    (hfresh : s.cells.length < t.cells.length →
      ∀ n i, E n s.cells.length ∧ H i s.cells.length ∧ W s.cells.length) : t.Refers E H W := by
  cases h with
  | @opened _ o ho =>
    have hnew := hfresh (by simp [Session.opened])
    exact hs.opened o (hnew s.exchanges.length o.id).1 (hnew 0 o.id).2.1
  | refused he => exact hs.keep (by intro c hc; cases hc)
  | kept hr => exact hs.keep (by intro c hc; cases hr ▸ hc)
  | closed hx he hout => exact hs.closed he _
  | polled hh =>
    refine (hs.read _).keep ?_
    intro c hc
    exact hs.handle _ (mem_handles_of_handle? hh) c (read_handle_bridged hc)
  | awaited hh hdone => exact (hs.read _).drop _
  | dropped => exact hs.drop _
  | @channelled id method =>
    have hlength := retire_cells_length s id
    have hnew := hfresh (by simp [Session.channelled, hlength])
    refine (hs.retire id).channelled id method ?_ ?_
    · rw [hlength]
      exact (hnew 0 id).2.1
    · rw [hlength]
      exact (hnew 0 id).2.2
  | wrote hw => exact hs.written _ _ _
  | retired => exact hs.retire _
  | idle => exact hs

/-- A step makes cells and never takes them away. -/
theorem Transition.cells_length_le {s t : Session α} {x : Step α} (h : Transition s x t) :
    s.cells.length ≤ t.cells.length := by
  have hread (h : Handle α) : (s.read h).2.2.cells.length = s.cells.length := by
    obtain heq | ⟨c, _, heq⟩ := read_session (s := s) h <;> simp [heq]
  cases h <;> simp [Session.opened, Session.closed, Session.channelled, Session.written, retire_cells_length, hread]

end ServiceBindings.Session
