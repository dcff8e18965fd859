import ServiceBindings.Proofs.Session.Ownership

/-!
A call by itself. The stage of a call is computed from the steps after its request alone, without any session: the
callback decides what is there to read, and the first reading after that takes it. In every run the session stands,
for each call whose handle is kept, where the stage of the call says.
-/

namespace ServiceBindings

variable {α : Type}

/-- How far a call has got, as its handle sees it. -/
inductive Stage
  /-- nobody has read what the callback leaves, if it has left anything -/
  | unread (left : Fate)
  /-- it has been read, and the handle is still there -/
  | spent
  /-- the handle has been used up by a wait -/
  | gone

namespace Stage

/-- The stage of a call after one more step. Readings count once the callback has been invoked or dropped. -/
def next (n : Nat) (id : String) (g : Stage) (x : Step α) : Stage :=
  match g, x with
  | .unread .outstanding, x => .unread (fate n [x])
  | .gone, _ => .gone
  | g, .poll i => if i = id then .spent else g
  | g, .wait i => if i = id then .gone else g
  | g, _ => g

/-- What a reading is answered at a stage. -/
def answer (o : Opening α) : Stage → StepAnswer α
  | .unread .outstanding => .reading .pending
  | .unread (.invoked outcome) => .reading (.resolved (outcome.result o.decode))
  | .unread .dropped => .reading (.resolved (.error (.abandoned o.method)))
  | .spent => .reading .spent
  | .gone => .absent

end Stage

/-- The stage of a call after the steps that follow its request. -/
def stage (n : Nat) (id : String) (mid : List (Step α)) : Stage :=
  mid.foldl (Stage.next n id) (.unread .outstanding)

theorem stage_concat (n : Nat) (id : String) (mid : List (Step α)) (y : Step α) :
    stage n id (mid ++ [y]) = (stage n id mid).next n id y := by
  simp [stage]

theorem Stage.next_of_not_reads {n : Nat} {id : String} {y : Step α} (hy : y.reads id = false) {g : Stage}
    (hg : g ≠ .unread .outstanding) : g.next n id y = g := by
  cases g with
  | unread f => cases f <;> cases y <;> simp_all [Stage.next, Step.reads]
  | spent => cases y <;> simp_all [Stage.next, Step.reads]
  | gone => rfl

/-- What there is to read changes only by the callback, and not by readings. -/
theorem Stage.of_next_eq_unread {n : Nat} {id : String} {g : Stage} {y : Step α} {f : Fate}
    (hnext : g.next n id y = .unread f) :
    (g = .unread .outstanding ∧ fate n [y] = f) ∨ (g = .unread f ∧ f ≠ .outstanding) := by
  cases g with
  | unread e =>
    cases e with
    | outstanding => exact .inl ⟨rfl, by simpa [Stage.next] using hnext⟩
    | _ =>
      right
      cases y <;> grind [Stage.next]
  | spent => cases y <;> grind [Stage.next]
  | gone => cases hnext

/-- A call gets from unread to read by a reading that is answered with its result, and in no other way. -/
theorem Stage.next_read_iff {n : Nat} {y : Step α} (o : Opening α) (g : Stage) :
    (∀ f, g.next n o.id y ≠ .unread f) ↔
      (∀ f, g ≠ .unread f) ∨ y.reads o.id = true ∧ ∃ r, g.answer o = .reading (.resolved r) := by
  by_cases hy : y.reads o.id = true
  · cases g with
    | unread f => cases f <;> cases y <;> simp_all [Stage.next, Stage.answer, Step.reads]
    | spent => cases y <;> simp_all [Stage.next, Step.reads]
    | gone => simp [Stage.next]
  · have hkeep : y.reads o.id = false := by simpa using hy
    by_cases hg : g = .unread .outstanding
    · simp [hg, hkeep, Stage.next]
    · simp [Stage.next_of_not_reads hkeep hg, hkeep]

/-- As long as a callback is outstanding, there is nothing to read. -/
theorem stage_of_outstanding {n : Nat} {mid : List (Step α)} (hout : fate n mid = .outstanding) (id : String) :
    stage n id mid = .unread .outstanding := by
  induction mid using List.reverseRecOn with
  | nil => rfl
  | append_singleton front y ih =>
    rw [fate_append] at hout
    by_cases hfront : fate n front = .outstanding
    · rw [if_pos hfront] at hout
      rw [stage_concat, ih hfront, Stage.next, hout]
    · rw [if_neg hfront] at hout
      exact absurd hout hfront

/-- What is there to read is what has become of the callback. -/
theorem fate_of_stage {n : Nat} {id : String} {mid : List (Step α)} {f : Fate} (hstage : stage n id mid = .unread f) :
    fate n mid = f := by
  induction mid using List.reverseRecOn generalizing f with
  | nil =>
    cases hstage
    rfl
  | append_singleton front y ih =>
    rw [stage_concat] at hstage
    rw [fate_append]
    obtain ⟨hfront, rfl⟩ | ⟨hfront, hdone⟩ := Stage.of_next_eq_unread hstage
    · rw [if_pos (ih hfront)]
    · rw [ih hfront, if_neg hdone]

/-- There is nothing to read exactly as long as the callback is outstanding. -/
theorem stage_eq_outstanding_iff {n : Nat} {id : String} {mid : List (Step α)} :
    stage n id mid = .unread .outstanding ↔ fate n mid = .outstanding :=
  ⟨fate_of_stage, fun hout => stage_of_outstanding hout id⟩

theorem Stage.answer_eq_pending_iff {o : Opening α} {g : Stage} :
    g.answer o = .reading .pending ↔ g = .unread .outstanding := by
  rcases g with ⟨_ | _ | _⟩ | _ | _ <;> simp [Stage.answer]

theorem Stage.answer_eq_resolved_iff {o : Opening α} {g : Stage} :
    (∃ r, g.answer o = .reading (.resolved r)) ↔ g ≠ .unread .outstanding ∧ ∃ f, g = .unread f := by
  rcases g with ⟨_ | _ | _⟩ | _ | _ <;> simp [Stage.answer]

private theorem Stage.next_of_closes_ne {n k : Nat} (hne : k ≠ n) {y : Step α} (hy : y.closes k = true) (id : String)
    (g : Stage) : g.next n id y = g := by
  have hn : y.closes n = false := Bool.eq_false_iff.mpr fun hyn => hne (Step.eq_of_closes hy hyn)
  by_cases hg : g = .unread .outstanding
  · rw [hg, Stage.next, fate_singleton_of_not_closes hn]
  · exact Stage.next_of_not_reads (Step.reads_of_closes hy id) hg

/-- Steps that invoke or drop another callback leave a call where it is. -/
theorem stage_filter_of_ne {n k : Nat} (hne : k ≠ n) (id : String) (mid : List (Step α)) :
    stage n id (mid.filter fun y => !y.closes k) = stage n id mid := by
  induction mid using List.reverseRecOn with
  | nil => rfl
  | append_singleton front y ih =>
    rw [stage_concat, List.filter_append]
    cases hy : y.closes k with
    | true => simp [hy, ih, Stage.next_of_closes_ne hne hy]
    | false => simp [hy, stage_concat, ih]

namespace Session

/-! ### The session and the stage -/

/-- Where a session stands with a call, by the cell of the call and the name of its handle. -/
def Stands (s : Session α) (c : Nat) (o : Opening α) : Stage → Prop
  | .unread f => s.cells[c]? = some (f.content o.decode) ∧ s.handle? o.id = some ⟨o.method, .bridged c⟩
  | .spent => s.cells[c]? = some .taken ∧ s.handle? o.id = some ⟨o.method, .bridged c⟩
  | .gone => s.handle? o.id = none

private theorem read_of_cell (s : Session α) {c : Nat} {content : Cell α} (hcell : s.cells[c]? = some content)
    (method : String) : s.read ⟨method, .bridged c⟩ =
      match content with
      | .waiting => (.pending, ⟨method, .bridged c⟩, s)
      | .settled r => (.resolved r, ⟨method, .bridged c⟩, { s with cells := s.cells.set c .taken })
      | .abandoned =>
        (.resolved (.error (.abandoned method)), ⟨method, .bridged c⟩, { s with cells := s.cells.set c .taken })
      | .taken => (.spent, ⟨method, .bridged c⟩, s) := by
  unfold read
  simp only [hcell]
  cases content <;> rfl

/-- A poll is answered as the stage says. -/
theorem Stands.answer_poll {s : Session α} {c : Nat} {o : Opening α} {g : Stage} (h : s.Stands c o g) :
    (s.step (.poll o.id)).2 = g.answer o := by
  cases g with
  | unread f =>
    obtain ⟨hcell, hhandle⟩ := h
    cases f <;> simp [step, poll?, hhandle, read_of_cell s hcell, Fate.content, answered, Stage.answer]
  | spent =>
    obtain ⟨hcell, hhandle⟩ := h
    simp [step, poll?, hhandle, read_of_cell s hcell, answered, Stage.answer]
  | gone =>
    have hhandle : s.handle? o.id = none := h
    simp [step, poll?, hhandle, answered, Stage.answer]

/-- Waiting is answered as polling is. -/
theorem step_wait_answer (s : Session α) (id : String) : (s.step (.wait id)).2 = (s.step (.poll id)).2 := by
  cases hh : s.handle? id with
  | none => simp [step, wait?, poll?, hh, answered]
  | some h =>
    simp only [step, wait?, poll?, hh, await_eq_read]
    cases (s.read h).1 <;> rfl

/-- A step that reads a handle polls it, waits with it, or finds nothing to read yet. -/
theorem Transition.of_reads {s t : Session α} {x : Step α} (h : Transition s x t) {id : String}
    (hreads : x.reads id = true) :
    (∃ g, s.handle? id = some g ∧ x = .poll id ∧ t = (s.read g).2.2.keep id (s.read g).2.1) ∨
      (∃ g, s.handle? id = some g ∧ x = .wait id ∧ (s.read g).1 ≠ .pending ∧ t = (s.read g).2.2.drop id) ∨
      (t = s ∧ ∀ g, s.handle? id = some g → (s.read g).1 = .pending) := by
  cases h with
  | opened ho => cases x <;> first | cases hreads | cases ho
  | closed hx => cases x <;> first | cases hx | cases hreads
  | @polled i g hh =>
    obtain rfl : i = id := by simpa [Step.reads] using hreads
    exact .inl ⟨g, hh, rfl, rfl⟩
  | @awaited i g hh hdone =>
    obtain rfl : i = id := by simpa [Step.reads] using hreads
    exact .inr (.inl ⟨g, hh, rfl, hdone, rfl⟩)
  | idle _ _ hpending => exact .inr (.inr ⟨rfl, hpending id hreads⟩)
  | _ => cases hreads

/-- With a handle under the name, such a step reads that handle. -/
theorem Transition.of_reads_handle {s t : Session α} {x : Step α} (h : Transition s x t) {id : String}
    (hreads : x.reads id = true) {g : Handle α} (hh : s.handle? id = some g) :
    (x = .poll id ∧ t = (s.read g).2.2.keep id (s.read g).2.1) ∨
      (x = .wait id ∧ (s.read g).1 ≠ .pending ∧ t = (s.read g).2.2.drop id) ∨ (t = s ∧ (s.read g).1 = .pending) := by
  obtain ⟨g', hg, hx, ht⟩ | ⟨g', hg, hx, hdone, ht⟩ | ⟨ht, hpending⟩ := h.of_reads hreads
  · obtain rfl := Option.some.inj (hh.symm.trans hg)
    exact .inl ⟨hx, ht⟩
  · obtain rfl := Option.some.inj (hh.symm.trans hg)
    exact .inr (.inl ⟨hx, hdone, ht⟩)
  · exact .inr (.inr ⟨ht, hpending g hh⟩)

/-- A result that is there is read once: a poll leaves a handle that has given it, and a wait gives the handle up. -/
private theorem Stands.next_of_reads_done {s t : Session α} {x : Step α} (h : Transition s x t) {c n : Nat}
    {o : Opening α} (hc : c < s.cells.length) (hreads : x.reads o.id = true) {f : Fate} (hf : f ≠ .outstanding)
    (hs : s.Stands c o (.unread f)) : t.Stands c o ((Stage.unread f).next n o.id x) := by
  obtain ⟨hcell, hhandle⟩ := hs
  obtain ⟨r, hread⟩ : ∃ r, s.read ⟨o.method, .bridged c⟩ =
      (.resolved r, ⟨o.method, .bridged c⟩, { s with cells := s.cells.set c .taken }) := by
    cases f with
    | outstanding => exact absurd rfl hf
    | invoked outcome => exact ⟨_, read_of_cell s hcell o.method⟩
    | dropped => exact ⟨_, read_of_cell s hcell o.method⟩
  obtain ⟨rfl, rfl⟩ | ⟨rfl, hdone, rfl⟩ | ⟨rfl, hpending⟩ := h.of_reads_handle hreads hhandle
  · have hnext : (Stage.unread f).next n o.id (.poll o.id : Step α) = .spent := by
      cases f <;> simp_all [Stage.next]
    rw [hread, hnext]
    exact ⟨by simp [hc], handle?_keep_self _ _⟩
  · have hnext : (Stage.unread f).next n o.id (.wait o.id : Step α) = .gone := by
      cases f <;> simp_all [Stage.next]
    rw [hread, hnext]
    exact handle?_drop_self _
  · rw [hread] at hpending
    cases hpending

private theorem Stands.next_of_reads {s t : Session α} {x : Step α} (h : Transition s x t) {c n : Nat}
    {o : Opening α} (hc : c < s.cells.length) (hreads : x.reads o.id = true) {g : Stage} (hs : s.Stands c o g) :
    t.Stands c o (g.next n o.id x) := by
  cases g with
  | unread f =>
    by_cases hf : f = .outstanding
    · subst hf
      obtain ⟨hcell, hhandle⟩ := hs
      have hread := read_of_cell s hcell o.method
      rw [Stage.next, fate_singleton_of_not_closes (Step.closes_of_reads hreads n)]
      obtain ⟨rfl, rfl⟩ | ⟨rfl, hdone, rfl⟩ | ⟨rfl, -⟩ := h.of_reads_handle hreads hhandle
      · rw [hread]
        exact ⟨hcell, handle?_keep_self _ _⟩
      · rw [hread] at hdone
        exact absurd rfl hdone
      · exact ⟨hcell, hhandle⟩
    · exact hs.next_of_reads_done h hc hreads hf
  | spent =>
    obtain ⟨hcell, hhandle⟩ := hs
    have hread := read_of_cell s hcell o.method
    obtain ⟨rfl, rfl⟩ | ⟨rfl, hdone, rfl⟩ | ⟨rfl, hpending⟩ := h.of_reads_handle hreads hhandle
    · rw [hread]
      simp only [Stage.next, if_pos]
      exact ⟨hcell, handle?_keep_self _ _⟩
    · simp only [Stage.next, if_pos]
      exact handle?_drop_self _
    · rw [hread] at hpending
      cases hpending
  | gone =>
    have hhandle : s.handle? o.id = none := hs
    obtain ⟨g, hg, _⟩ | ⟨g, hg, _⟩ | ⟨rfl, _⟩ := h.of_reads hreads
    · cases hhandle.symm.trans hg
    · cases hhandle.symm.trans hg
    · exact hhandle

private theorem Stands.next_of_not_reads {s t : Session α} {x : Step α} (h : Transition s x t) {n : Nat}
    {o : Opening α} {e : Exchange α} (howned : s.Owned e.cell n o.id) (he : s.exchanges[n]? = some e)
    (hdecode : e.decode = o.decode) (hreleases : x.releases o.id = false) (hreads : x.reads o.id = false) {g : Stage}
    (hout : g = .unread .outstanding → e.outstanding = true) (hs : s.Stands e.cell o g) :
    t.Stands e.cell o (g.next n o.id x) := by
  have hhandle : t.handle? o.id = s.handle? o.id := h.handle_unchanged hreleases hreads
  by_cases hg : g = .unread .outstanding
  · subst hg
    obtain ⟨hwaiting, hname⟩ := hs
    refine ⟨?_, hhandle.trans hname⟩
    by_cases hcloses : x.closes n = true
    · rw [h.cell_closed hcloses he (hout rfl) hwaiting, hdecode]
    · have hopen : x.closes n = false := by simpa using hcloses
      rw [h.cell_unchanged howned hreads (.inl hopen), hwaiting, fate_singleton_of_not_closes hopen]
  · rw [Stage.next_of_not_reads hreads hg]
    cases g with
    | unread f =>
      obtain ⟨hcell, hname⟩ := hs
      have hwritten : s.cells[e.cell]? ≠ some .waiting := by
        rw [hcell]
        cases f <;> simp_all [Fate.content]
      exact ⟨(h.cell_unchanged howned hreads (.inr hwritten)).trans hcell, hhandle.trans hname⟩
    | spent =>
      obtain ⟨hcell, hname⟩ := hs
      have hwritten : s.cells[e.cell]? ≠ some .waiting := by simp [hcell]
      exact ⟨(h.cell_unchanged howned hreads (.inr hwritten)).trans hcell, hhandle.trans hname⟩
    | gone => exact hhandle.trans hs

/-- One step takes the session where it takes the call. -/
theorem Stands.next {s t : Session α} {x : Step α} (h : Transition s x t) {n : Nat} {o : Opening α} {e : Exchange α}
    (howned : s.Owned e.cell n o.id) (he : s.exchanges[n]? = some e) (hdecode : e.decode = o.decode)
    (hreleases : x.releases o.id = false) {g : Stage} (hout : g = .unread .outstanding → e.outstanding = true)
    (hs : s.Stands e.cell o g) : t.Stands e.cell o (g.next n o.id x) := by
  by_cases hreads : x.reads o.id = true
  · exact hs.next_of_reads h howned.lt hreads
  · exact hs.next_of_not_reads h howned he hdecode hreleases (by simpa using hreads) hout

/-- After a request and any steps that keep its handle, the session stands where the stage of the call says. -/
theorem stands_run {s : Session α} (hs : s.WellFormed) (o : Opening α) {mid : List (Step α)}
    (hsound : ∀ y ∈ mid, y.Sound) (hheld : ∀ y ∈ mid, y.releases o.id = false) :
    ((s.opened o).run mid).1.Owned s.cells.length s.exchanges.length o.id ∧
      ((s.opened o).run mid).1.Stands s.cells.length o (stage s.exchanges.length o.id mid) := by
  have hentry : (s.opened o).exchanges[s.exchanges.length]? =
      some { request := o.request, decode := o.decode, cell := s.cells.length } := by
    simp [opened]
  induction mid using List.reverseRecOn with
  | nil =>
    exact ⟨hs.owned_opened o, by simp [run, opened, Fate.content], by simp [run, opened]⟩
  | append_singleton front y ih =>
    have hfront : ∀ z ∈ front, z.Sound := fun z hz => hsound z (List.mem_append_left _ hz)
    obtain ⟨howned, hstands⟩ := ih hfront fun z hz => hheld z (List.mem_append_left _ hz)
    have hstep := step_transition (s := ((s.opened o).run front).1) (hsound y (by simp))
    obtain ⟨hnow, _⟩ := exchange_run hentry rfl hfront
    rw [run_concat, stage_concat]
    refine ⟨hstep.owned howned, hstands.next hstep howned hnow rfl (hheld y (by simp)) ?_⟩
    intro hunread
    simp [fate_of_stage hunread]

end Session

end ServiceBindings
