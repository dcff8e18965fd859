import ServiceBindings.Proofs.Session.Exchange

/-!
The cell of a call is its own. One exchange writes it and handles of one name read it, in every state that follows the
request; so nothing happens to it but by the callback of that exchange and by readings under that name.
-/

namespace ServiceBindings

variable {α : Type}

theorem Step.releases_of_opening? {x : Step α} {o : Opening α} (ho : x.opening? = some o) (id : String) :
    x.releases id = (o.id == id) := by
  cases x with
  | dispatch i method request decode =>
    simp only [Step.opening?, Option.some.injEq] at ho
    subst ho
    rfl
  | start i call decode =>
    simp only [Step.opening?] at ho
    split at ho
    · simp only [Option.some.injEq] at ho
      subst ho
      rfl
    · cases ho
  | _ => cases ho

namespace Session

/-! ### What holds in every state -/

/-- All references are to cells that there are, and the exchanges whose responses were decoded are there too. -/
structure WellFormed (s : Session α) : Prop where
  refers : s.Refers (fun _ c => c < s.cells.length) (fun _ c => c < s.cells.length) (· < s.cells.length)
  decoded : ∀ n ∈ s.decoded, n < s.exchanges.length

theorem wellFormed_empty : ({} : Session α).WellFormed :=
  ⟨⟨by simp, by simp, by simp⟩, by simp⟩

theorem Transition.wellFormed {s t : Session α} {x : Step α} (h : Transition s x t) (hs : s.WellFormed) :
    t.WellFormed := by
  have hle := h.cells_length_le
  have hrefers : s.Refers (fun _ c => c < t.cells.length) (fun _ c => c < t.cells.length) (· < t.cells.length) :=
    hs.refers.mono (fun _ _ hc => Nat.lt_of_lt_of_le hc hle) (fun _ _ hc => Nat.lt_of_lt_of_le hc hle)
      (fun _ hc => Nat.lt_of_lt_of_le hc hle)
  exact ⟨h.refers hrefers fun hlt _ _ => ⟨hlt, hlt, hlt⟩, h.decoded_lt hs.decoded⟩

theorem wellFormed_run {steps : List (Step α)} (hsound : ∀ y ∈ steps, y.Sound) :
    (run {} steps).1.WellFormed := by
  induction steps using List.reverseRecOn with
  | nil => exact wellFormed_empty
  | append_singleton front y ih =>
    have hfront := ih fun z hz => hsound z (List.mem_append_left _ hz)
    rw [run_concat]
    exact (step_transition (hsound y (by simp))).wellFormed hfront

/-! ### What holds from a request on -/

/-- A cell is there, no exchange but that of one number writes it, and no handle but those of one name read it. -/
structure Owned (s : Session α) (c n : Nat) (id : String) : Prop where
  lt : c < s.cells.length
  refers : s.Refers (fun k d => d = c → k = n) (fun i d => d = c → i = id) (· ≠ c)

/-- The cell of a new call is its own, since no reference to it is older. -/
theorem WellFormed.owned_opened {s : Session α} (hs : s.WellFormed) (o : Opening α) :
    (s.opened o).Owned s.cells.length s.exchanges.length o.id := by
  refine ⟨by simp [opened], Refers.opened ?_ o (fun _ => rfl) (fun _ => rfl)⟩
  exact hs.refers.mono (fun _ d hd heq => absurd heq (Nat.ne_of_lt hd)) (fun _ d hd heq => absurd heq (Nat.ne_of_lt hd))
    (fun d hd => Nat.ne_of_lt hd)

theorem Transition.owned {s t : Session α} {x : Step α} (h : Transition s x t) {c n : Nat} {id : String}
    (hs : s.Owned c n id) : t.Owned c n id := by
  have hne := Nat.ne_of_gt hs.lt
  exact ⟨Nat.lt_of_lt_of_le hs.lt h.cells_length_le,
    h.refers hs.refers fun _ _ _ => ⟨fun heq => absurd heq hne, fun heq => absurd heq hne, hne⟩⟩

private theorem written_cells_of_ne {s : Session α} {id : String} {w : CellWriter} {c : Nat} (hne : w.cell ≠ c)
    (content : Cell α) : (s.written id w content).cells[c]? = s.cells[c]? :=
  write_cells_of_ne hne content

private theorem retire_cells_of_owned {s : Session α} {c n : Nat} {id : String} (hs : s.Owned c n id) (i : String) :
    (s.retire i).cells[c]? = s.cells[c]? := by
  unfold retire
  cases htake : s.takeWriter? i with
  | none => rfl
  | some taken =>
    obtain ⟨w, t⟩ := taken
    obtain ⟨hw, rfl⟩ := takeWriter?_eq_some htake
    exact written_cells_of_ne (hs.refers.writer (i, w) hw) .abandoned

private theorem read_cells_of_owned {s : Session α} {c n : Nat} {id i : String} (hs : s.Owned c n id) (hne : i ≠ id)
    {h : Handle α} (hh : s.handle? i = some h) : (s.read h).2.2.cells[c]? = s.cells[c]? := by
  obtain heq | ⟨d, hd, heq⟩ := read_session (s := s) h
  · rw [heq]
  · have hcell : d ≠ c := fun hdc => hne (hs.refers.handle (i, h) (mem_handles_of_handle? hh) d hd hdc)
    rw [heq]
    exact List.getElem?_set_ne hcell

/-- A step that does not read a handle of its name changes the cell of a call only if it closes the exchange, and only
if the cell is waiting. -/
theorem Transition.cell_unchanged {s t : Session α} {x : Step α} (h : Transition s x t) {c n : Nat} {id : String}
    (hs : s.Owned c n id) (hreads : x.reads id = false)
    (hcloses : x.closes n = false ∨ s.cells[c]? ≠ some .waiting) : t.cells[c]? = s.cells[c]? := by
  cases h with
  | opened ho => simp [Session.opened, List.getElem?_append_left hs.lt]
  | refused he => rfl
  | kept hr => rfl
  | @closed _ k e hx he hout =>
    by_cases hcell : e.cell = c
    · obtain rfl : k = n := hs.refers.exchange k e he hcell
      have hwritten : s.cells[c]? ≠ some .waiting := by
        rcases hcloses with hopen | hwritten
        · cases hx.symm.trans hopen
        · exact hwritten
      unfold Session.closed Session.write
      subst hcell
      split
      · next hwaiting => exact absurd hwaiting hwritten
      · rfl
    · exact write_cells_of_ne hcell _
  | @polled i g hh =>
    have hne : i ≠ id := by simpa [Step.reads] using hreads
    exact read_cells_of_owned hs hne hh
  | @awaited i g hh hdone =>
    have hne : i ≠ id := by simpa [Step.reads] using hreads
    exact read_cells_of_owned hs hne hh
  | dropped => rfl
  | @channelled i method =>
    have hlt : c < (s.retire i).cells.length := by
      rw [retire_cells_length]
      exact hs.lt
    simp [Session.channelled, List.getElem?_append_left hlt, retire_cells_of_owned hs]
  | @wrote i w r hw => exact written_cells_of_ne (hs.refers.writer (i, w) hw) _
  | retired => exact retire_cells_of_owned hs _
  | idle => rfl

/-- Closing an outstanding exchange leaves in its waiting cell what has become of the callback. -/
theorem Transition.cell_closed {s t : Session α} {x : Step α} (h : Transition s x t) {n : Nat} {e : Exchange α}
    (hx : x.closes n = true) (he : s.exchanges[n]? = some e) (hout : e.outstanding = true)
    (hwaiting : s.cells[e.cell]? = some .waiting) :
    t.cells[e.cell]? = some ((fate n [x]).content e.decode) := by
  cases h with
  | @closed _ k g hk hg _ =>
    obtain rfl : k = n := by
      cases x <;> simp_all [Step.closes]
    obtain rfl : g = e := Option.some.inj (hg.symm.trans he)
    unfold Session.closed
    apply write_cells_of_waiting
    exact hwaiting
  | opened ho => cases hx.symm.trans (Step.closes_of_opening? ho n)
  | idle _ hcloses _ => cases hout.symm.trans (hcloses n hx e he)
  | _ => cases hx

/-- A step that neither releases nor reads a handle leaves its name as it is. -/
theorem Transition.handle_unchanged {s t : Session α} {x : Step α} (h : Transition s x t) {id : String}
    (hreleases : x.releases id = false) (hreads : x.reads id = false) : t.handle? id = s.handle? id := by
  have hread (g : Handle α) : (s.read g).2.2.handle? id = s.handle? id := by
    obtain heq | ⟨_, _, heq⟩ := read_session (s := s) g <;> rw [heq]
    rfl
  cases h with
  | @opened _ o ho =>
    have hne : id ≠ o.id := by
      rw [Step.releases_of_opening? ho] at hreleases
      exact Ne.symm (by simpa using hreleases)
    exact handle?_keep_of_ne hne _
  | @refused i call decode e he =>
    have hne : id ≠ i := Ne.symm (by simpa [Step.releases] using hreleases)
    exact handle?_keep_of_ne hne _
  | @kept i g r hr =>
    have hne : id ≠ i := Ne.symm (by simpa [Step.releases] using hreleases)
    exact handle?_keep_of_ne hne _
  | closed hx he hout => simp [Session.handle?, Session.closed]
  | @polled i g hh =>
    have hne : id ≠ i := Ne.symm (by simpa [Step.reads] using hreads)
    rw [handle?_keep_of_ne hne, hread]
  | @awaited i g hh hdone =>
    have hne : id ≠ i := Ne.symm (by simpa [Step.reads] using hreads)
    rw [handle?_drop_of_ne hne, hread]
  | @dropped i =>
    have hne : id ≠ i := Ne.symm (by simpa [Step.releases] using hreleases)
    exact handle?_drop_of_ne hne
  | @channelled i method =>
    have hne : id ≠ i := Ne.symm (by simpa [Step.releases] using hreleases)
    have hretire : (s.retire i).handle? id = s.handle? id := by simp [Session.handle?, retire_handles]
    exact (handle?_keep_of_ne hne _).trans hretire
  | wrote hw => simp [Session.handle?, Session.written]
  | retired => simp [Session.handle?, retire_handles]
  | idle => rfl

end Session

end ServiceBindings
