import ServiceBindings.Proofs.Session.Reference

/-!
Exchanges over runs. Exchanges are numbered in the order of their requests; the entry of an exchange says at any time
whether its callback is outstanding, and its response is decoded once if the callback was invoked with success and
never otherwise.
-/

namespace ServiceBindings

variable {α : Type}

theorem fate_singleton_of_not_closes {x : Step α} {n : Nat} (hx : x.closes n = false) :
    fate n [x] = .outstanding := by
  simp [fate_cons_of_not_closes hx, fate]

namespace Session

/-! ### Runs -/

theorem run_append (s : Session α) (xs ys : List (Step α)) : (s.run (xs ++ ys)).1 = ((s.run xs).1.run ys).1 := by
  induction xs generalizing s with
  | nil => rfl
  | cons x rest ih => exact ih (s.step x).1

theorem run_concat (s : Session α) (xs : List (Step α)) (y : Step α) :
    (s.run (xs ++ [y])).1 = ((s.run xs).1.step y).1 :=
  run_append s xs [y]

/-! ### Requests -/

private theorem read_exchanges (s : Session α) (h : Handle α) : (s.read h).2.2.exchanges = s.exchanges := by
  obtain heq | ⟨c, _, heq⟩ := read_session (s := s) h <;> rw [heq]

private theorem read_decoded (s : Session α) (h : Handle α) : (s.read h).2.2.decoded = s.decoded := by
  obtain heq | ⟨c, _, heq⟩ := read_session (s := s) h <;> rw [heq]

/-- A step sends the request that it asks for and no other. -/
theorem Transition.requests {s t : Session α} {x : Step α} (h : Transition s x t) :
    t.requests = s.requests ++ (x.opening?.map (·.request)).toList := by
  cases h with
  | opened ho => simp [Session.requests, Session.opened, ho]
  | refused he => simp [Session.requests, Step.opening?, he]
  | kept hr => simp [Session.requests, Step.opening?]
  | @closed _ n e hx he hout =>
    have hlt : n < s.exchanges.length := (List.getElem?_eq_some_iff.mp he).1
    have hget : s.exchanges[n] = e := (List.getElem?_eq_some_iff.mp he).2
    have hset : (s.exchanges.map (·.request)).set n e.request = s.exchanges.map (·.request) := by
      subst hget
      simp [← List.map_set]
    simp [Session.requests, Session.closed, List.map_set, hset, Step.opening?_of_closes hx]
  | polled hh => simp [Session.requests, Step.opening?, read_exchanges]
  | awaited hh hdone => simp [Session.requests, Step.opening?, read_exchanges]
  | dropped => simp [Session.requests, Step.opening?]
  | channelled => simp [Session.requests, Session.channelled, Step.opening?, retire_exchanges]
  | wrote hw => simp [Session.requests, Session.written, Step.opening?]
  | retired => simp [Session.requests, Step.opening?, retire_exchanges]
  | idle hsends => simp [hsends]

/-- The requests of a run are those that its steps ask for, in their order. -/
theorem requests_run (s : Session α) {steps : List (Step α)} (hsound : ∀ y ∈ steps, y.Sound) :
    (s.run steps).1.requests = s.requests ++ (steps.filterMap Step.opening?).map (·.request) := by
  induction steps generalizing s with
  | nil => simp [run]
  | cons x rest ih =>
    have hstep := (step_transition (s := s) (hsound x List.mem_cons_self)).requests
    have hrest := ih (s.step x).1 fun y hy => hsound y (List.mem_cons_of_mem x hy)
    have hrun : (s.run (x :: rest)).1 = ((s.step x).1.run rest).1 := rfl
    rw [hrun, hrest, hstep]
    cases ho : x.opening? <;> simp [ho]

/-! ### Entries -/

/-- A step changes the entry of an exchange only by invoking or dropping its callback, which has to be outstanding. -/
theorem Transition.exchange {s t : Session α} {x : Step α} (h : Transition s x t) {n : Nat} {e : Exchange α}
    (he : s.exchanges[n]? = some e) :
    t.exchanges[n]? = some { e with outstanding := e.outstanding && !x.closes n } ∧
      t.decoded.count n = s.decoded.count n + if e.outstanding && (fate n [x]).isDecoded then 1 else 0 := by
  have hlt : n < s.exchanges.length := (List.getElem?_eq_some_iff.mp he).1
  have hsame (hx : x.closes n = false) (hexchanges : t.exchanges[n]? = s.exchanges[n]?)
      (hdecoded : t.decoded = s.decoded) :
      t.exchanges[n]? = some { e with outstanding := e.outstanding && !x.closes n } ∧
        t.decoded.count n = s.decoded.count n + if e.outstanding && (fate n [x]).isDecoded then 1 else 0 := by
    simp [hexchanges, he, hdecoded, hx, fate_singleton_of_not_closes hx, Fate.isDecoded]
  cases h with
  | opened ho =>
    exact hsame (Step.closes_of_opening? ho n) (by simp [Session.opened, List.getElem?_append_left hlt]) rfl
  | refused he => exact hsame rfl rfl rfl
  | kept hr => exact hsame rfl rfl rfl
  | @closed _ k g hx hg hout =>
    by_cases hk : k = n
    · subst hk
      obtain rfl : g = e := Option.some.inj (hg.symm.trans he)
      refine ⟨by simp [Session.closed, hlt, hx, hout], ?_⟩
      simp only [Session.closed, write_decoded, hout, Bool.true_and]
      split <;> simp
    · have hn : x.closes n = false := by
        cases x <;> simp_all [Step.closes]
      refine ⟨by simp [Session.closed, List.getElem?_set_ne hk, he, hn], ?_⟩
      have hdecoded : (s.closed k g (fate k [x])).decoded.count n = s.decoded.count n := by
        simp only [Session.closed, write_decoded]
        split <;> simp [hk]
      simp [hdecoded, fate_singleton_of_not_closes hn, Fate.isDecoded]
  | polled hh => exact hsame rfl (by simp [read_exchanges]) (by simp [read_decoded])
  | awaited hh hdone => exact hsame rfl (by simp [read_exchanges]) (by simp [read_decoded])
  | dropped => exact hsame rfl rfl rfl
  | channelled =>
    exact hsame rfl (by simp [Session.channelled, retire_exchanges]) (by simp [Session.channelled, retire_decoded])
  | wrote hw => exact hsame rfl (by simp [Session.written]) (by simp [Session.written])
  | retired => exact hsame rfl (by simp [retire_exchanges]) (by simp [retire_decoded])
  | idle hsends hcloses hreads =>
    by_cases hx : x.closes n = true
    · have hout := hcloses n hx e he
      have hentry : { e with outstanding := e.outstanding && !x.closes n } = e := by
        cases e
        simp_all
      exact ⟨by rw [hentry, he], by simp [hout]⟩
    · exact hsame (Bool.not_eq_true _ ▸ hx) rfl rfl

/-- After any steps, the callback of an exchange is outstanding exactly if none of them closed it, and its response
was decoded exactly if the step that closed it invoked the callback with success. -/
theorem exchange_run {s : Session α} {n : Nat} {e : Exchange α} (he : s.exchanges[n]? = some e)
    (hout : e.outstanding = true) {mid : List (Step α)} (hsound : ∀ y ∈ mid, y.Sound) :
    (s.run mid).1.exchanges[n]? = some { e with outstanding := decide (fate n mid = .outstanding) } ∧
      (s.run mid).1.decoded.count n = s.decoded.count n + if (fate n mid).isDecoded then 1 else 0 := by
  induction mid using List.reverseRecOn with
  | nil => simp [run, fate, he, ← hout, Fate.isDecoded]
  | append_singleton front y ih =>
    obtain ⟨hentry, hcount⟩ := ih fun z hz => hsound z (List.mem_append_left _ hz)
    have hstep := step_transition (s := (s.run front).1) (hsound y (by simp))
    obtain ⟨hentry', hcount'⟩ := hstep.exchange hentry
    rw [run_concat, hentry', hcount', hcount, fate_append]
    by_cases hfront : fate n front = .outstanding
    · have hclosed : y.closes n = !decide (fate n [y] = .outstanding) := by
        cases hy : y.closes n with
        | false => simp [fate_singleton_of_not_closes hy]
        | true => simp [(fate_cons_of_closes hy []).2]
      simp [hfront, hclosed, Fate.isDecoded]
    · simp [hfront]

/-- Only exchanges that there are have been decoded. -/
theorem Transition.decoded_lt {s t : Session α} {x : Step α} (h : Transition s x t)
    (hs : ∀ k ∈ s.decoded, k < s.exchanges.length) : ∀ k ∈ t.decoded, k < t.exchanges.length := by
  cases h with
  | opened ho =>
    intro k hk
    have := hs k hk
    simp only [Session.opened, keep_exchanges, List.length_append, List.length_singleton]
    omega
  | @closed _ n e hx he hout =>
    have hlt : n < s.exchanges.length := (List.getElem?_eq_some_iff.mp he).1
    intro k hk
    simp only [Session.closed, write_decoded, write_exchanges, List.length_set] at hk ⊢
    split at hk
    · rcases List.mem_cons.mp hk with rfl | hk
      · exact hlt
      · exact hs k hk
    · exact hs k hk
  | polled hh => simpa [read_exchanges, read_decoded] using hs
  | awaited hh hdone => simpa [read_exchanges, read_decoded] using hs
  | channelled => simpa [Session.channelled, retire_exchanges, retire_decoded] using hs
  | wrote hw => simpa [Session.written] using hs
  | retired => simpa [retire_exchanges, retire_decoded] using hs
  | refused he => exact hs
  | kept hr => exact hs
  | dropped => exact hs
  | idle => exact hs

end Session

end ServiceBindings
