import ServiceBindings.Proofs.Session.Stage

/-!
The completion discipline. In any run, whatever else is in it, a call is pending exactly as long as its own callback
is outstanding, and is settled once with what its own callback says.
-/

namespace ServiceBindings

variable {α : Type}

/-- What a call is settled with, by what has become of its callback. -/
inductive Settles (o : Opening α) : Fate → Result α → Prop
  | transport (e : ExchangeError) : Settles o (.invoked (.error e)) (.error (.transport e))
  | badResponse (r : Response) (hstatus : r.status < 200 ∨ 300 ≤ r.status) :
      Settles o (.invoked (.ok r)) (.error (.badResponse r.summary))
  | decoded (r : Response) (hlo : 200 ≤ r.status) (hhi : r.status < 300) :
      Settles o (.invoked (.ok r)) (o.decode r.body)
  | abandoned : Settles o .dropped (.error (.abandoned o.method))

private theorem settles_result (o : Opening α) (outcome : Outcome) :
    Settles o (.invoked outcome) (outcome.result o.decode) := by
  cases outcome with
  | error e => exact .transport e
  | ok r =>
    by_cases hsuccess : r.isSuccess = true
    · have hstatus : 200 ≤ r.status ∧ r.status < 300 := by
        simpa [Response.isSuccess, isSuccessStatus] using hsuccess
      simp only [Outcome.result, if_pos hsuccess]
      exact .decoded r hstatus.1 hstatus.2
    · have hstatus : r.status < 200 ∨ 300 ≤ r.status := by
        simp only [Response.isSuccess, isSuccessStatus, Bool.and_eq_true, decide_eq_true_eq] at hsuccess
        omega
      simp only [Outcome.result, if_neg hsuccess]
      exact .badResponse r hstatus

/-- An outcome is handed to the decoder if it is a response with a status of success, and otherwise not. -/
theorem isDecoded_iff {f : Fate} :
    f.isDecoded = true ↔ ∃ r : Response, f = .invoked (.ok r) ∧ 200 ≤ r.status ∧ r.status < 300 := by
  rcases f with _ | ⟨e | r⟩ | _ <;>
    simp [Fate.isDecoded, Outcome.isDecoded, Response.isSuccess, isSuccessStatus]

namespace Session

/-- What a step is answered after a run. -/
def answerAfter (steps : List (Step α)) (y : Step α) : StepAnswer α :=
  ((run {} steps).1.step y).2

/-- Whether a reading in the steps `mid`, taken after `pre`, got the result of the handle of a name. -/
def Delivered (pre mid : List (Step α)) (id : String) : Prop :=
  ∃ front y back r, mid = front ++ y :: back ∧ y.reads id = true ∧
    answerAfter (pre ++ front) y = .reading (.resolved r)

/-- What holds of the decoding of the response of exchange `n`, whose request is sent by `x` after the steps `pre`, when
the steps `mid` have been taken since. -/
structure DecodesOnce (pre : List (Step α)) (x : Step α) (mid : List (Step α)) (n : Nat) : Prop where
  count_le : (run {} (pre ++ x :: mid)).1.decoded.count n ≤ 1
  count_eq_one_iff : (run {} (pre ++ x :: mid)).1.decoded.count n = 1 ↔
    ∃ r : Response, fate n mid = .invoked (.ok r) ∧ 200 ≤ r.status ∧ r.status < 300

/-- What holds of the handle of a call whose request is sent by `x`, after the steps `pre`, when the steps `mid` have
been taken since. -/
structure Completes (pre : List (Step α)) (x : Step α) (o : Opening α) (mid : List (Step α)) (n : Nat) : Prop where
  pending_iff : answerAfter (pre ++ x :: mid) (.poll o.id) = .reading .pending ↔ ∀ y ∈ mid, y.closes n = false
  resolved_iff : (∃ r, answerAfter (pre ++ x :: mid) (.poll o.id) = .reading (.resolved r)) ↔
    (∃ y ∈ mid, y.closes n = true) ∧ ¬ Delivered (pre ++ [x]) mid o.id
  settles : ∀ r, answerAfter (pre ++ x :: mid) (.poll o.id) = .reading (.resolved r) → Settles o (fate n mid) r
  wait_eq_poll : answerAfter (pre ++ x :: mid) (.wait o.id) = answerAfter (pre ++ x :: mid) (.poll o.id)
  /-- whatever is done about the callback of another call, the reading is the same -/
  independent : ∀ k, k ≠ n → ∀ pre' mid' : List (Step α),
    (pre'.filter fun y => !y.closes k) = pre.filter (fun y => !y.closes k) →
    (mid'.filter fun y => !y.closes k) = mid.filter (fun y => !y.closes k) →
    answerAfter (pre' ++ x :: mid') (.poll o.id) = answerAfter (pre ++ x :: mid) (.poll o.id)

/-! ### Answers by stage -/

private theorem run_opening {pre : List (Step α)} {x : Step α} {o : Opening α} (ho : x.opening? = some o)
    (mid : List (Step α)) : (run {} (pre ++ x :: mid)).1 = (((run {} pre).1.opened o).run mid).1 := by
  rw [run_append, ← step_of_opening? ho]
  rfl

/-- Exchanges are numbered in the order of their requests. -/
theorem exchanges_length_run {steps : List (Step α)} (hsound : ∀ y ∈ steps, y.Sound) :
    (run {} steps).1.exchanges.length = (steps.filterMap Step.opening?).length := by
  have hrequests := congrArg List.length (requests_run {} hsound)
  simpa [requests] using hrequests

theorem answerAfter_poll {pre mid : List (Step α)} {x : Step α} {o : Opening α} (ho : x.opening? = some o)
    (hsound : ∀ y ∈ pre ++ x :: mid, y.Sound) (hheld : ∀ y ∈ mid, y.releases o.id = false) :
    answerAfter (pre ++ x :: mid) (.poll o.id) =
      (stage (pre.filterMap Step.opening?).length o.id mid).answer o := by
  have hpre : ∀ y ∈ pre, y.Sound := fun y hy => hsound y (List.mem_append_left _ hy)
  have hmid : ∀ y ∈ mid, y.Sound := fun y hy => hsound y (by simp [hy])
  obtain ⟨_, hstands⟩ := stands_run (wellFormed_run hpre) o hmid hheld
  rw [exchanges_length_run hpre] at hstands
  rw [answerAfter, run_opening ho]
  exact hstands.answer_poll

theorem answerAfter_reads {steps : List (Step α)} {y : Step α} {id : String} (hy : y.reads id = true) :
    answerAfter steps y = answerAfter steps (.poll id) := by
  cases y with
  | poll i =>
    obtain rfl : i = id := by simpa [Step.reads] using hy
    rfl
  | wait i =>
    obtain rfl : i = id := by simpa [Step.reads] using hy
    exact step_wait_answer _ i
  | _ => cases hy

theorem delivered_concat {pre mid : List (Step α)} {y : Step α} {id : String} :
    Delivered pre (mid ++ [y]) id ↔
      Delivered pre mid id ∨ y.reads id = true ∧ ∃ r, answerAfter (pre ++ mid) y = .reading (.resolved r) := by
  constructor
  · rintro ⟨front, z, back, r, hsplit, hz, hanswer⟩
    rcases List.eq_nil_or_concat back with rfl | ⟨back, w, rfl⟩
    · obtain ⟨rfl, hsingle⟩ := List.append_inj' hsplit rfl
      obtain rfl := (List.cons.inj hsingle).1
      exact .inr ⟨hz, r, hanswer⟩
    · have hassoc : mid ++ [y] = (front ++ z :: back) ++ [w] := by simpa using hsplit
      obtain ⟨rfl, _⟩ := List.append_inj' hassoc rfl
      exact .inl ⟨front, z, back, r, rfl, hz, hanswer⟩
  · rintro (⟨front, z, back, r, rfl, hz, hanswer⟩ | ⟨hy, r, hanswer⟩)
    · exact ⟨front, z, back ++ [y], r, by simp, hz, hanswer⟩
    · exact ⟨mid, y, [], r, rfl, hy, hanswer⟩

private theorem delivered_iff_stage {pre mid : List (Step α)} {x : Step α} {o : Opening α}
    (ho : x.opening? = some o) (hsound : ∀ y ∈ pre ++ x :: mid, y.Sound)
    (hheld : ∀ y ∈ mid, y.releases o.id = false) :
    Delivered (pre ++ [x]) mid o.id ↔ ∀ f, stage (pre.filterMap Step.opening?).length o.id mid ≠ .unread f := by
  induction mid using List.reverseRecOn with
  | nil =>
    constructor
    · rintro ⟨front, y, back, r, hsplit, _⟩
      cases front <;> cases hsplit
    · intro hread
      exact absurd rfl (hread .outstanding)
  | append_singleton front y ih =>
    have hfront : ∀ z ∈ pre ++ x :: front, z.Sound := by
      intro z hz
      exact hsound z (by simpa using List.mem_append_left [y] hz)
    have hkept : ∀ z ∈ front, z.releases o.id = false := fun z hz => hheld z (List.mem_append_left _ hz)
    have hprefix : pre ++ [x] ++ front = pre ++ x :: front := by simp
    rw [delivered_concat, ih hfront hkept, stage_concat, hprefix]
    rw [Stage.next_read_iff]
    refine or_congr_right (and_congr_right fun hy => ?_)
    rw [answerAfter_reads hy, answerAfter_poll ho hfront hkept]

/-! ### The discipline -/

private theorem filterMap_opening?_filter (k : Nat) (steps : List (Step α)) :
    (steps.filter fun y => !y.closes k).filterMap Step.opening? = steps.filterMap Step.opening? := by
  rw [List.filterMap_filter]
  congr 1
  funext y
  cases hy : y.closes k with
  | true => simp [Step.opening?_of_closes hy]
  | false => rfl

private theorem mem_of_filter_eq {k : Nat} {steps steps' : List (Step α)} {P : Step α → Prop}
    (hfilter : (steps'.filter fun y => !y.closes k) = steps.filter fun y => !y.closes k)
    (hcloses : ∀ y : Step α, y.closes k = true → P y) (hsteps : ∀ y ∈ steps, P y) : ∀ y ∈ steps', P y := by
  intro y hy
  cases hk : y.closes k with
  | true => exact hcloses y hk
  | false =>
    have hmem : y ∈ steps'.filter fun y => !y.closes k := List.mem_filter.mpr ⟨hy, by simp [hk]⟩
    rw [hfilter] at hmem
    exact hsteps y (List.mem_filter.mp hmem).1

theorem settles_of_answer {o : Opening α} {g : Stage} {r : Result α}
    (hanswer : g.answer o = .reading (.resolved r)) : ∃ f, g = .unread f ∧ Settles o f r := by
  rcases g with ⟨_ | outcome | _⟩ | _ | _
  · cases hanswer
  · cases hanswer
    exact ⟨_, rfl, settles_result o outcome⟩
  · cases hanswer
    exact ⟨_, rfl, .abandoned⟩
  · cases hanswer
  · cases hanswer

private theorem decoded_count_run {pre mid : List (Step α)} {x : Step α} {o : Opening α} (ho : x.opening? = some o)
    (hsound : ∀ y ∈ pre ++ x :: mid, y.Sound) :
    (run {} (pre ++ x :: mid)).1.decoded.count (pre.filterMap Step.opening?).length =
      if (fate (pre.filterMap Step.opening?).length mid).isDecoded then 1 else 0 := by
  have hpre : ∀ y ∈ pre, y.Sound := fun y hy => hsound y (List.mem_append_left _ hy)
  have hmid : ∀ y ∈ mid, y.Sound := fun y hy => hsound y (by simp [hy])
  have hentry : ((run {} pre).1.opened o).exchanges[(run {} pre).1.exchanges.length]? =
      some { request := o.request, decode := o.decode, cell := (run {} pre).1.cells.length } := by
    simp [opened]
  have hfresh : ((run {} pre).1.opened o).decoded.count (run {} pre).1.exchanges.length = 0 :=
    List.count_eq_zero.mpr fun hmem => Nat.lt_irrefl _ ((wellFormed_run hpre).decoded _ hmem)
  have hcount := (exchange_run hentry rfl hmid).2
  rw [hfresh, Nat.zero_add, exchanges_length_run hpre] at hcount
  rw [run_opening ho, hcount]

/-- In every run, the response of a call is decoded once if its callback was invoked with a response of success, and
never otherwise. As long as nothing takes the name of its handle away, the handle is pending exactly until its own
callback is invoked or dropped, then gives the result that its callback left to one reading, by polling or by waiting
alike, and to no other; the callbacks of other calls do not matter to it. -/
theorem calls_complete {pre mid : List (Step α)} {x : Step α} {o : Opening α} (ho : x.opening? = some o)
    (hsound : ∀ y ∈ pre ++ x :: mid, y.Sound) :
    DecodesOnce pre x mid (pre.filterMap Step.opening?).length ∧
      ((∀ y ∈ mid, y.releases o.id = false) →
        Completes pre x o mid (pre.filterMap Step.opening?).length) := by
  refine ⟨?_, fun hheld => ?_⟩
  · have hcount := decoded_count_run ho hsound
    refine ⟨?_, ?_⟩
    · rw [hcount]
      split <;> omega
    · rw [hcount, ← isDecoded_iff]
      split <;> simp_all
  have hpoll := answerAfter_poll ho hsound hheld
  have hclosed : (∃ y ∈ mid, y.closes (pre.filterMap Step.opening?).length = true) ↔
      stage (pre.filterMap Step.opening?).length o.id mid ≠ .unread .outstanding := by
    rw [ne_eq, stage_eq_outstanding_iff, fate_eq_outstanding_iff]
    simp
  refine ⟨?_, ?_, ?_, answerAfter_reads (by simp [Step.reads]), ?_⟩
  · rw [hpoll, Stage.answer_eq_pending_iff, stage_eq_outstanding_iff, fate_eq_outstanding_iff]
  · rw [hpoll, Stage.answer_eq_resolved_iff, hclosed, delivered_iff_stage ho hsound hheld]
    simp
  · intro r hanswer
    obtain ⟨f, hstage, hsettles⟩ := settles_of_answer (hpoll.symm.trans hanswer)
    rw [fate_of_stage hstage]
    exact hsettles
  · intro k hne pre' mid' hpre hmid
    have hopenings : pre'.filterMap Step.opening? = pre.filterMap Step.opening? := by
      rw [← filterMap_opening?_filter k pre', hpre, filterMap_opening?_filter]
    have hstage : stage (pre.filterMap Step.opening?).length o.id mid' =
        stage (pre.filterMap Step.opening?).length o.id mid := by
      rw [← stage_filter_of_ne hne o.id mid', hmid, stage_filter_of_ne hne]
    have hsound' : ∀ y ∈ pre' ++ x :: mid', y.Sound := by
      have hwhole : ((pre' ++ x :: mid').filter fun y => !y.closes k) =
          (pre ++ x :: mid).filter fun y => !y.closes k := by
        simp [List.filter_append, List.filter_cons, hpre, hmid]
      refine mem_of_filter_eq hwhole ?_ hsound
      intro y hy
      cases y <;> trivial
    have hheld' : ∀ y ∈ mid', y.releases o.id = false := by
      refine mem_of_filter_eq hmid ?_ hheld
      intro y hy
      cases y <;> first | rfl | cases hy
    rw [answerAfter_poll ho hsound' hheld', hpoll, hopenings, hstage]

/-- The second of two calls, when the exchange of the first has timed out and its own has come back with success. -/
theorem second_call_completes :
    let address : Url :=
      { scheme := "http", authority := some { host := .name ['h'] }, path := .rooted [[]],
        segments_ne_nil := fun _ => List.cons_ne_nil _ _ }
    let call (id method : String) : Step (List Nat) := .dispatch id method { verb := .get, url := address } .ok
    let mid : List (Step (List Nat)) :=
      [.poll "b", .settle 0 (.error (.timeout 250)), .settle 1 (.ok { status := 200, url := address }), .poll "a"]
    (∀ y ∈ [call "a" "first"] ++ call "b" "second" :: mid, y.Sound) ∧ (∀ y ∈ mid, y.releases "b" = false) ∧
      Completes [call "a" "first"] (call "b" "second") ⟨"b", "second", { verb := .get, url := address }, .ok⟩ mid
        1 := by
  intro address call mid
  have hsound : ∀ y ∈ [call "a" "first"] ++ call "b" "second" :: mid, y.Sound := by
    simp [call, mid, Step.Sound]
  have hheld : ∀ y ∈ mid, y.releases "b" = false := by
    simp [mid, Step.releases]
  exact ⟨hsound, hheld, (calls_complete rfl hsound).2 hheld⟩

end Session

end ServiceBindings
