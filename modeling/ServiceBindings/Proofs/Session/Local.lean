import ServiceBindings.Proofs.Call.Parts
import ServiceBindings.Proofs.Session.Completion

/-!
Local errors. A call that was turned down before anything was sent is known by its first result: that is a local error,
and no call for which a request was sent has one, whatever becomes of the request.
-/

namespace ServiceBindings

variable {α : Type}

/-! ### Decoders -/

/-- The decoders of the runtime. One reads a value of some type from JSON, whatever the type makes of the text; the
other leaves the body out of account. -/
inductive StandardDecoder (decode : Decoder α) : Prop
  | json (read : Text.Glyphs → Except Json.Fault α)
      (h : ∀ bytes, decode bytes = (read (Text.decodeUtf8 bytes)).mapError CallError.decode)
  | empty (value : α) (h : ∀ bytes, decode bytes = .ok value)

theorem standardDecoder_jsonDecoder (records : List Json.Record) (shape : Json.Shape) :
    StandardDecoder (jsonDecoder records shape) := by
  refine .json (shape.read records) fun bytes => ?_
  unfold jsonDecoder
  cases shape.read records (Text.decodeUtf8 bytes) <;> rfl

theorem standardDecoder_emptyDecoder : StandardDecoder emptyDecoder :=
  .empty Json.null fun _ => rfl

theorem StandardDecoder.eq_decode {decode : Decoder α} (h : StandardDecoder decode) {bytes : List Nat} {e : CallError}
    (herror : decode bytes = .error e) : ∃ f, e = .decode f := by
  cases h with
  | json read hread =>
    rw [hread] at herror
    cases hvalue : read (Text.decodeUtf8 bytes) with
    | ok v =>
      rw [hvalue] at herror
      cases herror
    | error f =>
      rw [hvalue] at herror
      cases herror
      exact ⟨f, rfl⟩
  | empty value hvalue =>
    rw [hvalue] at herror
    cases herror

/-! ### Calls -/

/-- Whether a result is an error that is called local. -/
def Result.IsLocal (r : Result α) : Prop :=
  ∃ e, r = .error e ∧ e.isLocal = true

/-- Whether a step makes a call of a client and keeps its handle under a name: it sends what a client has built of any
parts, or it keeps the handle of a method that is never sent. -/
inductive Step.Calls (id : String) : Step α → Prop
  | built (config : ClientSettings) (method : String) (verb : Verb) (parts : List CallPart) {decode : Decoder α}
      (hdecode : StandardDecoder decode) : Calls id (.start id ((config.call method verb).addAll parts) decode)
  | unsupported (method : String) (pattern : CallPattern) (profile : String) :
      Calls id (.keep id (.unsupported method pattern profile))
  | unavailable (method : String) : Calls id (.keep id (.unavailable method))

/-- What keeps a call from being sent is a local error. -/
theorem Call.isLocal_of_request {config : ClientSettings} {method : String} {verb : Verb} {parts : List CallPart}
    {e : CallError} (h : ((config.call method verb).addAll parts).request = .error e) : e.isLocal = true := by
  unfold Call.request at h
  rcases Call.addAll_error_cases (c := config.call method verb) rfl parts with hnone | ⟨f, hfault⟩
  · rw [hnone, (Call.addAll_same (config.call method verb) parts).config] at h
    obtain ⟨url, hurl⟩ := config.exists_build ((config.call method verb).addAll parts).segments
    have hbuilt : (config.call method verb).config.baseUrl.build
        ((config.call method verb).addAll parts).segments = .ok url := hurl
    rw [hbuilt] at h
    cases h
  · rw [hfault] at h
    cases h
    rfl

theorem Step.Calls.sound {x : Step α} {id : String} (h : x.Calls id) : x.Sound := by
  cases h with
  | built => trivial
  | unsupported => exact ⟨_, rfl⟩
  | unavailable => exact ⟨_, rfl⟩

/-- What a call opens is an exchange for its own handle, with the decoder that it was given. -/
theorem Step.Calls.opening {x : Step α} {id : String} (h : x.Calls id) {o : Opening α} (hx : x.opening? = some o) :
    o.id = id ∧ StandardDecoder o.decode := by
  cases h with
  | built config method verb parts hdecode =>
    simp only [Step.opening?] at hx
    split at hx
    · cases hx
      exact ⟨rfl, hdecode⟩
    · cases hx
  | unsupported => cases hx
  | unavailable => cases hx

namespace Session

/-- A call for which nothing is sent leaves a handle that has failed with a local error. -/
theorem step_of_unsent {s : Session α} {x : Step α} {id : String} (h : x.Calls id) (hx : x.opening? = none) :
    ∃ method e, e.isLocal = true ∧ (s.step x).1.handle? id = some (.failed method e) := by
  cases h with
  | built config method verb parts hdecode =>
    cases hrequest : ((config.call method verb).addAll parts).request with
    | ok request => simp [Step.opening?, hrequest] at hx
    | error e =>
      refine ⟨((config.call method verb).addAll parts).method, e, Call.isLocal_of_request hrequest, ?_⟩
      simp only [step, started, dispatchCall, hrequest]
      exact handle?_keep_self _ _
  | unsupported method pattern profile => exact ⟨_, _, rfl, handle?_keep_self _ _⟩
  | unavailable method => exact ⟨_, _, rfl, handle?_keep_self _ _⟩

/-- What settles a call for which a request was sent is no local error. -/
theorem not_isLocal_of_settles {o : Opening α} {f : Fate} {r : Result α} (hdecode : StandardDecoder o.decode)
    (h : Settles o f r) : ¬r.IsLocal := by
  rintro ⟨e, hr, hlocal⟩
  cases h with
  | transport =>
    cases hr
    cases hlocal
  | badResponse =>
    cases hr
    cases hlocal
  | decoded =>
    obtain ⟨fault, rfl⟩ := hdecode.eq_decode hr
    cases hlocal
  | abandoned =>
    cases hr
    cases hlocal

/-! ### Failed handles -/

/-- A reading is answered with what reading the handle of its name comes to. -/
theorem answer_of_handle? {s : Session α} {y : Step α} {id : String} (hy : y.reads id = true) {h : Handle α}
    (hh : s.handle? id = some h) : (s.step y).2 = .reading (s.read h).1 := by
  have hpoll : (s.step (.poll id)).2 = .reading (s.read h).1 := by
    simp [step, poll?, hh, answered]
  cases y with
  | poll i =>
    obtain rfl : i = id := by simpa [Step.reads] using hy
    exact hpoll
  | wait i =>
    obtain rfl : i = id := by simpa [Step.reads] using hy
    rw [step_wait_answer, hpoll]
  | _ => cases hy

theorem answer_of_no_handle {s : Session α} {y : Step α} {id : String} (hy : y.reads id = true)
    (hh : s.handle? id = none) : (s.step y).2 = .absent := by
  cases y with
  | poll i =>
    obtain rfl : i = id := by simpa [Step.reads] using hy
    simp [step, poll?, hh, answered]
  | wait i =>
    obtain rfl : i = id := by simpa [Step.reads] using hy
    simp [step, wait?, hh, answered]
  | _ => cases hy

/-- What may be left of a handle that has failed: itself, or one without a result. -/
def LeftOf (method : String) (e : CallError) (h : Handle α) : Prop :=
  h = .failed method e ∨ h = ⟨method, .held none⟩

/-- A step leaves a handle that has failed as it is unless it reads it; a reading takes the result, and no step puts
another one there. -/
theorem Transition.failed_handle {s t : Session α} {y : Step α} (h : Transition s y t) {id method : String}
    {e : CallError} (hreleases : y.releases id = false) (hs : ∀ g, s.handle? id = some g → LeftOf method e g) :
    (y.reads id = false → t.handle? id = s.handle? id) ∧ ∀ g, t.handle? id = some g → LeftOf method e g := by
  by_cases hreads : y.reads id = true
  · refine ⟨fun hno => absurd hreads (by simp [hno]), fun g hg => ?_⟩
    obtain ⟨k, hk, -, rfl⟩ | ⟨k, -, -, -, rfl⟩ | ⟨rfl, -⟩ := h.of_reads hreads
    · rw [handle?_keep_self] at hg
      obtain rfl := Option.some.inj hg
      rcases hs k hk with rfl | rfl
      · exact .inr rfl
      · exact .inr rfl
    · rw [handle?_drop_self] at hg
      cases hg
    · exact hs g hg
  · have hkept := h.handle_unchanged hreleases (by simpa using hreads)
    exact ⟨fun _ => hkept, fun g hg => hs g (hkept.symm.trans hg)⟩

/-- As long as nobody has read it, a handle that has failed stays as it is; afterwards it has no result. -/
theorem failed_handle_run {pre mid : List (Step α)} {id method : String} {e : CallError}
    (hstart : (run {} pre).1.handle? id = some (.failed method e)) (hsound : ∀ y ∈ mid, y.Sound)
    (hheld : ∀ y ∈ mid, y.releases id = false) :
    (¬Delivered pre mid id → (run {} (pre ++ mid)).1.handle? id = some (.failed method e)) ∧
      ∀ g, (run {} (pre ++ mid)).1.handle? id = some g → LeftOf method e g := by
  induction mid using List.reverseRecOn with
  | nil =>
    rw [List.append_nil]
    exact ⟨fun _ => hstart, fun g hg => .inl (Option.some.inj (hg.symm.trans hstart))⟩
  | append_singleton front y ih =>
    obtain ⟨hfirst, hleft⟩ := ih (fun z hz => hsound z (List.mem_append_left _ hz))
      fun z hz => hheld z (List.mem_append_left _ hz)
    have hstep := step_transition (s := (run {} (pre ++ front)).1) (hsound y (by simp))
    obtain ⟨hkept, hafter⟩ := hstep.failed_handle (hheld y (by simp)) hleft
    rw [← List.append_assoc, run_concat]
    refine ⟨fun hnone => ?_, hafter⟩
    rw [delivered_concat, not_or] at hnone
    have hhere := hfirst hnone.1
    have hreads : y.reads id = false := by
      by_contra hreads
      have hy : y.reads id = true := by simpa using hreads
      exact hnone.2 ⟨hy, .error e, answer_of_handle? hy hhere⟩
    rw [hkept hreads, hhere]

/-! ### Results -/

/-- Whether a step sends nothing. -/
def Unsent (pre : List (Step α)) (x : Step α) : Prop :=
  (run {} (pre ++ [x])).1.requests = (run {} pre).1.requests

theorem unsent_iff {pre : List (Step α)} {x : Step α} (hx : x.Sound) : Unsent pre x ↔ x.opening? = none := by
  have hrequests := (step_transition (s := (run {} pre).1) hx).requests
  rw [Unsent, run_concat, hrequests]
  cases x.opening? <;> simp

/-- What the results of a call that is made by `x` after the steps `pre` tell, when the steps `mid` have been taken
since. -/
structure TellsLocal (pre : List (Step α)) (x : Step α) (mid : List (Step α)) (id : String) : Prop where
  /-- the first result is a local error exactly if nothing was sent -/
  first_iff : ¬Delivered (pre ++ [x]) mid id → ∀ y, y.reads id = true → ∀ r,
    answerAfter (pre ++ x :: mid) y = .reading (.resolved r) → (r.IsLocal ↔ Unsent pre x)
  /-- where nothing was sent, it is there at once -/
  ready : Unsent pre x → ¬Delivered (pre ++ [x]) mid id → ∀ y, y.reads id = true →
    ∃ r, answerAfter (pre ++ x :: mid) y = .reading (.resolved r)
  /-- where nothing was sent, no reading ever succeeds -/
  never_ok : Unsent pre x → ∀ y, y.reads id = true → ∀ v,
    answerAfter (pre ++ x :: mid) y ≠ .reading (.resolved (.ok v))

/-- In every run, the first result of a call is a local error exactly if no request was sent for the call; it is there
at once then, and the call never succeeds. -/
theorem local_iff_unsent {pre mid : List (Step α)} {x : Step α} {id : String} (hcall : x.Calls id)
    (hsound : ∀ y ∈ pre ++ mid, y.Sound) (hheld : ∀ y ∈ mid, y.releases id = false) : TellsLocal pre x mid id := by
  have hwhole : pre ++ x :: mid = pre ++ [x] ++ mid := by simp
  cases hx : x.opening? with
  | none =>
    have hunsent : Unsent pre x := (unsent_iff hcall.sound).mpr hx
    obtain ⟨method, e, hlocal, hstart⟩ := step_of_unsent (s := (run {} pre).1) hcall hx
    rw [← run_concat] at hstart
    obtain ⟨hfirst, hleft⟩ := failed_handle_run hstart (fun y hy => hsound y (List.mem_append_right _ hy)) hheld
    have hready (hnone : ¬Delivered (pre ++ [x]) mid id) {y : Step α} (hy : y.reads id = true) :
        answerAfter (pre ++ x :: mid) y = .reading (.resolved (.error e)) := by
      rw [answerAfter, hwhole, answer_of_handle? hy (hfirst hnone)]
      rfl
    refine ⟨fun hnone y hy r hr => ?_, fun _ hnone y hy => ⟨_, hready hnone hy⟩, fun _ y hy v hv => ?_⟩
    · rw [hready hnone hy] at hr
      cases hr
      exact iff_of_true ⟨e, rfl, hlocal⟩ hunsent
    · rw [answerAfter, hwhole] at hv
      cases hhandle : (run {} (pre ++ [x] ++ mid)).1.handle? id with
      | none =>
        rw [answer_of_no_handle hy hhandle] at hv
        cases hv
      | some g =>
        rw [answer_of_handle? hy hhandle] at hv
        rcases hleft g hhandle with rfl | rfl <;> cases hv
  | some o =>
    have hsent : ¬Unsent pre x := by
      rw [unsent_iff hcall.sound, hx]
      exact Option.some_ne_none o
    refine ⟨fun _ y hy r hr => iff_of_false ?_ hsent, fun hunsent => absurd hunsent hsent,
      fun hunsent => absurd hunsent hsent⟩
    obtain ⟨rfl, hdecode⟩ := hcall.opening hx
    have hall : ∀ y ∈ pre ++ x :: mid, y.Sound := by
      simp only [List.mem_append, List.mem_cons] at hsound ⊢
      rintro z (hz | rfl | hz)
      · exact hsound z (.inl hz)
      · exact hcall.sound
      · exact hsound z (.inr hz)
    rw [answerAfter_reads hy, answerAfter_poll hx hall hheld] at hr
    obtain ⟨f, -, hsettles⟩ := settles_of_answer hr
    exact not_isLocal_of_settles hdecode hsettles

/-- Of two calls one is sent and fails on the way, and the other has a body that cannot be written. -/
theorem unwritten_call_is_local :
    let base : Url := {
      scheme := "http"
      authority := some { host := .name "localhost".toList }
      path := .rooted ["api".toList]
      segments_ne_nil := fun _ => List.cons_ne_nil _ _ }
    let config : ClientSettings := { baseUrl := base, canBeBase := rfl }
    let sent : Step Json := .start "a" ((config.call "m" .get).addAll [.segment "s"]) emptyDecoder
    let unsent : Step Json :=
      .start "b" ((config.call "m" .post).addAll [.body (.error .key), .body (.ok "1")]) emptyDecoder
    let settled : List (Step Json) := [.settle 0 (.error (.connection "refused"))]
    Url.parse "http://localhost/api" = .ok base ∧ sent.Calls "a" ∧ unsent.Calls "b" ∧
      (∀ y ∈ [] ++ unsent :: settled, y.Sound) ∧ (∀ y ∈ [sent] ++ settled, y.Sound) ∧
      (∀ y ∈ unsent :: settled, y.releases "a" = false) ∧ (∀ y ∈ settled, y.releases "b" = false) ∧
      ¬Unsent [] sent ∧ Unsent [sent] unsent ∧ TellsLocal [] sent (unsent :: settled) "a" ∧
      TellsLocal [sent] unsent settled "b" := by
  intro base config sent unsent settled
  have hfirst : sent.Calls "a" := .built config "m" .get _ standardDecoder_emptyDecoder
  have hsecond : unsent.Calls "b" := .built config "m" .post _ standardDecoder_emptyDecoder
  have hsound : ∀ y ∈ [] ++ unsent :: settled, y.Sound := by
    simp [unsent, settled, Step.Sound]
  have hsound' : ∀ y ∈ [sent] ++ settled, y.Sound := by
    simp [sent, settled, Step.Sound]
  have hheld : ∀ y ∈ unsent :: settled, y.releases "a" = false := by
    simp [unsent, settled, Step.releases]
  have hheld' : ∀ y ∈ settled, y.releases "b" = false := by
    simp [settled, Step.releases]
  refine ⟨by decide +kernel, hfirst, hsecond, hsound, hsound', hheld, hheld', ?_, ?_,
    local_iff_unsent hfirst hsound hheld, local_iff_unsent hsecond hsound' hheld'⟩
  · rw [unsent_iff hfirst.sound]
    exact Option.some_ne_none _
  · rw [unsent_iff hsecond.sound]
    rfl

end Session

end ServiceBindings
