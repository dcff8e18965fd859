import Mathlib.Data.List.Induction
import ServiceBindings.Call.Session

/-!
Calls by their parts. Segments and parameters make the path, wherever bodies stand between them. Among the bodies the
last one counts, unless one of them cannot be written: then the first such one decides, and nothing is sent.
-/

namespace ServiceBindings

/-! ### Addresses -/

private theorem append?_isSome (u : Url) (texts : List String) : (u.append? texts).isSome = u.canBeBase := by
  obtain ⟨scheme, authority, guarded, path, query, fragment, hsegments⟩ := u
  cases path <;> rfl

/-- Texts can be appended to every address that a client is configured with. -/
theorem ClientSettings.exists_build (config : ClientSettings) (texts : List String) :
    ∃ url, config.baseUrl.build texts = .ok url := by
  have hsome := append?_isSome config.baseUrl texts
  rw [config.canBeBase] at hsome
  obtain ⟨url, hurl⟩ := Option.isSome_iff_exists.mp hsome
  exact ⟨url, by rw [Url.build, hurl]⟩

/-! ### Parts -/

namespace CallPart

/-- The text that a part puts into the path. -/
def text? : CallPart → Option String
  | .segment text => some text
  | .param value => some value.segment
  | .body _ => none

/-- The body that a part writes. -/
def written? : CallPart → Option String
  | .body (.ok text) => some text
  | _ => none

end CallPart

namespace Call

/-- What no part changes. -/
structure SameCall (c d : Call) : Prop where
  config : d.config = c.config
  method : d.method = c.method
  verb : d.verb = c.verb

theorem addAll_concat (c : Call) (front : List CallPart) (p : CallPart) :
    c.addAll (front ++ [p]) = (c.addAll front).add p := by
  simp [addAll]

theorem addAll_append (c : Call) (front back : List CallPart) :
    c.addAll (front ++ back) = (c.addAll front).addAll back :=
  List.foldl_append

theorem add_same (c : Call) (p : CallPart) : SameCall c (c.add p) := by
  cases p with
  | segment text => exact ⟨rfl, rfl, rfl⟩
  | param value => exact ⟨rfl, rfl, rfl⟩
  | body written =>
    unfold add
    dsimp only
    split <;> exact ⟨rfl, rfl, rfl⟩

theorem addAll_same (c : Call) (parts : List CallPart) : SameCall c (c.addAll parts) := by
  induction parts using List.reverseRecOn with
  | nil => exact ⟨rfl, rfl, rfl⟩
  | append_singleton front p ih =>
    rw [addAll_concat]
    have hlast := add_same (c.addAll front) p
    exact ⟨hlast.config.trans ih.config, hlast.method.trans ih.method, hlast.verb.trans ih.verb⟩

theorem add_segments (c : Call) (p : CallPart) : (c.add p).segments = c.segments ++ p.text?.toList := by
  cases p with
  | segment text => rfl
  | param value => rfl
  | body written =>
    unfold add
    dsimp only
    split <;> simp [CallPart.text?]

/-- The path is that of the segments and parameters, in their order. -/
theorem addAll_segments (c : Call) (parts : List CallPart) :
    (c.addAll parts).segments = c.segments ++ parts.filterMap CallPart.text? := by
  induction parts using List.reverseRecOn with
  | nil => simp [addAll]
  | append_singleton front p ih =>
    rw [addAll_concat, add_segments, ih, List.append_assoc, List.filterMap_append]
    cases p <;> rfl

/-! ### Bodies -/

/-- An error stays, and with it the body of before. -/
theorem add_of_error {c : Call} {e : CallError} (h : c.error = some e) (p : CallPart) : (c.add p).error = some e := by
  cases p with
  | segment text => exact h
  | param value => exact h
  | body written => simp [add, h]

theorem addAll_of_error {c : Call} {e : CallError} (h : c.error = some e) (parts : List CallPart) :
    (c.addAll parts).error = some e := by
  induction parts using List.reverseRecOn with
  | nil => exact h
  | append_singleton front p ih =>
    rw [addAll_concat]
    exact add_of_error ih p

/-- As long as every body can be written, there is no error, and the last body counts. -/
theorem addAll_of_written {c : Call} (hc : c.error = none) {parts : List CallPart}
    (h : ∀ f, .body (.error f) ∉ parts) :
    (c.addAll parts).error = none ∧
      (c.addAll parts).body = (parts.filterMap CallPart.written?).getLast?.or c.body := by
  induction parts using List.reverseRecOn with
  | nil => exact ⟨hc, by simp [addAll]⟩
  | append_singleton front p ih =>
    obtain ⟨herror, hbody⟩ := ih fun f hmem => h f (List.mem_append_left _ hmem)
    rw [addAll_concat, List.filterMap_append]
    cases p with
    | segment text => exact ⟨herror, by simpa [add, CallPart.written?] using hbody⟩
    | param value => exact ⟨herror, by simpa [add, CallPart.written?] using hbody⟩
    | body written =>
      cases written with
      | ok text => simp [add, herror, CallPart.written?]
      | error f => exact absurd (List.mem_append_right front (List.mem_singleton.mpr rfl)) (h f)

/-- The first body that cannot be written leaves its error behind. -/
theorem addAll_of_fault {c : Call} (hc : c.error = none) {front : List CallPart} (h : ∀ g, .body (.error g) ∉ front)
    (f : Json.Fault) (back : List CallPart) :
    (c.addAll (front ++ .body (.error f) :: back)).error = some (.encode f) := by
  have hfront := (addAll_of_written hc h).1
  have hfault : ((c.addAll front).add (.body (.error f))).error = some (.encode f) := by
    simp [add, hfront]
  rw [addAll_append]
  exact addAll_of_error hfault back

/-- Building a call leaves no error but that of a body. -/
theorem addAll_error_cases {c : Call} (hc : c.error = none) (parts : List CallPart) :
    (c.addAll parts).error = none ∨ ∃ f, (c.addAll parts).error = some (.encode f) := by
  induction parts using List.reverseRecOn with
  | nil => exact .inl hc
  | append_singleton front p ih =>
    rw [addAll_concat]
    rcases ih with hnone | ⟨f, hfault⟩
    · cases p with
      | segment text => exact .inl hnone
      | param value => exact .inl hnone
      | body written =>
        cases written with
        | ok text => exact .inl (by simp [add, hnone])
        | error g => exact .inr ⟨g, by simp [add, hnone]⟩
    · exact .inr ⟨f, add_of_error hfault p⟩

end Call

/-! ### Requests -/

variable {α : Type}

/-- A call that is built of parts sends one request if every body among them can be written: the verb is that of the
call, the address has the texts of the segments and parameters in their order, and the body is the last one. If one
cannot be written, nothing is sent, and the handle has failed with the error of the first such body. -/
theorem dispatch_of_parts (s : Session α) (config : ClientSettings) (method : String) (verb : Verb)
    (parts : List CallPart) (decode : Decoder α) :
    ((∀ f, .body (.error f) ∉ parts) →
      ∃ url, config.baseUrl.build (parts.filterMap CallPart.text?) = .ok url ∧
        s.dispatchCall ((config.call method verb).addAll parts) decode =
          ({ s with
              cells := s.cells ++ [.waiting]
              exchanges := s.exchanges ++
                [{ request := { verb, url, body := (parts.filterMap CallPart.written?).getLast? }, decode,
                   cell := s.cells.length }] },
            ⟨method, .bridged s.cells.length⟩)) ∧
    ∀ front f back, parts = front ++ .body (.error f) :: back → (∀ g, .body (.error g) ∉ front) →
      s.dispatchCall ((config.call method verb).addAll parts) decode = (s, .failed method (.encode f)) := by
  have hsame := Call.addAll_same (config.call method verb) parts
  have hsegments : ((config.call method verb).addAll parts).segments = parts.filterMap CallPart.text? :=
    Call.addAll_segments _ parts
  refine ⟨fun hwritten => ?_, fun front f back hparts hfront => ?_⟩
  · obtain ⟨herror, hbody⟩ := Call.addAll_of_written (c := config.call method verb) rfl hwritten
    obtain ⟨url, hurl⟩ := config.exists_build (parts.filterMap CallPart.text?)
    have hrequest : ((config.call method verb).addAll parts).request =
        .ok { verb, url, body := (parts.filterMap CallPart.written?).getLast? } := by
      unfold Call.request
      rw [herror, hsame.config, hsame.verb, hsegments, hbody]
      simp [ClientSettings.call, hurl]
    refine ⟨url, hurl, ?_⟩
    unfold Session.dispatchCall
    rw [hrequest, hsame.method]
    rfl
  · have herror := Call.addAll_of_fault (c := config.call method verb) rfl hfront f back
    have hrequest : ((config.call method verb).addAll parts).request = .error (.encode f) := by
      unfold Call.request
      rw [hparts, herror]
    unfold Session.dispatchCall
    rw [hrequest, hsame.method]
    rfl

/-- Of two bodies the second is sent, wherever the segments stand; and of two that cannot be written the first is
reported, whatever comes before it and after it. -/
theorem bodies_among_segments :
    let base : Url := {
      scheme := "http"
      authority := some { host := .name "localhost".toList }
      path := .rooted ["api".toList]
      segments_ne_nil := fun _ => List.cons_ne_nil _ _ }
    let config : ClientSettings := { baseUrl := base, canBeBase := rfl }
    let call := config.call "m" .post
    let parts : List CallPart := [.body (.ok "1"), .segment "a b", .body (.ok "2"), .param (.integer 42)]
    let broken : List CallPart := parts ++ .body (.error .key) :: [.body (.ok "3"), .body (.error .tooDeep)]
    Url.parse "http://localhost/api" = .ok base ∧ (∀ f, .body (.error f) ∉ parts) ∧
      (Session.dispatchCall {} (call.addAll parts) emptyDecoder).1.requests.map
        (fun r => (r.verb, r.url.text, r.body)) = [(.post, "http://localhost/api/a%20b/42", some "2")] ∧
      (Session.dispatchCall {} (call.addAll broken) emptyDecoder) = ({}, .failed "m" (.encode .key)) := by
  intro base config call parts broken
  have hwritten : ∀ f, CallPart.body (.error f) ∉ parts := by
    simp [parts]
  obtain ⟨hall, -⟩ := dispatch_of_parts {} config "m" .post parts emptyDecoder
  obtain ⟨url, hurl, hsent⟩ := hall hwritten
  obtain ⟨-, hbroken⟩ := dispatch_of_parts {} config "m" .post broken emptyDecoder
  refine ⟨by decide +kernel, hwritten, ?_, hbroken parts .key _ rfl hwritten⟩
  have htext : (base.build ["a b", "42"]).toOption.map Url.text = some "http://localhost/api/a%20b/42" := by
    decide +kernel
  have hbuilt : base.build ["a b", "42"] = .ok url := hurl
  rw [hbuilt] at htext
  have hlast : (parts.filterMap CallPart.written?).getLast? = some "2" := rfl
  rw [hsent, hlast]
  simpa [Session.requests, Except.toOption] using htext

end ServiceBindings
