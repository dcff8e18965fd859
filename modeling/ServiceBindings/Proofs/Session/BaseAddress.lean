import ServiceBindings.Proofs.Session.Local
import ServiceBindings.Proofs.Url.Extension

/-!
Base addresses. What a client is set up with is checked once, when it is built, and every call tests its copy of the
address again. The two tests agree, and no step of a call changes the address, so the second test never fails.
-/

namespace ServiceBindings

/-! ### Setting up -/

namespace ClientSetup

/-- The last setting counts. -/
theorem foldl_withBaseUrl (s : ClientSetup) (urls : List Url) :
    urls.foldl withBaseUrl s = ⟨urls.getLast?.or s.baseUrl⟩ := by
  induction urls using List.reverseRecOn with
  | nil => rfl
  | append_singleton front url ih =>
    rw [List.foldl_concat, List.getLast?_concat]
    rfl

theorem build_of_canBeBase {url : Url} (h : url.canBeBase = true) : build ⟨some url⟩ = .ok ⟨url, h⟩ :=
  dif_pos h

theorem build_of_not_canBeBase {url : Url} (h : url.canBeBase = false) :
    build ⟨some url⟩ = .error (.invalidBaseUrl url.text) :=
  dif_neg (by simp [h])

end ClientSetup

/-- The setting up of a client with addresses that are given one after the other. -/
def builtFrom (urls : List Url) : Except CallError ClientSettings :=
  (urls.foldl ClientSetup.withBaseUrl {}).build

/-- What it comes to: there is no address, or the last one cannot be a base, or it is the base. -/
inductive Built (urls : List Url) : Except CallError ClientSettings → Prop
  | missing (h : urls = []) : Built urls (.error (.missingRequiredField "baseUrl"))
  | invalid {url : Url} (hlast : urls.getLast? = some url) (h : url.canBeBase = false) :
    Built urls (.error (.invalidBaseUrl url.text))
  | config {url : Url} (hlast : urls.getLast? = some url) (h : url.canBeBase = true) : Built urls (.ok ⟨url, h⟩)

theorem builtFrom_eq (urls : List Url) : builtFrom urls = ClientSetup.build ⟨urls.getLast?⟩ := by
  unfold builtFrom
  rw [ClientSetup.foldl_withBaseUrl]
  exact congrArg (fun last => ClientSetup.build ⟨last⟩) (Option.or_none ..)

theorem Built.eq {urls : List Url} {r : Except CallError ClientSettings} (h : Built urls r) : builtFrom urls = r := by
  rw [builtFrom_eq]
  cases h with
  | missing hnone =>
    subst hnone
    rfl
  | invalid hlast hbase => rw [hlast, ClientSetup.build_of_not_canBeBase hbase]
  | config hlast hbase => rw [hlast, ClientSetup.build_of_canBeBase hbase]

theorem built_builtFrom (urls : List Url) : Built urls (builtFrom urls) := by
  rw [builtFrom_eq]
  cases hlast : urls.getLast? with
  | none => exact .missing (List.getLast?_eq_none_iff.mp hlast)
  | some url =>
    cases hbase : url.canBeBase with
    | false =>
      rw [ClientSetup.build_of_not_canBeBase hbase]
      exact .invalid hlast hbase
    | true =>
      rw [ClientSetup.build_of_canBeBase hbase]
      exact .config hlast hbase

theorem builtFrom_missing_iff {urls : List Url} :
    builtFrom urls = .error (.missingRequiredField "baseUrl") ↔ urls = [] := by
  constructor
  · intro h
    have hbuilt := built_builtFrom urls
    rw [h] at hbuilt
    cases hbuilt with
    | missing hnone => exact hnone
  · intro hnone
    exact (Built.missing hnone).eq

theorem builtFrom_invalid_iff {urls : List Url} {text : String} :
    builtFrom urls = .error (.invalidBaseUrl text) ↔
      ∃ url, urls.getLast? = some url ∧ url.canBeBase = false ∧ url.text = text := by
  constructor
  · intro h
    have hbuilt := built_builtFrom urls
    rw [h] at hbuilt
    cases hbuilt with
    | invalid hlast hbase => exact ⟨_, hlast, hbase, rfl⟩
  · rintro ⟨url, hlast, hbase, rfl⟩
    exact (Built.invalid hlast hbase).eq

theorem builtFrom_ok_iff {urls : List Url} {config : ClientSettings} :
    builtFrom urls = .ok config ↔ urls.getLast? = some config.baseUrl := by
  constructor
  · intro h
    have hbuilt := built_builtFrom urls
    rw [h] at hbuilt
    cases hbuilt with
    | config hlast => exact hlast
  · intro hlast
    exact (Built.config hlast config.canBeBase).eq

/-! ### Addresses -/

/-- A call turns an address down exactly if setting a client up does, and with the same error. -/
theorem Url.build_error_iff_builtFrom {u : Url} {texts : List String} {text : String} :
    u.build texts = .error (.invalidBaseUrl text) ↔ builtFrom [u] = .error (.invalidBaseUrl text) := by
  obtain ⟨scheme, authority, guarded, path, query, fragment, hsegments⟩ := u
  cases path with
  | rooted segments => exact iff_of_false nofun nofun
  | rootless rest =>
    constructor
    · intro h
      cases h
      rfl
    · intro h
      cases h
      rfl

theorem Url.build_beside {u v : Url} {texts : List String} (h : u.build texts = .ok v) : u.SameBeside v := by
  obtain ⟨scheme, authority, guarded, path, query, fragment, hsegments⟩ := u
  cases path with
  | rooted segments =>
    cases h
    exact ⟨rfl, rfl, rfl, rfl, rfl⟩
  | rootless text => cases h

/-! ### Calls -/

section Call

variable (config : ClientSettings) (method : String) (verb : Verb) (parts : List CallPart)

/-- A call over a configuration has a request for the base address extended by the texts of its own parts, or a body
that cannot be written. -/
theorem Call.request_cases :
    (∃ r, config.baseUrl.build (parts.filterMap CallPart.text?) = .ok r.url ∧
      ((config.call method verb).addAll parts).request = .ok r) ∨
    ∃ f, ((config.call method verb).addAll parts).request = .error (.encode f) := by
  have hsame := Call.addAll_same (config.call method verb) parts
  have hsegments : ((config.call method verb).addAll parts).segments = parts.filterMap CallPart.text? :=
    Call.addAll_segments _ parts
  unfold Call.request
  rw [hsame.config, hsame.verb, hsegments]
  rcases Call.addAll_error_cases (c := config.call method verb) rfl parts with hnone | ⟨f, hfault⟩
  · obtain ⟨url, hurl⟩ := config.exists_build (parts.filterMap CallPart.text?)
    have hbase : (config.call method verb).config.baseUrl.build (parts.filterMap CallPart.text?) = .ok url := hurl
    rw [hnone, hbase]
    exact .inl ⟨_, hurl, rfl⟩
  · rw [hfault]
    exact .inr ⟨f, rfl⟩

end Call

/-- A result that a callback left is an invalid base address only if the decoder gave it. -/
theorem Settles.eq_decode {α : Type} {o : Opening α} {f : Fate} {r : Result α} (h : Settles o f r) {text : String}
    (hr : r = .error (.invalidBaseUrl text)) : ∃ bytes, o.decode bytes = .error (.invalidBaseUrl text) := by
  cases h with
  | transport => cases hr
  | badResponse => cases hr
  | decoded response => exact ⟨response.body, hr⟩
  | abandoned => cases hr

namespace Session

variable {α : Type}

/-- What holds of a call over a base address, with a decoder and with parts that put `texts` into its path. It is made
by `x` after the steps `pre`, and the steps `mid` have been taken since. -/
structure StartsFrom (base : Url) (texts : List String) (decode : Decoder α) (pre : List (Step α)) (x : Step α)
    (mid : List (Step α)) (id : String) : Prop where
  /-- what it sends goes to the base address, extended by its own texts -/
  sent : ∃ sent : Option Request, (run {} (pre ++ [x])).1.requests = (run {} pre).1.requests ++ sent.toList ∧
    ∀ r ∈ sent, base.build texts = .ok r.url
  /-- the base address is never what it fails for, unless its decoder says so -/
  resolved : ∀ y, y.reads id = true → ∀ text,
    answerAfter (pre ++ x :: mid) y = .reading (.resolved (.error (.invalidBaseUrl text))) →
      ∃ bytes, decode bytes = .error (.invalidBaseUrl text)

/-- The decoders of the runtime never say so. -/
theorem StartsFrom.never {base : Url} {texts : List String} {decode : Decoder α} {pre mid : List (Step α)} {x : Step α}
    {id : String} (h : StartsFrom base texts decode pre x mid id) (hdecode : StandardDecoder decode) {y : Step α}
    (hy : y.reads id = true) (text : String) :
    answerAfter (pre ++ x :: mid) y ≠ .reading (.resolved (.error (.invalidBaseUrl text))) := by
  intro hanswer
  obtain ⟨bytes, hbytes⟩ := h.resolved y hy text hanswer
  obtain ⟨f, hf⟩ := hdecode.eq_decode hbytes
  cases hf

/-- What is read of a handle that has failed is its error, or that the call was abandoned. -/
theorem resolved_of_leftOf {s : Session α} {h : Handle α} {method : String} {e : CallError} (hleft : LeftOf method e h)
    {r : Result α} (hr : (s.read h).1 = .resolved r) : r = .error e ∨ r = .error (.abandoned method) := by
  rcases hleft with rfl | rfl
  · cases hr
    exact .inl rfl
  · cases hr
    exact .inr rfl

/-- A call that is sent to a base address, or has a body that cannot be written, never fails for the address. -/
theorem startsFrom_of_request {pre mid : List (Step α)} {id : String} {base : Url} {texts : List String} {call : Call}
    (decode : Decoder α) (hsound : ∀ y ∈ pre ++ mid, y.Sound) (hheld : ∀ y ∈ mid, y.releases id = false)
    (hrequest : (∃ r, base.build texts = .ok r.url ∧ call.request = .ok r) ∨ ∃ f, call.request = .error (.encode f)) :
    StartsFrom base texts decode pre (.start id call decode) mid id := by
  have hrequests := (step_transition (s := (run {} pre).1) (x := .start id call decode) trivial).requests
  rw [← run_concat] at hrequests
  rcases hrequest with ⟨r, hurl, hsent⟩ | ⟨f, hfault⟩
  · -- the request is sent, and its callback settles the call
    have hopening : (Step.start id call decode).opening? =
        some { id, method := call.method, request := r, decode } := by
      simp [Step.opening?, hsent]
    refine ⟨⟨_, hrequests, ?_⟩, fun y hy text hanswer => ?_⟩
    · rw [hopening]
      rintro _ ⟨⟩
      exact hurl
    · have hall : ∀ z ∈ pre ++ .start id call decode :: mid, z.Sound := by
        simp only [List.mem_append, List.mem_cons] at hsound ⊢
        rintro z (hz | rfl | hz)
        · exact hsound z (.inl hz)
        · trivial
        · exact hsound z (.inr hz)
      rw [answerAfter_reads hy, answerAfter_poll hopening hall hheld] at hanswer
      obtain ⟨fate, -, hsettles⟩ := settles_of_answer hanswer
      exact hsettles.eq_decode rfl
  · -- nothing is sent, and the handle has failed with the error of the body
    have hopening : (Step.start id call decode).opening? = none := by
      simp [Step.opening?, hfault]
    refine ⟨⟨_, hrequests, by simp [hopening]⟩, fun y hy text hanswer => ?_⟩
    have hstart : (run {} (pre ++ [.start id call decode])).1.handle? id = some (.failed call.method (.encode f)) := by
      rw [run_concat]
      simp only [step, started, dispatchCall, hfault]
      exact handle?_keep_self _ _
    obtain ⟨-, hleft⟩ := failed_handle_run hstart (fun z hz => hsound z (List.mem_append_right _ hz)) hheld
    rw [List.append_assoc, List.singleton_append] at hleft
    unfold answerAfter at hanswer
    cases hhandle : (run {} (pre ++ .start id call decode :: mid)).1.handle? id with
    | none =>
      rw [answer_of_no_handle hy hhandle] at hanswer
      cases hanswer
    | some g =>
      rw [answer_of_handle? hy hhandle] at hanswer
      rcases resolved_of_leftOf (hleft g hhandle) (StepAnswer.reading.inj hanswer) with hr | hr <;> cases hr

/-- Setting a client up fails for want of an address exactly if none is given, and for an invalid one exactly if the
last one given cannot be a base; otherwise the last one given is the base. Then every text can be appended to it, each
call of the client goes to it extended by the texts of this call alone, whatever calls there are besides, and no call
fails for it. -/
theorem invalid_base_unreachable (urls : List Url) :
    (builtFrom urls = .error (.missingRequiredField "baseUrl") ↔ urls = []) ∧
    (∀ text, builtFrom urls = .error (.invalidBaseUrl text) ↔
      ∃ url, urls.getLast? = some url ∧ url.canBeBase = false ∧ url.text = text) ∧
    (∀ url, urls.getLast? = some url → url.canBeBase = true → ∃ config, builtFrom urls = .ok config) ∧
    ∀ config, builtFrom urls = .ok config →
      urls.getLast? = some config.baseUrl ∧
      (∀ texts, ∃ url, config.baseUrl.build texts = .ok url ∧ config.baseUrl.SameBeside url) ∧
      ∀ {α : Type} (id method : String) (verb : Verb) (parts : List CallPart) (decode : Decoder α)
        (pre mid : List (Step α)), (∀ y ∈ pre ++ mid, y.Sound) → (∀ y ∈ mid, y.releases id = false) →
        let x : Step α := .start id ((config.call method verb).addAll parts) decode
        StartsFrom config.baseUrl (parts.filterMap CallPart.text?) decode pre x mid id ∧
        (StandardDecoder decode → ∀ y, y.reads id = true → ∀ text,
          answerAfter (pre ++ x :: mid) y ≠ .reading (.resolved (.error (.invalidBaseUrl text)))) := by
  refine ⟨builtFrom_missing_iff, fun text => builtFrom_invalid_iff, fun url hlast hbase => ?_, fun config hbuilt => ?_⟩
  · exact ⟨⟨url, hbase⟩, builtFrom_ok_iff.mpr hlast⟩
  · refine ⟨builtFrom_ok_iff.mp hbuilt, fun texts => ?_, fun id method verb parts decode pre mid hsound hheld => ?_⟩
    · obtain ⟨url, hurl⟩ := config.exists_build texts
      exact ⟨url, hurl, Url.build_beside hurl⟩
    · have hcall := startsFrom_of_request decode hsound hheld (Call.request_cases config method verb parts)
      exact ⟨hcall, fun hdecode y hy text => hcall.never hdecode hy text⟩

/-- An address that cannot be a base is given up for one that can, and then a call is made besides another. -/
theorem later_address_is_base :
    let mail : Url := { scheme := "mailto", authority := none, path := .rootless ['a'], segments_ne_nil := by decide }
    let base : Url := {
      scheme := "http"
      authority := some { host := .name "localhost".toList }
      path := .rooted ["api".toList]
      segments_ne_nil := fun _ => List.cons_ne_nil _ _ }
    Url.parse "mailto:a" = .ok mail ∧ Url.parse "http://localhost/api" = .ok base ∧
    builtFrom [] = .error (.missingRequiredField "baseUrl") ∧
    builtFrom [base, mail] = .error (.invalidBaseUrl "mailto:a") ∧
    ∃ config : ClientSettings, builtFrom [mail, base] = .ok config ∧ config.baseUrl = base ∧
      let call (id text : String) : Step Json := .start id ((config.call "m" .get).addAll [.segment text]) emptyDecoder
      StartsFrom base ["t"] emptyDecoder [call "a" "s"] (call "b" "t") [.settle 1 (.error (.timeout 5))] "b" := by
  intro mail base
  obtain ⟨hmissing, -⟩ := invalid_base_unreachable []
  obtain ⟨-, hinvalid, -⟩ := invalid_base_unreachable [base, mail]
  obtain ⟨-, -, hsome, hconfig⟩ := invalid_base_unreachable [mail, base]
  obtain ⟨config, hbuilt⟩ := hsome base rfl rfl
  obtain ⟨hlast, -, hcalls⟩ := hconfig config hbuilt
  have hbase : config.baseUrl = base := (Option.some.inj hlast).symm
  refine ⟨by decide +kernel, by decide +kernel, hmissing.mpr rfl,
    (hinvalid _).mpr ⟨mail, rfl, rfl, by decide +kernel⟩, config, hbuilt, hbase, ?_⟩
  intro call
  rw [← hbase]
  exact (hcalls "b" "m" .get [.segment "t"] emptyDecoder [call "a" "s"] [.settle 1 (.error (.timeout 5))]
    (by simp [call, Step.Sound]) (by simp [Step.releases])).1

end Session

end ServiceBindings
