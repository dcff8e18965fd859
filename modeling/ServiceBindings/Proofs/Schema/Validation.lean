import ServiceBindings.Proofs.Lookup
import ServiceBindings.Schema.Validation

/-!
Validation is exact. What makes definitions a schema is said without the order in which validation goes through them,
and validation accepts these definitions and no others; what it reports is there.
-/

namespace ServiceBindings

/-! ### Valid definitions -/

/-- Constants have different names in generated code, and different values. -/
structure Enumeration.Valid (e : Enumeration) : Prop where
  names : (e.constants.map fun c => pascalCase c.name).Nodup
  values : (e.constants.map (·.value)).Nodup

/-- Whether a method does not meet a demand that its call pattern makes. -/
def Method.Breaks (m : Method) : PatternRule → Prop
  | .noResponse => m.pattern = .fireAndForget ∧ m.response ≠ none
  | .needsRequest => (m.pattern = .clientStreaming ∨ m.pattern = .bidiStreaming) ∧ m.request = none
  | .needsResponse => (m.pattern = .serverStreaming ∨ m.pattern = .bidiStreaming) ∧ m.response = none

namespace Definitions

/-- The names of all types. -/
def typeNames (d : Definitions) : List String :=
  d.enums.map (·.name) ++ d.messages.map (·.name) ++ d.services.map (·.name)

/-- Whether a name is that of a type to which a reference is allowed: an enumeration, or outside of paths a message. -/
def Meets (d : Definitions) (inPath : Bool) (name : String) : Prop :=
  (∃ e ∈ d.enums, e.name = name) ∨ inPath = false ∧ ∃ m ∈ d.messages, m.name = name

/-- Whether a type is a scalar or a reference that is allowed in its place. -/
def Resolves (d : Definitions) (inPath : Bool) (t : DataType) : Prop :=
  ∀ name, t = .named name → d.Meets inPath name

/-- Fields have different names in generated code, and types that there are. -/
structure ValidMessage (d : Definitions) (m : Message) : Prop where
  names : (m.fields.map fun f => snakeCase f.name).Nodup
  types : ∀ f ∈ m.fields, d.Resolves false f.type

/-- A method meets the demands of its pattern and mentions types that there are, only enumerations in its path; its
path parameters have different names in generated code, none of them that of the request. -/
structure ValidMethod (d : Definitions) (m : Method) : Prop where
  pattern : ∀ rule, ¬ m.Breaks rule
  request : ∀ t ∈ m.request, d.Resolves false t
  response : ∀ t ∈ m.response, d.Resolves false t
  names : (m.pathParams.map fun p => snakeCase p.name).Nodup
  unreserved : ∀ p ∈ m.pathParams, snakeCase p.name ≠ requestName
  types : ∀ p ∈ m.pathParams, d.Resolves true p.type

/-- Methods have different names in generated code. -/
structure ValidService (d : Definitions) (s : Service) : Prop where
  names : (s.methods.map fun m => snakeCase m.name).Nodup
  methods : ∀ m ∈ s.methods, d.ValidMethod m

/-- Definitions of which a schema consists. All types share one space of names. -/
structure Valid (d : Definitions) : Prop where
  names : (d.typeNames.map pascalCase).Nodup
  enums : ∀ e ∈ d.enums, e.Valid
  messages : ∀ m ∈ d.messages, d.ValidMessage m
  services : ∀ s ∈ d.services, d.ValidService s

/-- Whether an error tells of something that is wrong with the definitions. A repeated name is one that has the form
of a name before it. -/
inductive Violates (d : Definitions) : DefinitionError → Prop
  | type {front back : List String} {n : String} (hsplit : d.typeNames = front ++ n :: back)
      (hrepeat : pascalCase n ∈ front.map pascalCase) : Violates d (.duplicateName .type n)
  | constant {e : Enumeration} (he : e ∈ d.enums) {front back : List Constant} {c : Constant}
      (hsplit : e.constants = front ++ c :: back)
      (hrepeat : pascalCase c.name ∈ front.map fun c => pascalCase c.name) :
      Violates d (.duplicateName (.constant e.name) c.name)
  | value {e : Enumeration} (he : e ∈ d.enums) {front back : List Constant} {c : Constant}
      (hsplit : e.constants = front ++ c :: back) (hrepeat : c.value ∈ front.map (·.value)) :
      Violates d (.duplicateName (.wireValue e.name) c.value)
  | field {m : Message} (hm : m ∈ d.messages) {front back : List Field} {f : Field}
      (hsplit : m.fields = front ++ f :: back) (hrepeat : snakeCase f.name ∈ front.map fun f => snakeCase f.name) :
      Violates d (.duplicateName (.field m.name) f.name)
  | fieldType {m : Message} (hm : m ∈ d.messages) {f : Field} (hf : f ∈ m.fields) {n : String}
      (htype : f.type = .named n) (hmeets : ¬ d.Meets false n) :
      Violates d (.invalidReference (.field m.name f.name) n)
  | method {s : Service} (hs : s ∈ d.services) {front back : List Method} {m : Method}
      (hsplit : s.methods = front ++ m :: back) (hrepeat : snakeCase m.name ∈ front.map fun m => snakeCase m.name) :
      Violates d (.duplicateName (.method s.name) m.name)
  | pattern {s : Service} (hs : s ∈ d.services) {m : Method} (hm : m ∈ s.methods) {rule : PatternRule}
      (hbreaks : m.Breaks rule) : Violates d (.patternMismatch (qualifiedName s m) m.pattern rule)
  | request {s : Service} (hs : s ∈ d.services) {m : Method} (hm : m ∈ s.methods) {n : String}
      (htype : m.request = some (.named n)) (hmeets : ¬ d.Meets false n) :
      Violates d (.invalidReference (.request (qualifiedName s m)) n)
  | response {s : Service} (hs : s ∈ d.services) {m : Method} (hm : m ∈ s.methods) {n : String}
      (htype : m.response = some (.named n)) (hmeets : ¬ d.Meets false n) :
      Violates d (.invalidReference (.response (qualifiedName s m)) n)
  | param {s : Service} (hs : s ∈ d.services) {m : Method} (hm : m ∈ s.methods) {front back : List PathParameter}
      {p : PathParameter} (hsplit : m.pathParams = front ++ p :: back)
      (hrepeat : snakeCase p.name = requestName ∨ snakeCase p.name ∈ front.map fun p => snakeCase p.name) :
      Violates d (.duplicateName (.pathParam (qualifiedName s m)) p.name)
  | paramType {s : Service} (hs : s ∈ d.services) {m : Method} (hm : m ∈ s.methods) {p : PathParameter}
      (hp : p ∈ m.pathParams) {n : String} (htype : p.type = .named n) (hmeets : ¬ d.Meets true n) :
      Violates d (.invalidReference (.pathParam (qualifiedName s m) p.name) n)

end Definitions

/-! ### Loops -/

section Loop

variable {α : Type} {name : α → String} {repeated : α → DefinitionError} {check : α → Option DefinitionError}

/-- The loop over named items reports nothing if their names differ from each other and from the names taken before,
and nothing is wrong with any item. -/
theorem firstError?_eq_none_iff {taken : List String} {items : List α} :
    firstError? name repeated check taken items = none ↔
      (items.map name).Nodup ∧ (∀ a ∈ items, name a ∉ taken) ∧ ∀ a ∈ items, check a = none := by
  induction items generalizing taken with
  | nil => simp [firstError?]
  | cons a rest ih =>
    by_cases htaken : name a ∈ taken
    · simp [firstError?, htaken]
    · rw [firstError?, if_neg htaken, Option.or_eq_none_iff, ih, List.map_cons, List.nodup_cons,
        List.forall_mem_cons, List.forall_mem_cons]
      constructor
      · rintro ⟨hcheck, hnodup, hfresh, hrest⟩
        refine ⟨⟨?_, hnodup⟩, ⟨htaken, fun b hb hmem => hfresh b hb (List.mem_cons_of_mem _ hmem)⟩, hcheck, hrest⟩
        intro hmem
        obtain ⟨b, hb, heq⟩ := List.mem_map.mp hmem
        exact hfresh b hb (heq ▸ List.mem_cons_self)
      · rintro ⟨⟨hne, hnodup⟩, ⟨_, hfresh⟩, hcheck, hrest⟩
        refine ⟨hcheck, hnodup, fun b hb hmem => ?_, hrest⟩
        rcases List.mem_cons.mp hmem with heq | hmem
        · exact hne (List.mem_map.mpr ⟨b, hb, heq⟩)
        · exact hfresh b hb hmem

/-- What the loop over named items reports is a name that was taken before, or wrong with some item. -/
theorem of_firstError?_eq_some {taken : List String} {items : List α} {e : DefinitionError}
    (herror : firstError? name repeated check taken items = some e) :
    (∃ front a back, items = front ++ a :: back ∧ (name a ∈ taken ∨ name a ∈ front.map name) ∧ e = repeated a) ∨
      ∃ a ∈ items, check a = some e := by
  induction items generalizing taken with
  | nil => cases herror
  | cons a rest ih =>
    by_cases htaken : name a ∈ taken
    · simp only [firstError?, if_pos htaken, Option.some.injEq] at herror
      exact .inl ⟨[], a, rest, rfl, .inl htaken, herror.symm⟩
    · simp only [firstError?, if_neg htaken, Option.or_eq_some_iff] at herror
      rcases herror with hcheck | ⟨_, hrest⟩
      · exact .inr ⟨a, List.mem_cons_self, hcheck⟩
      · obtain ⟨front, b, back, hsplit, hname, he⟩ | ⟨b, hb, hcheck⟩ := ih hrest
        · refine .inl ⟨a :: front, b, back, by simp [hsplit], ?_, he⟩
          rcases hname with hname | hname
          · rcases List.mem_cons.mp hname with heq | hname
            · exact .inr (by simp [heq])
            · exact .inl hname
          · exact .inr (List.mem_cons_of_mem _ hname)
        · exact .inr ⟨b, List.mem_cons_of_mem a hb, hcheck⟩

/-- The loop over constants goes over their names and their values at once, and reports what one of the two loops would
report by itself. -/
theorem constantsError?_eq (enumeration : String) (names values : List String) (items : List Constant) :
    let byName := firstError? (fun c => pascalCase c.name) (fun c => .duplicateName (.constant enumeration) c.name)
      (fun _ => none) names items
    let byValue := firstError? (·.value) (fun c => .duplicateName (.wireValue enumeration) c.value) (fun _ => none)
      values items
    (constantsError? enumeration names values items = none ↔ byName = none ∧ byValue = none) ∧
      ∀ e, constantsError? enumeration names values items = some e → byName = some e ∨ byValue = some e := by
  induction items generalizing names values with
  | nil => simp [constantsError?, firstError?]
  | cons c rest ih =>
    by_cases hname : pascalCase c.name ∈ names
    · simp [constantsError?, firstError?, hname]
    · by_cases hvalue : c.value ∈ values
      · simp [constantsError?, firstError?, hname, hvalue]
      · simpa [constantsError?, firstError?, hname, hvalue] using ih (pascalCase c.name :: names) (c.value :: values)

end Loop

theorem Enumeration.error?_eq_none_iff {e : Enumeration} : e.error? = none ↔ e.Valid := by
  have hloop := (constantsError?_eq e.name [] [] e.constants).1
  rw [Enumeration.error?, hloop, firstError?_eq_none_iff, firstError?_eq_none_iff]
  constructor
  · rintro ⟨⟨hnames, _⟩, hvalues, _⟩
    exact ⟨hnames, hvalues⟩
  · intro h
    exact ⟨⟨h.names, by simp, by simp⟩, h.values, by simp, by simp⟩

namespace Definitions

variable {d : Definitions}

/-! ### References -/

theorem kinds_map_fst (d : Definitions) : d.kinds.map (·.1) = d.typeNames := by
  simp [kinds, typeNames, Function.comp_def]

private theorem names_nodup (hnames : (d.typeNames.map pascalCase).Nodup) : (d.kinds.map (·.1)).Nodup := by
  rw [kinds_map_fst]
  exact List.Nodup.of_map pascalCase hnames

/-- The table of kinds has an enumeration under a name exactly if there is an enumeration of that name. -/
theorem lookup_enumeration_iff (hnames : (d.typeNames.map pascalCase).Nodup) {n : String} :
    d.kinds.lookup n = some .enumeration ↔ ∃ e ∈ d.enums, e.name = n := by
  rw [lookup_eq_some_iff (names_nodup hnames)]
  simp [kinds]

/-- The table of kinds has a message under a name exactly if there is a message of that name. -/
theorem lookup_message_iff (hnames : (d.typeNames.map pascalCase).Nodup) {n : String} :
    d.kinds.lookup n = some .message ↔ ∃ m ∈ d.messages, m.name = n := by
  rw [lookup_eq_some_iff (names_nodup hnames)]
  simp [kinds]

/-- A reference is reported exactly if it does not meet a type that is allowed in its place. -/
theorem referenceError?_named (hnames : (d.typeNames.map pascalCase).Nodup) (r : Referrer) (inPath : Bool)
    (n : String) :
    d.Meets inPath n ∧ referenceError? d.kinds r inPath (.named n) = none ∨
      ¬ d.Meets inPath n ∧ referenceError? d.kinds r inPath (.named n) = some (.invalidReference r n) := by
  simp only [Meets, ← lookup_enumeration_iff hnames, ← lookup_message_iff hnames, referenceError?, DataType.name?]
  cases d.kinds.lookup n with
  | none => simp
  | some k => cases k <;> cases inPath <;> simp

theorem referenceError?_eq_none_iff (hnames : (d.typeNames.map pascalCase).Nodup) {r : Referrer} {inPath : Bool}
    {t : DataType} : referenceError? d.kinds r inPath t = none ↔ d.Resolves inPath t := by
  cases t with
  | named n =>
    obtain ⟨hmeets, hnone⟩ | ⟨hmeets, hsome⟩ := referenceError?_named hnames r inPath n
    · simp [Resolves, hmeets, hnone]
    · simp [Resolves, hmeets, hsome]
  | _ => simp [Resolves, referenceError?, DataType.name?]

theorem of_referenceError?_eq_some (hnames : (d.typeNames.map pascalCase).Nodup) {r : Referrer} {inPath : Bool}
    {t : DataType} {e : DefinitionError} (herror : referenceError? d.kinds r inPath t = some e) :
    ∃ n, t = .named n ∧ ¬ d.Meets inPath n ∧ e = .invalidReference r n := by
  cases t with
  | named n =>
    obtain ⟨_, hnone⟩ | ⟨hmeets, hsome⟩ := referenceError?_named hnames r inPath n
    · cases hnone.symm.trans herror
    · exact ⟨n, rfl, hmeets, Option.some.inj (herror.symm.trans hsome)⟩
  | _ => cases herror

/-! ### Parts -/

theorem message_error?_eq_none_iff (hnames : (d.typeNames.map pascalCase).Nodup) {m : Message} :
    m.error? d.kinds = none ↔ d.ValidMessage m := by
  rw [Message.error?, firstError?_eq_none_iff]
  constructor
  · rintro ⟨hfields, _, htypes⟩
    exact ⟨hfields, fun f hf => (referenceError?_eq_none_iff hnames).mp (htypes f hf)⟩
  · intro h
    exact ⟨h.names, by simp, fun f hf => (referenceError?_eq_none_iff hnames).mpr (h.types f hf)⟩

/-- The rule of its pattern that a method is reported to break is one that it breaks. -/
theorem breaks_of_brokenRule? {m : Method} {rule : PatternRule} (hrule : m.brokenRule? = some rule) :
    m.Breaks rule := by
  obtain ⟨name, pattern, request, response, params, segment, description⟩ := m
  cases pattern <;> cases request <;> cases response <;> cases rule <;> simp_all [Method.brokenRule?, Method.Breaks]

theorem brokenRule?_eq_none_iff {m : Method} : m.brokenRule? = none ↔ ∀ rule, ¬ m.Breaks rule := by
  constructor
  · intro hnone rule hbreaks
    obtain ⟨name, pattern, request, response, params, segment, description⟩ := m
    cases rule <;> cases pattern <;> cases request <;> cases response <;>
      simp_all [Method.brokenRule?, Method.Breaks]
  · intro hkept
    cases hrule : m.brokenRule? with
    | none => rfl
    | some rule => exact absurd (breaks_of_brokenRule? hrule) (hkept rule)

theorem method_error?_eq_none_iff (hnames : (d.typeNames.map pascalCase).Nodup) {s : Service} {m : Method} :
    m.error? d.kinds s = none ↔ d.ValidMethod m := by
  have hreference {r : Referrer} {inPath : Bool} {t : DataType} :
      referenceError? d.kinds r inPath t = none ↔ d.Resolves inPath t := referenceError?_eq_none_iff hnames
  unfold Method.error?
  cases hrule : m.brokenRule? with
  | some rule =>
    refine iff_of_false (by simp) fun h => ?_
    exact h.pattern rule (breaks_of_brokenRule? hrule)
  | none =>
    simp only [Option.or_eq_none_iff, Option.bind_eq_none_iff, firstError?_eq_none_iff, hreference,
      List.mem_singleton]
    constructor
    · rintro ⟨hrequest, hresponse, hparams, hunreserved, htypes⟩
      exact ⟨brokenRule?_eq_none_iff.mp hrule, hrequest, hresponse, hparams, hunreserved, htypes⟩
    · intro h
      exact ⟨h.request, h.response, h.names, h.unreserved, h.types⟩

theorem service_error?_eq_none_iff (hnames : (d.typeNames.map pascalCase).Nodup) {s : Service} :
    s.error? d.kinds = none ↔ d.ValidService s := by
  rw [Service.error?, firstError?_eq_none_iff]
  constructor
  · rintro ⟨hmethods, _, hvalid⟩
    exact ⟨hmethods, fun m hm => (method_error?_eq_none_iff hnames).mp (hvalid m hm)⟩
  · intro h
    exact ⟨h.names, by simp, fun m hm => (method_error?_eq_none_iff hnames).mpr (h.methods m hm)⟩

private theorem namesError?_eq_none_iff : namesError? d.typeNames = none ↔ (d.typeNames.map pascalCase).Nodup := by
  rw [namesError?, firstError?_eq_none_iff]
  simp

/-- Definitions have no error exactly if they are valid. -/
theorem error?_eq_none_iff : d.error? = none ↔ d.Valid := by
  rw [error?, kinds_map_fst, Option.or_eq_none_iff, Option.or_eq_none_iff, Option.or_eq_none_iff,
    namesError?_eq_none_iff]
  simp only [List.findSome?_eq_none_iff, Enumeration.error?_eq_none_iff]
  constructor
  · rintro ⟨hnames, henums, hmessages, hservices⟩
    exact ⟨hnames, henums, fun m hm => (message_error?_eq_none_iff hnames).mp (hmessages m hm),
      fun s hs => (service_error?_eq_none_iff hnames).mp (hservices s hs)⟩
  · intro h
    exact ⟨h.names, h.enums, fun m hm => (message_error?_eq_none_iff h.names).mpr (h.messages m hm),
      fun s hs => (service_error?_eq_none_iff h.names).mpr (h.services s hs)⟩

/-! ### Errors -/

private theorem violates_of_constants {enum : Enumeration} (henum : enum ∈ d.enums) {e : DefinitionError}
    (herror : enum.error? = some e) : d.Violates e := by
  rcases (constantsError?_eq enum.name [] [] enum.constants).2 e herror with hname | hvalue
  · obtain ⟨front, c, back, hsplit, hrepeat, rfl⟩ | ⟨_, _, hcheck⟩ := of_firstError?_eq_some hname
    · exact .constant henum hsplit (hrepeat.resolve_left List.not_mem_nil)
    · cases hcheck
  · obtain ⟨front, c, back, hsplit, hrepeat, rfl⟩ | ⟨_, _, hcheck⟩ := of_firstError?_eq_some hvalue
    · exact .value henum hsplit (hrepeat.resolve_left List.not_mem_nil)
    · cases hcheck

private theorem violates_of_message (hnames : (d.typeNames.map pascalCase).Nodup) {m : Message}
    (hm : m ∈ d.messages) {e : DefinitionError} (herror : m.error? d.kinds = some e) : d.Violates e := by
  obtain ⟨front, f, back, hsplit, hrepeat, rfl⟩ | ⟨f, hf, htype⟩ := of_firstError?_eq_some herror
  · exact .field hm hsplit (hrepeat.resolve_left List.not_mem_nil)
  · obtain ⟨n, hn, hmeets, rfl⟩ := of_referenceError?_eq_some hnames htype
    exact .fieldType hm hf hn hmeets

private theorem violates_of_method (hnames : (d.typeNames.map pascalCase).Nodup) {s : Service} (hs : s ∈ d.services)
    {m : Method} (hm : m ∈ s.methods) {e : DefinitionError} (herror : m.error? d.kinds s = some e) :
    d.Violates e := by
  unfold Method.error? at herror
  cases hrule : m.brokenRule? with
  | some rule =>
    simp only [hrule, Option.some.injEq] at herror
    subst herror
    exact .pattern hs hm (breaks_of_brokenRule? hrule)
  | none =>
    simp only [hrule, Option.or_eq_some_iff, Option.bind_eq_some_iff] at herror
    rcases herror with ⟨t, ht, hrequest⟩ | ⟨_, ⟨t, ht, hresponse⟩ | ⟨_, hparams⟩⟩
    · obtain ⟨n, rfl, hmeets, rfl⟩ := of_referenceError?_eq_some hnames hrequest
      exact .request hs hm ht hmeets
    · obtain ⟨n, rfl, hmeets, rfl⟩ := of_referenceError?_eq_some hnames hresponse
      exact .response hs hm ht hmeets
    · obtain ⟨front, p, back, hsplit, hrepeat, rfl⟩ | ⟨p, hp, htype⟩ := of_firstError?_eq_some hparams
      · exact .param hs hm hsplit (by simpa using hrepeat)
      · obtain ⟨n, hn, hmeets, rfl⟩ := of_referenceError?_eq_some hnames htype
        exact .paramType hs hm hp hn hmeets

private theorem violates_of_service (hnames : (d.typeNames.map pascalCase).Nodup) {s : Service} (hs : s ∈ d.services)
    {e : DefinitionError} (herror : s.error? d.kinds = some e) : d.Violates e := by
  obtain ⟨front, m, back, hsplit, hrepeat, rfl⟩ | ⟨m, hm, hmethod⟩ := of_firstError?_eq_some herror
  · exact .method hs hsplit (hrepeat.resolve_left List.not_mem_nil)
  · exact violates_of_method hnames hs hm hmethod

/-- The error of definitions tells of something that is wrong with them. -/
theorem violates_of_error? {e : DefinitionError} (herror : d.error? = some e) : d.Violates e := by
  rw [error?, kinds_map_fst, Option.or_eq_some_iff] at herror
  rcases herror with hname | ⟨hnone, herror⟩
  · obtain ⟨front, n, back, hsplit, hrepeat, rfl⟩ | ⟨_, _, hcheck⟩ := of_firstError?_eq_some hname
    · exact .type hsplit (hrepeat.resolve_left List.not_mem_nil)
    · cases hcheck
  · have hnames := namesError?_eq_none_iff.mp hnone
    simp only [Option.or_eq_some_iff] at herror
    rcases herror with henum | ⟨_, hmessage | ⟨_, hservice⟩⟩
    · obtain ⟨enum, hmem, henum⟩ := List.exists_of_findSome?_eq_some henum
      exact violates_of_constants hmem henum
    · obtain ⟨m, hmem, hmessage⟩ := List.exists_of_findSome?_eq_some hmessage
      exact violates_of_message hnames hmem hmessage
    · obtain ⟨s, hmem, hservice⟩ := List.exists_of_findSome?_eq_some hservice
      exact violates_of_service hnames hmem hservice

end Definitions

/-- Definitions are accepted exactly if they are valid. The schema holds them as they were given, and the error in
place of a schema tells of something that is wrong with them. -/
theorem Schema.ofDefinitions_exact (d : Definitions) :
    ((∃ s, Schema.ofDefinitions d = .ok s) ↔ d.Valid) ∧
      (∀ s, Schema.ofDefinitions d = .ok s → s.toDefinitions = d) ∧
      ∀ e, Schema.ofDefinitions d = .error e → d.Violates e := by
  rw [← Definitions.error?_eq_none_iff]
  unfold Schema.ofDefinitions
  split
  · next hnone =>
    refine ⟨iff_of_true ⟨_, rfl⟩ hnone, ?_, ?_⟩
    · intro s hs
      cases hs
      rfl
    · intro e he
      cases he
  · next e hsome =>
    refine ⟨iff_of_false (by simp) (by simp [hsome]), ?_, ?_⟩
    · intro s hs
      cases hs
    · intro e' he
      cases he
      exact Definitions.violates_of_error? hsome

end ServiceBindings
