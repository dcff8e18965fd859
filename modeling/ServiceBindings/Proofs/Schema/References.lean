import ServiceBindings.Proofs.Schema.Validation

/-!
References of valid definitions. Every type that is mentioned is there, as an enumeration or as a message but never as
both, and every way of looking up its name tells the same of the two.
-/

namespace ServiceBindings

theorem DataType.name?_eq_some_iff {t : DataType} {n : String} : t.name? = some n ↔ t = .named n := by
  cases t <;> simp [DataType.name?]

namespace Definitions

variable {d : Definitions} {inPath : Bool} {n : String} {t : DataType}

/-- Whether definitions mention a type, in the path of a method or elsewhere. -/
inductive Mentions (d : Definitions) : (inPath : Bool) → DataType → Prop
  | field {m : Message} (hm : m ∈ d.messages) {f : Field} (hf : f ∈ m.fields) : Mentions d false f.type
  | request {s : Service} (hs : s ∈ d.services) {m : Method} (hm : m ∈ s.methods) {t : DataType}
      (ht : m.request = some t) : Mentions d false t
  | response {s : Service} (hs : s ∈ d.services) {m : Method} (hm : m ∈ s.methods) {t : DataType}
      (ht : m.response = some t) : Mentions d false t
  | param {s : Service} (hs : s ∈ d.services) {m : Method} (hm : m ∈ s.methods) {p : PathParameter}
      (hp : p ∈ m.pathParams) : Mentions d true p.type

/-- A method mentions its types. -/
theorem mentions_of_mem_types {s : Service} (hs : s ∈ d.services) {m : Method} (hm : m ∈ s.methods)
    (ht : t ∈ m.types) : ∃ inPath, d.Mentions inPath t := by
  simp only [Method.types, List.mem_append, Option.mem_toList, List.mem_map] at ht
  rcases ht with (hrequest | hresponse) | ⟨p, hp, rfl⟩
  · exact ⟨false, .request hs hm hrequest⟩
  · exact ⟨false, .response hs hm hresponse⟩
  · exact ⟨true, .param hs hm hp⟩

/-- What valid definitions mention is allowed in its place. -/
theorem Valid.resolves (h : d.Valid) (hmention : d.Mentions inPath t) : d.Resolves inPath t := by
  cases hmention with
  | field hm hf => exact (h.messages _ hm).types _ hf
  | request hs hm ht => exact ((h.services _ hs).methods _ hm).request _ ht
  | response hs hm ht => exact ((h.services _ hs).methods _ hm).response _ ht
  | param hs hm hp => exact ((h.services _ hs).methods _ hm).types _ hp

/-! ### Looking up -/

theorem enum?_isSome_iff : (d.enum? n).isSome = true ↔ ∃ e ∈ d.enums, e.name = n := by
  simp [enum?, List.find?_isSome]

theorem message?_isSome_iff : (d.message? n).isSome = true ↔ ∃ m ∈ d.messages, m.name = n := by
  simp [message?, List.find?_isSome]

theorem enum?_ne_none {e : Enumeration} (he : e ∈ d.enums) : d.enum? e.name ≠ none :=
  Option.isSome_iff_ne_none.mp (enum?_isSome_iff.mpr ⟨e, he, rfl⟩)

theorem isEnum_named : d.isEnum (.named n) = (d.enum? n).isSome := rfl

/-- Where messages have different names, the message of a name is the only one. -/
theorem message?_eq_some_iff (hnames : (d.messages.map (·.name)).Nodup) {m : Message} :
    d.message? n = some m ↔ m ∈ d.messages ∧ m.name = n :=
  find?_key_eq_some_iff hnames

theorem Valid.enum_names (h : d.Valid) : (d.enums.map (·.name)).Nodup := by
  have hnames := List.Nodup.of_map pascalCase h.names
  rw [typeNames, List.append_assoc] at hnames
  exact (List.nodup_append.mp hnames).1

theorem Valid.message_names (h : d.Valid) : (d.messages.map (·.name)).Nodup := by
  have hnames := List.Nodup.of_map pascalCase h.names
  rw [typeNames, List.append_assoc] at hnames
  exact (List.nodup_append.mp (List.nodup_append.mp hnames).2.1).1

/-- The look-up of an enumeration tells the same as the table of kinds. -/
theorem Valid.isEnum_iff (h : d.Valid) : d.isEnum (.named n) = true ↔ d.kinds.lookup n = some .enumeration := by
  rw [isEnum_named, enum?_isSome_iff, lookup_enumeration_iff h.names]

/-- No enumeration has the name of a message. -/
theorem Valid.enum?_eq_none (h : d.Valid) {m : Message} (hm : m ∈ d.messages) : d.enum? m.name = none := by
  have hkind := (lookup_message_iff h.names).mpr ⟨m, hm, rfl⟩
  refine Option.not_isSome_iff_eq_none.mp fun hsome => ?_
  rw [(lookup_enumeration_iff h.names).mpr (enum?_isSome_iff.mp hsome)] at hkind
  cases hkind

/-- No message has the name of an enumeration. -/
theorem Valid.message?_eq_none (h : d.Valid) {e : Enumeration} (he : e ∈ d.enums) : d.message? e.name = none := by
  refine Option.not_isSome_iff_eq_none.mp fun hsome => ?_
  obtain ⟨m, hm, hname⟩ := message?_isSome_iff.mp hsome
  exact enum?_ne_none he (hname ▸ h.enum?_eq_none hm)

/-- A reference that is allowed in its place is to an enumeration, or outside of paths to a message. -/
theorem Valid.meets_cases (h : d.Valid) (hmeets : d.Meets inPath n) :
    (∃ e, d.enum? n = some e) ∧ d.message? n = none ∨
      inPath = false ∧ d.enum? n = none ∧ ∃ m, d.message? n = some m := by
  rcases hmeets with ⟨e, he, rfl⟩ | ⟨hplace, m, hm, rfl⟩
  · exact .inl ⟨Option.isSome_iff_exists.mp (enum?_isSome_iff.mpr ⟨e, he, rfl⟩), h.message?_eq_none he⟩
  · exact .inr ⟨hplace, h.enum?_eq_none hm, Option.isSome_iff_exists.mp (message?_isSome_iff.mpr ⟨m, hm, rfl⟩)⟩

end Definitions

end ServiceBindings
