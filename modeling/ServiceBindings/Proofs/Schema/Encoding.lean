import Mathlib.Data.Set.List
import ServiceBindings.Proofs.Json.Reading
import ServiceBindings.Schema.Encoding

/-!
Definitions as JSON. Every definition is written as a normal form and every normal form is one of a definition, so what
is read of a value is what would be written of the result.
-/

namespace ServiceBindings

open Json (Shape Member Record Fault Normal WellFormed)

/-! ### Records of schemas -/

/-- The value of a member that is left out is a normal form. -/
private theorem normal_of_absent (records : List Record) :
    ∀ r ∈ schemaRecords, ∀ m ∈ r.members, ∀ v ∈ m.absent?, Normal records m.shape v := by
  have hempty {item : Shape} : Normal records (.sequence item) (.array []) := .sequence (by simp)
  simp [schemaRecords, optionalMember, listMember, typeShape, namesShape, Member.absent?, Normal.absent, hempty,
    Normal.flag]
  exact ⟨.bare rfl, .bare rfl⟩

theorem schemaRecords_wellFormed : WellFormed schemaRecords where
  names := by decide
  defaults := normal_of_absent schemaRecords
  omitted := by simp [schemaRecords, optionalMember, listMember]

theorem schemaRecords_simple : ∀ r ∈ schemaRecords, ∀ m ∈ r.members, m.shape.simple = true := by
  decide

/-! ### Writing normal forms -/

/-- A way of writing values as the normal forms of a shape, and the way back. -/
structure Encodes {α : Type} (s : Shape) (write : α → Json) (read? : Json → Option α) : Prop where
  normal : ∀ a, Normal schemaRecords s (write a)
  read : ∀ a, read? (write a) = some a
  onto : ∀ v, Normal schemaRecords s v → ∃ a, write a = v

theorem CallPattern.ofName?_name (p : CallPattern) : ofName? p.name = some p := by
  cases p <;> rfl

namespace Encodes

variable {α : Type} {s : Shape} {write : α → Json} {read? : Json → Option α}

theorem text : Encodes .text .string Json.text? where
  normal := .text
  read _ := rfl
  onto v hv := by
    cases hv with
    | text t => exact ⟨t, rfl⟩

theorem flag : Encodes .flag .bool Json.flag? where
  normal := .flag
  read _ := rfl
  onto v hv := by
    cases hv with
    | flag b => exact ⟨b, rfl⟩

theorem optional (h : Encodes s write read?) (hnull : ∀ a, write a ≠ .null) :
    Encodes (.optional s) (fun a? : Option α => a?.elim .null write) (Json.optional? read?) where
  normal a? := by
    cases a? with
    | none => exact .absent s
    | some a => exact .present (h.normal a)
  read a? := by
    cases a? with
    | none => rfl
    | some a => simp [Json.optional?, hnull a, h.read a]
  onto v hv := by
    cases hv with
    | absent => exact ⟨none, rfl⟩
    | present hv =>
      obtain ⟨a, rfl⟩ := h.onto v hv
      exact ⟨some a, rfl⟩

theorem list (h : Encodes s write read?) :
    Encodes (.sequence s) (fun as : List α => .array (as.map write)) (Json.list? read?) where
  normal as := .sequence (List.forall_mem_map.mpr fun a _ => h.normal a)
  read as := mapM_map_eq_some h.read as
  onto v hv := by
    cases hv with
    | @sequence _ items hitems =>
      have hrange : items ∈ Set.range (List.map write) := by
        rw [Set.range_list_map]
        exact fun v hv => h.onto v (hitems v hv)
      obtain ⟨as, rfl⟩ := hrange
      exact ⟨as, rfl⟩

/-- Call patterns are written by their names. -/
theorem pattern : Encodes (namesShape (CallPattern.all.map CallPattern.name)) (fun p => .string p.name)
    (fun v => v.text?.bind CallPattern.ofName?) where
  normal p := .bare (by cases p <;> rfl)
  read := CallPattern.ofName?_name
  onto v hv := by
    obtain ⟨name, hname, rfl⟩ | ⟨name, s, hname, rfl⟩ := hv.choice_cases
    · obtain ⟨p, _, rfl⟩ := List.mem_map.mp (by simpa using hname)
      exact ⟨p, rfl⟩
    · simp at hname

/-- Types are written by their keywords or, if they have a name, as an object with the name. -/
theorem type : Encodes typeShape DataType.toJson DataType.ofJson? where
  normal t := by
    cases t with
    | named n => exact .tagged rfl n
    | _ => exact .bare rfl
  read t := by cases t <;> rfl
  onto v hv := by
    obtain ⟨name, hname, rfl⟩ | ⟨name, s, hname, rfl⟩ := hv.choice_cases
    · obtain ⟨t, ht, rfl⟩ : ∃ t ∈ DataType.scalars, t.keyword = name := by simpa using hname
      refine ⟨t, ?_⟩
      cases t with
      | named n => simp [DataType.scalars] at ht
      | _ => rfl
    · obtain rfl : name = "named" := by simpa using hname
      exact ⟨.named s, rfl⟩

end Encodes

/-- A way of writing values as the members of a record in their places. -/
structure EncodesMembers {α : Type} (ms : List Member) (write : α → List (String × Json)) : Prop where
  filled : ∀ a, Record.Filled (fun m v => Normal schemaRecords m.shape v) ms (write a)
  onto : ∀ es, Record.Filled (fun m v => Normal schemaRecords m.shape v) ms es → ∃ a, write a = es

namespace EncodesMembers

variable {α β : Type}

theorem nil : EncodesMembers [] fun _ : Unit => [] where
  filled _ := .nil
  onto es hes := by
    cases hes
    exact ⟨(), rfl⟩

theorem cons {m : Member} {ms : List Member} {write : α → Json} {read? : Json → Option α}
    {others : β → List (String × Json)} (h : Encodes m.shape write read?) (hshown : m.omitted = false)
    (hrest : EncodesMembers ms others) :
    EncodesMembers (m :: ms) fun ab : α × β => (m.name, write ab.1) :: others ab.2 where
  filled := by
    rintro ⟨a, b⟩
    have hfilled := Record.Filled.cons (P := fun m v => Normal schemaRecords m.shape v) (h.normal a) (hrest.filled b)
    rwa [Record.place_of_shown hshown] at hfilled
  onto es hes := by
    cases hes with
    | cons hv hes =>
      obtain ⟨a, rfl⟩ := h.onto _ hv
      obtain ⟨b, rfl⟩ := hrest.onto _ hes
      exact ⟨(a, b), by rw [Record.place_of_shown hshown]; rfl⟩

end EncodesMembers

/-- Values that are made of parts are written as a record if their parts are written as its members. -/
theorem Encodes.record {α β : Type} {write : α → Json} {read? : Json → Option α} {parts : β → List (String × Json)}
    {name : String} {r : Record} (hr : Record.find? schemaRecords name = some r)
    (h : EncodesMembers r.members parts) (make : β → α) (hmake : Function.Surjective make)
    (hwrite : ∀ b, write (make b) = .object (parts b)) (hread : ∀ a, read? (write a) = some a) :
    Encodes (.record name) write read? where
  normal a := by
    obtain ⟨b, rfl⟩ := hmake a
    rw [hwrite]
    exact Json.normal_of_filled schemaRecords_wellFormed hr (h.filled b)
  read := hread
  onto v hv := by
    cases hv with
    | record hr' value hvalue =>
      obtain rfl := Option.some.inj (hr.symm.trans hr')
      obtain ⟨b, hb⟩ := h.onto _ (Record.filled_entries hvalue)
      exact ⟨make b, by rw [hwrite, hb]⟩

namespace Encodes

theorem pathParameter : Encodes (.record "PathParameter") PathParameter.toJson PathParameter.ofJson? := by
  refine .record rfl (.cons text rfl (.cons type rfl .nil)) (fun ⟨name, type, ()⟩ => ⟨name, type⟩)
    (fun p => ⟨(p.name, p.type, ()), rfl⟩) (fun _ => rfl) fun p => ?_
  simp [PathParameter.toJson, PathParameter.ofJson?, Json.member?, Json.get?, List.lookup_cons, text.read, type.read]

private theorem optionalText : Encodes (.optional .text) Json.ofText? (Json.optional? Json.text?) := by
  have hwrite : Json.ofText? = fun t? => t?.elim .null .string := by
    funext t?
    cases t? <;> rfl
  rw [hwrite]
  exact text.optional fun _ => nofun

private theorem optionalType :
    Encodes (.optional typeShape) DataType.toJson? (Json.optional? DataType.ofJson?) := by
  have hwrite : DataType.toJson? = fun t? => t?.elim .null DataType.toJson := by
    funext t?
    cases t? <;> rfl
  rw [hwrite]
  refine type.optional fun t => ?_
  cases t <;> exact nofun

theorem method : Encodes (.record "Method") Method.toJson Method.ofJson? := by
  refine .record rfl
    (.cons text rfl <| .cons pattern rfl <| .cons optionalType rfl <| .cons optionalType rfl <|
      .cons pathParameter.list rfl <| .cons optionalText rfl <| .cons optionalText rfl .nil)
    (fun ⟨name, pattern, request, response, params, segment, description, ()⟩ =>
      ⟨name, pattern, request, response, params, segment, description⟩)
    (fun m => ⟨(m.name, m.pattern, m.request, m.response, m.pathParams, m.httpSegment, m.description, ()), rfl⟩)
    (fun _ => rfl) fun m => ?_
  simp [Method.toJson, Method.ofJson?, Json.member?, Json.get?, List.lookup_cons, text.read,
    CallPattern.ofName?_name, optionalType.read, pathParameter.list.read, optionalText.read]

theorem service : Encodes (.record "Service") Service.toJson Service.ofJson? := by
  refine .record rfl (.cons text rfl <| .cons optionalText rfl <| .cons method.list rfl .nil)
    (fun ⟨name, description, methods, ()⟩ => ⟨name, description, methods⟩)
    (fun s => ⟨(s.name, s.description, s.methods, ()), rfl⟩) (fun _ => rfl) fun s => ?_
  simp [Service.toJson, Service.ofJson?, Json.member?, Json.get?, List.lookup_cons, text.read, optionalText.read,
    method.list.read]

theorem constant : Encodes (.record "Constant") Constant.toJson Constant.ofJson? := by
  refine .record rfl (.cons text rfl <| .cons text rfl .nil) (fun ⟨name, value, ()⟩ => ⟨name, value⟩)
    (fun c => ⟨(c.name, c.value, ()), rfl⟩) (fun _ => rfl) fun c => ?_
  simp [Constant.toJson, Constant.ofJson?, Json.member?, Json.get?, List.lookup_cons, text.read]

theorem enumeration : Encodes (.record "Enumeration") Enumeration.toJson Enumeration.ofJson? := by
  refine .record rfl (.cons text rfl <| .cons optionalText rfl <| .cons constant.list rfl .nil)
    (fun ⟨name, description, constants, ()⟩ => ⟨name, description, constants⟩)
    (fun e => ⟨(e.name, e.description, e.constants, ()), rfl⟩) (fun _ => rfl) fun e => ?_
  simp [Enumeration.toJson, Enumeration.ofJson?, Json.member?, Json.get?, List.lookup_cons, text.read,
    optionalText.read, constant.list.read]

theorem field : Encodes (.record "Field") Field.toJson Field.ofJson? := by
  refine .record rfl (.cons text rfl <| .cons type rfl <| .cons flag rfl .nil)
    (fun ⟨name, type, required, ()⟩ => ⟨name, type, required⟩)
    (fun f => ⟨(f.name, f.type, f.required, ()), rfl⟩) (fun _ => rfl) fun f => ?_
  simp [Field.toJson, Field.ofJson?, Json.member?, Json.get?, List.lookup_cons, text.read, type.read, flag.read]

theorem message : Encodes (.record "Message") Message.toJson Message.ofJson? := by
  refine .record rfl (.cons text rfl <| .cons optionalText rfl <| .cons field.list rfl .nil)
    (fun ⟨name, description, fields, ()⟩ => ⟨name, description, fields⟩)
    (fun m => ⟨(m.name, m.description, m.fields, ()), rfl⟩) (fun _ => rfl) fun m => ?_
  simp [Message.toJson, Message.ofJson?, Json.member?, Json.get?, List.lookup_cons, text.read, optionalText.read,
    field.list.read]

theorem definitions : Encodes (.record "Definitions") Definitions.toJson Definitions.ofJson? := by
  refine .record rfl
    (.cons text rfl <| .cons service.list rfl <| .cons enumeration.list rfl <| .cons message.list rfl .nil)
    (fun ⟨package, services, enums, messages, ()⟩ => ⟨package, services, enums, messages⟩)
    (fun d => ⟨(d.package, d.services, d.enums, d.messages, ()), rfl⟩) (fun _ => rfl) fun d => ?_
  simp [Definitions.toJson, Definitions.ofJson?, Json.member?, Json.get?, List.lookup_cons, text.read,
    service.list.read, enumeration.list.read, message.list.read]

end Encodes

/-! ### Depth -/

section Depth

open Json (Textual)

variable (depth : Nat)

theorem DataType.textual (t : DataType) : Textual (depth + 1) t.toJson := by
  cases t with
  | named n => exact .object (by simp [Textual.string])
  | _ => exact .string _ _

theorem DataType.textual? (t? : Option DataType) : Textual (depth + 1) (toJson? t?) := by
  cases t? with
  | none => exact .null _
  | some t => exact t.textual depth

theorem Json.textual_ofText? (t? : Option String) : Textual depth (Json.ofText? t?) := by
  cases t? with
  | none => exact .null _
  | some t => exact .string _ t

theorem PathParameter.textual (p : PathParameter) : Textual (depth + 2) p.toJson :=
  .object (by simp [Textual.string, DataType.textual])

theorem Method.textual (m : Method) : Textual (depth + 4) m.toJson := by
  have hparams : Textual (depth + 3) (.array (m.pathParams.map PathParameter.toJson)) :=
    .array (List.forall_mem_map.mpr fun p _ => p.textual depth)
  exact .object (by simp [Textual.string, DataType.textual?, Json.textual_ofText?, hparams])

theorem Service.textual (s : Service) : Textual (depth + 6) s.toJson := by
  have hmethods : Textual (depth + 5) (.array (s.methods.map Method.toJson)) :=
    .array (List.forall_mem_map.mpr fun m _ => m.textual depth)
  exact .object (by simp [Textual.string, Json.textual_ofText?, hmethods])

theorem Constant.textual (c : Constant) : Textual (depth + 1) c.toJson :=
  .object (by simp [Textual.string])

theorem Enumeration.textual (e : Enumeration) : Textual (depth + 3) e.toJson := by
  have hconstants : Textual (depth + 2) (.array (e.constants.map Constant.toJson)) :=
    .array (List.forall_mem_map.mpr fun c _ => c.textual depth)
  exact .object (by simp [Textual.string, Json.textual_ofText?, hconstants])

theorem Field.textual (f : Field) : Textual (depth + 2) f.toJson :=
  .object (by simp [Textual.string, Textual.bool, DataType.textual])

theorem Message.textual (m : Message) : Textual (depth + 4) m.toJson := by
  have hfields : Textual (depth + 3) (.array (m.fields.map Field.toJson)) :=
    .array (List.forall_mem_map.mpr fun f _ => f.textual depth)
  exact .object (by simp [Textual.string, Json.textual_ofText?, hfields])

/-- Definitions are nested far less deeply than readers allow. -/
theorem Definitions.textual (d : Definitions) : Textual (depth + 8) d.toJson := by
  have hservices : Textual (depth + 7) (.array (d.services.map Service.toJson)) :=
    .array (List.forall_mem_map.mpr fun s _ => s.textual depth)
  have henums : Textual (depth + 7) (.array (d.enums.map Enumeration.toJson)) :=
    .array (List.forall_mem_map.mpr fun e _ => e.textual (depth + 3))
  have hmessages : Textual (depth + 7) (.array (d.messages.map Message.toJson)) :=
    .array (List.forall_mem_map.mpr fun m _ => m.textual (depth + 2))
  exact .object (by simp [Textual.string, hservices, henums, hmessages])

end Depth

/-! ### Reading -/

theorem Encodes.injective {α : Type} {s : Shape} {write : α → Json} {read? : Json → Option α}
    (h : Encodes s write read?) : Function.Injective write := fun a b heq =>
  Option.some.inj ((h.read a).symm.trans (heq ▸ h.read b))

/-- The definitions that a value stands for, whether they are valid or not. -/
def Definitions.ofJson : Json → Except Fault Definitions :=
  acceptRecord "Definitions" Definitions.ofJson?

/-- Definitions are read of a value exactly if it is taken as their JSON. -/
theorem Definitions.ofJson_eq_ok {v : Json} {d : Definitions} :
    Definitions.ofJson v = .ok d ↔ Shape.accept schemaRecords (.record "Definitions") v = .ok d.toJson := by
  unfold Definitions.ofJson acceptRecord
  cases haccept : Shape.accept schemaRecords (.record "Definitions") v with
  | error f => simp [bind, Except.bind]
  | ok w =>
    obtain ⟨d', rfl⟩ := Encodes.definitions.onto w (Json.normal_of_accept schemaRecords_wellFormed v haccept)
    simp [bind, Except.bind, Encodes.definitions.read, Encodes.definitions.injective.eq_iff]

namespace Schema

variable {s : Schema}

theorem ofDefinitions_eq_ok {d : Definitions} : ofDefinitions d = .ok s ↔ s.toDefinitions = d := by
  obtain ⟨d', hvalid⟩ := s
  unfold ofDefinitions
  split
  · simp [eq_comm]
  · next e herror =>
    refine iff_of_false nofun ?_
    rintro rfl
    cases hvalid.symm.trans herror

/-- A schema is made of exactly the normal form that would be written of it. -/
theorem ofNormal_eq_ok {v : Json} (hv : Normal schemaRecords (.record "Definitions") v) :
    ofNormal v = .ok s ↔ v = s.toJson := by
  obtain ⟨d, rfl⟩ := Encodes.definitions.onto v hv
  rw [toJson, Encodes.definitions.injective.eq_iff, @eq_comm _ d, ← ofDefinitions_eq_ok, ofNormal,
    Encodes.definitions.read]
  cases hd : ofDefinitions d <;> simp [hd]

/-- A schema is read as definitions that are then checked. -/
theorem ofJson_eq (v : Json) :
    ofJson v = (Definitions.ofJson v).bind fun d => (ofDefinitions d).mapError fun e => .refused e.message := by
  unfold ofJson Definitions.ofJson acceptRecord ofNormal
  cases Shape.accept schemaRecords (.record "Definitions") v with
  | error f => rfl
  | ok w =>
    simp only [ok_bind]
    cases Definitions.ofJson? w with
    | none => rfl
    | some d =>
      simp only [Except.bind]
      cases ofDefinitions d <;> rfl

theorem ofJson_eq_ok {v : Json} :
    ofJson v = .ok s ↔ Shape.accept schemaRecords (.record "Definitions") v = .ok s.toJson := by
  unfold ofJson
  cases haccept : Shape.accept schemaRecords (.record "Definitions") v with
  | error f => simp [bind, Except.bind]
  | ok w =>
    rw [ok_bind, ofNormal_eq_ok (Json.normal_of_accept schemaRecords_wellFormed v haccept), Except.ok.injEq]

theorem read_eq_ok {text : Text.Glyphs} :
    read text = .ok s ↔ Shape.read schemaRecords (.record "Definitions") text = .ok s.toJson := by
  unfold read Shape.read
  cases hread : Json.readValue schemaRecords (3 * text.length + 8) Json.depthLimit (.record "Definitions") text with
  | error f => simp [bind, Except.bind]
  | ok found =>
    obtain ⟨w, rest⟩ := found
    have hmade := ofNormal_eq_ok (s := s) (Json.normal_of_readValue schemaRecords_wellFormed _ hread)
    simp only [ok_bind, bind_eq_ok]
    by_cases hend : Json.skipBlanks rest = []
    · simp [hend, hmade]
    · simp [hend]

/-- The JSON of a schema is a normal form, with every member in its place, and is read as the schema again, from the
value and from the text. A value or text is read as a schema exactly if it is taken as the JSON of the schema, whatever
members it leaves out or has in addition; the definitions that it stands for are those of the schema, and have been
checked. Where no schema is read of a value, it does not stand for definitions, or these are not valid. -/
theorem json_round_trip :
    (∀ s : Schema, Normal schemaRecords (.record "Definitions") s.toJson ∧ ofJson s.toJson = .ok s ∧
      read (.ofChars s.toJson.render.toList) = .ok s) ∧
      (∀ v s, ofJson v = .ok s ↔ Shape.accept schemaRecords (.record "Definitions") v = .ok s.toJson) ∧
      (∀ text s, read text = .ok s ↔ Shape.read schemaRecords (.record "Definitions") text = .ok s.toJson) ∧
      (∀ v s, ofJson v = .ok s → Definitions.ofJson v = .ok s.toDefinitions ∧ ofDefinitions s.toDefinitions = .ok s) ∧
      ∀ v f, ofJson v = .error f → Definitions.ofJson v = .error f ∨
        ∃ d e, Definitions.ofJson v = .ok d ∧ ofDefinitions d = .error e ∧ f = .refused e.message := by
  refine ⟨fun s => ?written, fun v s => ofJson_eq_ok, fun text s => read_eq_ok, fun v s hs => ?taken,
    fun v f hf => ?refused⟩
  case written =>
    have hnormal := Encodes.definitions.normal s.toDefinitions
    have htextual : Json.Textual Json.depthLimit s.toJson := s.toDefinitions.textual 119
    exact ⟨hnormal, ofJson_eq_ok.mpr (Json.accept_of_normal schemaRecords_wellFormed hnormal),
      read_eq_ok.mpr (Shape.read_of_normal schemaRecords_wellFormed schemaRecords_simple hnormal rfl htextual)⟩
  case taken =>
    exact ⟨Definitions.ofJson_eq_ok.mpr (ofJson_eq_ok.mp hs), ofDefinitions_eq_ok.mpr rfl⟩
  case refused =>
    rw [ofJson_eq] at hf
    cases hd : Definitions.ofJson v with
    | error e =>
      rw [hd] at hf
      exact .inl (by simpa [Except.bind] using hf)
    | ok d =>
      rw [hd] at hf
      cases hs : ofDefinitions d with
      | error e =>
        refine .inr ⟨d, e, rfl, hs, ?_⟩
        simpa [Except.bind, hs, Except.mapError] using hf.symm
      | ok s => simp [Except.bind, hs, Except.mapError] at hf

/-- A value that leaves out members and has others in addition is read, and what is written of it is read the same. -/
theorem partial_value_read_back :
    let v : Json := .object [("note", .null), ("package", .string "p"),
      ("messages", .array [.object [("name", .string "M"), ("size", .number (.integer 1))]])]
    ∃ s : Schema, ofJson v = .ok s ∧ s.toDefinitions = { package := "p", messages := [{ name := "M" }] } ∧
      ofJson s.toJson = .ok s := by
  intro v
  have hvalid : ({ package := "p", messages := [{ name := "M" }] } : Definitions).error? = none := by decide +kernel
  let s : Schema := ⟨{ package := "p", messages := [{ name := "M" }] }, hvalid⟩
  refine ⟨s, (json_round_trip.2.1 v s).mpr ?_, rfl, (json_round_trip.1 s).2.1⟩
  rfl

end Schema

end ServiceBindings
