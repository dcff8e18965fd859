import ServiceBindings.Proofs.Bindings.Values
import ServiceBindings.Proofs.Generate.Imports

/-!
The types of a generated crate are sound. Every structure is a record of the fields of a message, under their names in
the schema, and every codec belongs to an enumeration. This does not depend on what identifiers the names become.
-/

namespace ServiceBindings.Bindings

open Code Generate

variable {d : Definitions} {f : File}

theorem namedShape_single (items : List Item) (type : Ident) :
    (namedShape items type).simple = true ∧ (namedShape items type).isOptional = false := by
  unfold namedShape
  split
  · split <;> exact ⟨rfl, rfl⟩
  · unfold primitiveShape?
    split <;> exact ⟨rfl, rfl⟩

/-- The values of a type of the schema are never `null`. -/
theorem shape?_valueType {t : DataType} {type : Ty} (htype : valueType t = .ok type) {items : List Item}
    {s : Json.Shape} (hs : shape? items type = some s) : s.simple = true ∧ s.isOptional = false := by
  cases t with
  | named n =>
    simp only [valueType, bind_eq_ok, pure_eq_ok] at htype
    obtain ⟨i, _, rfl⟩ := htype
    obtain rfl := Option.some.inj hs
    exact namedShape_single items i
  | string =>
    obtain rfl := Except.ok.inj htype
    obtain rfl := Option.some.inj hs
    exact ⟨rfl, rfl⟩
  | bool | i32 | i64 | u32 | u64 | f32 | f64 =>
    obtain rfl := Except.ok.inj htype
    obtain rfl := Option.some.inj hs
    exact namedShape_single items _

theorem fieldMember_name (field : Field) (s : Json.Shape) : (fieldMember field s).name = field.name := by
  unfold fieldMember
  split <;> rfl

theorem fieldMember_simple (field : Field) {s : Json.Shape} (hsimple : s.simple = true)
    (hoptional : s.isOptional = false) : (fieldMember field s).shape.simple = true := by
  unfold fieldMember
  split
  · exact hsimple
  · simp [Json.Shape.simple, hsimple, hoptional]

/-- Every structure in the file of types is a record, whose members are the fields of a message. -/
theorem recordOf?_struct (hfile : typesFile d = .ok f) {attrs : List Attribute} {isPub : Bool} {type : Ident}
    {fields : List FieldDecl} (hitem : .struct attrs isPub type (some fields) ∈ f.items) :
    ∃ m ∈ d.messages, ∃ r, recordOf? f.items (.struct attrs isPub type (some fields)) = some r ∧
      List.Forall₂ (fun field member => ∃ s : Json.Shape, s.simple = true ∧ s.isOptional = false ∧
        fieldMember field s = member) m.fields r.members := by
  obtain ⟨m, hm, _, hfields⟩ := message_of_struct hfile hitem
  have hmembers : List.Forall₂ (fun field code => ∃ member, memberOf? f.items code = some member ∧
      ∃ s : Json.Shape, s.simple = true ∧ s.isOptional = false ∧ fieldMember field s = member) m.fields fields := by
    refine hfields.imp fun field code hcode => ?_
    obtain ⟨owned, s, howned, hs, hmember⟩ := memberOf?_fieldDecl hcode f.items
    obtain ⟨hsimple, hoptional⟩ := shape?_valueType howned hs
    exact ⟨_, hmember, s, hsimple, hoptional, rfl⟩
  obtain ⟨members, hmapM, _, hmembers⟩ := exists_of_forall₂_some hmembers
  exact ⟨m, hm, ⟨type.name, type.name, members⟩, by rw [recordOf?, hmapM]; rfl, hmembers⟩

theorem mem_records (hfile : typesFile d = .ok f) {r : Json.Record} (hr : r ∈ records f.items) :
    ∃ m ∈ d.messages, List.Forall₂ (fun field member => ∃ s : Json.Shape, s.simple = true ∧ s.isOptional = false ∧
      fieldMember field s = member) m.fields r.members := by
  obtain ⟨item, hitem, hrecord⟩ := List.mem_filterMap.mp hr
  obtain ⟨attrs, isPub, type, fields, rfl, _, _⟩ := recordOf?_inv hrecord
  obtain ⟨m, hm, r', hr', hmembers⟩ := recordOf?_struct hfile hitem
  obtain rfl := Option.some.inj (hrecord.symm.trans hr')
  exact ⟨m, hm, hmembers⟩

/-- Every codec in the file of types belongs to an enumeration that it declares. -/
theorem enum_of_codec?_mem (hfile : typesFile d = .ok f) {type : Ident} {c : Codec}
    (hc : codec? f.items type = some c) : ∃ attrs variants, .enumeration attrs type variants ∈ f.items := by
  obtain ⟨e, he, htype, _⟩ := enum_of_codec? hfile hc
  obtain ⟨enums, messages, henums, _, hitems⟩ := typesFile_inv hfile
  obtain ⟨code, hmem, hcode⟩ := (exists_of_forall₂ henums).1 e he
  obtain ⟨name, arms, hname, _, rfl⟩ := enumCode_inv hcode
  obtain rfl := Option.some.inj (hname.symm.trans htype)
  exact ⟨_, _, hitems ▸ List.mem_append_left _ (List.mem_flatten_of_mem hmem List.mem_cons_self)⟩

/-- The types that are generated for a schema are sound, even where names of it denote one word. -/
theorem sound_typesFile (hvalid : d.Valid) (hfile : typesFile d = .ok f) : Sound f.items where
  records := by
    refine ⟨fun r hr => ?names, fun r hr member hmember v hv => ?defaults, fun r hr member hmember homitted => ?omitted⟩
    case names =>
      obtain ⟨m, hm, hmembers⟩ := mem_records hfile hr
      have hnames : List.Forall₂ (· = ·) (m.fields.map (·.name)) (r.members.map (·.name)) := by
        refine List.forall₂_map_left_iff.mpr (List.forall₂_map_right_iff.mpr (hmembers.imp fun field member h => ?_))
        obtain ⟨s, _, _, rfl⟩ := h
        exact (fieldMember_name field s).symm
      rw [List.forall₂_eq_eq_eq] at hnames
      rw [← hnames]
      refine List.Nodup.of_map snakeCase ?_
      rw [List.map_map]
      exact (hvalid.messages m hm).names
    case defaults =>
      obtain ⟨m, hm, hmembers⟩ := mem_records hfile hr
      obtain ⟨field, _, s, _, hoptional, rfl⟩ := (exists_of_forall₂ hmembers).2 member hmember
      unfold fieldMember at hv ⊢
      split at hv
      · next hrequired =>
        rw [if_pos hrequired]
        cases s with
        | optional | any => cases hoptional
        | _ => cases hv
      · next hrequired =>
        rw [if_neg hrequired]
        obtain rfl := Option.some.inj hv
        exact .absent s
    case omitted =>
      obtain ⟨m, hm, hmembers⟩ := mem_records hfile hr
      obtain ⟨field, _, s, _, _, rfl⟩ := (exists_of_forall₂ hmembers).2 member hmember
      unfold fieldMember at homitted ⊢
      split at homitted
      · cases homitted
      · next hrequired =>
        rw [if_neg hrequired]
        rfl
  simple := by
    intro r hr member hmember
    obtain ⟨m, hm, hmembers⟩ := mem_records hfile hr
    obtain ⟨field, _, s, hsimple, hoptional, rfl⟩ := (exists_of_forall₂ hmembers).2 member hmember
    exact fieldMember_simple field hsimple hoptional
  structs := by
    intro attrs isPub type fields hitem
    obtain ⟨_, _, r, hr, _⟩ := recordOf?_struct hfile hitem
    exact ⟨r, hr⟩
  enums _ _ hc := enum_of_codec?_mem hfile hc
  codecs := by
    intro type c hc
    obtain ⟨e, he, _, hcodec⟩ := enum_of_codec? hfile hc
    exact ⟨e, hvalid.enums e he, hcodec⟩

end ServiceBindings.Bindings
