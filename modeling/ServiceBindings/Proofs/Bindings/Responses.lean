import ServiceBindings.Proofs.Bindings.RoundTrip

/-!
The JSON values of types of a schema, and the normal forms of the shapes that the types have in code. They are the same,
if types are declared once and no primitive type that the values are made of is hidden.
-/

namespace ServiceBindings.Bindings

open Code Generate Definitions

variable {d : Definitions} {f : File}

/-! ### Values of a schema -/

mutual

/-- The JSON values of a type of the schema: constants by their wire values, and messages by the names of their
fields. -/
inductive JsonOf (d : Definitions) : DataType → Json → Prop
  | string (s : String) : JsonOf d .string (.string s)
  | bool (b : Bool) : JsonOf d .bool (.bool b)
  | integer {t : DataType} {k : Json.IntegerKind} (hkind : t.integerKind? = some k) {n : Int}
      (hrange : k.contains n = true) : JsonOf d t (.number (.integer n))
  | f32 (bits : Nat) : JsonOf d .f32 (.number (.single bits))
  | f64 (bits : Nat) : JsonOf d .f64 (.number (.double bits))
  | constant {e : Enumeration} (he : e ∈ d.enums) {c : Constant} (hc : c ∈ e.constants) :
      JsonOf d (.named e.name) (.string c.value)
  | message {m : Message} (hm : m ∈ d.messages) {members : List (String × Json)}
      (h : JsonFields d m.fields members) : JsonOf d (.named m.name) (.object members)

/-- The members for the fields of a message, in the order of the fields. One that is not required may be absent. -/
inductive JsonFields (d : Definitions) : List Field → List (String × Json) → Prop
  | nil : JsonFields d [] []
  | absent {field : Field} (hrequired : field.required = false) {fields : List Field}
      {members : List (String × Json)} (hrest : JsonFields d fields members) : JsonFields d (field :: fields) members
  | present {field : Field} {j : Json} (hj : JsonOf d field.type j) {fields : List Field}
      {members : List (String × Json)} (hrest : JsonFields d fields members) :
      JsonFields d (field :: fields) ((field.name, j) :: members)

end

theorem JsonOf.ne_null {t : DataType} {j : Json} (h : JsonOf d t j) : j ≠ .null := by
  rintro rfl
  cases h

/-! ### Records -/

/-- A field and the member that it becomes in code. -/
def Becomes (items : List Item) (field : Field) (member : Json.Member) : Prop :=
  ∃ owned s, valueType field.type = .ok owned ∧ shape? items owned = some s ∧ fieldMember field s = member

/-- The record under the word of a message has the fields of the message as its members. -/
theorem record_of_message (hfile : typesFile d = .ok f) (hapart : EachScope Apart d) {m : Message} (hm : m ∈ d.messages)
    {word : String} (hword : Denotes (pascalCase m.name) word) :
    ∃ r, Json.Record.find? (records f.items) word = some r ∧
      List.Forall₂ (Becomes f.items) m.fields r.members := by
  obtain ⟨enums, messages, _, hmessages, hitems⟩ := typesFile_inv hfile
  obtain ⟨item, hitem, hcode⟩ := (exists_of_forall₂ hmessages).1 m hm
  obtain ⟨attrs, name, codes, hname, hcodes, rfl⟩ := messageCode_inv hcode
  obtain ⟨i, hi, rfl⟩ := hword.ofName?
  obtain rfl := Option.some.inj (hname.symm.trans hi)
  have hsole := filter_declares_eq ((distinct_iff_apart (typesFile_types hfile)).mpr hapart.types)
    (hitems ▸ List.mem_append_right _ hitem) rfl
  have hmembers : List.Forall₂ (fun field code => ∃ member, memberOf? f.items code = some member ∧
      Becomes f.items field member) m.fields codes := by
    refine hcodes.imp fun field code hcode => ?_
    obtain ⟨owned, s, howned, hs, hmember⟩ := memberOf?_fieldDecl hcode f.items
    exact ⟨_, hmember, owned, s, howned, hs, rfl⟩
  obtain ⟨members, hmapM, _, hmembers⟩ := exists_of_forall₂_some hmembers
  exact ⟨⟨name.name, name.name, members⟩, find?_record hsole (by rw [recordOf?, hmapM]; rfl), hmembers⟩

/-- Whether no type of the schema takes the name of a primitive one that fields of a message of this type, or of one
within it, have. -/
def FieldsUnhidden (d : Definitions) (t : DataType) : Prop :=
  ∀ m ∈ d.messages, t = .named m.name → ∀ field ∈ m.fields, d.Unhidden field.type

/-- In the file of types a type has the shape of the schema, if it is not hidden. -/
theorem shapeOf_field (hfile : typesFile d = .ok f) (hapart : EachScope Apart d) {t : DataType}
    (hresolves : d.Resolves false t) (hhidden : d.Unhidden t) {owned : Ty} (howned : valueType t = .ok owned)
    {s : Json.Shape} (hs : shape? f.items owned = some s) : ShapeOf d t s := by
  cases t with
  | named n =>
    obtain ⟨i, hi, rfl⟩ : ∃ i, typeIdent n = .ok i ∧ .path false [i] [] [] = owned := by
      simpa only [valueType, bind_eq_ok, pure_eq_ok] using howned
    obtain rfl := Option.some.inj hs
    exact shapeOf_named hfile hapart hresolves (identOf_eq_ok.mp hi)
  | _ =>
    refine shapeOf_primitive (by simp) howned (fun hword => ?_) hs
    exact declared?_eq_none hfile (hhidden _ (.refl _) hword)

theorem fieldsUnhidden_of_unhidden {t : DataType} (h : d.Unhidden t) : FieldsUnhidden d t := by
  rintro m hm rfl field hfield
  exact h.field hm hfield

theorem fieldMember_required {field : Field} (hrequired : field.required = true) (s : Json.Shape) :
    fieldMember field s = { name := field.name, shape := s } :=
  if_pos hrequired

theorem fieldMember_optional {field : Field} (hrequired : field.required = false) (s : Json.Shape) :
    fieldMember field s =
      { name := field.name, shape := .optional s, default? := some .null, omitted := true } :=
  if_neg (by simp [hrequired])

theorem place_absent {field : Field} (hrequired : field.required = false) (s : Json.Shape) :
    Json.Record.place (fieldMember field s) .null = [] := by
  rw [fieldMember_optional hrequired]
  rfl

theorem place_present (field : Field) (s : Json.Shape) {j : Json} (hj : j ≠ .null) :
    Json.Record.place (fieldMember field s) j = [(field.name, j)] := by
  rcases Json.Record.place_cases (fieldMember field s) j with hplace | ⟨_, hnull, _⟩
  · rw [hplace, fieldMember_name]
  · exact absurd hnull hj

/-- The shape of an enumeration has its wire values. -/
theorem shapeOf_enum (hvalid : d.Valid) {e : Enumeration} (he : e ∈ d.enums) {s : Json.Shape}
    (h : ShapeOf d (.named e.name) s) : s = .wire (e.constants.map (·.value)) := by
  generalize ht : DataType.named e.name = t at h
  cases h with
  | enumeration he' =>
    rw [List.inj_on_of_nodup_map hvalid.enum_names he he' (DataType.named.inj ht)]
  | message hm =>
    have hnone := hvalid.enum?_eq_none hm
    rw [← DataType.named.inj ht] at hnone
    exact absurd hnone (enum?_ne_none he)
  | integer hkind =>
    subst ht
    cases hkind
  | string | bool | f32 | f64 => cases ht

/-- The shape of a message is the record under its word. -/
theorem shapeOf_message (hvalid : d.Valid) {m : Message} (hm : m ∈ d.messages) {s : Json.Shape}
    (h : ShapeOf d (.named m.name) s) : ∃ word, Denotes (pascalCase m.name) word ∧ s = .record word := by
  generalize ht : DataType.named m.name = t at h
  cases h with
  | enumeration he =>
    have hnone := hvalid.enum?_eq_none hm
    rw [DataType.named.inj ht] at hnone
    exact absurd hnone (enum?_ne_none he)
  | message hm' hword =>
    rw [← DataType.named.inj ht] at hword
    exact ⟨_, hword, rfl⟩
  | integer hkind =>
    subst ht
    cases hkind
  | string | bool | f32 | f64 => cases ht

/-! ### Normal forms -/

theorem ShapeOf.simple {t : DataType} {s : Json.Shape} (h : ShapeOf d t s) :
    s.simple = true ∧ s.isOptional = false := by
  cases h <;> exact ⟨rfl, rfl⟩

mutual

/-- A value of a type is a normal form of the shape of the type. -/
theorem JsonOf.normal (hvalid : d.Valid) (hfile : typesFile d = .ok f) (hapart : EachScope Apart d) :
    {t : DataType} → {j : Json} → JsonOf d t j → {s : Json.Shape} → ShapeOf d t s → FieldsUnhidden d t →
    Json.Normal (records f.items) s j
  | _, _, .string s, _, hshape, _ => by
    cases hshape with
    | string => exact .text s
    | integer hkind => cases hkind
  | _, _, .bool b, _, hshape, _ => by
    cases hshape with
    | bool => exact .flag b
    | integer hkind => cases hkind
  | t, _, .integer hkind hrange, s, hshape, _ => by
    cases hshape with
    | integer hkind' =>
      obtain rfl := Option.some.inj (hkind.symm.trans hkind')
      exact .integer hrange
    | string | bool | f32 | f64 | enumeration | message => cases hkind
  | _, _, .f32 bits, _, hshape, _ => by
    cases hshape with
    | f32 => exact .single bits
    | integer hkind => cases hkind
  | _, _, .f64 bits, _, hshape, _ => by
    cases hshape with
    | f64 => exact .double bits
    | integer hkind => cases hkind
  | _, _, .constant he hc, s, hshape, _ => by
    obtain rfl := shapeOf_enum hvalid he hshape
    exact .wire (List.mem_map_of_mem hc)
  | _, _, .message hm h, s, hshape, hhidden => by
    obtain ⟨word, hword, rfl⟩ := shapeOf_message hvalid hm hshape
    obtain ⟨r, hr, hmembers⟩ := record_of_message hfile hapart hm hword
    have hfilled := h.filled hvalid hfile hapart hmembers (hhidden _ hm rfl) (hvalid.messages _ hm).types
    exact Json.normal_of_filled (sound_typesFile hvalid hfile).records hr hfilled

theorem JsonFields.filled (hvalid : d.Valid) (hfile : typesFile d = .ok f) (hapart : EachScope Apart d) :
    {fields : List Field} → {members : List (String × Json)} → JsonFields d fields members →
    {ms : List Json.Member} → List.Forall₂ (Becomes f.items) fields ms → (∀ field ∈ fields, d.Unhidden field.type) →
    (∀ field ∈ fields, d.Resolves false field.type) →
    Json.Record.Filled (fun m v => Json.Normal (records f.items) m.shape v) ms members
  | _, _, .nil, _, .nil, _, _ => .nil
  | field :: _, _, .absent hrequired hrest, _, .cons ⟨_, s, _, _, hmember⟩ hbecome, hhidden, hresolves => by
    have hothers := hrest.filled hvalid hfile hapart hbecome (List.forall_mem_cons.mp hhidden).2
      (List.forall_mem_cons.mp hresolves).2
    have hshape : Json.Normal (records f.items) (fieldMember field s).shape .null := by
      rw [fieldMember_optional hrequired]
      exact .absent s
    have hfilled := Json.Record.Filled.cons hshape hothers
    rw [place_absent hrequired] at hfilled
    exact hmember ▸ hfilled
  | field :: _, _, .present (j := j) hj hrest, _, .cons ⟨_, s, howned, hs, hmember⟩ hbecome, hhidden, hresolves => by
    obtain ⟨hfirst, hothers⟩ := List.forall_mem_cons.mp hhidden
    obtain ⟨hresolve, hresolves⟩ := List.forall_mem_cons.mp hresolves
    have hrest := hrest.filled hvalid hfile hapart hbecome hothers hresolves
    have hnormal := hj.normal hvalid hfile hapart (shapeOf_field hfile hapart hresolve hfirst howned hs)
      (fieldsUnhidden_of_unhidden hfirst)
    have hshape : Json.Normal (records f.items) (fieldMember field s).shape j := by
      cases hrequired : field.required with
      | true => rwa [fieldMember_required hrequired]
      | false =>
        rw [fieldMember_optional hrequired]
        exact .present hnormal
    have hfilled := Json.Record.Filled.cons hshape hrest
    rw [place_present field s hj.ne_null] at hfilled
    exact hmember ▸ hfilled

end

end ServiceBindings.Bindings
