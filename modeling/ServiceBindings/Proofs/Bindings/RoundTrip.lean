import ServiceBindings.Proofs.Bindings.Sound
import ServiceBindings.Proofs.Naming

/-!
Messages on the wire. A value of the structure of a message is sent as an object whose keys are the names of the fields
in the schema, and what is sent is decoded as the value, if no floating point number can be in it.
-/

namespace ServiceBindings.Definitions

open Code Bindings

variable {d : Definitions}

/-- The types that values of a type are made of: the type itself, and those of the fields of a message. -/
inductive Reaches (d : Definitions) : DataType → DataType → Prop
  | refl (t : DataType) : Reaches d t t
  | field {m : Message} (hm : m ∈ d.messages) {f : Field} (hf : f ∈ m.fields) {t : DataType} (h : Reaches d f.type t) :
      Reaches d (.named m.name) t

/-- Whether values of a type are made of no floating point numbers. -/
def FloatFree (d : Definitions) (t : DataType) : Prop :=
  ¬ d.Reaches t .f32 ∧ ¬ d.Reaches t .f64

/-- Whether no type of a schema takes the name of a primitive one that values of a type are made of. -/
def Unhidden (d : Definitions) (t : DataType) : Prop :=
  ∀ u, d.Reaches t u → u.keyword ∈ primitives → ∀ name ∈ d.enums.map (·.name) ++ d.messages.map (·.name),
    ¬ Denotes (pascalCase name) u.keyword

/-- What is reached from a type is among any types that contain it and, with a message, the types of its fields. -/
theorem Reaches.mem {ts : List DataType}
    (hclosed : ∀ m ∈ d.messages, .named m.name ∈ ts → ∀ f ∈ m.fields, f.type ∈ ts) {t u : DataType} (h : d.Reaches t u)
    (ht : t ∈ ts) : u ∈ ts := by
  induction h with
  | refl => exact ht
  | field hm hf _ ih => exact ih (hclosed _ hm ht _ hf)

theorem FloatFree.field {m : Message} (h : d.FloatFree (.named m.name)) (hm : m ∈ d.messages) {f : Field}
    (hf : f ∈ m.fields) : d.FloatFree f.type :=
  ⟨fun hsingle => h.1 (.field hm hf hsingle), fun hdouble => h.2 (.field hm hf hdouble)⟩

theorem Unhidden.field {m : Message} (h : d.Unhidden (.named m.name)) (hm : m ∈ d.messages) {f : Field}
    (hf : f ∈ m.fields) : d.Unhidden f.type :=
  fun u hu => h u (.field hm hf hu)

end ServiceBindings.Definitions

namespace ServiceBindings.Bindings

open Code Generate Definitions

variable {d : Definitions} {f : File}

/-! ### What is sent -/

mutual

/-- The JSON of a value of a type of the schema: constants by their wire values, and the fields of a message under
their names. -/
inductive Wire (d : Definitions) : DataType → Value → Json → Prop
  | string (s : String) : Wire d .string (.text s) (.string s)
  | bool (b : Bool) : Wire d .bool (.flag b) (.bool b)
  | integer {t : DataType} {k : Json.IntegerKind} (hkind : t.integerKind? = some k) {n : Int}
      (hrange : k.contains n = true) : Wire d t (.integer n) (.number (.integer n))
  | constant {e : Enumeration} (he : e ∈ d.enums) {c : Constant} (hc : c ∈ e.constants) {i : Ident}
      (hi : Ident.ofName? (pascalCase c.name) = some i) : Wire d (.named e.name) (.constant i) (.string c.value)
  | message {m : Message} (hm : m ∈ d.messages) {values : List (Ident × Value)} {members : List (String × Json)}
      (h : WireFields d m.fields values members) : Wire d (.named m.name) (.struct values) (.object members)

/-- The members for the fields of a message. A field that is not required is left out where it is absent. -/
inductive WireFields (d : Definitions) : List Field → List (Ident × Value) → List (String × Json) → Prop
  | nil : WireFields d [] [] []
  | required {field : Field} (hrequired : field.required = true) {i : Ident}
      (hi : Ident.ofName? (snakeCase field.name) = some i) {v : Value} {j : Json} (hv : Wire d field.type v j)
      {fields : List Field} {values : List (Ident × Value)} {members : List (String × Json)}
      (hrest : WireFields d fields values members) :
      WireFields d (field :: fields) ((i, v) :: values) ((field.name, j) :: members)
  | absent {field : Field} (hrequired : field.required = false) {i : Ident}
      (hi : Ident.ofName? (snakeCase field.name) = some i) {fields : List Field} {values : List (Ident × Value)}
      {members : List (String × Json)} (hrest : WireFields d fields values members) :
      WireFields d (field :: fields) ((i, .absent) :: values) members
  | present {field : Field} (hrequired : field.required = false) {i : Ident}
      (hi : Ident.ofName? (snakeCase field.name) = some i) {v : Value} {j : Json} (hv : Wire d field.type v j)
      {fields : List Field} {values : List (Ident × Value)} {members : List (String × Json)}
      (hrest : WireFields d fields values members) :
      WireFields d (field :: fields) ((i, .present v) :: values) ((field.name, j) :: members)

end

/-- The keys of an object are the names of the required fields and of those others that are not absent. -/
theorem WireFields.keys {fields : List Field} {values : List (Ident × Value)} {members : List (String × Json)}
    (h : WireFields d fields values members) :
    members.map (·.1) = ((fields.zip values).filter fun e => e.1.required || !e.2.2.isAbsent).map (·.1.name) := by
  induction fields generalizing values members with
  | nil =>
    cases h
    rfl
  | cons field fields ih =>
    cases h with
    | required hrequired _ _ hrest => simp [hrequired, ih hrest]
    | absent hrequired _ hrest => simp [hrequired, Value.isAbsent, ih hrest]
    | present hrequired _ _ hrest => simp [hrequired, Value.isAbsent, ih hrest]

mutual

/-- The JSON of a value is nested as deeply as the value. -/
theorem Wire.textual : {t : DataType} → {v : Value} → {j : Json} → Wire d t v j → {depth : Nat} → v.depth ≤ depth →
    Json.Textual depth j
  | _, _, _, .string s, depth, _ => .string depth s
  | _, _, _, .bool b, depth, _ => .bool depth b
  | _, _, _, .integer _ _, depth, _ => .integer depth _
  | _, _, _, .constant _ _ _, depth, _ => .string depth _
  | _, _, _, .message _ h, depth, hdepth => by
    obtain ⟨depth, rfl⟩ := Nat.exists_eq_succ_of_ne_zero (Nat.ne_of_gt (Nat.lt_of_lt_of_le (Nat.succ_pos _) hdepth))
    exact .object (h.textual (Nat.le_of_succ_le_succ hdepth))

theorem WireFields.textual : {fields : List Field} → {values : List (Ident × Value)} →
    {members : List (String × Json)} → WireFields d fields values members → {depth : Nat} →
    Value.depths values ≤ depth → ∀ e ∈ members, Json.Textual depth e.2
  | _, _, _, .nil, _, _ => by simp
  | _, _, _, .required _ _ hv hrest, _, hdepth =>
    List.forall_mem_cons.mpr ⟨hv.textual (Nat.le_trans (Nat.le_max_left _ _) hdepth),
      hrest.textual (Nat.le_trans (Nat.le_max_right _ _) hdepth)⟩
  | _, _, _, .absent _ _ hrest, _, hdepth => hrest.textual (Nat.le_trans (Nat.le_max_right _ _) hdepth)
  | _, _, _, .present _ _ hv hrest, _, hdepth =>
    List.forall_mem_cons.mpr ⟨hv.textual (Nat.le_trans (Nat.le_max_left _ _) hdepth),
      hrest.textual (Nat.le_trans (Nat.le_max_right _ _) hdepth)⟩

end

/-! ### What types of the schema are in code -/

/-- Where one of several things passes a test, one of those that go pairwise with them stands for things that do. -/
private theorem eq_of_sole {α β : Type} {R : α → β → Prop} {xs : List α} {ys : List β} (h : List.Forall₂ R xs ys)
    {p : β → Bool} {y : β} (hsole : ys.filter p = [y]) {a b : α} (ha : a ∈ xs) (hb : b ∈ xs)
    (hpa : ∀ z, R a z → p z = true) (hpb : ∀ z, R b z → p z = true) : a = b := by
  induction h with
  | nil => cases ha
  | @cons x z xs zs hxz hrest ih =>
    by_cases hz : p z = true
    -- The first is the one that passes, so what stands for things that pass is not among the others.
    · rw [List.filter_cons_of_pos hz] at hsole
      have hnone : ∀ w ∈ zs, ¬ p w = true := List.filter_eq_nil_iff.mp (List.cons.inj hsole).2
      have hfirst : ∀ c ∈ x :: xs, (∀ w, R c w → p w = true) → c = x := by
        intro c hc hpc
        rcases List.mem_cons.mp hc with rfl | hc
        · rfl
        · obtain ⟨w, hw, hcw⟩ := (exists_of_forall₂ hrest).1 c hc
          exact absurd (hpc w hcw) (hnone w hw)
      rw [hfirst a ha hpa, hfirst b hb hpb]
    · rw [List.filter_cons_of_neg hz] at hsole
      have hlater : ∀ c ∈ x :: xs, (∀ w, R c w → p w = true) → c ∈ xs := by
        intro c hc hpc
        rcases List.mem_cons.mp hc with rfl | hc
        · exact absurd (hpc z hxz) hz
        · exact hc
      exact ih hsole (hlater a ha hpa) (hlater b hb hpb)

/-- Where one item declares the type of a word, one name of the schema is read as the word. -/
theorem name_of_sole (hfile : typesFile d = .ok f) {word : String} {item : Item}
    (hsole : f.items.filter (declares word) = [item]) {a b : String}
    (ha : a ∈ d.enums.map (·.name) ++ d.messages.map (·.name))
    (hb : b ∈ d.enums.map (·.name) ++ d.messages.map (·.name)) {i j : Ident}
    (hi : Ident.ofName? (pascalCase a) = some i) (hj : Ident.ofName? (pascalCase b) = some j) (hwi : i.name = word)
    (hwj : j.name = word) : a = b := by
  have hidents := List.forall₂_map_left_iff.mp (typesFile_types hfile)
  have hmem : item ∈ f.items.filter (declares word) := hsole ▸ List.mem_singleton_self item
  obtain ⟨t, ht, _⟩ := declares_iff.mp (List.mem_filter.mp hmem).2
  have hfilter : (f.items.filterMap Item.type?).filter (·.name == word) = [t] := by
    have hsame : (f.items.filterMap Item.type?).filter (·.name == word) =
        (f.items.filter (declares word)).filterMap Item.type? := by
      rw [List.filter_filterMap, List.filterMap_filter]
      refine List.filterMap_congr fun item _ => ?_
      cases htype : item.type? <;> simp [declares, htype, Option.filter]
    rw [hsame, hsole, List.filterMap_cons_some ht]
    rfl
  refine eq_of_sole hidents hfilter ha hb (fun z hz => ?_) fun z hz => ?_
  · rw [← Option.some.inj (hi.symm.trans hz)]
    exact beq_iff_eq.mpr hwi
  · rw [← Option.some.inj (hj.symm.trans hz)]
    exact beq_iff_eq.mpr hwj

/-- The type of a name in the schema is an enumeration or a message of this name. -/
theorem named?_inv (hfile : typesFile d = .ok f) {n : String}
    (hn : n ∈ d.enums.map (·.name) ++ d.messages.map (·.name)) {i : Ident}
    (hi : Ident.ofName? (pascalCase n) = some i) {m : Meaning} (hm : named? f.items i.name = some m) :
    (∃ e ∈ d.enums, e.name = n ∧ ∃ c, CodecOf e c ∧ m = .enumeration c) ∨
      ∃ message ∈ d.messages, message.name = n ∧ ∃ fields,
        List.Forall₂ (fun field code => fieldDecl message d field = .ok code) message.fields fields ∧
        m = .struct fields := by
  unfold named? at hm
  split at hm
  · next hnone =>
    obtain ⟨j, hj, hread⟩ := (exists_of_forall₂ (typesFile_types hfile)).1 _ (List.mem_map_of_mem hn)
    obtain rfl := Option.some.inj (hread.symm.trans hi)
    obtain ⟨item, hitem, htype⟩ := List.mem_filterMap.mp hj
    exact absurd (by simp [declares, htype]) (List.filter_eq_nil_iff.mp hnone item hitem)
  · next attrs isPub j fields hsole =>
    obtain ⟨hmem, hname⟩ := mem_of_filter_eq hsole
    obtain ⟨message, hmessage, hj, hfields⟩ := message_of_struct hfile hmem
    refine .inr ⟨message, hmessage, ?_, fields, hfields, (Option.some.inj hm).symm⟩
    refine name_of_sole hfile hsole (List.mem_append_right _ (List.mem_map_of_mem hmessage)) hn hj hi ?_ rfl
    simpa [declares, Item.type?] using hname
  · next attrs j variants hsole =>
    obtain ⟨_, hname⟩ := mem_of_filter_eq hsole
    obtain ⟨c, hc, rfl⟩ := Option.map_eq_some_iff.mp hm
    obtain ⟨e, he, hj, hcodec⟩ := enum_of_codec? hfile hc
    refine .inl ⟨e, he, ?_, c, hcodec, rfl⟩
    refine name_of_sole hfile hsole (List.mem_append_left _ (List.mem_map_of_mem he)) hn hj hi ?_ rfl
    simpa [declares, Item.type?] using hname
  · cases hm

/-- A primitive type that is not hidden is what its word says. -/
theorem named?_primitive (hfile : typesFile d = .ok f) {word : String}
    (hfresh : ∀ name ∈ d.enums.map (·.name) ++ d.messages.map (·.name), ¬ Denotes (pascalCase name) word) :
    named? f.items word = primitive? word := by
  have hnone : f.items.filter (declares word) = [] := by
    refine List.filter_eq_nil_iff.mpr fun item hitem hdeclares => ?_
    obtain ⟨i, hi, hsame⟩ := declares_iff.mp hdeclares
    have hother := List.find?_eq_none.mp (declared?_eq_none hfile hfresh) i (List.mem_filterMap.mpr ⟨item, hitem, hi⟩)
    exact hother (beq_iff_eq.mpr hsame)
  unfold named?
  rw [hnone]

private theorem meaning?_option (items : List Item) (t : Ty) :
    meaning? items (tyRooted ["std", "option", "Option"] [t]) = some (.optional t) := by
  simp [tyRooted, meaning?, plain]

/-- A field in code is of the type of the field in the schema, and optional where it is not required. -/
theorem meaning?_fieldDecl {m : Message} {field : Field} {code : FieldDecl} (h : fieldDecl m d field = .ok code)
    (items : List Item) :
    ∃ owned, valueType field.type = .ok owned ∧ Ident.ofName? (snakeCase field.name) = some code.name ∧
      (field.required = true → meaning? items code.type = meaning? items owned) ∧
      (field.required = false →
        ∃ t, meaning? items code.type = some (.optional t) ∧ meaning? items t = meaning? items owned) := by
  simp only [fieldDecl, fieldType, bind_eq_ok, pure_eq_ok] at h
  obtain ⟨i, hi, type, ⟨owned, howned, rfl⟩, rfl⟩ := h
  have hboxed : ∀ boxed : Bool, meaning? items (if boxed then tyRooted ["std", "boxed", "Box"] [owned] else owned) =
      meaning? items owned := by
    intro boxed
    cases boxed with
    | false => rfl
    | true => simp [tyRooted, meaning?, plain]
  refine ⟨owned, howned, identOf_eq_ok.mp hi, fun hrequired => ?_, fun hrequired => ?_⟩
  · simp only [hrequired, if_true, hboxed]
  · simp only [hrequired, Bool.false_eq_true, if_false, meaning?_option]
    exact ⟨_, rfl, hboxed _⟩

/-- A field in code is written under its name in the schema, unless it is absent and not required. -/
theorem entry_fieldDecl {m : Message} {field : Field} {code : FieldDecl} (h : fieldDecl m d field = .ok code)
    (v : Value) (form : Json) :
    entry code v form = if v.isAbsent && !field.required then [] else [(field.name, form)] := by
  obtain ⟨_, s, _, _, hmember⟩ := memberOf?_fieldDecl h []
  obtain ⟨s', _, heq⟩ := Option.bind_eq_some_iff.mp hmember
  have heq := Option.some.inj heq
  have hkey : key code = field.name := (congrArg Json.Member.name heq).trans (fieldMember_name field s)
  have hskipped : isSkipped code = !field.required := by
    refine (congrArg Json.Member.omitted heq).trans ?_
    unfold fieldMember
    cases field.required <;> rfl
  rw [entry, hkey, hskipped]

/-! ### Values of types of the schema -/

/-- Values are sent as the members for fields, if each is sent as its type in the schema says. -/
theorem wireFields_of_members {m : Message} {fields : List Field} {codes : List FieldDecl}
    (hfields : List.Forall₂ (fun field code => fieldDecl m d field = .ok code) fields codes)
    {values : List (Ident × Value)} {es : List (String × Json)} (hes : members? f.items values codes = some es)
    (hvalues : ∀ field ∈ fields, ∀ e ∈ values, ∀ v, v = e.2 ∨ e.2 = .present v →
      ∀ owned meaning j, valueType field.type = .ok owned → meaning? f.items owned = some meaning →
        form? f.items v meaning = some j → Wire d field.type v j) :
    WireFields d fields values es := by
  induction hfields generalizing values es with
  | nil =>
    obtain ⟨rfl, rfl⟩ := members?_nil.mp hes
    exact .nil
  | @cons field code fields codes hcode _ ih =>
    obtain ⟨w, meaning, form, rest, others, rfl, hmeaning, hform, hothers, rfl⟩ := members?_cons.mp hes
    obtain ⟨owned, howned, hi, hrequired, hoptional⟩ := meaning?_fieldDecl hcode f.items
    have hrest := ih hothers fun field hfield e he =>
      hvalues field (List.mem_cons_of_mem _ hfield) e (List.mem_cons_of_mem _ he)
    have hfirst := fun v hv => hvalues field List.mem_cons_self (code.name, w) List.mem_cons_self v hv owned
    rw [entry_fieldDecl hcode]
    cases hfield : field.required with
    | true =>
      have hwire := hfirst w (.inl rfl) meaning form howned (hrequired hfield ▸ hmeaning) hform
      simpa using WireFields.required hfield hi hwire hrest
    | false =>
      obtain ⟨t, ht, hmeaning'⟩ := hoptional hfield
      obtain rfl := Option.some.inj (ht.symm.trans hmeaning)
      obtain ⟨rfl, rfl⟩ | ⟨v, meaning', rfl, hm, hv⟩ := form?_optional.mp hform
      · exact .absent hfield hi hrest
      · have hwire := hfirst v (.inr rfl) meaning' form howned (hmeaning' ▸ hm) hv
        exact .present hfield hi hwire hrest

/-- What a value is serialised as is its JSON in the schema. -/
theorem wire_of_form (hvalid : d.Valid) (hfile : typesFile d = .ok f) {t : DataType} (hresolves : d.Resolves false t)
    (hfloat : d.FloatFree t) (hhidden : d.Unhidden t) {type : Ty} (htype : valueType t = .ok type) {meaning : Meaning}
    (hmeaning : meaning? f.items type = some meaning) {v : Value} {j : Json}
    (hform : form? f.items v meaning = some j) : Wire d t v j := by
  induction v using Value.induct generalizing t type meaning j with
  | step v ih =>
    cases t with
    | f32 => exact absurd (.refl _) hfloat.1
    | f64 => exact absurd (.refl _) hfloat.2
    | string =>
      obtain rfl := Except.ok.inj htype
      obtain rfl : .text = meaning := by simpa [tyRooted, meaning?, plain] using hmeaning
      obtain ⟨s, rfl, rfl⟩ := form?_text.mp hform
      exact .string s
    | bool =>
      obtain rfl := Except.ok.inj htype
      have hprimitive := named?_primitive hfile (hhidden _ (.refl _) (by decide))
      obtain rfl := Option.some.inj (hprimitive.symm.trans hmeaning)
      obtain ⟨b, rfl, rfl⟩ := form?_flag.mp hform
      exact .bool b
    | i32 | i64 | u32 | u64 =>
      obtain rfl := Except.ok.inj htype
      have hprimitive := named?_primitive hfile (hhidden _ (.refl _) (by decide))
      obtain rfl := Option.some.inj (hprimitive.symm.trans hmeaning)
      obtain ⟨n, hrange, rfl, rfl⟩ := form?_integer.mp hform
      exact .integer rfl hrange
    | named n =>
      have hn : n ∈ d.enums.map (·.name) ++ d.messages.map (·.name) := by
        rcases hresolves n rfl with ⟨e, he, rfl⟩ | ⟨_, m, hm, rfl⟩
        · exact List.mem_append_left _ (List.mem_map_of_mem he)
        · exact List.mem_append_right _ (List.mem_map_of_mem hm)
      simp only [valueType, bind_eq_ok, pure_eq_ok] at htype
      obtain ⟨i, hi, rfl⟩ := htype
      obtain ⟨e, he, rfl, c, hcodec, rfl⟩ | ⟨m, hm, rfl, codes, hcodes, rfl⟩ :=
        named?_inv hfile hn (identOf_eq_ok.mp hi) hmeaning
      · obtain ⟨i, s, hencode, rfl, rfl⟩ := form?_enumeration.mp hform
        obtain ⟨k, hk, hi, rfl⟩ := hcodec.mem_arms_iff.mp (mem_of_lookup_eq_some hencode)
        exact .constant he hk hi
      · obtain ⟨values, es, rfl, hes, rfl⟩ := form?_struct.mp hform
        refine .message hm (wireFields_of_members hcodes hes ?_)
        intro field hfield e he v hv owned meaning j howned hmeaning hform
        -- The value of an optional field is within the value that is present.
        have hwithin : v.Within (.struct values) := by
          rcases hv with rfl | hv
          · exact .field he
          · exact .trans (hv ▸ .present v) (.field he)
        exact ih v hwithin ((hvalid.messages m hm).types field hfield) (hfloat.field hm hfield)
          (hhidden.field hm hfield) howned hmeaning hform

/-! ### Values that are sent -/

/-- Where types have different names, every item that declares one is the only one to do so. -/
theorem filter_declares_eq {items : List Item} (hdistinct : Code.Distinct (items.filterMap Item.type?)) {item : Item}
    (hitem : item ∈ items) {i : Ident} (htype : item.type? = some i) : items.filter (declares i.name) = [item] := by
  have hmem : item ∈ items.filter (declares i.name) :=
    List.mem_filter.mpr ⟨hitem, declares_iff.mpr ⟨i, htype, rfl⟩⟩
  have hone : (items.filter (declares i.name)).length ≤ 1 := calc
    (items.filter (declares i.name)).length = items.countP (declares i.name) := List.countP_eq_length_filter.symm
    _ = ((items.filterMap Item.type?).map (·.name)).count i.name := by
      rw [List.count, List.countP_map, List.countP_filterMap]
      exact List.countP_congr fun other _ => by cases hother : other.type? <;> simp [declares, hother]
    _ ≤ 1 := List.nodup_iff_count_le_one.mp hdistinct i.name
  obtain ⟨other, hsole⟩ := List.length_eq_one_iff.mp (Nat.le_antisymm hone (List.length_pos_of_mem hmem))
  rw [hsole, List.mem_singleton] at hmem
  rw [hsole, hmem]

/-- Where constants have different names, each is encoded as its wire value. -/
theorem encode?_constant (hapart : EachScope Apart d) {e : Enumeration} (he : e ∈ d.enums) {c : Codec}
    (hcodec : CodecOf e c) {k : Constant} (hk : k ∈ e.constants) {i : Ident}
    (hi : Ident.ofName? (pascalCase k.name) = some i) : c.encode? i = some k.value := by
  have hdistinct := (distinct_iff_apart hcodec.idents).mpr (hapart.constants e he)
  have hnodup : c.constants.Nodup := List.Nodup.of_map _ hdistinct
  refine (lookup_eq_some_iff (hcodec.constants ▸ hnodup)).mpr ?_
  exact hcodec.mem_arms_iff.mpr ⟨k, hk, hi, rfl⟩

theorem named?_enumeration (hfile : typesFile d = .ok f) (hapart : EachScope Apart d) {e : Enumeration}
    (he : e ∈ d.enums) {i : Ident} (hi : Ident.ofName? (pascalCase e.name) = some i) :
    ∃ c, CodecOf e c ∧ named? f.items i.name = some (.enumeration c) := by
  obtain ⟨c, hc, hcodec⟩ := codec?_of_enum hfile hapart he hi
  obtain ⟨attrs, variants, hitem⟩ := enum_of_codec?_mem hfile hc
  have hsole := filter_declares_eq ((distinct_iff_apart (typesFile_types hfile)).mpr hapart.types) hitem rfl
  exact ⟨c, hcodec, by simp [named?, hsole, hc]⟩

theorem named?_message (hfile : typesFile d = .ok f) (hapart : EachScope Apart d) {m : Message}
    (hm : m ∈ d.messages) {i : Ident} (hi : Ident.ofName? (pascalCase m.name) = some i) :
    ∃ codes, List.Forall₂ (fun field code => fieldDecl m d field = .ok code) m.fields codes ∧
      named? f.items i.name = some (.struct codes) := by
  obtain ⟨enums, messages, _, hmessages, hitems⟩ := typesFile_inv hfile
  obtain ⟨item, hitem, hcode⟩ := (exists_of_forall₂ hmessages).1 m hm
  obtain ⟨attrs, name, codes, hname, hcodes, rfl⟩ := messageCode_inv hcode
  obtain rfl := Option.some.inj (hname.symm.trans hi)
  have hsole := filter_declares_eq ((distinct_iff_apart (typesFile_types hfile)).mpr hapart.types)
    (hitems ▸ List.mem_append_right _ hitem) rfl
  exact ⟨codes, hcodes, by simp [named?, hsole]⟩

mutual

/-- A value with a JSON in the schema is serialised as it. -/
theorem Wire.form (hfile : typesFile d = .ok f) (hapart : EachScope Apart d) : {t : DataType} → {v : Value} →
    {j : Json} → Wire d t v j → d.Unhidden t → {type : Ty} → valueType t = .ok type →
    ∃ meaning, meaning? f.items type = some meaning ∧ form? f.items v meaning = some j
  | _, _, _, .string s, _, type, htype => by
    obtain rfl := Except.ok.inj htype
    exact ⟨.text, by simp [tyRooted, meaning?, plain], rfl⟩
  | _, _, _, .bool b, hhidden, type, htype => by
    obtain rfl := Except.ok.inj htype
    exact ⟨.flag, named?_primitive hfile (hhidden _ (.refl _) (by decide)), rfl⟩
  | t, _, _, .integer hkind hrange, hhidden, type, htype => by
    cases t with
    | i32 | i64 | u32 | u64 =>
      obtain rfl := Except.ok.inj htype
      obtain rfl := Option.some.inj hkind
      have hprimitive := named?_primitive hfile (hhidden _ (.refl _) (by decide))
      exact ⟨_, hprimitive, form?_integer.mpr ⟨_, hrange, rfl, rfl⟩⟩
    | _ => cases hkind
  | _, _, _, .constant he hc hi, _, type, htype => by
    simp only [valueType, bind_eq_ok, pure_eq_ok] at htype
    obtain ⟨i, hname, rfl⟩ := htype
    obtain ⟨c, hcodec, hmeaning⟩ := named?_enumeration hfile hapart he (identOf_eq_ok.mp hname)
    exact ⟨_, hmeaning, form?_enumeration.mpr ⟨_, _, encode?_constant hapart he hcodec hc hi, rfl, rfl⟩⟩
  | _, _, _, .message hm h, hhidden, type, htype => by
    simp only [valueType, bind_eq_ok, pure_eq_ok] at htype
    obtain ⟨i, hname, rfl⟩ := htype
    obtain ⟨codes, hcodes, hmeaning⟩ := named?_message hfile hapart hm (identOf_eq_ok.mp hname)
    have hes := h.members hfile hapart hcodes fun field hfield => hhidden.field hm hfield
    exact ⟨_, hmeaning, form?_struct.mpr ⟨_, _, rfl, hes, rfl⟩⟩

theorem WireFields.members (hfile : typesFile d = .ok f) (hapart : EachScope Apart d) {m : Message} :
    {fields : List Field} → {values : List (Ident × Value)} → {members : List (String × Json)} →
    WireFields d fields values members → {codes : List FieldDecl} →
    List.Forall₂ (fun field code => fieldDecl m d field = .ok code) fields codes →
    (∀ field ∈ fields, d.Unhidden field.type) → members? f.items values codes = some members
  | _, _, _, .nil, _, .nil, _ => members?_nil.mpr ⟨rfl, rfl⟩
  | _, _, _, .required hfield hi hv hrest, _, .cons hcode hcodes, hhidden => by
    obtain ⟨hfirst, hothers⟩ := List.forall_mem_cons.mp hhidden
    obtain ⟨owned, howned, hname, hrequired, _⟩ := meaning?_fieldDecl hcode f.items
    obtain ⟨meaning, hmeaning, hform⟩ := hv.form hfile hapart hfirst howned
    obtain rfl := Option.some.inj (hi.symm.trans hname)
    refine members?_cons.mpr ⟨_, meaning, _, _, _, rfl, (hrequired hfield).trans hmeaning, hform,
      hrest.members hfile hapart hcodes hothers, ?_⟩
    simp [entry_fieldDecl hcode, hfield]
  | _, _, _, .absent hfield hi hrest, _, .cons hcode hcodes, hhidden => by
    obtain ⟨_, hothers⟩ := List.forall_mem_cons.mp hhidden
    obtain ⟨owned, howned, hname, _, hoptional⟩ := meaning?_fieldDecl hcode f.items
    obtain ⟨t, ht, _⟩ := hoptional hfield
    obtain rfl := Option.some.inj (hi.symm.trans hname)
    refine members?_cons.mpr ⟨_, _, _, _, _, rfl, ht, form?_optional.mpr (.inl ⟨rfl, rfl⟩),
      hrest.members hfile hapart hcodes hothers, ?_⟩
    simp [entry_fieldDecl hcode, hfield]
  | _, _, _, .present hfield hi hv hrest, _, .cons hcode hcodes, hhidden => by
    obtain ⟨hfirst, hothers⟩ := List.forall_mem_cons.mp hhidden
    obtain ⟨owned, howned, hname, _, hoptional⟩ := meaning?_fieldDecl hcode f.items
    obtain ⟨t, ht, hmeaning'⟩ := hoptional hfield
    obtain ⟨meaning, hmeaning, hform⟩ := hv.form hfile hapart hfirst howned
    obtain rfl := Option.some.inj (hi.symm.trans hname)
    have hpresent := form?_optional.mpr (.inr ⟨_, meaning, rfl, hmeaning'.trans hmeaning, hform⟩)
    refine members?_cons.mpr ⟨_, _, _, _, _, rfl, ht, hpresent, hrest.members hfile hapart hcodes hothers, ?_⟩
    simp [entry_fieldDecl hcode, hfield, Value.isAbsent]

end

/-! ### Names that hide nothing -/

/-- A plain name of a type is not that of a primitive one: it does not begin with a lowercase letter. -/
theorem not_denotes_primitive {name : String} (hplain : Plain (pascalCase name)) {word : String}
    (hword : word ∈ primitives) : ¬ Denotes (pascalCase name) word := by
  intro hdenotes
  have hprimitive : ∀ word ∈ primitives, word.toList.getLast? ≠ some '_' ∧
      ∃ c, word.toList.head? = some c ∧ 'a' ≤ c ∧ c ≤ 'z' := by
    simp [primitives]
  obtain ⟨hlast, c, hhead, hletter⟩ := hprimitive word hword
  rcases hdenotes.of_plain hplain with rfl | rfl
  · exact pascalCase_head hhead hletter
  · simp at hlast

theorem unhidden_of_plain (hplain : ∀ name ∈ d.enums.map (·.name) ++ d.messages.map (·.name), Plain (pascalCase name))
    (t : DataType) : d.Unhidden t :=
  fun _ _ hword name hname => not_denotes_primitive (hplain name hname) hword

/-! ### The round trip -/

theorem exists_valueType (hfile : typesFile d = .ok f) {m : Message} (hm : m ∈ d.messages) :
    ∃ type, valueType (.named m.name) = .ok type := by
  obtain ⟨_, messages, _, hmessages, _⟩ := typesFile_inv hfile
  obtain ⟨item, _, hcode⟩ := (exists_of_forall₂ hmessages).1 m hm
  obtain ⟨_, name, _, hname, _, _⟩ := messageCode_inv hcode
  refine ⟨.path false [name] [] [], ?_⟩
  simp only [valueType, bind_eq_ok, pure_eq_ok]
  exact ⟨name, identOf_eq_ok.mpr hname, rfl⟩

/-- What is sent for a message is an object. -/
theorem Wire.fields (hvalid : d.Valid) {m : Message} (hm : m ∈ d.messages) {v : Value} {j : Json}
    (h : Wire d (.named m.name) v j) :
    ∃ values members, v = .struct values ∧ j = .object members ∧ WireFields d m.fields values members := by
  generalize ht : DataType.named m.name = t at h
  cases h with
  | constant he =>
    have hnone := hvalid.enum?_eq_none hm
    rw [DataType.named.inj ht] at hnone
    exact absurd hnone (enum?_ne_none he)
  | message hother hfields =>
    obtain rfl := List.inj_on_of_nodup_map hvalid.message_names hm hother (DataType.named.inj ht)
    exact ⟨_, _, rfl, rfl, hfields⟩
  | integer hkind => subst ht; cases hkind
  | string | bool => cases ht

/-- Values of a message from which no field of floating point numbers is reached are sent as objects. The keys of such
an object are the names in the schema of the required fields and of those others that are present; messages within it
are sent likewise, and constants as their wire values. What is sent for a value that is not nested too deeply is
decoded as this value. No type may take the name of a primitive one that is reached from the message, which plain
names do not; and where the names of a scope denote different words, every such object is sent for its value. -/
theorem message_roundTrip {schema : Schema} {f : File} (hfile : typesFile schema.toDefinitions = .ok f) {m : Message}
    (hm : m ∈ schema.messages) (hfloat : schema.FloatFree (.named m.name))
    (hhidden : schema.Unhidden (.named m.name)) :
    ∃ type, valueType (.named m.name) = .ok type ∧
      (∀ meaning v j, meaning? f.items type = some meaning → form? f.items v meaning = some j →
        (∃ values members, v = .struct values ∧ j = .object members ∧
          WireFields schema.toDefinitions m.fields values members ∧
          members.map (·.1) =
            ((m.fields.zip values).filter fun e => e.1.required || !e.2.2.isAbsent).map (·.1.name)) ∧
        (v.depth ≤ Json.depthLimit → decoded? f.items type (Text.encodeUtf8 j.render.toList) = some v)) ∧
      (EachScope Apart schema.toDefinitions → ∃ meaning, meaning? f.items type = some meaning ∧
        ∀ v j, Wire schema.toDefinitions (.named m.name) v j → form? f.items v meaning = some j) := by
  have hvalid := Definitions.error?_eq_none_iff.mp schema.valid
  have hresolves : schema.Resolves false (.named m.name) := fun name hname =>
    .inr ⟨rfl, m, hm, DataType.named.inj hname⟩
  obtain ⟨type, htype⟩ := exists_valueType hfile hm
  refine ⟨type, htype, fun meaning v j hmeaning hform => ?sent, fun hapart => ?given⟩
  case sent =>
    have hwire := wire_of_form hvalid hfile hresolves hfloat hhidden htype hmeaning hform
    obtain ⟨values, members, rfl, rfl, hfields⟩ := hwire.fields hvalid hm
    refine ⟨⟨values, members, rfl, rfl, hfields, hfields.keys⟩, fun hdepth => ?_⟩
    obtain ⟨s, hs⟩ := exists_shape f.items htype
    obtain ⟨hsimple, _⟩ := shape?_valueType htype hs
    exact (sound_typesFile hvalid hfile).decoded?_of_form hmeaning hs hsimple hform (hwire.textual hdepth)
  case given =>
    obtain ⟨i, hi, rfl⟩ : ∃ i, typeIdent m.name = .ok i ∧ .path false [i] [] [] = type := by
      simpa only [valueType, bind_eq_ok, pure_eq_ok] using htype
    obtain ⟨codes, _, hmeaning⟩ := named?_message hfile hapart hm (identOf_eq_ok.mp hi)
    refine ⟨.struct codes, hmeaning, fun v j hwire => ?_⟩
    obtain ⟨meaning, hmeaning', hform⟩ := hwire.form hfile hapart hhidden htype
    rwa [Option.some.inj (hmeaning.symm.trans hmeaning')]

/-- A list of two nodes, in a message with a keyword and a converted name among its fields. -/
theorem nested_message_roundTrip :
    let m : Message :=
      { name := "Node", fields := [⟨"type", .string, true⟩, ⟨"retryCount", .i64, false⟩, ⟨"next", .named "Node", false⟩,
          ⟨"color", .named "Color", true⟩] }
    let d : Definitions :=
      { package := "p", enums := [{ name := "Color", constants := [⟨"RED", "red"⟩] }], messages := [m] }
    let node (text : String) (count next : Value) : Value := .struct [(⟨"type", true⟩, .text text),
      (plain "retry_count", count), (plain "next", next), (plain "color", .constant (plain "Red"))]
    let v := node "a" .absent (.present (node "b" (.present (.integer (-7))) .absent))
    let text := "\x7b\"type\":\"a\",\"next\":\x7b\"type\":\"b\",\"retryCount\":-7,\"color\":\"red\"\x7d," ++
      "\"color\":\"red\"\x7d"
    ∃ (schema : Schema) (f : File) (type : Ty) (meaning : Meaning) (j : Json), schema.toDefinitions = d ∧
      typesFile d = .ok f ∧ valueType (.named "Node") = .ok type ∧ meaning? f.items type = some meaning ∧
      form? f.items v meaning = some j ∧ j.render = text ∧
      decoded? f.items type (Text.encodeUtf8 text.toList) = some v := by
  intro m d node v text
  have hvalid : d.error? = none := by decide +kernel
  have hfloat : d.FloatFree (.named "Node") := by
    let ts : List DataType := [.named "Node", .string, .i64, .named "Color"]
    have hmem : ∀ u, d.Reaches (.named "Node") u → u ∈ ts := fun u hu => hu.mem (by decide) (by decide)
    exact ⟨fun hsingle => absurd (hmem _ hsingle) (by decide), fun hdouble => absurd (hmem _ hdouble) (by decide)⟩
  have hhidden : d.Unhidden (.named "Node") := unhidden_of_plain (by decide +kernel) _
  obtain ⟨f, hfile⟩ : ∃ f, typesFile d = .ok f := exists_of_toOption (by decide +kernel)
  obtain ⟨type, htype, hsent, _⟩ :=
    @message_roundTrip ⟨d, hvalid⟩ f hfile m List.mem_cons_self hfloat hhidden
  replace htype : valueType (.named "Node") = .ok type := htype
  have hrender : ((typesFile d).toOption.bind fun f => (valueType (.named "Node")).toOption.bind fun type =>
      (meaning? f.items type).bind fun meaning => (form? f.items v meaning).map Json.render) = some text := by
    decide +kernel
  simp only [hfile, htype, Except.toOption, Option.bind_some, Option.bind_eq_some_iff, Option.map_eq_some_iff]
    at hrender
  obtain ⟨meaning, hmeaning, j, hform, hj⟩ := hrender
  refine ⟨⟨d, hvalid⟩, f, type, meaning, j, rfl, hfile, htype, hmeaning, hform, hj, ?_⟩
  rw [← hj]
  exact (hsent meaning v j hmeaning hform).2 (by decide)

/-- A message takes the name of a primitive type, in a comment, and a floating point number comes to stand in a field of
integers. It is sent as `null`, which is not decoded. -/
theorem hidden_primitive_undecoded :
    let other : Message := { name := "/**/i32", fields := [⟨"g", .f64, true⟩] }
    let m : Message := { name := "M", fields := [⟨"n", .i32, true⟩] }
    let d : Definitions := { package := "p", messages := [other, m] }
    let v : Value := .struct [(plain "n", .struct [(plain "g", .double 0x7ff8000000000000)])]
    ∃ (schema : Schema) (f : File) (type : Ty) (meaning : Meaning) (j : Json), schema.toDefinitions = d ∧
      typesFile d = .ok f ∧ d.FloatFree (.named "M") ∧ valueType (.named "M") = .ok type ∧
      meaning? f.items type = some meaning ∧ form? f.items v meaning = some j ∧
      j.render = "\x7b\"n\":\x7b\"g\":null\x7d\x7d" ∧
      decoded? f.items type (Text.encodeUtf8 j.render.toList) = none := by
  intro other m d v
  have hvalid : d.error? = none := by decide +kernel
  have hfloat : d.FloatFree (.named "M") := by
    have hmem : ∀ u, d.Reaches (.named "M") u → u ∈ [.named "M", .i32] := fun u hu => hu.mem (by decide) (by decide)
    exact ⟨fun hsingle => absurd (hmem _ hsingle) (by decide), fun hdouble => absurd (hmem _ hdouble) (by decide)⟩
  obtain ⟨f, hfile⟩ : ∃ f, typesFile d = .ok f := exists_of_toOption (by decide +kernel)
  obtain ⟨type, htype⟩ : ∃ type, valueType (.named "M") = .ok type := exists_of_toOption (by decide +kernel)
  let text := "\x7b\"n\":\x7b\"g\":null\x7d\x7d"
  have hrender : ((typesFile d).toOption.bind fun f => (valueType (.named "M")).toOption.bind fun type =>
      (meaning? f.items type).bind fun meaning => (form? f.items v meaning).map Json.render) = some text := by
    decide +kernel
  have hread : ((typesFile d).toOption.bind fun f => (valueType (.named "M")).toOption.map fun type =>
      (decoded? f.items type (Text.encodeUtf8 text.toList)).isNone) = some true := by
    decide +kernel
  simp only [hfile, htype, Except.toOption, Option.bind_some, Option.bind_eq_some_iff, Option.map_eq_some_iff,
    Option.map_some, Option.some.injEq, Option.isNone_iff_eq_none] at hrender hread
  obtain ⟨meaning, hmeaning, j, hform, hj⟩ := hrender
  exact ⟨⟨d, hvalid⟩, f, type, meaning, j, rfl, hfile, hfloat, htype, hmeaning, hform, hj, hj ▸ hread⟩

end ServiceBindings.Bindings
