import ServiceBindings.Bindings.Values
import ServiceBindings.Proofs.Bindings.Codec
import ServiceBindings.Proofs.Json.Reading
import ServiceBindings.Proofs.Text.Utf8

/-!
Values of generated types on the wire. Where the types of a file are sound, what a value is serialised as is a normal
form of the shape of its type and is read as the value, so decoding it gives the value again.
-/

namespace ServiceBindings.Bindings

open Code

/-! ### Values -/

/-- A value that another one is made of. -/
inductive Value.Within : Value → Value → Prop
  | present (v : Value) : Within v (.present v)
  | field {values : List (Ident × Value)} {e : Ident × Value} (he : e ∈ values) : Within e.2 (.struct values)
  | trans {u v w : Value} (hu : Within u v) (hv : Within v w) : Within u w

theorem Value.Within.sizeOf_lt {v w : Value} (h : Within v w) : sizeOf v < sizeOf w := by
  induction h with
  | present v => simp
  | trans _ _ ihu ihv => exact ihu.trans ihv
  | @field values e he =>
    have hlist := List.sizeOf_lt_of_mem he
    have hpair : sizeOf e = 1 + sizeOf e.1 + sizeOf e.2 := by cases e; rfl
    simp only [Value.struct.sizeOf_spec]
    omega

/-- What holds of a value whenever it holds of those that it is made of, holds of all values. -/
theorem Value.induct {P : Value → Prop} (step : ∀ v, (∀ w, w.Within v → P w) → P v) (v : Value) : P v :=
  step v fun w _ => Value.induct step w
termination_by sizeOf v
decreasing_by
  rename_i h
  exact h.sizeOf_lt

@[simp] theorem Value.isAbsent_iff {v : Value} : v.isAbsent = true ↔ v = .absent := by
  cases v <;> simp [isAbsent]

/-! ### Serialisation, by types -/

section Forms

variable {items : List Item} {v : Value} {j : Json}

theorem form?_text : form? items v .text = some j ↔ ∃ s, v = .text s ∧ j = .string s := by
  cases v <;> simp [form?, @eq_comm _ _ j]

theorem form?_flag : form? items v .flag = some j ↔ ∃ b, v = .flag b ∧ j = .bool b := by
  cases v <;> simp [form?, @eq_comm _ _ j]

theorem form?_integer {k : Json.IntegerKind} :
    form? items v (.integer k) = some j ↔ ∃ n, k.contains n = true ∧ v = .integer n ∧ j = .number (.integer n) := by
  cases v <;> simp [form?, @eq_comm _ _ j]

theorem form?_double : form? items v .double = some j ↔ ∃ bits, v = .double bits ∧ j = .number (.double bits) := by
  cases v <;> simp [form?, @eq_comm _ _ j]

theorem form?_single : form? items v .single = some j ↔ ∃ bits, v = .single bits ∧ j = .number (.single bits) := by
  cases v <;> simp [form?, @eq_comm _ _ j]

theorem form?_enumeration {c : Codec} :
    form? items v (.enumeration c) = some j ↔ ∃ i s, c.encode? i = some s ∧ v = .constant i ∧ j = .string s := by
  cases v <;> simp [form?, @eq_comm _ _ j, Option.map_eq_some_iff]

theorem form?_optional {t : Ty} :
    form? items v (.optional t) = some j ↔ v = .absent ∧ j = .null ∨
      ∃ w m, v = .present w ∧ meaning? items t = some m ∧ form? items w m = some j := by
  cases v <;> simp [form?, @eq_comm _ _ j, Option.bind_eq_some_iff]

theorem form?_struct {fields : List FieldDecl} :
    form? items v (.struct fields) = some j ↔
      ∃ values es, v = .struct values ∧ members? items values fields = some es ∧ j = .object es := by
  cases v <;> simp [form?, @eq_comm _ _ j, Option.map_eq_some_iff]

theorem members?_nil {values : List (Ident × Value)} {es : List (String × Json)} :
    members? items values [] = some es ↔ values = [] ∧ es = [] := by
  cases values <;> simp [members?, @eq_comm _ _ es]

theorem members?_cons {values : List (Ident × Value)} {f : FieldDecl} {fields : List FieldDecl}
    {es : List (String × Json)} :
    members? items values (f :: fields) = some es ↔ ∃ w m form rest others, values = (f.name, w) :: rest ∧
      meaning? items f.type = some m ∧ form? items w m = some form ∧ members? items rest fields = some others ∧
      es = entry f w form ++ others := by
  cases values with
  | nil => simp [members?]
  | cons e rest =>
    obtain ⟨i, w⟩ := e
    by_cases hname : i = f.name
    · simp [members?, hname, Option.bind_eq_some_iff, @eq_comm _ _ es]
    · simp [members?, hname]

end Forms

/-! ### Sound types -/

/-- Whether fields become members, in the order of the fields. -/
def Members (items : List Item) (fields : List FieldDecl) (members : List Json.Member) : Prop :=
  List.Forall₂ (fun f member => memberOf? items f = some member) fields members

/-- A record is a structure of its name, member by member. -/
theorem recordOf?_inv {items : List Item} {item : Item} {r : Json.Record} (h : recordOf? items item = some r) :
    ∃ attrs isPub type fields, item = .struct attrs isPub type (some fields) ∧ r.name = type.name ∧
      Members items fields r.members := by
  unfold recordOf? at h
  split at h
  · next attrs isPub type fields =>
    obtain ⟨members, hmembers, h⟩ := Option.bind_eq_some_iff.mp h
    obtain rfl := Option.some.inj h
    exact ⟨attrs, isPub, type, fields, rfl, rfl, forall₂_of_mapM_some hmembers⟩
  · cases h

/-- The types of a file whose structures are records in good order, and whose codecs are those of enumerations that the
file declares. -/
structure Sound (items : List Item) : Prop where
  records : Json.WellFormed (records items)
  simple : ∀ r ∈ Bindings.records items, ∀ member ∈ r.members, member.shape.simple = true
  structs : ∀ attrs isPub name fields, .struct attrs isPub name (some fields) ∈ items →
    ∃ r, recordOf? items (.struct attrs isPub name (some fields)) = some r
  enums : ∀ type c, codec? items type = some c → ∃ attrs variants, .enumeration attrs type variants ∈ items
  codecs : ∀ type c, codec? items type = some c → ∃ e : Enumeration, e.Valid ∧ CodecOf e c

/-- The shape of what a type is. -/
inductive HasShape (items : List Item) : Meaning → Json.Shape → Prop
  | text : HasShape items .text .text
  | flag : HasShape items .flag .flag
  | integer (k : Json.IntegerKind) : HasShape items (.integer k) (.integer k)
  | double : HasShape items .double .double
  | single : HasShape items .single .single
  | enumeration {type : Ident} {c : Codec} (hc : codec? items type = some c) :
      HasShape items (.enumeration c) (.wire c.texts)
  | struct {name : String} {r : Json.Record} (hr : Json.Record.find? (records items) name = some r)
      {fields : List FieldDecl} (hfields : Members items fields r.members) :
      HasShape items (.struct fields) (.record name)
  | optional {t : Ty} {s : Json.Shape} (hs : shape? items t = some s) : HasShape items (.optional t) (.optional s)

section Sound

variable {items : List Item}

theorem hasShape_of_primitive {name : String} {m : Meaning} (hm : primitive? name = some m) :
    ∃ s, primitiveShape? name = some s ∧ HasShape items m s := by
  unfold primitive? at hm
  split at hm <;> cases hm
  · exact ⟨_, rfl, .flag⟩
  · exact ⟨_, rfl, .integer .i32⟩
  · exact ⟨_, rfl, .integer .i64⟩
  · exact ⟨_, rfl, .integer .u32⟩
  · exact ⟨_, rfl, .integer .u64⟩
  · exact ⟨_, rfl, .single⟩
  · exact ⟨_, rfl, .double⟩

theorem declares_iff {name : String} {item : Item} :
    declares name item = true ↔ ∃ i, item.type? = some i ∧ i.name = name := by
  cases htype : item.type? <;> simp [declares, htype]

theorem declared?_eq (items : List Item) (name : String) :
    declared? items name = (items.filter (declares name)).head?.bind Item.type? := by
  rw [declared?, List.find?_filterMap, List.head?_filter]
  rfl

theorem mem_of_filter_eq {name : String} {item : Item} (hsole : items.filter (declares name) = [item]) :
    item ∈ items ∧ declares name item = true := by
  rw [← List.mem_filter, hsole]
  exact List.mem_singleton_self item

/-- The only item that declares the type of a name is the one that is found under this name, if it is a record. -/
theorem find?_record {name : String} {item : Item} {r : Json.Record} (hsole : items.filter (declares name) = [item])
    (hr : recordOf? items item = some r) : Json.Record.find? (records items) name = some r := by
  obtain ⟨hmem, hname⟩ := mem_of_filter_eq hsole
  have hrname : r.name = name := by
    obtain ⟨attrs, isPub, type, fields, rfl, hr, _⟩ := recordOf?_inv hr
    rw [hr]
    simpa [declares, Item.type?] using hname
  have hsome : (Json.Record.find? (records items) name).isSome :=
    List.find?_isSome.mpr ⟨r, List.mem_filterMap.mpr ⟨item, hmem, hr⟩, by simp [hrname]⟩
  obtain ⟨r', hfound⟩ := Option.isSome_iff_exists.mp hsome
  obtain ⟨other, hother, hr'⟩ := List.mem_filterMap.mp (Json.Record.mem_of_find? hfound)
  have hdeclares : declares name other = true := by
    have hname' : r'.name = name := by simpa using List.find?_some hfound
    obtain ⟨attrs, isPub, type, fields, rfl, hr', _⟩ := recordOf?_inv hr'
    rw [hr'] at hname'
    simpa [declares, Item.type?] using hname'
  have hsame : other = item := by
    have hmem' : other ∈ items.filter (declares name) := List.mem_filter.mpr ⟨hother, hdeclares⟩
    rwa [hsole, List.mem_singleton] at hmem'
  rw [hfound, ← hr', hsame, hr]

/-- What a name stands for has the shape of the name. -/
theorem Sound.hasShape_of_named (h : Sound items) {type : Ident} {m : Meaning} (hm : named? items type.name = some m) :
    HasShape items m (namedShape items type) := by
  have hdeclared := declared?_eq items type.name
  unfold named? at hm
  split at hm
  · next hnone =>
    rw [hnone] at hdeclared
    obtain ⟨s, hs, hshape⟩ := hasShape_of_primitive hm
    rwa [namedShape_of_primitive hdeclared hs]
  · next attrs isPub i fields hsole =>
    obtain ⟨hmem, hname⟩ := mem_of_filter_eq hsole
    -- A codec would belong to an enumeration of this name, and the structure is the only type that has it.
    have hcodec : codec? items i = none := by
      cases hc : codec? items i with
      | none => rfl
      | some c =>
        obtain ⟨attrs', variants, henum⟩ := h.enums i c hc
        have hmem' : .enumeration attrs' i variants ∈ items.filter (declares type.name) :=
          List.mem_filter.mpr ⟨henum, hname⟩
        rw [hsole, List.mem_singleton] at hmem'
        cases hmem'
    obtain rfl := Option.some.inj hm
    rw [hsole] at hdeclared
    rw [namedShape_of_declared hdeclared, hcodec]
    obtain ⟨r, hr⟩ := h.structs _ _ _ _ hmem
    have hfound := find?_record hsole hr
    obtain ⟨attrs', isPub', i', fields', heq, _, hfields⟩ := recordOf?_inv hr
    cases heq
    have hsame : i.name = type.name := by simpa [declares, Item.type?] using hname
    exact .struct (hsame ▸ hfound) hfields
  · next attrs i variants hsole =>
    obtain ⟨c, hc, rfl⟩ := Option.map_eq_some_iff.mp hm
    rw [hsole] at hdeclared
    rw [namedShape_of_declared hdeclared, hc]
    exact .enumeration hc
  · cases hm

/-- What a type is has the shape of the type. -/
theorem Sound.hasShape (h : Sound items) {t : Ty} {m : Meaning} (hm : meaning? items t = some m) {s : Json.Shape}
    (hs : shape? items t = some s) : HasShape items m s := by
  fun_induction meaning? items t with
  | case1 i =>
    obtain rfl := Option.some.inj hs
    exact h.hasShape_of_named hm
  | case2 a b i hstring =>
    obtain rfl := Option.some.inj hm
    obtain rfl : .text = s := by simpa [shape?, hstring] using hs
    exact .text
  | case3 a b i t hoption =>
    obtain rfl := Option.some.inj hm
    obtain ⟨item, hitem, rfl⟩ : ∃ item, shape? items t = some item ∧ .optional item = s := by
      simpa [shape?, hoption] using hs
    exact .optional hitem
  | case4 a b i t hbox ih => exact ih hm (by simpa [shape?, hbox] using hs)
  | _ => cases hm

end Sound

/-! ### Normal forms -/

section Normal

variable {items : List Item} {v : Value} {m : Meaning} {s : Json.Shape} {j : Json}

/-- Only an absent value is serialised as `null`. -/
theorem form?_ne_null (hs : HasShape items m s) (hoptional : s.isOptional = false) (hform : form? items v m = some j) :
    j ≠ .null := by
  cases hs with
  | text => obtain ⟨_, _, rfl⟩ := form?_text.mp hform; simp
  | flag => obtain ⟨_, _, rfl⟩ := form?_flag.mp hform; simp
  | integer k => obtain ⟨_, _, _, rfl⟩ := form?_integer.mp hform; simp
  | double => obtain ⟨_, _, rfl⟩ := form?_double.mp hform; simp
  | single => obtain ⟨_, _, rfl⟩ := form?_single.mp hform; simp
  | enumeration => obtain ⟨_, _, _, _, rfl⟩ := form?_enumeration.mp hform; simp
  | struct => obtain ⟨_, _, _, _, rfl⟩ := form?_struct.mp hform; simp
  | optional => cases hoptional

theorem Sound.eq_absent_of_null (h : Sound items) (hs : HasShape items m s) (hsimple : s.simple = true)
    (hform : form? items v m = some .null) : v = .absent := by
  cases hs with
  | optional hitem =>
    obtain ⟨rfl, _⟩ | ⟨w, m', rfl, hm', hw⟩ := form?_optional.mp hform
    · rfl
    · simp only [Json.Shape.simple, Bool.and_eq_true, Bool.not_eq_true'] at hsimple
      exact absurd rfl (form?_ne_null (h.hasShape hm' hitem) hsimple.1 hw)
  | text | flag | integer | double | single | enumeration | struct =>
    exact absurd rfl (form?_ne_null (by constructor <;> assumption) rfl hform)

/-- An absent value is one of an optional type, and is serialised as `null`. -/
theorem form?_absent : form? items .absent m = some j ↔ ∃ t, m = .optional t ∧ j = .null := by
  cases m <;> simp [form?, @eq_comm _ _ j]

/-- A field is written in the place of its member. -/
theorem Sound.entry_eq_place (h : Sound items) {f : FieldDecl} {member : Json.Member}
    (hmember : memberOf? items f = some member) (hm : meaning? items f.type = some m)
    (hsimple : member.shape.simple = true) (hform : form? items v m = some j) :
    entry f v j = Json.Record.place member j ∧ HasShape items m member.shape := by
  obtain ⟨shape, hshape, heq⟩ := Option.bind_eq_some_iff.mp hmember
  obtain rfl := Option.some.inj heq
  have hs := h.hasShape hm hshape
  refine ⟨?_, hs⟩
  by_cases habsent : v = .absent
  · subst habsent
    obtain ⟨_, _, rfl⟩ := form?_absent.mp hform
    simp [entry, Json.Record.place, Value.isAbsent]
  · have hnull : j ≠ .null := fun hnull => habsent (h.eq_absent_of_null hs hsimple (hnull ▸ hform))
    have hshown : v.isAbsent = false := eq_false_of_ne_true (mt Value.isAbsent_iff.mp habsent)
    rcases Json.Record.place_cases _ j with hplace | ⟨_, hnull', _⟩
    · rw [hplace, entry, hshown]
      rfl
    · exact absurd hnull' hnull

/-- Values are written as the members of a record in their places, if each is written as a normal form. -/
theorem Sound.filled_of_members (h : Sound items) {values : List (Ident × Value)} {fields : List FieldDecl}
    {members : List Json.Member} (hfields : Members items fields members)
    (hsimple : ∀ member ∈ members, member.shape.simple = true) {es : List (String × Json)}
    (hes : members? items values fields = some es)
    (hvalues : ∀ e ∈ values, ∀ m s j, HasShape items m s → s.simple = true → form? items e.2 m = some j →
      Json.Normal (Bindings.records items) s j) :
    Json.Record.Filled (fun member j => Json.Normal (Bindings.records items) member.shape j) members es := by
  induction hfields generalizing values es with
  | nil =>
    obtain ⟨rfl, rfl⟩ := members?_nil.mp hes
    exact .nil
  | cons hmember _ ih =>
    obtain ⟨hfirst, hrest⟩ := List.forall_mem_cons.mp hsimple
    obtain ⟨w, m, form, rest, others, rfl, hm, hform, hothers, rfl⟩ := members?_cons.mp hes
    obtain ⟨hplace, hs⟩ := h.entry_eq_place hmember hm hfirst hform
    rw [hplace]
    exact .cons (hvalues _ List.mem_cons_self m _ form hs hfirst hform)
      (ih hrest hothers fun e he => hvalues e (List.mem_cons_of_mem _ he))

/-- A text that a constant is encoded as is one of the texts. -/
theorem Sound.mem_texts (h : Sound items) {type : Ident} {c : Codec} (hc : codec? items type = some c) {i : Ident}
    {t : String} (hencode : c.encode? i = some t) : t ∈ c.texts := by
  obtain ⟨e, _, hcodec⟩ := h.codecs type c hc
  refine List.mem_filterMap.mpr ⟨i, ?_, hencode⟩
  rw [hcodec.constants]
  exact List.mem_map_of_mem (mem_of_lookup_eq_some hencode)

/-- What a value is serialised as is a normal form. -/
theorem Sound.normal_of_form (h : Sound items) (hs : HasShape items m s) (hsimple : s.simple = true)
    (hform : form? items v m = some j) : Json.Normal (Bindings.records items) s j := by
  induction v using Value.induct generalizing m s j with
  | step v ih =>
    cases hs with
    | text =>
      obtain ⟨t, _, rfl⟩ := form?_text.mp hform
      exact .text t
    | flag =>
      obtain ⟨b, _, rfl⟩ := form?_flag.mp hform
      exact .flag b
    | integer k =>
      obtain ⟨n, hrange, _, rfl⟩ := form?_integer.mp hform
      exact .integer hrange
    | double =>
      obtain ⟨bits, _, rfl⟩ := form?_double.mp hform
      exact .double bits
    | single =>
      obtain ⟨bits, _, rfl⟩ := form?_single.mp hform
      exact .single bits
    | @enumeration type c hc =>
      obtain ⟨i, t, hencode, _, rfl⟩ := form?_enumeration.mp hform
      exact .wire (h.mem_texts hc hencode)
    | @struct name r hr fields hfields =>
      obtain ⟨values, es, rfl, hes, rfl⟩ := form?_struct.mp hform
      refine Json.normal_of_filled h.records hr ?_
      have hmembers := h.simple r (Json.Record.mem_of_find? hr)
      exact h.filled_of_members hfields hmembers hes fun e he m s j hs hsimple hform =>
        ih e.2 (.field he) hs hsimple hform
    | @optional t item hitem =>
      obtain ⟨_, rfl⟩ | ⟨w, m', rfl, hm', hw⟩ := form?_optional.mp hform
      · exact .absent item
      · simp only [Json.Shape.simple, Bool.and_eq_true] at hsimple
        exact .present (ih w (.present w) (h.hasShape hm' hitem) hsimple.2 hw)

/-! ### Reading -/

/-- How a member is read is found under its key. -/
theorem lookup_readings (items : List Item) (es : List (String × Json)) (k : String) :
    (readings items es).lookup k = (es.lookup k).map (value? items) := by
  induction es with
  | nil => rfl
  | cons e es ih =>
    rw [readings, List.lookup_cons, List.lookup_cons, ih]
    cases k == e.1 <;> rfl

/-- Where a type is not optional, reading does not look for `null`. -/
theorem value?_eq_presentValue? (hs : HasShape items m s) (hoptional : s.isOptional = false) :
    value? items j m = presentValue? items j m := by
  cases hs with
  | optional => cases hoptional
  | _ => rfl

/-- A present value is read where anything but `null` is. -/
theorem value?_optional {t : Ty} (hnull : j ≠ .null) (hm : meaning? items t = some m) (hs : HasShape items m s)
    (hoptional : s.isOptional = false) : value? items j (.optional t) = (value? items j m).map .present := by
  rw [value?_eq_presentValue? hs hoptional, value?, orAbsent, hm, Option.map_eq_bind]
  · rfl
  · exact hnull

theorem entry_cases (f : FieldDecl) (v : Value) (form : Json) :
    entry f v form = [(key f, form)] ∨ entry f v form = [] ∧ v = .absent := by
  unfold entry
  split
  · next hskipped => exact .inr ⟨rfl, by simp_all⟩
  · exact .inl rfl

theorem key_of_mem_entry {f : FieldDecl} {e : String × Json} (he : e ∈ entry f v j) : e.1 = key f := by
  rcases entry_cases f v j with hentry | ⟨hentry, _⟩ <;> rw [hentry] at he
  · rw [List.mem_singleton.mp he]
  · cases he

/-- A member is written under the key of one of the fields. -/
theorem key_of_members {values : List (Ident × Value)} {fields : List FieldDecl} {es : List (String × Json)}
    (hes : members? items values fields = some es) {e : String × Json} (he : e ∈ es) : e.1 ∈ fields.map key := by
  induction fields generalizing values es with
  | nil =>
    obtain ⟨_, rfl⟩ := members?_nil.mp hes
    cases he
  | cons f fields ih =>
    obtain ⟨w, m, form, rest, others, _, _, _, hothers, rfl⟩ := members?_cons.mp hes
    rw [List.map_cons, List.mem_cons]
    exact (List.mem_append.mp he).imp key_of_mem_entry (ih hothers)

/-- A field is read from members among which its own is, and no other of its key. -/
theorem fieldValue?_of_lookup {f : FieldDecl} (hm : meaning? items f.type = some m) (hform : form? items v m = some j)
    (hvalue : value? items j m = some v) {es : List (String × Json)}
    (hlookup : es.lookup (key f) = (entry f v j).lookup (key f)) :
    fieldValue? items (readings items es) f = some (f.name, v) := by
  rcases entry_cases f v j with hentry | ⟨hentry, rfl⟩
  · rw [hentry, List.lookup_cons_self] at hlookup
    simp [fieldValue?, lookup_readings, hlookup, hm, hvalue]
  · rw [hentry, List.lookup_nil] at hlookup
    obtain ⟨t, rfl, _⟩ := form?_absent.mp hform
    simp [fieldValue?, lookup_readings, hlookup, hm]

/-- The fields of a structure are read from the members that they were written as, whatever comes before these under
other keys. -/
theorem mapM_fieldValue? {values : List (Ident × Value)} {fields : List FieldDecl} (hkeys : (fields.map key).Nodup)
    {front es : List (String × Json)} (hfront : ∀ e ∈ front, e.1 ∉ fields.map key)
    (hes : members? items values fields = some es)
    (hvalues : ∀ f ∈ fields, ∀ e ∈ values, ∀ m j, meaning? items f.type = some m → form? items e.2 m = some j →
      value? items j m = some e.2) :
    fields.mapM (fieldValue? items (readings items (front ++ es))) = some values := by
  induction fields generalizing values front es with
  | nil =>
    obtain ⟨rfl, _⟩ := members?_nil.mp hes
    rfl
  | cons f fields ih =>
    obtain ⟨hfresh, hkeys⟩ := List.nodup_cons.mp hkeys
    obtain ⟨v, m, form, rest, others, rfl, hm, hform, hothers, rfl⟩ := members?_cons.mp hes
    have hvalue := hvalues f List.mem_cons_self (f.name, v) List.mem_cons_self m form hm hform
    have hbefore : front.lookup (key f) = none := List.lookup_eq_none_iff.mpr fun e he => by
      have hne : e.1 ≠ key f := fun heq => hfront e he (heq ▸ List.mem_cons_self)
      simpa using hne.symm
    have hafter : others.lookup (key f) = none := List.lookup_eq_none_iff.mpr fun e he => by
      have hne : e.1 ≠ key f := fun heq => hfresh (heq ▸ key_of_members hothers he)
      simpa using hne.symm
    have hfirst : fieldValue? items (readings items (front ++ (entry f v form ++ others))) f = some (f.name, v) := by
      refine fieldValue?_of_lookup hm hform hvalue ?_
      rw [List.lookup_append, List.lookup_append, hbefore, hafter, Option.none_or, Option.or_none]
    have hrest :
        fields.mapM (fieldValue? items (readings items (front ++ (entry f v form ++ others)))) = some rest := by
      rw [← List.append_assoc]
      refine ih hkeys (fun e he => ?_) hothers fun g hg e he =>
        hvalues g (List.mem_cons_of_mem _ hg) e (List.mem_cons_of_mem _ he)
      rcases List.mem_append.mp he with he | he
      · exact fun hkey => hfront e he (List.mem_cons_of_mem _ hkey)
      · rw [key_of_mem_entry he]
        exact hfresh
    simp [List.mapM_cons, hfirst, hrest]

theorem memberOf?_name {f : FieldDecl} {member : Json.Member} (h : memberOf? items f = some member) :
    member.name = key f := by
  obtain ⟨shape, _, heq⟩ := Option.bind_eq_some_iff.mp h
  rw [← Option.some.inj heq]

/-- Fields of a record have different keys. -/
theorem Sound.keys_nodup (h : Sound items) {name : String} {r : Json.Record}
    (hr : Json.Record.find? (Bindings.records items) name = some r) {fields : List FieldDecl}
    (hfields : Members items fields r.members) :
    (fields.map key).Nodup := by
  have hkeys : List.Forall₂ (· = ·) (fields.map key) (r.members.map (·.name)) := by
    refine List.forall₂_map_left_iff.mpr (List.forall₂_map_right_iff.mpr (hfields.imp fun f member hmember => ?_))
    exact (memberOf?_name hmember).symm
  rw [List.forall₂_eq_eq_eq] at hkeys
  rw [hkeys]
  exact h.records.names r (Json.Record.mem_of_find? hr)

/-- What a value is serialised as is read as the value. -/
theorem Sound.value?_of_form (h : Sound items) (hs : HasShape items m s) (hsimple : s.simple = true)
    (hform : form? items v m = some j) : value? items j m = some v := by
  induction v using Value.induct generalizing m s j with
  | step v ih =>
    cases hs with
    | text =>
      obtain ⟨t, rfl, rfl⟩ := form?_text.mp hform
      rfl
    | flag =>
      obtain ⟨b, rfl, rfl⟩ := form?_flag.mp hform
      rfl
    | integer k =>
      obtain ⟨n, hrange, rfl, rfl⟩ := form?_integer.mp hform
      exact if_pos hrange
    | double =>
      obtain ⟨bits, rfl, rfl⟩ := form?_double.mp hform
      rfl
    | single =>
      obtain ⟨bits, rfl, rfl⟩ := form?_single.mp hform
      rfl
    | @enumeration type c hc =>
      obtain ⟨i, t, hencode, rfl, rfl⟩ := form?_enumeration.mp hform
      obtain ⟨e, hvalid, hcodec⟩ := h.codecs type c hc
      have hdecode := (hcodec.decode_eq_ok_iff hvalid).mpr hencode
      simp [value?, orAbsent, presentValue?, hdecode, Except.toOption]
    | @struct name r hr fields hfields =>
      obtain ⟨values, es, rfl, hes, rfl⟩ := form?_struct.mp hform
      have hread : fields.mapM (fieldValue? items (readings items ([] ++ es))) = some values := by
        refine mapM_fieldValue? (h.keys_nodup hr hfields) (List.forall_mem_nil _) hes fun f hf e he m j hm hform => ?_
        obtain ⟨member, hmember, hof⟩ := (exists_of_forall₂ hfields).1 f hf
        have hsimple := h.simple r (Json.Record.mem_of_find? hr) member hmember
        obtain ⟨_, hs⟩ := h.entry_eq_place hof hm hsimple hform
        exact ih e.2 (.field he) hs hsimple hform
      rw [List.nil_append] at hread
      simp [value?, orAbsent, presentValue?, hread]
    | @optional t item hitem =>
      simp only [Json.Shape.simple, Bool.and_eq_true, Bool.not_eq_true'] at hsimple
      obtain ⟨rfl, rfl⟩ | ⟨w, m', rfl, hm, hw⟩ := form?_optional.mp hform
      · rfl
      · have hinner := h.hasShape hm hitem
        rw [value?_optional (form?_ne_null hinner hsimple.1 hw) hm hinner hsimple.1,
          ih w (.present w) hinner hsimple.2 hw]
        rfl

end Normal

/-! ### Decoding -/

/-- The text that a value is serialised as is decoded as the value. -/
theorem Sound.decoded?_of_form (h : Sound items) {type : Ty} {m : Meaning} (hm : meaning? items type = some m)
    {s : Json.Shape} (hshape : shape? items type = some s) (hsimple : s.simple = true) {v : Value} {j : Json}
    (hform : form? items v m = some j) (htextual : Json.Textual Json.depthLimit j) :
    decoded? items type (Text.encodeUtf8 j.render.toList) = some v := by
  have hs := h.hasShape hm hshape
  have hread := Json.Shape.read_of_normal h.records h.simple (h.normal_of_form hs hsimple hform) hsimple htextual
  have hdecoded : jsonDecoder (Bindings.records items) s (Text.encodeUtf8 j.render.toList) = .ok j := by
    rw [jsonDecoder, Text.decodeUtf8_encodeUtf8, hread]
  simp [decoded?, hshape, hm, hdecoded, Except.toOption, h.value?_of_form hs hsimple hform]

end ServiceBindings.Bindings
