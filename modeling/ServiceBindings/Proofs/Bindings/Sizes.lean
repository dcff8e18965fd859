import Mathlib.Data.List.Basic
import Mathlib.Logic.Relation
import ServiceBindings.Proofs.Bindings.RoundTrip
import ServiceBindings.Proofs.Generate.Boxing

/-!
Sizes of generated types. A structure holds in place what the types of its fields stand for, unless there is a box
around it. A message that takes the name of a primitive type is held wherever a field has this primitive type, so types
may be held that no message refers to. All types have sizes exactly if none holds itself in place, at any depth.
-/

namespace ServiceBindings.Bindings

open Code Generate Relation

/-! ### Sizes of things in one another -/

/-- Sizes put together. -/
def total (sizes : List Nat) : Nat :=
  sizes.foldr (· + ·) 0

theorem le_total_of_mem {n : Nat} {sizes : List Nat} (h : n ∈ sizes) : n ≤ total sizes := by
  induction sizes with
  | nil => cases h
  | cons first rest ih =>
    have hcons : total (first :: rest) = first + total rest := rfl
    rcases List.mem_cons.mp h with rfl | h
    · omega
    · have := ih h
      omega

section Sizes

variable {α : Type} {all : List α} {contents : α → List α}

/-- Where nothing is within itself, the things that are within another become fewer on the way in. -/
theorem wellFounded_of_acyclic (hall : ∀ a, contents a ⊆ all)
    (hacyclic : ∀ a, ¬ TransGen (fun a b => b ∈ contents a) a a) : WellFounded fun b a => b ∈ contents a := by
  classical
  let within (a : α) : List α := all.filter fun b => TransGen (fun a b => b ∈ contents a) a b
  have hlt {b a : α} (h : b ∈ contents a) : (within b).length < (within a).length := by
    have hsub : (within b).Sublist (within a) :=
      List.monotone_filter_right _ fun c hc => by simpa using TransGen.head h (by simpa using hc)
    refine Nat.lt_of_le_of_ne hsub.length_le fun hsame => hacyclic b ?_
    have hmem : b ∈ within a := List.mem_filter.mpr ⟨hall a h, by simpa using TransGen.single h⟩
    rw [← hsub.eq_of_length hsame] at hmem
    simpa using (List.mem_filter.mp hmem).2
  exact Subrelation.wf hlt (measure fun a => (within a).length).wf

theorem exists_size (hall : ∀ a, contents a ⊆ all) (hacyclic : ∀ a, ¬ TransGen (fun a b => b ∈ contents a) a a)
    (weight : α → Nat) : ∃ size : α → Nat, ∀ a, size a = weight a + total ((contents a).map size) := by
  have hwf := wellFounded_of_acyclic hall hacyclic
  refine ⟨hwf.fix fun a size => weight a + total ((contents a).attach.map fun b => size b.1 b.2), fun a => ?_⟩
  rw [hwf.fix_eq]
  simp

/-- Where everything has some weight of its own, what is within another thing is smaller. -/
theorem size_lt_of_within (hall : ∀ a, contents a ⊆ all) {size : α → Nat}
    (hsize : ∀ a ∈ all, size a = 1 + total ((contents a).map size)) {a b : α}
    (h : TransGen (fun a b => b ∈ contents a) a b) (ha : a ∈ all) : size b < size a := by
  have hstep {a b : α} (ha : a ∈ all) (hb : b ∈ contents a) : size b < size a := by
    have hle := le_total_of_mem (List.mem_map_of_mem (f := size) hb)
    have := hsize a ha
    omega
  induction h using TransGen.head_induction_on with
  | single hb => exact hstep ha hb
  | head hc _ ih => exact (ih (hall _ hc)).trans (hstep ha hc)

/-- Everything has a size, whatever weight each has in itself, exactly if nothing is within itself. -/
theorem exists_size_iff (hall : ∀ a, contents a ⊆ all) :
    (∀ weight : α → Nat, ∃ size : α → Nat, ∀ a ∈ all, size a = weight a + total ((contents a).map size)) ↔
      ∀ a, ¬ TransGen (fun a b => b ∈ contents a) a a := by
  constructor
  · intro hsizes a hcycle
    obtain ⟨size, hsize⟩ := hsizes fun _ => 1
    obtain ⟨b, _, hb⟩ := TransGen.tail'_iff.mp hcycle
    exact lt_irrefl _ (size_lt_of_within hall hsize hcycle (hall b hb))
  · intro hacyclic weight
    obtain ⟨size, hsize⟩ := exists_size hall hacyclic weight
    exact ⟨size, fun a _ => hsize a⟩

/-- A path is followed along a correspondence that everything on the way has. -/
theorem transGen_along {β : Type} {r : α → α → Prop} {s : β → β → Prop} {C : α → β → Prop}
    (hstep : ∀ a b x y, C a x → C b y → r a b → s x y) (hmid : ∀ a b c, r a b → r b c → ∃ y, C b y) {a b : α}
    {x y : β} (h : TransGen r a b) (ha : C a x) (hb : C b y) : TransGen s x y := by
  induction h using TransGen.head_induction_on generalizing x with
  | single hab => exact .single (hstep _ _ _ _ ha hb hab)
  | head hac hrest ih =>
    obtain ⟨e, hce, _⟩ := TransGen.head'_iff.mp hrest
    obtain ⟨z, hz⟩ := hmid _ _ _ hac hce
    exact .head (hstep _ _ _ _ ha hz hac) (ih hz)

end Sizes

/-! ### Types that hold others in place -/

/-- The items that a field holds in place: those that declare the type of its values. Nothing that is in a box is held
in place, and no item declares the types that are there without being declared. -/
def held (items : List Item) (f : FieldDecl) : List Item :=
  match f.content with
  | .path false [i] [] [] => items.filter (declares i.name)
  | _ => []

/-- The fields of an item. -/
def fieldsOf : Item → List FieldDecl
  | .struct _ _ _ fields => fields.getD []
  | _ => []

/-- The items that an item holds in place, once for each of its fields. -/
def inPlace (items : List Item) (item : Item) : List Item :=
  (fieldsOf item).flatMap (held items)

/-- Whether items have the given sizes, each the sum of its own weight and of what it holds in place. -/
def Sized (items : List Item) (weight size : Item → Nat) : Prop :=
  ∀ item ∈ items, size item = weight item + total ((inPlace items item).map size)

theorem inPlace_subset (items : List Item) (item : Item) : inPlace items item ⊆ items := by
  intro other hother
  obtain ⟨f, _, hheld⟩ := List.mem_flatMap.mp hother
  unfold held at hheld
  split at hheld
  · exact (List.mem_filter.mp hheld).1
  · cases hheld

variable {d : Definitions}

/-- The word that a type is written as in code, if it is written as one. -/
inductive Written : DataType → String → Prop
  | primitive {t : DataType} (ht : t.keyword ∈ primitives) : Written t t.keyword
  | named {n word : String} (hword : Denotes (pascalCase n) word) : Written (.named n) word

theorem written_iff {t : DataType} {ty : Ty} (h : valueType t = .ok ty) {word : String} :
    Written t word ↔ ∃ i, ty = .path false [i] [] [] ∧ i.name = word := by
  cases t with
  | named n =>
    obtain ⟨i, hi, rfl⟩ : ∃ i, typeIdent n = .ok i ∧ .path false [i] [] [] = ty := by
      simpa only [valueType, bind_eq_ok, pure_eq_ok] using h
    have hword := denotes_iff (identOf_eq_ok.mp hi) word
    constructor
    · rintro (hprimitive | hdenotes)
      · exact absurd hprimitive (by simp [DataType.keyword, primitives])
      · exact ⟨i, rfl, hword.mp hdenotes⟩
    · rintro ⟨j, hj, rfl⟩
      cases hj
      exact .named (hword.mpr rfl)
  | string =>
    obtain rfl := Except.ok.inj h
    constructor
    · rintro (hprimitive | _)
      exact absurd hprimitive (by decide)
    · rintro ⟨i, hi, _⟩
      cases hi
  | _ =>
    obtain rfl := Except.ok.inj h
    constructor
    · rintro (_ | _)
      exact ⟨_, rfl, rfl⟩
    · rintro ⟨i, hi, rfl⟩
      cases hi
      exact .primitive (by decide)

/-- What a field of a message holds in place. -/
theorem mem_held_iff {m : Message} {f : Field} {decl : FieldDecl} (h : fieldDecl m d f = .ok decl) {items : List Item}
    {item : Item} : item ∈ held items decl ↔
      decl.boxed = false ∧ item ∈ items ∧ ∃ word, Written f.type word ∧ declares word item = true := by
  obtain ⟨owned, howned, hcontent⟩ := fieldDecl_content h
  have hwritten (word : String) : Written f.type word ↔ _ := written_iff howned
  rw [fieldDecl_boxed h, held, hcontent]
  cases leadsTo d f.type m.name with
  | true => simp [tyRooted]
  | false =>
    simp only [hwritten, Bool.false_eq_true, if_false, true_and]
    constructor
    · intro hitem
      split at hitem
      · next i =>
        obtain ⟨hmem, hdeclares⟩ := List.mem_filter.mp hitem
        exact ⟨hmem, i.name, ⟨i, rfl, rfl⟩, hdeclares⟩
      · cases hitem
    · rintro ⟨hmem, _, ⟨i, rfl, rfl⟩, hdeclares⟩
      exact List.mem_filter.mpr ⟨hmem, hdeclares⟩

/-! ### Messages -/

/-- Whether the structure of one message holds that of another in place: it has a field without a box whose type is
written as the name of the other is. -/
def Holds (d : Definitions) (a b : Message) : Prop :=
  a ∈ d.messages ∧ b ∈ d.messages ∧
    ∃ f ∈ a.fields, Unboxed d a f ∧ ∃ word, Written f.type word ∧ Denotes (pascalCase b.name) word

/-- Whether an item is the code of a message of the schema. -/
def CodeOf (d : Definitions) (m : Message) (item : Item) : Prop :=
  m ∈ d.messages ∧ messageCode m d = .ok item

variable {f : File}

theorem CodeOf.mem (hfile : typesFile d = .ok f) {m : Message} {item : Item} (h : CodeOf d m item) :
    item ∈ f.items := by
  obtain ⟨_, messages, _, hmessages, hitems⟩ := typesFile_inv hfile
  obtain ⟨code, hmem, hcode⟩ := (exists_of_forall₂ hmessages).1 m h.1
  obtain rfl := Except.ok.inj (hcode.symm.trans h.2)
  exact hitems ▸ List.mem_append_right _ hmem

theorem exists_codeOf (hfile : typesFile d = .ok f) {m : Message} (hm : m ∈ d.messages) : ∃ item, CodeOf d m item := by
  obtain ⟨_, messages, _, hmessages, _⟩ := typesFile_inv hfile
  obtain ⟨code, _, hcode⟩ := (exists_of_forall₂ hmessages).1 m hm
  exact ⟨code, hm, hcode⟩

/-- The items that hold others in place are the structures of messages. -/
theorem codeOf_of_inPlace (hfile : typesFile d = .ok f) {item other : Item} (hitem : item ∈ f.items)
    (hother : other ∈ inPlace f.items item) : ∃ m, CodeOf d m item := by
  obtain ⟨enums, messages, henums, hmessages, hitems⟩ := typesFile_inv hfile
  rw [hitems] at hitem
  rcases List.mem_append.mp hitem with henum | hmessage
  · obtain ⟨code, hcode, hitem⟩ := List.mem_flatten.mp henum
    obtain ⟨e, _, hcode⟩ := (exists_of_forall₂ henums).2 code hcode
    obtain ⟨name, constants, _, _, rfl⟩ := enumCode_inv hcode
    have hfields : ∀ item ∈ enumItem e name constants :: codecItem name constants :: inherentItem name ::
        (textItems name ++ serdeItems name), fieldsOf item = [] := by
      simp [enumItem, codecItem, inherentItem, textItems, serdeItems, fieldsOf]
    rw [inPlace, hfields item hitem] at hother
    cases hother
  · obtain ⟨m, hm, hcode⟩ := (exists_of_forall₂ hmessages).2 item hmessage
    exact ⟨m, hm, hcode⟩

/-- The structures of messages hold each other in place as the messages do. -/
theorem holds_iff (hfile : typesFile d = .ok f) {a b : Message} {x y : Item} (ha : CodeOf d a x) (hb : CodeOf d b y) :
    Holds d a b ↔ y ∈ inPlace f.items x := by
  obtain ⟨_, _, fields, _, hfields, rfl⟩ := messageCode_inv ha.2
  have hdeclares (word : String) : Denotes (pascalCase b.name) word ↔ declares word y = true := by
    obtain ⟨_, name, _, hname, _, rfl⟩ := messageCode_inv hb.2
    simp [denotes_iff hname, declares, Item.type?]
  obtain ⟨hleft, hright⟩ := exists_of_forall₂ hfields
  constructor
  · rintro ⟨_, _, field, hfield, ⟨decl, hdecl, hboxed⟩, word, hword, hdenotes⟩
    obtain ⟨decl', hmem, hdecl'⟩ := hleft field hfield
    obtain rfl := Except.ok.inj (hdecl.symm.trans hdecl')
    refine List.mem_flatMap.mpr ⟨decl, hmem, (mem_held_iff hdecl).mpr ⟨hboxed, hb.mem hfile, word, hword, ?_⟩⟩
    exact (hdeclares word).mp hdenotes
  · intro hmem
    obtain ⟨decl, hdecl, hheld⟩ := List.mem_flatMap.mp hmem
    obtain ⟨field, hfield, hcode⟩ := hright decl hdecl
    obtain ⟨hboxed, _, word, hword, hname⟩ := (mem_held_iff hcode).mp hheld
    exact ⟨ha.1, hb.1, field, hfield, ⟨decl, hcode, hboxed⟩, word, hword, (hdeclares word).mpr hname⟩

/-- Types hold themselves in place exactly if messages do. -/
theorem acyclic_iff (hfile : typesFile d = .ok f) :
    (∀ item, ¬ TransGen (fun a b => b ∈ inPlace f.items a) item item) ↔ ∀ m, ¬ TransGen (Holds d) m m := by
  constructor
  · intro hitems m hcycle
    obtain ⟨_, ⟨hm, _⟩, _⟩ := TransGen.head'_iff.mp hcycle
    obtain ⟨x, hx⟩ := exists_codeOf hfile hm
    have hstep : ∀ a b x y, CodeOf d a x → CodeOf d b y → Holds d a b → y ∈ inPlace f.items x := fun _ _ _ _ ha hb =>
      (holds_iff hfile ha hb).mp
    have hmid : ∀ a b c, Holds d a b → Holds d b c → ∃ y, CodeOf d b y := fun _ _ _ hab _ =>
      exists_codeOf hfile hab.2.1
    exact hitems x (transGen_along (s := fun a b => b ∈ inPlace f.items a) hstep hmid hcycle hx hx)
  · intro hmessages x hcycle
    have hstep : ∀ x y a b, CodeOf d a x → CodeOf d b y → y ∈ inPlace f.items x → Holds d a b := fun _ _ _ _ ha hb =>
      (holds_iff hfile ha hb).mpr
    -- What holds another item is the structure of a message; enumerations are held and hold nothing.
    have hmid : ∀ x y z, y ∈ inPlace f.items x → z ∈ inPlace f.items y → ∃ m, CodeOf d m y := fun x y z hy hz =>
      codeOf_of_inPlace hfile (inPlace_subset f.items x hy) hz
    obtain ⟨y, hxy, _⟩ := TransGen.head'_iff.mp hcycle
    obtain ⟨z, _, hzx⟩ := TransGen.tail'_iff.mp hcycle
    obtain ⟨m, hm⟩ := hmid z x y hzx hxy
    exact hmessages m (transGen_along (C := fun x m => CodeOf d m x) hstep hmid hcycle hm hm)

/-- Where no name of a type denotes the word of another type, messages hold what they contain. -/
theorem Holds.contains (hvalid : d.Valid)
    (hapart : Apart ((d.enums.map (·.name) ++ d.messages.map (·.name)).map pascalCase))
    (hhidden : ∀ m ∈ d.messages, d.Unhidden (.named m.name)) {a b : Message} (h : Holds d a b) : Contains d a b := by
  obtain ⟨ha, hb, field, hfield, hunboxed, word, hwritten, hword⟩ := h
  refine ⟨ha, hb, field, hfield, hunboxed, ?_⟩
  have hbmem : b.name ∈ d.enums.map (·.name) ++ d.messages.map (·.name) :=
    List.mem_append_right _ (List.mem_map_of_mem hb)
  have hresolves := (hvalid.messages a ha).types field hfield
  have hreaches : d.Reaches (.named a.name) field.type := .field ha hfield (.refl _)
  generalize field.type = t at hwritten hresolves hreaches
  cases hwritten with
  | primitive ht => exact absurd hword (hhidden a ha t hreaches ht b.name hbmem)
  | @named n _ hn =>
    have hmem : n ∈ d.enums.map (·.name) ++ d.messages.map (·.name) := by
      rcases hresolves n rfl with ⟨e, he, rfl⟩ | ⟨_, m, hm, rfl⟩
      · exact List.mem_append_left _ (List.mem_map_of_mem he)
      · exact List.mem_append_right _ (List.mem_map_of_mem hm)
    rw [eq_of_word hapart hmem hbmem hn hword]

/-- In the code of a schema the boxes are where they are needed and nowhere else. The search for a way back finds one
exactly if there is one, so a field is boxed if and only if its type is the message or leads to it through fields, and
no message contains itself without a box. The types of the code have sizes, whatever the rest of their contents weighs,
exactly if no structure holds itself in place; this follows unless the name of one type denotes the word of another
one in code, declared or primitive. -/
theorem boxed_exactly_where_recursive (schema : Schema) :
    (∀ t target, leadsTo schema.toDefinitions t target = true ↔ schema.Leads t target) ∧
    (∀ m ∈ schema.messages, ∀ item, messageCode m schema.toDefinitions = .ok item →
      ∃ attrs name fields, item = .struct attrs true name (some fields) ∧
        List.Forall₂ (fun f decl => decl.boxed = true ↔ schema.Leads f.type m.name) m.fields fields) ∧
    (∀ m, ¬ TransGen (Contains schema.toDefinitions) m m) ∧
    ∀ f, typesFile schema.toDefinitions = .ok f →
      ((∀ weight, ∃ size, Sized f.items weight size) ↔ ∀ m, ¬ TransGen (Holds schema.toDefinitions) m m) ∧
      (Apart ((schema.enums.map (·.name) ++ schema.messages.map (·.name)).map pascalCase) →
        (∀ m ∈ schema.messages, schema.Unhidden (.named m.name)) → ∀ weight, ∃ size, Sized f.items weight size) := by
  have hvalid := Definitions.error?_eq_none_iff.mp schema.valid
  have hnames := hvalid.message_names
  refine ⟨fun t target => leadsTo_eq_true_iff hnames, ?boxed, not_contains_self hnames, fun f hfile => ?sizes⟩
  case boxed =>
    intro m _ item hcode
    obtain ⟨attrs, name, fields, _, hfields, rfl⟩ := messageCode_inv hcode
    refine ⟨attrs, name, fields, rfl, hfields.imp fun f decl hdecl => ?_⟩
    rw [fieldDecl_boxed hdecl, leadsTo_eq_true_iff hnames]
  case sizes =>
    have hsized := (exists_size_iff (inPlace_subset f.items)).trans (acyclic_iff hfile)
    refine ⟨hsized, fun hapart hhidden => hsized.mpr fun m hcycle => not_contains_self hnames m ?_⟩
    exact TransGen.mono (fun _ _ => Holds.contains hvalid hapart hhidden) _ _ hcycle

/-- Two messages that refer to each other: the reference is boxed. One to a third message is not, whose structure is
then smaller than the first. -/
theorem mutual_reference_boxed :
    let a : Message := { name := "A", fields := [⟨"b", .named "B", false⟩, ⟨"c", .named "C", true⟩] }
    let b : Message := { name := "B", fields := [⟨"a", .named "A", true⟩] }
    let c : Message := { name := "C", fields := [⟨"n", .i32, true⟩] }
    let d : Definitions := { package := "p", messages := [a, b, c] }
    ∃ (schema : Schema) (f : File) (x z : Item) (attrs : List Attribute) (name : Ident) (fields : List FieldDecl)
      (size : Item → Nat), schema.toDefinitions = d ∧ typesFile d = .ok f ∧ messageCode a d = .ok x ∧
      messageCode c d = .ok z ∧ x = .struct attrs true name (some fields) ∧ fields.map (·.boxed) = [true, false] ∧
      Sized f.items (fun _ => 1) size ∧ size z < size x := by
  intro a b c d
  have hvalid : d.error? = none := by decide +kernel
  have ha : a ∈ d.messages := List.mem_cons_self
  have hc : c ∈ d.messages := by simp [d]
  obtain ⟨f, hfile⟩ : ∃ f, typesFile d = .ok f := exists_of_toOption (by decide +kernel)
  obtain ⟨hsearch, hboxed, _, hsizes⟩ := boxed_exactly_where_recursive ⟨d, hvalid⟩
  obtain ⟨x, hx⟩ := exists_codeOf hfile ha
  obtain ⟨z, hz⟩ := exists_codeOf hfile hc
  obtain ⟨attrs, name, fields, hstruct, hfields⟩ := hboxed a ha x hx.2
  have hplain : ∀ name ∈ d.enums.map (·.name) ++ d.messages.map (·.name), Plain (pascalCase name) := by decide +kernel
  have hapart : Apart ((d.enums.map (·.name) ++ d.messages.map (·.name)).map pascalCase) :=
    apart_of_plain (by decide +kernel) (List.forall_mem_map.mpr hplain)
  obtain ⟨size, hsize⟩ := (hsizes f hfile).2 hapart (fun _ _ => unhidden_of_plain hplain _) fun _ => 1
  refine ⟨⟨d, hvalid⟩, f, x, z, attrs, name, fields, size, rfl, hfile, hx.2, hz.2, hstruct, ?_, hsize, ?_⟩
  · have hleads : List.Forall₂ (fun (f : Field) decl => decl.boxed = leadsTo d f.type "A") a.fields fields :=
      hfields.imp fun f decl hiff => Bool.eq_iff_iff.mpr (hiff.trans (hsearch f.type "A").symm)
    have hback : leadsTo d (.named "B") "A" = true := by decide +kernel
    have haway : leadsTo d (.named "C") "A" = false := by decide +kernel
    cases hleads with
    | cons hfirst hrest =>
      cases hrest with
      | cons hsecond hnil =>
        cases hnil
        simp [hfirst, hsecond, hback, haway]
  · have hunboxed : (fieldDecl a d ⟨"c", .named "C", true⟩).toOption.map (·.boxed) = some false := by decide +kernel
    obtain ⟨decl, hdecl, hbox⟩ := Option.map_eq_some_iff.mp hunboxed
    have hread : Ident.ofName? (pascalCase "C") = some (plain "C") := by decide +kernel
    have hholds : Holds d a c := ⟨ha, hc, ⟨"c", .named "C", true⟩, by simp [a], ⟨decl, toOption_eq_some.mp hdecl, hbox⟩,
      "C", .named (ofName?_eq_some hread), ofName?_eq_some hread⟩
    exact size_lt_of_within (inPlace_subset f.items) hsize (.single ((holds_iff hfile hx hz).mp hholds)) (hx.mem hfile)

/-- A message takes the name of a primitive type, in a comment, and has a field of this type. Its structure holds
itself in place, so it has no size, though the message contains none. -/
theorem hidden_primitive_unsized :
    let m : Message := { name := "/**/i32", fields := [⟨"g", .i32, true⟩] }
    let d : Definitions := { package := "p", messages := [m] }
    ∃ (schema : Schema) (f : File) (item : Item), schema.toDefinitions = d ∧ typesFile d = .ok f ∧
      messageCode m d = .ok item ∧ item ∈ f.items ∧ item ∈ inPlace f.items item ∧ (∀ other, ¬ Contains d m other) ∧
      ¬ ∃ size, Sized f.items (fun _ => 1) size := by
  intro m d
  have hvalid : d.error? = none := by decide +kernel
  have hm : m ∈ d.messages := List.mem_cons_self
  obtain ⟨f, hfile⟩ : ∃ f, typesFile d = .ok f := exists_of_toOption (by decide +kernel)
  obtain ⟨item, hitem⟩ := exists_codeOf hfile hm
  have hunboxed : (fieldDecl m d ⟨"g", .i32, true⟩).toOption.map (·.boxed) = some false := by decide +kernel
  obtain ⟨decl, hdecl, hbox⟩ := Option.map_eq_some_iff.mp hunboxed
  have hread : Ident.ofName? (pascalCase "/**/i32") = some (plain "i32") := by decide +kernel
  have hholds : Holds d m m := ⟨hm, hm, ⟨"g", .i32, true⟩, List.mem_cons_self, ⟨decl, toOption_eq_some.mp hdecl, hbox⟩,
    "i32", .primitive (by decide), ofName?_eq_some hread⟩
  have hself := (holds_iff hfile hitem hitem).mp hholds
  refine ⟨⟨d, hvalid⟩, f, item, rfl, hfile, hitem.2, hitem.mem hfile, hself, ?_, ?_⟩
  · rintro other ⟨_, _, field, hfield, _, htype⟩
    obtain rfl := List.mem_singleton.mp hfield
    cases htype
  · rintro ⟨size, hsize⟩
    exact lt_irrefl _ (size_lt_of_within (inPlace_subset f.items) hsize (.single hself) (hitem.mem hfile))

end ServiceBindings.Bindings
