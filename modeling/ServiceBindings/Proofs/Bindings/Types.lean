import Mathlib.Data.List.Pairwise
import ServiceBindings.Bindings.Types
import ServiceBindings.Proofs.Generate.Distinct

/-!
What the types of a generated crate mean. The shape of a type in the code is that of the type in the schema, and the
fields of a structure are those of a message, under their names in the schema.
-/

namespace ServiceBindings

/-- The kind of integers of a type. -/
def DataType.integerKind? : DataType → Option Json.IntegerKind
  | .i32 => some .i32
  | .i64 => some .i64
  | .u32 => some .u32
  | .u64 => some .u64
  | _ => none

end ServiceBindings

namespace ServiceBindings.Bindings

open Code Generate

variable {d : Definitions}

/-! ### Types of a schema -/

/-- The shape of the values of a type: the wire values of an enumeration, the record under the word of a message. -/
inductive ShapeOf (d : Definitions) : DataType → Json.Shape → Prop
  | string : ShapeOf d .string .text
  | bool : ShapeOf d .bool .flag
  | integer {t : DataType} {k : Json.IntegerKind} (hkind : t.integerKind? = some k) : ShapeOf d t (.integer k)
  | f32 : ShapeOf d .f32 .single
  | f64 : ShapeOf d .f64 .double
  | enumeration {e : Enumeration} (he : e ∈ d.enums) : ShapeOf d (.named e.name) (.wire (e.constants.map (·.value)))
  | message {m : Message} (hm : m ∈ d.messages) {word : String} (hword : Denotes (pascalCase m.name) word) :
      ShapeOf d (.named m.name) (.record word)

/-- The types that are there without being declared. -/
def primitives : List String := ["bool", "i32", "i64", "u32", "u64", "f32", "f64", "str"]

/-! ### Codecs -/

/-- A constant and its text in code, for a constant of a schema. -/
def ConstantOf (c : Constant) (arm : Ident × String) : Prop :=
  Ident.ofName? (pascalCase c.name) = some arm.1 ∧ arm.2 = c.value

/-- A codec for an enumeration: its constants, each with its wire value. -/
structure CodecOf (e : Enumeration) (c : Codec) : Prop where
  constants : c.constants = c.arms.map (·.1)
  arms : List.Forall₂ ConstantOf e.constants c.arms

private theorem constantsOf?_values (arms : List (Ident × String)) :
    constantsOf? (.const [] false (plain "VALUES") staticSelves
      (.ref (.array (arms.map fun a => constantExpr a.1)))) = some (arms.map (·.1)) := by
  have hread : ∀ i, constantOf? (constantExpr i) = some i := fun _ => rfl
  have hconstants : (arms.map fun a => constantExpr a.1) = (arms.map (·.1)).map constantExpr := by simp
  rw [constantsOf?, if_pos rfl, hconstants, mapM_map_eq_some hread]

private theorem armsOf?_encode (subject : Expr) (arms : List (Ident × String)) :
    armsOf? (.function [] false (head "encode" [.receiver false] staticStr)
      { result := .cases subject (arms.map fun a => (constantExpr a.1, .text a.2)) }) = some arms := by
  have hread : ∀ a : Ident × String, armOf? (constantExpr a.1, .text a.2) = some a := fun _ => rfl
  have hname : (head "encode" [.receiver false] staticStr).name = plain "encode" := rfl
  rw [armsOf?, if_pos hname, mapM_map_eq_some hread]

/-- The implementation of the codec is read as what it was written for. -/
theorem codecOf?_codecItem (type name : Ident) (arms : List (Ident × String)) :
    codecOf? type (codecItem name arms) = if name = type then some ⟨arms.map (·.1), arms⟩ else none := by
  by_cases hname : name = type
  · have htypes : names? codecTy = names? codecTy ∧ names? (.path false [name] [] []) = some [type] := by
      simp [names?, hname]
    rw [if_pos hname, codecItem, codecOf?, if_pos htypes]
    simp only [List.findSome?_cons, constantsOf?_values, armsOf?_encode]
    rfl
  · simp [codecItem, codecOf?, names?, hname]

/-- No other item of an enumeration is read as a codec. -/
private theorem codecOf?_others (type : Ident) (e : Enumeration) (name : Ident) (arms : List (Ident × String)) :
    ∀ item ∈ enumItem e name arms :: inherentItem name :: (textItems name ++ serdeItems name),
      codecOf? type item = none := by
  simp [enumItem, inherentItem, textItems, serdeItems, codecOf?, names?, codecTy, tyPath, tyRooted, plain]

/-- The code of an enumeration has one codec, and it is one for the enumeration. -/
theorem enumCode_codec {e : Enumeration} {code : List Item} (h : enumCode e = .ok code) :
    ∃ name c, Ident.ofName? (pascalCase e.name) = some name ∧ CodecOf e c ∧
      (∃ item ∈ code, codecOf? name item = some c) ∧
      ∀ item ∈ code, ∀ type c', codecOf? type item = some c' → name = type ∧ c' = c := by
  obtain ⟨name, arms, hname, harms, rfl⟩ := enumCode_inv h
  refine ⟨name, ⟨arms.map (·.1), arms⟩, hname, ⟨rfl, harms⟩, ?_, ?_⟩
  · exact ⟨codecItem name arms, by simp, by rw [codecOf?_codecItem, if_pos rfl]⟩
  · intro item hitem type c' hc
    by_cases hcodec : item = codecItem name arms
    · rw [hcodec, codecOf?_codecItem] at hc
      split at hc
      · next heq => exact ⟨heq, (Option.some.inj hc).symm⟩
      · cases hc
    · have hother : item ∈ enumItem e name arms :: inherentItem name :: (textItems name ++ serdeItems name) := by
        simpa [hcodec] using hitem
      rw [codecOf?_others type e name arms item hother] at hc
      cases hc

private theorem filterMap_lookup {α β : Type} [BEq α] [LawfulBEq α] {arms : List (α × β)}
    (hnodup : (arms.map (·.1)).Nodup) : (arms.map (·.1)).filterMap (List.lookup · arms) = arms.map (·.2) := by
  induction arms with
  | nil => rfl
  | cons arm rest ih =>
    obtain ⟨k, v⟩ := arm
    obtain ⟨hfresh, hnodup⟩ := List.nodup_cons.mp hnodup
    have hrest : (rest.map (·.1)).filterMap (List.lookup · ((k, v) :: rest)) =
        (rest.map (·.1)).filterMap (List.lookup · rest) := by
      refine List.filterMap_congr fun key hkey => ?_
      have hne : (key == k) = false := by
        refine beq_eq_false_iff_ne.mpr ?_
        rintro rfl
        exact hfresh hkey
      simp only [List.lookup_cons, hne]
    simp [hrest, ih hnodup]

/-- The constants of a codec are the identifiers of the names in the schema. -/
theorem CodecOf.idents {e : Enumeration} {c : Codec} (h : CodecOf e c) :
    Idents (e.constants.map fun c => pascalCase c.name) c.constants := by
  rw [h.constants]
  exact idents_map (h.arms.imp fun _ _ harm => harm.1)

theorem CodecOf.values {e : Enumeration} {c : Codec} (h : CodecOf e c) :
    c.arms.map (·.2) = e.constants.map (·.value) := by
  have harms := h.arms
  generalize c.arms = arms at harms
  generalize e.constants = constants at harms
  induction harms with
  | nil => rfl
  | cons harm _ ih => simp [harm.2, ih]

/-- The texts of a codec are the wire values of the enumeration. -/
theorem CodecOf.texts {e : Enumeration} {c : Codec} (h : CodecOf e c)
    (hapart : Apart (e.constants.map fun c => pascalCase c.name)) : c.texts = e.constants.map (·.value) := by
  have hnodup : c.constants.Nodup := List.Nodup.of_map _ ((distinct_iff_apart h.idents).mpr hapart)
  rw [← h.values, ← filterMap_lookup (h.constants ▸ hnodup), ← h.constants]
  rfl

/-! ### The file of types -/

/-- Where names are apart, no two items have names for one word. -/
theorem eq_of_word {α : Type} {name : α → String} {items : List α} (hapart : Apart (items.map name)) {a b : α}
    (ha : a ∈ items) (hb : b ∈ items) {word : String} (hworda : Denotes (name a) word)
    (hwordb : Denotes (name b) word) : a = b := by
  rw [Apart, List.pairwise_map] at hapart
  by_contra hne
  have hsymm : Std.Symm fun a b => ¬ ∃ word, Denotes (name a) word ∧ Denotes (name b) word :=
    ⟨fun _ _ hab ⟨word, hb, ha⟩ => hab ⟨word, ha, hb⟩⟩
  exact hapart.forall ha hb hne ⟨word, hworda, hwordb⟩

/-- The type of a value in code has a shape. -/
theorem exists_shape (items : List Item) {t : DataType} {ty : Ty} (hty : valueType t = .ok ty) :
    ∃ shape, shape? items ty = some shape := by
  cases t with
  | named n =>
    simp only [valueType, bind_eq_ok, pure_eq_ok] at hty
    obtain ⟨i, _, rfl⟩ := hty
    exact ⟨_, rfl⟩
  | string | bool | i32 | i64 | u32 | u64 | f32 | f64 =>
    obtain rfl := Except.ok.inj hty
    exact ⟨_, rfl⟩

section TypesFile

variable {f : File}

/-- Every codec in the file of types is that of an enumeration. -/
theorem enum_of_codec? (hfile : typesFile d = .ok f) {type : Ident} {c : Codec}
    (hc : codec? f.items type = some c) :
    ∃ e ∈ d.enums, Ident.ofName? (pascalCase e.name) = some type ∧ CodecOf e c := by
  obtain ⟨enums, messages, henums, hmessages, hitems⟩ := typesFile_inv hfile
  obtain ⟨item, hitem, hc⟩ := List.exists_of_findSome?_eq_some hc
  rw [hitems] at hitem
  rcases List.mem_append.mp hitem with henum | hmessage
  · obtain ⟨code, hcode, hitem⟩ := List.mem_flatten.mp henum
    obtain ⟨e, he, hcode⟩ := (exists_of_forall₂ henums).2 code hcode
    obtain ⟨name, c', hname, hcodec, _, hsole⟩ := enumCode_codec hcode
    obtain ⟨rfl, rfl⟩ := hsole item hitem type c hc
    exact ⟨e, he, hname, hcodec⟩
  · obtain ⟨m, _, hm⟩ := (exists_of_forall₂ hmessages).2 item hmessage
    obtain ⟨_, _, _, _, _, rfl⟩ := messageCode_inv hm
    cases hc

/-- The codec of an enumeration is found under the name of the enumeration. -/
theorem codec?_of_enum (hfile : typesFile d = .ok f) (hapart : EachScope Apart d) {e : Enumeration} (he : e ∈ d.enums)
    {type : Ident} (htype : Ident.ofName? (pascalCase e.name) = some type) :
    ∃ c, codec? f.items type = some c ∧ CodecOf e c := by
  have hfound : (codec? f.items type).isSome := by
    obtain ⟨enums, messages, henums, _, hitems⟩ := typesFile_inv hfile
    obtain ⟨code, hmem, hcode⟩ := (exists_of_forall₂ henums).1 e he
    obtain ⟨name, c, hname, _, ⟨item, hitem, hc⟩, _⟩ := enumCode_codec hcode
    obtain rfl : name = type := Option.some.inj (hname.symm.trans htype)
    refine List.findSome?_isSome_iff.mpr ⟨item, ?_, by rw [hc]; rfl⟩
    rw [hitems]
    exact List.mem_append_left _ (List.mem_flatten_of_mem hmem hitem)
  obtain ⟨c, hc⟩ := Option.isSome_iff_exists.mp hfound
  obtain ⟨e', he', htype', hcodec⟩ := enum_of_codec? hfile hc
  have htypes := hapart.types
  rw [Apart, List.map_append, List.pairwise_append, List.map_map] at htypes
  obtain rfl : e' = e := eq_of_word htypes.1 he' he (ofName?_eq_some htype') (ofName?_eq_some htype)
  exact ⟨c, hc, hcodec⟩

/-- There is no codec under the name of a message. -/
theorem codec?_of_message (hfile : typesFile d = .ok f) (hapart : EachScope Apart d) {m : Message}
    (hm : m ∈ d.messages) {type : Ident} (htype : Ident.ofName? (pascalCase m.name) = some type) :
    codec? f.items type = none := by
  cases hc : codec? f.items type with
  | none => rfl
  | some c =>
    obtain ⟨e, he, hname, _⟩ := enum_of_codec? hfile hc
    have htypes := hapart.types
    rw [Apart, List.map_append, List.pairwise_append] at htypes
    have hcross := htypes.2.2 (pascalCase e.name) (by simpa using ⟨e, he, rfl⟩) (pascalCase m.name)
      (by simpa using ⟨m, hm, rfl⟩)
    exact absurd ⟨type.name, ofName?_eq_some hname, ofName?_eq_some htype⟩ hcross

/-- A type that the file declares is found under its name. -/
private theorem declared?_of_mem (hfile : typesFile d = .ok f) (hapart : EachScope Apart d) {name : String}
    (hname : name ∈ d.enums.map (·.name) ++ d.messages.map (·.name)) {type : Ident}
    (htype : Ident.ofName? (pascalCase name) = some type) : declared? f.items type.name = some type := by
  have hidents := typesFile_types hfile
  have hdistinct : ((f.items.filterMap Item.type?).map (·.name)).Nodup := (distinct_iff_apart hidents).mpr hapart.types
  obtain ⟨i, hi, hread⟩ := (exists_of_forall₂ hidents).1 _ (List.mem_map_of_mem hname)
  obtain rfl : i = type := Option.some.inj (hread.symm.trans htype)
  exact (find?_key_eq_some_iff hdistinct).mpr ⟨hi, rfl⟩

/-- No type is declared under a word that no name denotes. -/
theorem declared?_eq_none (hfile : typesFile d = .ok f) {word : String}
    (hfresh : ∀ name ∈ d.enums.map (·.name) ++ d.messages.map (·.name), ¬ Denotes (pascalCase name) word) :
    declared? f.items word = none := by
  refine List.find?_eq_none.mpr fun i hi hsame => ?_
  obtain rfl : i.name = word := by simpa using hsame
  obtain ⟨form, hform, hread⟩ := (exists_of_forall₂ (typesFile_types hfile)).2 i hi
  obtain ⟨name, hname, rfl⟩ := List.mem_map.mp hform
  exact hfresh name hname (ofName?_eq_some hread)

theorem namedShape_of_declared {items : List Item} {type i : Ident} (h : declared? items type.name = some i) :
    namedShape items type = match codec? items i with
      | some c => .wire c.texts
      | none => .record i.name := by
  cases hcodec : codec? items i <;> simp [namedShape, h, hcodec]

theorem namedShape_of_primitive {items : List Item} {type : Ident} (h : declared? items type.name = none)
    {shape : Json.Shape} (hshape : primitiveShape? type.name = some shape) : namedShape items type = shape := by
  simp [namedShape, h, hshape]

/-- The shape of a name in code is that of the type of the schema that it is read from. -/
theorem shapeOf_named (hfile : typesFile d = .ok f) (hapart : EachScope Apart d) {n : String}
    (hresolves : d.Resolves false (.named n)) {i : Ident} (hi : Ident.ofName? (pascalCase n) = some i) :
    ShapeOf d (.named n) (namedShape f.items i) := by
  rcases hresolves n rfl with ⟨e, he, rfl⟩ | ⟨_, m, hm, rfl⟩
  · have hdeclared := declared?_of_mem hfile hapart (List.mem_append_left _ (List.mem_map_of_mem he)) hi
    obtain ⟨c, hc, hcodec⟩ := codec?_of_enum hfile hapart he hi
    rw [namedShape_of_declared hdeclared, hc]
    simp only [hcodec.texts (hapart.constants e he)]
    exact .enumeration he
  · have hdeclared := declared?_of_mem hfile hapart (List.mem_append_right _ (List.mem_map_of_mem hm)) hi
    rw [namedShape_of_declared hdeclared, codec?_of_message hfile hapart hm hi]
    exact .message hm (ofName?_eq_some hi)

/-- The shape of a primitive type in code is its own, unless a type is declared under its word. -/
theorem shapeOf_primitive {t : DataType} (hnamed : ∀ n, t ≠ .named n) {ty : Ty} (hty : valueType t = .ok ty)
    {items : List Item} (hfresh : t.keyword ∈ primitives → declared? items t.keyword = none) {shape : Json.Shape}
    (hshape : shape? items ty = some shape) : ShapeOf d t shape := by
  cases t with
  | named n => exact absurd rfl (hnamed n)
  | string =>
    obtain rfl := Except.ok.inj hty
    obtain rfl := Option.some.inj hshape
    exact .string
  | bool | f32 | f64 | i32 | i64 | u32 | u64 =>
    obtain rfl := Except.ok.inj hty
    obtain rfl := Option.some.inj hshape
    rw [namedShape_of_primitive (hfresh (by decide)) rfl]
    constructor <;> rfl

private theorem shape?_box (items : List Item) (t : Ty) :
    shape? items (tyRooted ["std", "boxed", "Box"] [t]) = shape? items t := by
  simp [tyRooted, shape?, plain]

private theorem shape?_option (items : List Item) (t : Ty) :
    shape? items (tyRooted ["std", "option", "Option"] [t]) = (shape? items t).map .optional := by
  simp [tyRooted, shape?, plain]

/-- The member that a field with values of a shape becomes. -/
def fieldMember (f : Field) (shape : Json.Shape) : Json.Member :=
  if f.required then { name := f.name, shape }
  else { name := f.name, shape := .optional shape, default? := some .null, omitted := true }

/-- A field in code is a member under the name in the schema, whatever its identifier. -/
theorem memberOf?_fieldDecl {m : Message} {field : Field} {code : FieldDecl} (h : fieldDecl m d field = .ok code)
    (items : List Item) :
    ∃ owned shape, valueType field.type = .ok owned ∧ shape? items owned = some shape ∧
      memberOf? items code = some (fieldMember field shape) := by
  simp only [fieldDecl, fieldType, bind_eq_ok, pure_eq_ok] at h
  obtain ⟨i, _, type, ⟨owned, howned, rfl⟩, rfl⟩ := h
  obtain ⟨shape, hshape⟩ := exists_shape items howned
  refine ⟨owned, shape, howned, hshape, ?_⟩
  have hboxed : ∀ boxed : Bool, shape? items (if boxed then tyRooted ["std", "boxed", "Box"] [owned] else owned) =
      some shape := by
    intro boxed
    cases boxed with
    | false => exact hshape
    | true => exact (shape?_box items owned).trans hshape
  cases hrequired : field.required with
  | true =>
    by_cases hname : i.name = field.name
    · simp [memberOf?, key, isSkipped, fieldMember, hrequired, serdeOptions, renamed?, hboxed, hname]
    · simp [memberOf?, key, isSkipped, fieldMember, hrequired, serdeOptions, renamed?, hboxed, hname]
  | false =>
    by_cases hname : i.name = field.name
    · simp [memberOf?, key, isSkipped, fieldMember, hrequired, serdeOptions, renamed?, shape?_option, hboxed, hname]
    · simp [memberOf?, key, isSkipped, fieldMember, hrequired, serdeOptions, renamed?, shape?_option, hboxed, hname]

theorem exists_of_forall₂_some {α β γ : Type} {R : α → γ → Prop} {g : β → Option γ} {xs : List α}
    {ys : List β} (h : List.Forall₂ (fun x y => ∃ z, g y = some z ∧ R x z) xs ys) :
    ∃ zs, ys.mapM g = some zs ∧ ys.filterMap g = zs ∧ List.Forall₂ R xs zs := by
  induction h with
  | nil => exact ⟨[], rfl, rfl, .nil⟩
  | cons hz _ ih =>
    obtain ⟨z, hz, hxz⟩ := hz
    obtain ⟨zs, hmapM, hfilterMap, hrest⟩ := ih
    exact ⟨z :: zs, by simp [hz, hmapM], by simp [hz, hfilterMap], .cons hxz hrest⟩

end TypesFile

end ServiceBindings.Bindings
