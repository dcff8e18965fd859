import ServiceBindings.Generate.Types

/-!
The code of a message: a structure with a field for each field of the message, under its name on the wire. A field
that leads back to the message is boxed, so that the structure has a finite size.
-/

namespace ServiceBindings.Generate

open Code

/-- How many fields the messages have whose names are not among those visited. -/
def unvisitedFields (d : Definitions) (visited : List String) : Nat :=
  ((d.messages.filter (·.name ∉ visited)).flatMap (·.fields)).length

private theorem fields_filter_le {messages : List Message} {p q : Message → Bool} (h : ∀ m, p m = true → q m = true) :
    ((messages.filter p).flatMap (·.fields)).length ≤ ((messages.filter q).flatMap (·.fields)).length := by
  induction messages with
  | nil => simp
  | cons m rest ih =>
    cases hp : p m with
    | true => simpa [hp, h m hp] using ih
    | false =>
      cases hq : q m with
      | true => simpa [hp, hq] using Nat.le_add_left_of_le ih
      | false => simpa [hp, hq] using ih

theorem unvisitedFields_cons_le (d : Definitions) (n : String) (visited : List String) :
    unvisitedFields d (n :: visited) ≤ unvisitedFields d visited :=
  fields_filter_le fun m hm => by simp_all

/-- The fields of a message that is visited are no longer among those that are not. -/
theorem unvisitedFields_of_message? {d : Definitions} {n : String} {m : Message} {visited : List String}
    (hm : d.message? n = some m) (hn : n ∉ visited) :
    m.fields.length + unvisitedFields d (n :: visited) ≤ unvisitedFields d visited := by
  unfold Definitions.message? at hm
  unfold unvisitedFields
  generalize d.messages = messages at hm
  induction messages with
  | nil => cases hm
  | cons a rest ih =>
    by_cases ha : a.name = n
    · obtain rfl : a = m := by simpa [ha] using hm
      have hrest : ((rest.filter (·.name ∉ n :: visited)).flatMap (·.fields)).length ≤
          ((rest.filter (·.name ∉ visited)).flatMap (·.fields)).length :=
        fields_filter_le fun b hb => by simp_all
      simpa [ha, hn] using hrest
    · have hrest := ih (by simpa [ha] using hm)
      by_cases hvisited : a.name ∈ visited
      · simpa [ha, hvisited] using hrest
      · simp only [List.mem_cons, ha, hvisited, or_self, not_false_eq_true, decide_true, List.filter_cons_of_pos,
          List.flatMap_cons, List.length_append] at hrest ⊢
        omega

/-- Whether a search in depth from some types comes upon a message of the given name. The fields of a message that it
enters come before the types that are left, and it enters no message twice. -/
def search (d : Definitions) (target : String) (visited : List String) : List DataType → Bool
  | [] => false
  | t :: rest =>
    match t.name? with
    | none => search d target visited rest
    | some n =>
      if n = target then true
      else if _ : n ∈ visited then search d target visited rest
      else
        match _ : d.message? n with
        | none => search d target (n :: visited) rest
        | some m => search d target (n :: visited) (m.fields.map (·.type) ++ rest)
termination_by types => types.length + unvisitedFields d visited
decreasing_by
  · simp
  · simp
  · have := unvisitedFields_cons_le d n visited
    simp only [List.length_cons]
    omega
  · have := unvisitedFields_of_message? ‹d.message? n = some m› ‹n ∉ visited›
    simp only [List.length_append, List.length_map, List.length_cons]
    omega

/-- Whether a value of a type can contain a message of the given name. -/
def leadsTo (d : Definitions) (t : DataType) (target : String) : Bool :=
  search d target [] [t]

/-- The type of a field in the structure. -/
def fieldType (m : Message) (d : Definitions) (f : Field) : Except GenerationError Ty := do
  let owned ← valueType f.type
  let boxed := if leadsTo d f.type m.name then tyRooted ["std", "boxed", "Box"] [owned] else owned
  return if f.required then boxed else tyRooted ["std", "option", "Option"] [boxed]

/-- A field of the structure. -/
def fieldDecl (m : Message) (d : Definitions) (f : Field) : Except GenerationError FieldDecl := do
  let name ← memberIdent f.name
  let type ← fieldType m d f
  let rename := if name.name = f.name then [] else [.serde [.rename f.name]]
  let omitted :=
    if f.required then []
    else [.serde [.default, .skipSerializingIf "::std::option::Option::is_none"]]
  return { attrs := rename ++ omitted, isPub := true, name, type }

/-- Whether the structure has a default: every required field is a scalar. -/
def hasDefault (m : Message) : Bool :=
  m.fields.all fun f => !f.required || f.type.isScalar

/-- The code of a message. -/
def messageCode (m : Message) (d : Definitions) : Except GenerationError Item := do
  let name ← typeIdent m.name
  let fields ← m.fields.mapM (fieldDecl m d)
  let traits := ["Debug", "Clone", "PartialEq"] ++ if hasDefault m then ["Default"] else []
  return .struct
    [docOf m.description (ticked m.name ++ " message."),
      .derive (traits.map (fun t => tyPath [t]) ++ [tyPath ["serde", "Serialize"], tyPath ["serde", "Deserialize"]])]
    true name (some fields)

end ServiceBindings.Generate
