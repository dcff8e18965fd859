import ServiceBindings.Json.Shape

/-!
Taking a JSON value as a value of a shape. The members of an object are looked at in their order and the first
fault ends the check. The result is the normal form.
-/

namespace ServiceBindings.Json

namespace Shape

/-- Whether `null` is among the values of a shape. -/
def isOptional : Shape → Bool
  | .optional _ | .any => true
  | _ => false

/-- The shape that values other than `null` must have. -/
def core : Shape → Shape
  | .optional s => s.core
  | s => s

/-- Takes a bare name as a variant. -/
def ofBareName (variants : List Variant) (name : String) : Except Fault Json := do
  let v ← variant? variants name
  if v.carriesText then .error (.invalidType .unitVariant "newtype variant") else .ok (.string name)

/-- Takes the only member of an object as a variant. -/
def ofTagged (variants : List Variant) (name : String) (value : Json) : Except Fault Json := do
  let v ← variant? variants name
  if v.carriesText then
    match value with
    | .string s => .ok (.object [(name, .string s)])
    | value => .error (.invalidType (Found.ofJson value) "a string")
  else
    match value with
    | .null => .ok (.string name)
    | value => .error (.invalidType (Found.ofJson value) "unit")

end Shape

mutual

/-- Takes a value as one of a shape. -/
def accept (records : List Record) (shape : Shape) : Json → Except Fault Json
  | .null =>
    if shape.isOptional then .ok .null
    else
      match shape with
      | .choice _ => .error (.invalidType .null "string or map")
      | s => .error (.invalidType .null (s.expected records))
  | .bool b =>
    match shape.core with
    | .flag | .any => .ok (.bool b)
    | s => .error (.invalidType (.boolean b) (s.expected records))
  | .number n =>
    match shape.core with
    | .any => .ok (.number n)
    | s => s.ofNumber records n
  | .string s =>
    match shape.core with
    | .text | .any => .ok (.string s)
    | .wire values => Shape.ofWire values s
    | .choice variants => Shape.ofBareName variants s
    | sh => .error (.invalidType (.string s) (sh.expected records))
  | .array items =>
    match shape.core with
    | .any => .ok (.array items)
    | .sequence item => do .ok (.array (← acceptItems records item items))
    | .record name =>
      match Record.find? records name with
      | none => .error (.invalidType .sequence name)
      | some r => do
        let members ← acceptPlaces records r r.members 0 items
        if r.members.length < items.length then
          .error (.invalidLength items.length "fewer elements in array")
        else .ok (.object members)
    | s => .error (.invalidType .sequence (s.expected records))
  | .object members =>
    match shape.core with
    | .any => .ok (.object members)
    | .record name =>
      match Record.find? records name with
      | none => .error (.invalidType .map name)
      | some r => do .ok (.object (← Record.normal (← acceptMembers records r [] members) r.members))
    | .choice variants =>
      match members with
      | [(name, value)] => Shape.ofTagged variants name value
      | _ => .error (.invalidValue .map "map with a single key")
    | s => .error (.invalidType .map (s.expected records))

/-- Takes each item of a list as one of a shape. -/
def acceptItems (records : List Record) (item : Shape) : List Json → Except Fault (List Json)
  | [] => .ok []
  | v :: rest => do
    let v ← accept records item v
    .ok (v :: (← acceptItems records item rest))

/-- Takes the items of a list as the members of a record. -/
def acceptPlaces (records : List Record) (r : Record) :
    List Member → Nat → List Json → Except Fault (List (String × Json))
  | [], _, _ => .ok []
  | m :: ms, count, [] => r.rest count (m :: ms)
  | m :: ms, count, v :: rest => do
    let v ← accept records m.shape v
    .ok (Record.place m v ++ (← acceptPlaces records r ms (count + 1) rest))

/-- Takes the members of an object as those of a record, leaving out the members of other names. -/
def acceptMembers (records : List Record) (r : Record) (found : List (String × Json)) :
    List (String × Json) → Except Fault (List (String × Json))
  | [] => .ok found
  | (key, v) :: rest =>
    match r.members.find? (·.name == key) with
    | some m =>
      if (found.lookup key).isSome then .error (.duplicateField key)
      else do
        let v ← accept records m.shape v
        acceptMembers records r ((key, v) :: found) rest
    | none => acceptMembers records r found rest

end

/-- Takes a value as one of a shape. -/
def Shape.accept (records : List Record) (shape : Shape) (value : Json) : Except Fault Json :=
  Json.accept records shape value

end ServiceBindings.Json
