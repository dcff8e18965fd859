import ServiceBindings.Proofs.Schema.Validation

/-!
Descriptions of definitions. Two definitions are equal but for what their descriptions say exactly if they are equal
without descriptions. Validation and every look-up go by names and types alone.
-/

namespace ServiceBindings

/-- A method without its description. -/
def Method.undescribed (m : Method) : Method :=
  { m with description := none }

/-- A service without descriptions, those of its methods included. -/
def Service.undescribed (s : Service) : Service :=
  { s with description := none, methods := s.methods.map Method.undescribed }

/-- An enumeration without its description. -/
def Enumeration.undescribed (e : Enumeration) : Enumeration :=
  { e with description := none }

/-- A message without its description. -/
def Message.undescribed (m : Message) : Message :=
  { m with description := none }

section Loop

variable {α β : Type}

/-- The loop over named items may look at the items through a function. -/
theorem firstError?_map (f : α → β) (name : β → String) (repeated : β → DefinitionError)
    (check : β → Option DefinitionError) (taken : List String) (items : List α) :
    firstError? name repeated check taken (items.map f) =
      firstError? (fun a => name (f a)) (fun a => repeated (f a)) (fun a => check (f a)) taken items := by
  induction items generalizing taken with
  | nil => rfl
  | cons a rest ih => simp only [List.map_cons, firstError?, ih]

end Loop

theorem Service.error?_undescribed (kinds : List (String × NameKind)) (s : Service) :
    s.undescribed.error? kinds = s.error? kinds := by
  rw [Service.error?, Service.undescribed, firstError?_map]
  rfl

namespace Definitions

/-- Definitions without descriptions. -/
def undescribed (d : Definitions) : Definitions :=
  { d with
    services := d.services.map Service.undescribed
    enums := d.enums.map Enumeration.undescribed
    messages := d.messages.map Message.undescribed }

variable (d : Definitions)

theorem kinds_undescribed : d.undescribed.kinds = d.kinds := by
  simp [kinds, undescribed, Service.undescribed, Enumeration.undescribed, Message.undescribed, Function.comp_def]

/-- Validation does not look at descriptions. -/
theorem error?_undescribed : d.undescribed.error? = d.error? := by
  have hservices : (fun s => Service.error? d.kinds s.undescribed) = Service.error? d.kinds :=
    funext fun s => Service.error?_undescribed d.kinds s
  rw [error?, error?, kinds_undescribed]
  simp only [undescribed, List.findSome?_map, Function.comp_def, hservices]
  rfl

theorem message?_undescribed (n : String) : d.undescribed.message? n = (d.message? n).map Message.undescribed := by
  simp only [message?, undescribed, List.find?_map]
  rfl

theorem isEnum_undescribed (t : DataType) : d.undescribed.isEnum t = d.isEnum t := by
  cases t with
  | named n =>
    simp [isEnum, enum?, undescribed, List.find?_map, Function.comp_def, DataType.name?, Enumeration.undescribed]
  | _ => rfl

end Definitions

/-- Definitions are refused with the first error in them. -/
theorem Schema.ofDefinitions_eq_error {d : Definitions} {e : DefinitionError} :
    Schema.ofDefinitions d = .error e ↔ d.error? = some e := by
  unfold Schema.ofDefinitions
  split
  · simp_all
  · simp_all

end ServiceBindings
