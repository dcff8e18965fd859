import ServiceBindings.Proofs.Generate.Distinct
import ServiceBindings.Proofs.Files.Output

/-!
Why generation stops. Its errors come from the options, from the name of the crate, from the specification of builders,
from names that are no identifiers or collide, and from methods that a profile can neither carry nor let fail.
-/

namespace ServiceBindings

/-- Whether an error is about names in generated code. -/
def GenerationError.IsCode (e : GenerationError) : Prop :=
  ∃ fault, e = .code fault

namespace Generate

open Code

/-! ### Errors of code

Below the checks, code is made from names. It is not made only where a name is no identifier. -/

private theorem isCode (fault : CodeFault) : GenerationError.IsCode (.code fault) :=
  ⟨fault, rfl⟩

section Code

open FailsWith

theorem identOf_failsWith (name : String) : FailsWith GenerationError.IsCode (identOf name) := by
  unfold identOf
  cases Ident.ofName? name with
  | none => exact error (isCode _)
  | some i => exact ok _ i

theorem memberIdent_failsWith (name : String) : FailsWith GenerationError.IsCode (memberIdent name) :=
  identOf_failsWith (snakeCase name)

theorem typeIdent_failsWith (name : String) : FailsWith GenerationError.IsCode (typeIdent name) :=
  identOf_failsWith (pascalCase name)

theorem paramIdent_failsWith (unused : Bool) (name : String) :
    FailsWith GenerationError.IsCode (paramIdent unused name) := by
  unfold paramIdent
  split
  · exact identOf_failsWith ("_" ++ snakeCase name)
  · exact memberIdent_failsWith name

theorem clientTypeIdent_failsWith (s : Service) (p : Profile) :
    FailsWith GenerationError.IsCode (clientTypeIdent s p) :=
  identOf_failsWith (pascalCase s.name ++ p.clientSuffix)

theorem builderTypeIdent_failsWith (s : Service) (p : Profile) :
    FailsWith GenerationError.IsCode (builderTypeIdent s p) := by
  unfold builderTypeIdent
  apply (clientTypeIdent_failsWith s p).bind
  intro client _
  exact identOf_failsWith (client.text ++ "Builder")

theorem valueType_failsWith (t : DataType) : FailsWith GenerationError.IsCode (valueType t) := by
  cases t with
  | named n => exact (typeIdent_failsWith n).bind fun i _ => pure _ _
  | _ => exact ok _ _

theorem argumentType_failsWith (t : DataType) (d : Definitions) :
    FailsWith GenerationError.IsCode (argumentType t d) := by
  cases t with
  | string => exact ok _ _
  | named n => exact (valueType_failsWith (.named n)).bind fun owned _ => pure _ _
  | _ => exact ok _ _

theorem methodParam_failsWith (d : Definitions) (unused : Bool) (name : String) (t : DataType) :
    FailsWith GenerationError.IsCode (methodParam d unused name t) := by
  unfold methodParam
  apply (argumentType_failsWith t d).bind
  rintro ⟨type, pass⟩ _
  exact (paramIdent_failsWith unused name).bind fun i _ => pure _ _

theorem outputType_failsWith (response : Option DataType) :
    FailsWith GenerationError.IsCode (outputType response) := by
  cases response with
  | none => exact ok _ _
  | some t => exact valueType_failsWith t

theorem methodSignature_failsWith (m : Method) (d : Definitions) (unused : Bool) :
    FailsWith GenerationError.IsCode (methodSignature m d unused) := by
  unfold methodSignature
  have hrequest : FailsWith GenerationError.IsCode (m.request.mapM (methodParam d unused requestName)) := by
    cases m.request with
    | none => exact pure _ _
    | some t => exact (methodParam_failsWith d unused requestName t).bind fun q _ => pure _ _
  apply hrequest.bind
  intro request _
  apply (FailsWith.mapM fun (q : PathParameter) _ => methodParam_failsWith d unused q.name q.type).bind
  intro pathParams _
  apply (outputType_failsWith m.response).bind
  intro output _
  exact (memberIdent_failsWith m.name).bind fun name _ => pure _ _

theorem decoder_failsWith (response : Option DataType) : FailsWith GenerationError.IsCode (decoder response) := by
  cases response with
  | none => exact ok _ _
  | some t => exact (valueType_failsWith t).bind fun type _ => pure _ _

theorem methodBody_failsWith (m : Method) (p : Profile) (signature : MethodSignature) (binding : Binding) :
    FailsWith GenerationError.IsCode (methodBody m p signature binding) := by
  cases binding with
  | unsupported => exact ok _ _
  | stub => exact ok _ _
  | bridged => exact (decoder_failsWith m.response).bind fun decode _ => pure _ _

theorem traitCode_failsWith (s : Service) (d : Definitions) : FailsWith GenerationError.IsCode (traitCode s d) := by
  unfold traitCode
  apply (typeIdent_failsWith s.name).bind
  intro name _
  have hmethods : FailsWith GenerationError.IsCode
      (s.methods.mapM fun m => do return ([methodComment m], (← methodSignature m d false).code)) :=
    FailsWith.mapM fun m _ => (methodSignature_failsWith m d false).bind fun signature _ => pure _ _
  exact hmethods.bind fun methods _ => pure _ _

theorem enumCode_failsWith (e : Enumeration) : FailsWith GenerationError.IsCode (enumCode e) := by
  unfold enumCode
  apply (typeIdent_failsWith e.name).bind
  intro name _
  have hconstants : FailsWith GenerationError.IsCode
      (e.constants.mapM fun c => do return (← typeIdent c.name, c.value)) :=
    FailsWith.mapM fun c _ => (typeIdent_failsWith c.name).bind fun i _ => pure _ _
  exact hconstants.bind fun constants _ => pure _ _

theorem fieldType_failsWith (m : Message) (d : Definitions) (f : Field) :
    FailsWith GenerationError.IsCode (fieldType m d f) := by
  unfold fieldType
  exact (valueType_failsWith f.type).bind fun owned _ => pure _ _

theorem fieldDecl_failsWith (m : Message) (d : Definitions) (f : Field) :
    FailsWith GenerationError.IsCode (fieldDecl m d f) := by
  unfold fieldDecl
  apply (memberIdent_failsWith f.name).bind
  intro name _
  exact (fieldType_failsWith m d f).bind fun type _ => pure _ _

theorem messageCode_failsWith (m : Message) (d : Definitions) :
    FailsWith GenerationError.IsCode (messageCode m d) := by
  unfold messageCode
  apply (typeIdent_failsWith m.name).bind
  intro name _
  exact (FailsWith.mapM fun f _ => fieldDecl_failsWith m d f).bind fun fields _ => pure _ _

theorem typesFile_failsWith (d : Definitions) : FailsWith GenerationError.IsCode (typesFile d) := by
  unfold typesFile
  apply (FailsWith.mapM fun e _ => enumCode_failsWith e).bind
  intro enums _
  exact (FailsWith.mapM fun m _ => messageCode_failsWith m d).bind fun messages _ => pure _ _

theorem rootFile_failsWith (d : Definitions) (o : Options) : FailsWith GenerationError.IsCode (rootFile d o) := by
  unfold rootFile
  exact (FailsWith.mapM fun s _ => memberIdent_failsWith (moduleName s)).bind fun modules _ => pure _ _

theorem typeImports_failsWith (s : Service) : FailsWith GenerationError.IsCode (typeImports s) := by
  unfold typeImports
  exact (FailsWith.mapM fun n _ => typeIdent_failsWith n).bind fun names _ => pure _ _

theorem exportedNames_failsWith (s : Service) (o : Options) :
    FailsWith GenerationError.IsCode (exportedNames s o) := by
  unfold exportedNames
  apply (typeIdent_failsWith s.name).bind
  intro trait _
  have hclients : FailsWith GenerationError.IsCode
      (o.profiles.mapM fun p => do return [← clientTypeIdent s p, ← builderTypeIdent s p]) := by
    apply FailsWith.mapM
    intro p _
    apply (clientTypeIdent_failsWith s p).bind
    intro client _
    exact (builderTypeIdent_failsWith s p).bind fun builder _ => pure _ _
  exact hclients.bind fun clients _ => pure _ _

theorem preludeFile_failsWith (d : Definitions) (o : Options) :
    FailsWith GenerationError.IsCode (preludeFile d o) := by
  unfold preludeFile
  refine FailsWith.bind (FailsWith.mapM fun s _ => ?_) fun services _ => pure _ _
  apply (memberIdent_failsWith (moduleName s)).bind
  intro module _
  exact (exportedNames_failsWith s o).bind fun names _ => pure _ _

theorem checkServiceNames_failsWith (o : Options) (modules taken : List String) (services : List Service) :
    FailsWith GenerationError.IsCode (checkServiceNames o modules taken services) := by
  induction services generalizing modules taken with
  | nil => exact ok _ ()
  | cons s rest ih =>
    unfold checkServiceNames
    dsimp only
    split
    · exact error (isCode _)
    · apply (exportedNames_failsWith s o).bind
      intro names _
      split
      · exact error (isCode _)
      · exact ih _ _

theorem checkNames_failsWith (d : Definitions) (o : Options) : FailsWith GenerationError.IsCode (checkNames d o) := by
  unfold checkNames typeNames
  refine FailsWith.bind ?_ fun types _ => checkServiceNames_failsWith o takenModules _ d.services
  apply (FailsWith.mapM fun (e : Enumeration) _ => typeIdent_failsWith e.name).bind
  intro enums _
  exact (FailsWith.mapM fun (m : Message) _ => typeIdent_failsWith m.name).bind fun messages _ => pure _ _

end Code

/-! ### Obstacles -/

/-- What stops the generation of a crate. -/
inductive Obstacle (d : Definitions) (o : Options) : GenerationError → Prop
  | options {fault : ConfigFault} (hfault : o.fault? = some fault) : Obstacle d o (.config fault)
  | crateName (hname : isCrateName (o.packageName d) = false) :
    Obstacle d o (.config (.crateName (o.packageName d)))
  | builder {fault : ConfigFault} (hfault : specFault? o.builder = some fault) : Obstacle d o (.config fault)
  | code (fault : CodeFault) : Obstacle d o (.code fault)
  | unsupported {s : Service} {m : Method} {p : Profile} (hs : s ∈ d.services) (hm : m ∈ s.methods)
    (hp : p ∈ o.profiles) (hpolicy : p.unsupported = .reject) (hpattern : m.pattern ∉ p.capabilities) :
    Obstacle d o (.unsupported (qualifiedName s m) m.pattern p.name)

namespace Obstacle

variable {d : Definitions} {o : Options}

theorem of_isCode {e : GenerationError} (h : e.IsCode) : Obstacle d o e := by
  obtain ⟨fault, rfl⟩ := h
  exact code fault

theorem of_code {α : Type} {x : Except GenerationError α} (h : FailsWith GenerationError.IsCode x) :
    FailsWith (Obstacle d o) x :=
  h.imp fun _ he => of_isCode he

end Obstacle

section Refusal

variable {d : Definitions} {o : Options} {s : Service} {m : Method} {p : Profile}

/-- A method is not bound exactly if the profile cannot carry it and rejects what it cannot carry. -/
theorem bindingFor_eq_error {e : GenerationError} :
    bindingFor s m p = .error e ↔
      (p.unsupported = .reject ∧ m.pattern ∉ p.capabilities) ∧
        e = .unsupported (qualifiedName s m) m.pattern p.name := by
  unfold bindingFor
  by_cases hpattern : m.pattern ∈ p.capabilities
  · cases p.dispatch <;> simp [Profile.supports, hpattern]
  · cases p.unsupported <;> simp [Profile.supports, hpattern, eq_comm]

theorem methodCode_failsWith (hs : s ∈ d.services) (hm : m ∈ s.methods) (hp : p ∈ o.profiles) :
    FailsWith (Obstacle d o) (methodCode s m p d) := by
  unfold methodCode
  refine FailsWith.bind ?_ fun binding _ => ?_
  · intro e he
    obtain ⟨⟨hpolicy, hpattern⟩, rfl⟩ := bindingFor_eq_error.mp he
    exact .unsupported hs hm hp hpolicy hpattern
  · apply Obstacle.of_code
    apply (methodSignature_failsWith m d _).bind
    intro signature _
    exact (methodBody_failsWith m p signature binding).bind fun body _ => FailsWith.pure _ _

theorem bindingCode_failsWith (hs : s ∈ d.services) (hp : p ∈ o.profiles) :
    FailsWith (Obstacle d o) (bindingCode s p d) := by
  unfold bindingCode
  apply (Obstacle.of_code (typeIdent_failsWith s.name)).bind
  intro trait _
  apply (Obstacle.of_code (clientTypeIdent_failsWith s p)).bind
  intro client _
  exact (FailsWith.mapM fun m hm => methodCode_failsWith hs hm hp).bind fun methods _ => FailsWith.pure _ _

theorem setterCode_failsWith (f : BuilderSetting) : FailsWith GenerationError.IsCode (setterCode f) := by
  unfold setterCode
  exact (memberIdent_failsWith f.name).bind fun setter _ => FailsWith.pure _ _

theorem clientCode_failsWith (s : Service) (p : Profile) : FailsWith (Obstacle d o) (clientCode s p o.builder) := by
  unfold clientCode
  cases hfault : specFault? o.builder with
  | some fault => exact FailsWith.error (.builder hfault)
  | none =>
    apply Obstacle.of_code
    apply (clientTypeIdent_failsWith s p).bind
    intro client _
    apply (builderTypeIdent_failsWith s p).bind
    intro builder _
    exact (FailsWith.mapM fun f _ => setterCode_failsWith f).bind fun setters _ => FailsWith.pure _ _

theorem serviceFile_failsWith (hs : s ∈ d.services) : FailsWith (Obstacle d o) (serviceFile s d o) := by
  unfold serviceFile clientItems
  apply (Obstacle.of_code (typeImports_failsWith s)).bind
  intro imports _
  apply (Obstacle.of_code (traitCode_failsWith s d)).bind
  intro trait _
  refine FailsWith.bind ?_ fun clients _ => FailsWith.pure _ _
  refine FailsWith.bind (FailsWith.mapM fun p hp => ?_) fun clients _ => FailsWith.pure _ _
  apply (clientCode_failsWith s p).bind
  intro client _
  exact (bindingCode_failsWith hs hp).bind fun item _ => FailsWith.pure _ _

/-- Nothing else stops the generation of a crate. -/
theorem obstacle_of_generate (d : Definitions) (o : Options) : FailsWith (Obstacle d o) (generate d o) := by
  unfold generate
  cases hfault : o.fault? with
  | some fault => exact FailsWith.error (.options hfault)
  | none =>
    have hname : FailsWith (Obstacle d o) (checkCrateName (o.packageName d)) := by
      unfold checkCrateName
      split
      · exact FailsWith.ok _ ()
      · next h => exact FailsWith.error (.crateName (Bool.eq_false_iff.mpr h))
    apply hname.bind
    intro _ _
    apply (Obstacle.of_code (checkNames_failsWith d o)).bind
    intro _ _
    apply (Obstacle.of_code (rootFile_failsWith d o)).bind
    intro root _
    apply (Obstacle.of_code (typesFile_failsWith d)).bind
    intro types _
    refine FailsWith.bind (FailsWith.mapM fun s hs => ?_) fun services _ => ?_
    · exact (serviceFile_failsWith hs).bind fun f _ => FailsWith.pure _ _
    · exact (Obstacle.of_code (preludeFile_failsWith d o)).bind fun prelude _ => FailsWith.pure _ _

/-- Where a crate is generated, every method is bound under every profile. -/
theorem exists_binding_of_generate {files : List CrateFile} (h : generate d o = .ok files) (hs : s ∈ d.services)
    (hm : m ∈ s.methods) (hp : p ∈ o.profiles) : ∃ binding, bindingFor s m p = .ok binding := by
  -- down from the crate: the module of the service, the client of the profile, the function of the method
  obtain ⟨c, hc, _⟩ := sources_of_generate h
  obtain ⟨file, _, hfile⟩ := (exists_of_forall₂ hc.services).1 s hs
  simp only [serviceFile, bind_eq_ok] at hfile
  obtain ⟨_, _, _, _, clients, hclients, _⟩ := hfile
  obtain ⟨codes, _, hcodes⟩ := clientItems_inv hclients
  obtain ⟨_, _, client, item, _, hitem, _⟩ := (exists_of_forall₂ hcodes).1 p hp
  obtain ⟨_, _, members, _, hmembers, _⟩ := bindingCode_inv hitem
  obtain ⟨member, _, hmember⟩ := (exists_of_forall₂ hmembers).1 m hm
  obtain ⟨binding, _, _, hbinding, _⟩ := methodCode_inv hmember
  exact ⟨binding, hbinding⟩

end Refusal

/-- A profile that rejects stops generation for a method that it cannot carry, and then no file is written and nothing
printed. An error that names a method, a pattern and a profile is about such a method and such a profile. -/
theorem generate_rejects (d : Definitions) (o : Options) :
    (∀ p ∈ o.profiles, ∀ s ∈ d.services, ∀ m ∈ s.methods, p.unsupported = .reject → m.pattern ∉ p.capabilities →
      ∃ e, generate d o = .error e ∧
        ∀ t folder, Files.generateInto t d folder o = { tree := t, output := "", result := .error e }) ∧
    ∀ method pattern profile, generate d o = .error (.unsupported method pattern profile) →
      ∃ p ∈ o.profiles, p.name = profile ∧ p.unsupported = .reject ∧ pattern ∉ p.capabilities ∧
        ∃ s ∈ d.services, ∃ m ∈ s.methods, qualifiedName s m = method ∧ m.pattern = pattern := by
  constructor
  · intro p hp s hs m hm hpolicy hpattern
    cases hgenerate : generate d o with
    | ok files =>
      obtain ⟨binding, hbinding⟩ := exists_binding_of_generate hgenerate hs hm hp
      have hrefused : bindingFor s m p = .error (.unsupported (qualifiedName s m) m.pattern p.name) :=
        bindingFor_eq_error.mpr ⟨⟨hpolicy, hpattern⟩, rfl⟩
      rw [hbinding] at hrefused
      cases hrefused
    | error e => exact ⟨e, rfl, fun t folder => Files.generateInto_of_error hgenerate⟩
  · intro method pattern profile hgenerate
    cases obstacle_of_generate d o _ hgenerate with
    | unsupported hs hm hp hpolicy hpattern =>
      exact ⟨_, hp, rfl, hpolicy, hpattern, _, hs, _, hm, rfl, rfl⟩

/-- A stream is refused by the profile that rejects what it cannot carry, and not by the one before it. -/
theorem stream_is_rejected :
    let watch : Method := { name := "watch", pattern := .serverStreaming, response := some .string }
    let d : Definitions := { package := "p", services := [{ name := "S", methods := [watch] }] }
    let o : Options := { profiles := [.httpStub, Profile.httpAsync.onUnsupported .reject], runtimePath := "r" }
    (∃ e, generate d o = .error e ∧
      ∀ t folder, Files.generateInto t d folder o = { tree := t, output := "", result := .error e }) ∧
    generate d o = .error (.unsupported "S.watch" .serverStreaming "http-async") ∧
    ∃ p ∈ o.profiles, p.name = "http-async" ∧ p.unsupported = .reject ∧ .serverStreaming ∉ p.capabilities ∧
      ∃ s ∈ d.services, ∃ m ∈ s.methods, qualifiedName s m = "S.watch" ∧ m.pattern = .serverStreaming := by
  intro watch d o
  have herror : generate d o = .error (.unsupported "S.watch" .serverStreaming "http-async") := by
    decide +kernel
  refine ⟨?_, herror, (generate_rejects d o).2 _ _ _ herror⟩
  exact (generate_rejects d o).1 (Profile.httpAsync.onUnsupported .reject) (by decide +kernel) _
    (List.mem_singleton.mpr rfl) watch (List.mem_singleton.mpr rfl) rfl (by decide)

end Generate

end ServiceBindings
