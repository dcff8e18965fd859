import ServiceBindings.Proofs.Generate.Refusal

/-!
The specification of builders. Only one can be honored: the base address, listed once and as required. A builder is
made together with a client, and the specification is not looked at before. So a schema with a service is refused under
every other specification, and one without services is generated under all of them.
-/

namespace ServiceBindings

/-- Whether a fault is one of a specification of builders. -/
def ConfigFault.OfBuilder : ConfigFault → Prop
  | .unknownBuilderField _ _ | .duplicateBuilderField _ | .missingBuilderField _ => True
  | _ => False

namespace Generate

/-! ### The check -/

section Check

variable {spec : BuilderSpec} {fault : ConfigFault}

theorem fieldFault?_eq_none_iff {seen : List String} {fields : List BuilderSetting} :
    fieldFault? seen fields = none ↔
      (∀ f ∈ fields, f.name ∈ settableFields ∧ f.name ∉ seen) ∧ (fields.map (·.name)).Nodup := by
  induction fields generalizing seen with
  | nil => simp [fieldFault?]
  | cons f rest ih =>
    by_cases hknown : f.name ∈ settableFields
    · by_cases hseen : f.name ∈ seen
      · simp [fieldFault?, hknown, hseen]
      · simp only [fieldFault?, hknown, hseen, not_true_eq_false, if_false, ih, List.map_cons, List.nodup_cons,
          List.mem_cons, List.mem_map]
        grind
    · simp [fieldFault?, hknown]

theorem ofBuilder_of_fieldFault? {seen : List String} {fields : List BuilderSetting}
    (h : fieldFault? seen fields = some fault) : fault.OfBuilder := by
  induction fields generalizing seen with
  | nil => cases h
  | cons f rest ih =>
    unfold fieldFault? at h
    split at h
    · obtain rfl := Option.some.inj h
      trivial
    · split at h
      · obtain rfl := Option.some.inj h
        trivial
      · exact ih h

theorem ofBuilder_of_specFault? (h : specFault? spec = some fault) : fault.OfBuilder := by
  unfold specFault? at h
  rcases Option.or_eq_some_iff.mp h with hfield | ⟨-, hmissing⟩
  · exact ofBuilder_of_fieldFault? hfield
  · split at hmissing
    · cases hmissing
    · obtain rfl := Option.some.inj hmissing
      trivial

/-- Settings with the name of the base address, each with a name of its own, are at most one. -/
theorem length_le_one {fields : List BuilderSetting} (hname : ∀ f ∈ fields, f.name = BuilderSpec.baseUrl)
    (hnodup : (fields.map (·.name)).Nodup) : fields.length ≤ 1 := by
  have hsame : fields.map (·.name) = List.replicate fields.length BuilderSpec.baseUrl :=
    List.eq_replicate_iff.mpr ⟨by simp, by simpa using hname⟩
  rw [hsame] at hnodup
  exact List.nodup_replicate.mp hnodup

/-- The check accepts one specification. -/
theorem specFault?_eq_none_iff : specFault? spec = none ↔ spec = .standard := by
  constructor
  · intro h
    unfold specFault? at h
    obtain ⟨hfields, hrequired⟩ := Option.or_eq_none_iff.mp h
    obtain ⟨hknown, hnodup⟩ := fieldFault?_eq_none_iff.mp hfields
    have hname (f : BuilderSetting) (hf : f ∈ spec.fields) : f.name = BuilderSpec.baseUrl :=
      List.mem_singleton.mp (hknown f hf).1
    obtain ⟨f, hf, -⟩ : ∃ f ∈ spec.required, f.name = BuilderSpec.baseUrl := by
      simpa using hrequired
    obtain ⟨hmem, hf⟩ := List.mem_filter.mp hf
    obtain ⟨g, hg⟩ := List.length_eq_one_iff.mp
      (Nat.le_antisymm (length_le_one hname hnodup) (List.length_pos_of_mem hmem))
    obtain rfl : f = g := by simpa [hg] using hmem
    have heq : f = ⟨BuilderSpec.baseUrl, true⟩ := by
      rw [← hname f hmem, ← hf]
    cases spec
    exact congrArg BuilderSpec.mk (hg.trans (congrArg ([·]) heq))
  · rintro rfl
    decide

end Check

/-! ### Steps that part at a fault

Two runs that take the same steps up to a check, which only one of them passes. -/

/-- Whether a run stops at a fault, or before it with the error with which another run stops. -/
def StopsBy {ε α : Type} (fault : ε) (x y : Except ε α) : Prop :=
  x = .error fault ∨ ∃ e, x = .error e ∧ y = .error e

namespace StopsBy

variable {ε α β : Type} {fault : ε} {x y : Except ε α}

theorem bind (h : StopsBy fault x y) (f g : α → Except ε β) : StopsBy fault (x >>= f) (y >>= g) := by
  rcases h with rfl | ⟨e, rfl, rfl⟩
  · exact .inl rfl
  · exact .inr ⟨e, rfl, rfl⟩

/-- A step that both runs take. -/
theorem step (x : Except ε α) {f g : α → Except ε β} (h : ∀ a, StopsBy fault (f a) (g a)) :
    StopsBy fault (x >>= f) (x >>= g) := by
  cases x with
  | error e => exact .inr ⟨e, rfl, rfl⟩
  | ok a => exact h a

theorem mapM {f g : α → Except ε β} {xs : List α} (h : ∀ a, StopsBy fault (f a) (g a)) (hne : xs ≠ []) :
    StopsBy fault (xs.mapM f) (xs.mapM g) := by
  cases xs with
  | nil => exact absurd rfl hne
  | cons a rest =>
    rw [List.mapM_cons, List.mapM_cons]
    exact (h a).bind _ _

end StopsBy

section Stop

variable {d : Definitions} {o : Options} {fault : ConfigFault}

theorem profiles_ne_nil (h : o.fault? = none) : o.profiles ≠ [] := by
  intro hnil
  rw [Options.fault?, hnil] at h
  cases h

theorem serviceFile_stopsBy (hne : o.profiles ≠ []) (hspec : specFault? o.builder = some fault) (s : Service) :
    StopsBy (.config fault) (serviceFile s d o) (serviceFile s d { o with builder := .standard }) := by
  have hclient (p : Profile) : clientCode s p o.builder = .error (.config fault) := by
    unfold clientCode
    rw [hspec]
    rfl
  unfold serviceFile clientItems
  refine .step _ fun imports => .step _ fun trait => .bind (.bind (.mapM (fun p => ?_) hne) _ _) _ _
  rw [hclient p]
  exact .inl rfl

/-- Under a specification with a fault, a schema with services is not generated. -/
theorem generate_stopsBy (hservices : d.services ≠ []) (hspec : specFault? o.builder = some fault) :
    StopsBy (.config fault) (generate d o) (generate d { o with builder := .standard }) := by
  have hnames : checkNames d { o with builder := .standard } = checkNames d o := checkNames_congr d (by rfl)
  have hoptions : Options.fault? { o with builder := .standard } = o.fault? := rfl
  unfold generate
  rw [hnames, hoptions]
  cases hfault : o.fault? with
  | some other => exact .inr ⟨.config other, rfl, rfl⟩
  | none =>
    refine .step _ fun _ => .step _ fun _ => .step _ fun root => .step _ fun types => ?_
    refine .bind (.mapM (fun s => ?_) hservices) _ _
    exact .bind (serviceFile_stopsBy (profiles_ne_nil hfault) hspec s) _ _

/-- Without a service, no specification is looked at. -/
theorem generate_of_services_eq_nil (hservices : d.services = []) (spec : BuilderSpec) :
    generate d { o with builder := spec } = generate d o := by
  have hnames : checkNames d { o with builder := spec } = checkNames d o := checkNames_congr d (by rfl)
  unfold generate
  rw [hnames, hservices, List.mapM_nil, List.mapM_nil]
  rfl

/-- The standard specification stops nothing. -/
theorem not_ofBuilder_of_generate (hspec : o.builder = .standard) (h : generate d o = .error (.config fault)) :
    ¬fault.OfBuilder := by
  have hnone : specFault? o.builder = none := specFault?_eq_none_iff.mpr hspec
  intro hbuilder
  cases obstacle_of_generate d o _ h with
  | options hfault =>
    unfold Options.fault? at hfault
    split at hfault
    · obtain rfl := Option.some.inj hfault
      exact hbuilder
    · obtain ⟨name, -, rfl⟩ := Option.map_eq_some_iff.mp hfault
      exact hbuilder
  | crateName hname => exact hbuilder
  | builder hfault =>
    rw [hnone] at hfault
    cases hfault

end Stop

/-- Exactly the base address on its own and required is a specification without fault. Under it, no error of generation
is one of a specification. Under any other, a schema with a service is refused: with the fault of the specification, or
with an error that comes before it and that the standard specification meets as well. A schema without services is
generated under every specification as under the standard one. -/
theorem generate_specification (d : Definitions) (o : Options) :
    (specFault? o.builder = none ↔ o.builder = .standard) ∧
    (o.builder = .standard → ∀ spec fault, specFault? spec = some fault → generate d o ≠ .error (.config fault)) ∧
    (d.services ≠ [] → ∀ fault, specFault? o.builder = some fault →
      ∃ e, generate d o = .error e ∧ (e = .config fault ∨ generate d { o with builder := .standard } = .error e)) ∧
    (d.services = [] → generate d o = generate d { o with builder := .standard }) := by
  refine ⟨specFault?_eq_none_iff, fun hspec spec fault hfault h => ?_, fun hservices fault hfault => ?_, fun hnil => ?_⟩
  · exact not_ofBuilder_of_generate hspec h (ofBuilder_of_specFault? hfault)
  · rcases generate_stopsBy hservices hfault with h | ⟨e, h, hstandard⟩
    · exact ⟨_, h, .inl rfl⟩
    · exact ⟨e, h, .inr hstandard⟩
  · exact (generate_of_services_eq_nil hnil .standard).symm

/-- A builder without settings is refused where there is a service. Where there is none, it goes unnoticed. -/
theorem empty_specification_is_overlooked :
    let o : Options := { builder := ⟨[]⟩, runtimePath := "r" }
    let empty : Definitions := { package := "p" }
    let served : Definitions := { package := "p", services := [{ name := "S", methods := [] }] }
    specFault? o.builder = some (.missingBuilderField "baseUrl") ∧
      (∃ e, generate served o = .error e ∧ (e = .config (.missingBuilderField "baseUrl") ∨
        generate served { o with builder := .standard } = .error e)) ∧
      generate empty o = generate empty { o with builder := .standard } ∧ ∃ files, generate empty o = .ok files := by
  intro o empty served
  have hfault : specFault? o.builder = some (.missingBuilderField "baseUrl") := by decide
  refine ⟨hfault, ?_, (generate_specification empty o).2.2.2 rfl, ?_⟩
  · exact (generate_specification served o).2.2.1 (List.cons_ne_nil _ _) _ hfault
  · exact exists_of_toOption (by decide +kernel)

end Generate

end ServiceBindings
