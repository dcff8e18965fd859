import ServiceBindings.Proofs.Generate.Scopes
import ServiceBindings.Proofs.Schema.Validation

/-!
When generated code declares nothing twice. Validation compares converted names, and generation makes identifiers of
them, which leaves blanks, comments and raw marks out: so names of one scope that differ may become one identifier,
and they do so exactly if they denote one word.
-/

namespace ServiceBindings.Generate

open Code

/-- Whether a property holds of the converted names in each scope that a schema yields. -/
structure EachScope (P : List String → Prop) (d : Definitions) : Prop where
  types : P ((d.enums.map (·.name) ++ d.messages.map (·.name)).map pascalCase)
  constants : ∀ e ∈ d.enums, P (e.constants.map fun c => pascalCase c.name)
  fields : ∀ m ∈ d.messages, P (m.fields.map fun f => snakeCase f.name)
  methods : ∀ s ∈ d.services, P (s.methods.map fun m => snakeCase m.name)
  params : ∀ s ∈ d.services, ∀ m ∈ s.methods, P ((paramNames m).map snakeCase)

/-- The code of a crate: its root, its types, the module of each service, and its prelude. -/
structure Sources where
  root : File
  types : File
  services : List File
  prelude : File

/-- All files of code. -/
def Sources.files (c : Sources) : List File :=
  [c.root, c.types] ++ c.services ++ [c.prelude]

/-- Whether no scope of the code has an identifier twice, and no type is declared twice. -/
structure Sources.Distinct (c : Sources) : Prop where
  scopes : ∀ f ∈ c.files, ∀ item ∈ f.items, ∀ scope ∈ item.scopes, Code.Distinct scope
  types : Code.Distinct (c.types.items.filterMap Item.type?)

/-- Whether code is what is generated for a schema. -/
structure Sources.Of (c : Sources) (d : Definitions) (o : Options) : Prop where
  root : rootFile d o = .ok c.root
  types : typesFile d = .ok c.types
  services : List.Forall₂ (fun s f => serviceFile s d o = .ok f) d.services c.services
  prelude : preludeFile d o = .ok c.prelude

private theorem exists_zipWith_of_forall₂ {α β γ : Type} {R : α → β → Prop} {f : α → β → γ} {xs : List α}
    {zs : List γ} (h : List.Forall₂ (fun x z => ∃ y, R x y ∧ f x y = z) xs zs) :
    ∃ ys, List.Forall₂ R xs ys ∧ zs = List.zipWith f xs ys := by
  induction h with
  | nil => exact ⟨[], .nil, rfl⟩
  | cons hz _ ih =>
    obtain ⟨y, hy, rfl⟩ := hz
    obtain ⟨ys, hys, rfl⟩ := ih
    exact ⟨y :: ys, .cons hy hys, rfl⟩

/-- A generated crate consists of a manifest and of code. -/
theorem sources_of_generate {d : Definitions} {o : Options} {files : List CrateFile}
    (h : generate d o = .ok files) :
    ∃ c : Sources, c.Of d o ∧ files =
      [⟨"Cargo.toml", manifest (o.packageName d) o.runtimePath⟩, codeFile "src/lib.rs" c.root,
        codeFile "src/types.rs" c.types] ++
      List.zipWith (fun s f => codeFile (Files.join "src" (moduleName s ++ ".rs")) f) d.services c.services ++
      [codeFile "src/prelude.rs" c.prelude] := by
  unfold generate at h
  cases hfault : o.fault? with
  | some fault =>
    rw [hfault] at h
    cases h
  | none =>
    simp only [hfault, bind_eq_ok, pure_eq_ok] at h
    obtain ⟨_, _, _, _, root, hroot, types, htypes, modules, hmodules, prelude, hprelude, rfl⟩ := h
    have hfiles := (forall₂_of_mapM hmodules).imp fun s file hfile => by
      simpa only [bind_eq_ok, pure_eq_ok] using hfile
    obtain ⟨services, hservices, rfl⟩ := exists_zipWith_of_forall₂ hfiles
    exact ⟨⟨root, types, services, prelude⟩, ⟨hroot, htypes, hservices, hprelude⟩, rfl⟩

/-! ### Files -/

/-- The root and the prelude declare nothing but modules and imports. -/
private theorem rootFile_scopes {d : Definitions} {o : Options} {f : File} (h : rootFile d o = .ok f) :
    ∀ item ∈ f.items, item.scopes = [] := by
  simp only [rootFile, bind_eq_ok, pure_eq_ok] at h
  obtain ⟨modules, _, rfl⟩ := h
  simp [Item.scopes]

private theorem preludeFile_scopes {d : Definitions} {o : Options} {f : File} (h : preludeFile d o = .ok f) :
    ∀ item ∈ f.items, item.scopes = [] := by
  simp only [preludeFile, bind_eq_ok, pure_eq_ok] at h
  obtain ⟨services, hservices, rfl⟩ := h
  have himports : ∀ item ∈ services, item.scopes = [] := by
    intro item hitem
    obtain ⟨s, _, hs⟩ := (exists_of_forall₂ (forall₂_of_mapM hservices)).2 item hitem
    simp only [bind_eq_ok, pure_eq_ok] at hs
    obtain ⟨_, _, _, _, rfl⟩ := hs
    rfl
  simp only [List.mem_append]
  rintro item ((htypes | hservice) | hruntime)
  · split at htypes
    · cases htypes
    · obtain rfl := List.mem_singleton.mp htypes
      rfl
  · exact himports item hservice
  · obtain rfl := List.mem_singleton.mp hruntime
    rfl

private theorem typeImports_scopes {s : Service} {items : List Item} (h : typeImports s = .ok items) :
    ∀ item ∈ items, item.scopes = [] := by
  simp only [typeImports, bind_eq_ok, pure_eq_ok] at h
  obtain ⟨names, _, rfl⟩ := h
  split <;> simp [Item.scopes]

/-- The scopes of the module of a service are as distinct as the names of the service are apart. -/
theorem serviceFile_distinct_iff {s : Service} {d : Definitions} {o : Options} {f : File}
    (h : serviceFile s d o = .ok f) :
    (∀ item ∈ f.items, ∀ scope ∈ item.scopes, Code.Distinct scope) ↔ ApartInTrait s := by
  simp only [serviceFile, bind_eq_ok, pure_eq_ok] at h
  obtain ⟨imports, himports, trait, htrait, clients, hclients, rfl⟩ := h
  rw [← traitCode_distinct_iff htrait]
  constructor
  · intro hdistinct
    exact hdistinct trait (by simp)
  · intro hdistinct item hitem
    have hapart := (traitCode_distinct_iff htrait).mp hdistinct
    simp only [List.append_assoc, List.mem_append, List.mem_singleton] at hitem
    rcases hitem with himport | rfl | hclient
    · simp [typeImports_scopes himports item himport]
    · exact hdistinct
    · obtain ⟨codes, rfl, hcodes⟩ := clientItems_inv hclients
      obtain ⟨code, hmember, hmem⟩ := List.mem_flatten.mp hclient
      obtain ⟨p, _, hp⟩ := (exists_of_forall₂ hcodes).2 code hmember
      obtain ⟨client, binding, hcode, hbinding, rfl⟩ := hp
      rcases List.mem_append.mp hmem with hclient | hbound
      · exact (clientCode_narrow hcode item hclient).distinct
      · obtain rfl := List.mem_singleton.mp hbound
        exact bindingCode_distinct htrait hapart hbinding

/-- The file of types declares one type for each enumeration and each message. -/
theorem typesFile_types {d : Definitions} {f : File} (h : typesFile d = .ok f) :
    Idents ((d.enums.map (·.name) ++ d.messages.map (·.name)).map pascalCase) (f.items.filterMap Item.type?) := by
  obtain ⟨enums, messages, henums, hmessages, hitems⟩ := typesFile_inv h
  rw [hitems]
  clear hitems
  simp only [List.map_append, List.map_map, List.filterMap_append]
  refine List.rel_append ?_ ?_
  · generalize d.enums = enumerations at henums
    induction henums with
    | nil => exact .nil
    | cons hcode _ ih =>
      obtain ⟨i, htypes, hname⟩ := enumCode_type hcode
      simp only [List.map_cons, List.flatten_cons, List.filterMap_append, htypes]
      exact .cons hname ih
  · generalize d.messages = definitions at hmessages
    induction hmessages with
    | nil => exact .nil
    | cons hcode _ ih =>
      obtain ⟨i, htype, hname⟩ := messageCode_type hcode
      rw [List.map_cons, List.filterMap_cons_some htype]
      exact .cons hname ih

/-- The scopes of the file of types are as distinct as constants and fields are apart. -/
private theorem typesFile_distinct_iff {d : Definitions} {f : File} (h : typesFile d = .ok f) :
    (∀ item ∈ f.items, ∀ scope ∈ item.scopes, Code.Distinct scope) ↔
      (∀ e ∈ d.enums, Apart (e.constants.map fun c => pascalCase c.name)) ∧
        ∀ m ∈ d.messages, Apart (m.fields.map fun f => snakeCase f.name) := by
  obtain ⟨enums, messages, henums, hmessages, hitems⟩ := typesFile_inv h
  obtain ⟨hein, heout⟩ := exists_of_forall₂ henums
  obtain ⟨hmin, hmout⟩ := exists_of_forall₂ hmessages
  simp only [hitems, List.mem_append, List.mem_flatten]
  constructor
  · intro hdistinct
    refine ⟨fun e he => ?_, fun m hm => ?_⟩
    · obtain ⟨items, hitems, hcode⟩ := hein e he
      exact (enumCode_distinct_iff hcode).mp fun item hitem => hdistinct item (.inl ⟨items, hitems, hitem⟩)
    · obtain ⟨item, hitem, hcode⟩ := hmin m hm
      exact (messageCode_distinct_iff hcode).mp (hdistinct item (.inr hitem))
  · rintro ⟨hconstants, hfields⟩ item (⟨items, hitems, hitem⟩ | hitem)
    · obtain ⟨e, he, hcode⟩ := heout items hitems
      exact (enumCode_distinct_iff hcode).mpr (hconstants e he) item hitem
    · obtain ⟨m, hm, hcode⟩ := hmout item hitem
      exact (messageCode_distinct_iff hcode).mpr (hfields m hm)

/-- Generated code declares nothing twice exactly if no two names that are converted into one scope denote one word. -/
theorem Sources.Of.distinct_iff {c : Sources} {d : Definitions} {o : Options} (h : c.Of d o) :
    c.Distinct ↔ EachScope Apart d := by
  obtain ⟨hsin, hsout⟩ := exists_of_forall₂ h.services
  have htypes := distinct_iff_apart (typesFile_types h.types)
  constructor
  · intro hdistinct
    have hservice : ∀ s ∈ d.services, ApartInTrait s := by
      intro s hs
      obtain ⟨f, hf, hfile⟩ := hsin s hs
      exact (serviceFile_distinct_iff hfile).mp (hdistinct.scopes f (by simp [files, hf]))
    obtain ⟨hconstants, hfields⟩ := (typesFile_distinct_iff h.types).mp (hdistinct.scopes c.types (by simp [files]))
    exact ⟨htypes.mp hdistinct.types, hconstants, hfields, fun s hs => (hservice s hs).1,
      fun s hs => (hservice s hs).2⟩
  · intro hapart
    refine ⟨?_, htypes.mpr hapart.types⟩
    intro f hf item hitem scope hscope
    simp only [files, List.mem_append, List.mem_cons, List.not_mem_nil, or_false] at hf
    rcases hf with ((rfl | rfl) | hf) | rfl
    · simp [rootFile_scopes h.root item hitem] at hscope
    · exact (typesFile_distinct_iff h.types).mpr ⟨hapart.constants, hapart.fields⟩ item hitem scope hscope
    · obtain ⟨s, hs, hfile⟩ := hsout f hf
      exact (serviceFile_distinct_iff hfile).mpr ⟨hapart.methods s hs, hapart.params s hs⟩ item hitem scope hscope
    · simp [preludeFile_scopes h.prelude item hitem] at hscope

/-! ### Schemas -/

private theorem snakeCase_requestName : snakeCase requestName = requestName := by
  decide +kernel

/-- The converted names in a scope of a schema differ. -/
theorem schema_names_nodup (schema : Schema) : EachScope List.Nodup schema.toDefinitions := by
  have hvalid := Definitions.error?_eq_none_iff.mp schema.valid
  refine ⟨?_, fun e he => (hvalid.enums e he).names, fun m hm => (hvalid.messages m hm).names,
    fun s hs => (hvalid.services s hs).names, ?_⟩
  · have hnames := hvalid.names
    rw [Definitions.typeNames, List.map_append] at hnames
    exact (List.nodup_append.mp hnames).1
  · intro s hs m hm
    have hmethod := (hvalid.services s hs).methods m hm
    have hpath : ((m.pathParams.map (·.name)).map snakeCase).Nodup := by
      simpa [Function.comp_def] using hmethod.names
    cases hrequest : m.request with
    | none => simpa [paramNames, hrequest] using hpath
    | some t =>
      have hfresh : requestName ∉ (m.pathParams.map (·.name)).map snakeCase := by
        simpa [Function.comp_def] using hmethod.unreserved
      simpa [paramNames, hrequest, snakeCase_requestName] using And.intro hfresh hpath

/-- Different names are apart if all of them are plain. -/
theorem apart_of_plain {names : List String} (hnodup : names.Nodup) (hplain : ∀ name ∈ names, Plain name) :
    Apart names := by
  refine List.Pairwise.imp_of_mem ?_ hnodup
  rintro a b ha hb hne ⟨word, hword, hsame⟩
  exact hne (hword.plain_inj hsame (hplain a ha) (hplain b hb))

/-- The code that is generated for a schema declares nothing twice exactly if no two names that are converted into one
scope denote one word. This is so whenever converted names are plain, since validation has found them different. Names
that are not may differ in nothing but blanks, comments or raw marks. -/
theorem generated_distinct_iff {schema : Schema} {o : Options} {files : List CrateFile}
    (h : generate schema.toDefinitions o = .ok files) :
    ∃ c : Sources, c.Of schema.toDefinitions o ∧
      files.map (·.content) = manifest (o.packageName schema.toDefinitions) o.runtimePath :: c.files.map formatted ∧
      (c.Distinct ↔ EachScope Apart schema.toDefinitions) ∧
      (EachScope (fun names => ∀ name ∈ names, Plain name) schema.toDefinitions → c.Distinct) := by
  obtain ⟨c, hc, hfiles⟩ := sources_of_generate h
  refine ⟨c, hc, ?_, hc.distinct_iff, fun hplain => hc.distinct_iff.mpr ?_⟩
  · simp [hfiles, codeFile, Sources.files, List.map_zipWith, zipWith_right_of_forall₂ formatted hc.services]
  · have hnodup := schema_names_nodup schema
    exact ⟨apart_of_plain hnodup.types hplain.types,
      fun e he => apart_of_plain (hnodup.constants e he) (hplain.constants e he),
      fun m hm => apart_of_plain (hnodup.fields m hm) (hplain.fields m hm),
      fun s hs => apart_of_plain (hnodup.methods s hs) (hplain.methods s hs),
      fun s hs m hm => apart_of_plain (hnodup.params s hs m hm) (hplain.params s hs m hm)⟩

/-- A message is accepted with two fields that become one identifier, and code is generated for it. -/
theorem raw_field_declared_twice :
    let d : Definitions :=
      { package := "p", messages := [{ name := "M", fields := [⟨"type", .string, true⟩, ⟨"r#type", .string, true⟩] }] }
    ∃ (schema : Schema) (files : List CrateFile) (c : Sources), schema.toDefinitions = d ∧
      generate d { runtimePath := "r" } = .ok files ∧ c.Of d { runtimePath := "r" } ∧ ¬ c.Distinct := by
  intro d
  have hvalid : d.error? = none := by decide +kernel
  have hok : (generate d { runtimePath := "r" }).toOption.isSome = true := by decide +kernel
  cases hgenerate : generate d { runtimePath := "r" } with
  | error e =>
    rw [hgenerate] at hok
    cases hok
  | ok files =>
    have hread : Ident.ofName? (snakeCase "type") = some ⟨"type", true⟩ := by decide +kernel
    have hraw : Ident.ofName? (snakeCase "r#type") = some ⟨"type", true⟩ := by decide +kernel
    have hgen : generate (Schema.mk d hvalid).toDefinitions { runtimePath := "r" } = .ok files := hgenerate
    obtain ⟨c, hc, _, hiff, _⟩ := generated_distinct_iff hgen
    refine ⟨⟨d, hvalid⟩, files, c, rfl, rfl, hc, fun hdistinct => ?_⟩
    have hapart := (hiff.mp hdistinct).fields _ (List.mem_singleton.mpr rfl)
    exact (List.pairwise_cons.mp hapart).1 _ (List.mem_singleton.mpr rfl)
      ⟨"type", ofName?_eq_some hread, ofName?_eq_some hraw⟩

end ServiceBindings.Generate
