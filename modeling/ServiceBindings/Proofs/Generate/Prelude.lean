import ServiceBindings.Proofs.Generate.Imports
import ServiceBindings.Proofs.Generate.Layout

/-!
What the prelude offers. It exports the types of the crate together, and the services, their clients and a few names of
the runtime one by one. What is exported by its name hides a type of that name, and only the names of services are
checked against the others.
-/

namespace ServiceBindings

namespace Code

/-- The identifiers that an item exports by name. -/
def Item.exports : Item → List Ident
  | .imports true _ (.names names) => names
  | _ => []

/-- The identifiers that a file exports by name. -/
def File.exports (f : File) : List Ident :=
  f.items.flatMap Item.exports

/-- Whether an item exports the types of the crate together. -/
def Item.exportsTypes : Item → Bool
  | .imports true path .all => path = [plain "crate", plain "types"]
  | _ => false

/-- Whether a file exports the types of the crate together. -/
def File.exportsTypes (f : File) : Bool :=
  f.items.any Item.exportsTypes

end Code

namespace Generate

open Code

/-- The types that the prelude exports together. -/
def Sources.offeredTypes (c : Sources) : List Ident :=
  if c.prelude.exportsTypes then c.types.types else []

/-- The identifiers that the prelude offers. -/
def Sources.offered (c : Sources) : List Ident :=
  c.offeredTypes ++ c.prelude.exports

/-- Whether a type is what its name stands for in the prelude. A name that is exported by itself comes before one that
is exported together with others. -/
def Sources.Offers (c : Sources) (i : Ident) : Prop :=
  i ∈ c.offeredTypes ∧ i.name ∉ c.prelude.exports.map (·.name)

/-! ### The check -/

theorem firstTaken?_eq_none_iff {taken names : List String} :
    firstTaken? taken names = none ↔ names.Nodup ∧ ∀ n ∈ names, n ∉ taken := by
  induction names generalizing taken with
  | nil => simp [firstTaken?]
  | cons n rest ih =>
    unfold firstTaken?
    by_cases hn : n ∈ taken
    · simp [hn]
    · rw [if_neg hn, ih, List.nodup_cons, List.forall_mem_cons]
      simp only [List.mem_cons, not_or]
      constructor
      · rintro ⟨hnodup, hrest⟩
        exact ⟨⟨fun hmem => (hrest n hmem).1 rfl, hnodup⟩, hn, fun m hm => (hrest m hm).2⟩
      · rintro ⟨⟨hfresh, hnodup⟩, -, hrest⟩
        refine ⟨hnodup, fun m hm => ⟨?_, hrest m hm⟩⟩
        rintro rfl
        exact hfresh hm

/-- The names under which services are exported differ as they are written, and none of them was taken before. -/
theorem checkServiceNames_exported {o : Options} {modules taken : List String} {services : List Service}
    (h : checkServiceNames o modules taken services = .ok ()) :
    ∃ exported, List.Forall₂ (fun s names => exportedNames s o = .ok names) services exported ∧
      (exported.flatten.map Ident.text).Nodup ∧ ∀ text ∈ exported.flatten.map Ident.text, text ∉ taken := by
  induction services generalizing modules taken with
  | nil => exact ⟨[], .nil, List.nodup_nil, by simp⟩
  | cons s rest ih =>
    unfold checkServiceNames at h
    dsimp only at h
    split at h
    · cases h
    · simp only [bind_eq_ok] at h
      obtain ⟨names, hnames, h⟩ := h
      split at h
      · cases h
      · next hfree =>
        obtain ⟨hnodup, hfresh⟩ := firstTaken?_eq_none_iff.mp (Option.eq_none_iff_forall_ne_some.mpr hfree)
        obtain ⟨exported, hexported, hdistinct, hothers⟩ := ih h
        refine ⟨names :: exported, .cons hnames hexported, ?_, ?_⟩
        · rw [List.flatten_cons, List.map_append]
          refine List.nodup_append.mpr ⟨hnodup, hdistinct, ?_⟩
          rintro text hmem _ hother rfl
          exact hothers text hother (List.mem_append_left _ hmem)
        · rw [List.flatten_cons, List.map_append]
          intro text hmem htaken
          rcases List.mem_append.mp hmem with hown | hother
          · exact hfresh text hown htaken
          · exact hothers text hother (List.mem_append_right _ htaken)

/-- Names are read as one list of identifiers. -/
theorem Idents.unique {names : List String} {idents others : List Ident} (h : Idents names idents)
    (h' : Idents names others) : idents = others := by
  induction h generalizing others with
  | nil =>
    cases h'
    rfl
  | cons hname _ ih =>
    cases h' with
    | cons hother hrest =>
      rw [Option.some.inj (hname.symm.trans hother), ih hrest]

/-- The names of types that the check goes by are those of the types that are declared. -/
theorem typeNames_eq {d : Definitions} {names : List String} {types : File} (h : typeNames d = .ok names)
    (htypes : typesFile d = .ok types) : names = types.types.map Ident.text := by
  simp only [typeNames, bind_eq_ok, pure_eq_ok] at h
  obtain ⟨enums, henums, messages, hmessages, rfl⟩ := h
  have hidents : Idents ((d.enums.map (·.name) ++ d.messages.map (·.name)).map pascalCase) (enums ++ messages) := by
    rw [List.map_append, List.map_map, List.map_map]
    apply List.rel_append
    · exact List.forall₂_map_left_iff.mpr ((forall₂_of_mapM henums).imp fun e i hi => identOf_eq_ok.mp hi)
    · exact List.forall₂_map_left_iff.mpr ((forall₂_of_mapM hmessages).imp fun m i hi => identOf_eq_ok.mp hi)
  rw [hidents.unique (typesFile_types htypes)]
  rfl

/-! ### The prelude -/

theorem preludeFile_inv {d : Definitions} {o : Options} {f : File} (h : preludeFile d o = .ok f) :
    ∃ services, f.items =
        (if d.enums.isEmpty && d.messages.isEmpty then []
          else [Item.imports true [plain "crate", plain "types"] .all]) ++ services ++
        [.imports true [plain "clientgen"] (.names (runtimeNames.map plain))] ∧
      List.Forall₂ (fun s item => ∃ module names, exportedNames s o = .ok names ∧
        item = .imports true [plain "crate", module] (.names names)) d.services services := by
  simp only [preludeFile, bind_eq_ok, pure_eq_ok] at h
  obtain ⟨services, hservices, rfl⟩ := h
  refine ⟨services, rfl, (forall₂_of_mapM hservices).imp fun s item hitem => ?_⟩
  simp only [bind_eq_ok, pure_eq_ok] at hitem
  obtain ⟨module, _, names, hnames, rfl⟩ := hitem
  exact ⟨module, names, hnames, rfl⟩

/-- The prelude exports by name what the services are exported under, and then the names of the runtime. -/
theorem preludeFile_exports {d : Definitions} {o : Options} {f : File} (h : preludeFile d o = .ok f)
    {exported : List (List Ident)}
    (hexported : List.Forall₂ (fun s names => exportedNames s o = .ok names) d.services exported) :
    f.exports = exported.flatten ++ runtimeNames.map plain := by
  obtain ⟨services, hitems, hservices⟩ := preludeFile_inv h
  have hnames : services.flatMap Item.exports = exported.flatten := by
    clear hitems
    generalize d.services = definitions at hexported hservices
    induction hexported generalizing services with
    | nil =>
      cases hservices
      rfl
    | cons hfirst _ ih =>
      cases hservices with
      | cons hitem hrest =>
        obtain ⟨module, names, hread, rfl⟩ := hitem
        rw [List.flatMap_cons, List.flatten_cons, ih _ hrest, Except.ok.inj (hfirst.symm.trans hread)]
        rfl
  unfold File.exports
  rw [hitems, List.flatMap_append, List.flatMap_append, hnames]
  split <;> rfl

/-- The prelude exports the types together, unless there are none. -/
theorem Sources.Of.offeredTypes_eq {c : Sources} {d : Definitions} {o : Options} (h : c.Of d o) :
    c.offeredTypes = c.types.types := by
  obtain ⟨services, hitems, hservices⟩ := preludeFile_inv h.prelude
  unfold Sources.offeredTypes
  split
  · rfl
  · next hno =>
    have hlength := List.Forall₂.length_eq (typesFile_types h.types)
    cases hempty : d.enums.isEmpty && d.messages.isEmpty with
    | false =>
      rw [hempty] at hitems
      exact absurd (by simp [File.exportsTypes, hitems, Item.exportsTypes]) hno
    | true =>
      rw [Bool.and_eq_true, List.isEmpty_iff, List.isEmpty_iff] at hempty
      rw [hempty.1, hempty.2] at hlength
      exact (List.length_eq_zero_iff.mp hlength.symm).symm

/-! ### Collisions -/

/-- The converted names of the types of a schema. -/
def typeForms (d : Definitions) : List String :=
  (d.enums.map (·.name) ++ d.messages.map (·.name)).map pascalCase

/-- Whether identifiers of one name are all raw or all not. -/
def MarksAgree (idents : List Ident) : Prop :=
  ∀ i ∈ idents, ∀ j ∈ idents, i.name = j.name → i.raw = j.raw

theorem marksAgree_of_distinct {idents : List Ident} (h : Code.Distinct idents) : MarksAgree idents := by
  intro i hi j hj hname
  rw [List.inj_on_of_nodup_map h hi hj hname]

/-- The words of the names of the runtime. -/
private theorem runtimeNames_words : (runtimeNames.map plain).map (·.name) = runtimeNames :=
  rfl

/-- What is written differently differs, unless a raw mark is all the difference. -/
theorem distinct_of_texts {idents : List Ident} (htexts : (idents.map Ident.text).Nodup) (hmarks : MarksAgree idents) :
    Code.Distinct idents := by
  refine List.Nodup.map_on ?_ (List.Nodup.of_map _ htexts)
  intro i hi j hj hname
  obtain ⟨word, raw⟩ := i
  obtain ⟨word', raw'⟩ := j
  obtain rfl : word = word' := hname
  obtain rfl : raw = raw' := hmarks _ hi _ hj rfl
  rfl

/-- Names of services, checked against the types and the names of the runtime, differ from both, unless a raw mark is
all the difference. That leaves the types themselves, and the types against the names of the runtime. -/
theorem distinct_append_iff {types exported : List Ident} (htexts : (exported.map Ident.text).Nodup)
    (hfresh : ∀ text ∈ exported.map Ident.text, text ∉ types.map Ident.text ++ runtimeNames) :
    Code.Distinct (types ++ (exported ++ runtimeNames.map plain)) ↔
      Code.Distinct types ∧ (∀ i ∈ types, i.name ∉ runtimeNames) ∧
        MarksAgree (types ++ (exported ++ runtimeNames.map plain)) := by
  constructor
  · intro hdistinct
    refine ⟨?_, ?_, marksAgree_of_distinct hdistinct⟩
    · unfold Code.Distinct at hdistinct
      rw [List.map_append] at hdistinct
      exact (List.nodup_append.mp hdistinct).1
    · intro i hi hname
      unfold Code.Distinct at hdistinct
      rw [List.map_append, List.map_append, runtimeNames_words] at hdistinct
      exact (List.nodup_append.mp hdistinct).2.2 _ (List.mem_map_of_mem hi) _ (List.mem_append_right _ hname) rfl
  · rintro ⟨htypes, hfree, hmarks⟩
    have hexported : Code.Distinct exported :=
      distinct_of_texts htexts fun i hi j hj => hmarks i (by simp [hi]) j (by simp [hj])
    have hsame {i j : Ident} (hi : i ∈ exported) (hj : j ∈ types ++ (exported ++ runtimeNames.map plain))
        (hname : i.name = j.name) : i.text = j.text := by
      have hraw := hmarks i (by simp [hi]) j hj hname
      simp [Ident.text, hname, hraw]
    unfold Code.Distinct at htypes hexported ⊢
    rw [List.map_append, List.map_append, runtimeNames_words]
    refine List.nodup_append.mpr ⟨htypes, List.nodup_append.mpr ⟨hexported, by decide, ?_⟩, ?_⟩
    · rintro name hname word hword rfl
      obtain ⟨i, hi, rfl⟩ := List.mem_map.mp hname
      have htext : i.text = i.name :=
        hsame hi (List.mem_append_right _ (List.mem_append_right _ (List.mem_map_of_mem hword))) rfl
      refine hfresh i.text (List.mem_map_of_mem hi) (List.mem_append_right _ ?_)
      rwa [htext]
    · rintro name hname word hword rfl
      obtain ⟨i, hi, rfl⟩ := List.mem_map.mp hname
      rcases List.mem_append.mp hword with hother | hruntime
      · obtain ⟨j, hj, hsamename⟩ := List.mem_map.mp hother
        have htext : j.text = i.text := hsame hj (List.mem_append_left _ hi) hsamename
        refine hfresh j.text (List.mem_map_of_mem hj) (List.mem_append_left _ ?_)
        rw [htext]
        exact List.mem_map_of_mem hi
      · exact hfree i hi hruntime

/-- What a prelude offers, where the services are exported under some identifiers. -/
structure Sources.Offering (c : Sources) (d : Definitions) (exported : List Ident) : Prop where
  offered : c.offered = c.types.types ++ (exported ++ runtimeNames.map plain)
  /-- the check makes sure of what services are exported under, and compares it as it is written -/
  texts : (exported.map Ident.text).Nodup
  fresh : ∀ text ∈ exported.map Ident.text, text ∉ c.types.types.map Ident.text ++ runtimeNames
  /-- all names differ if types do, from one another and from the names of the runtime, and no two differ by a raw
  mark alone -/
  distinct_iff : Code.Distinct c.offered ↔
    Apart (typeForms d) ∧ (∀ name ∈ typeForms d, ∀ word ∈ runtimeNames, ¬Denotes name word) ∧ MarksAgree c.offered
  /-- a type is hidden by a name of the runtime, or by that of a service which differs from it by a raw mark -/
  offers_iff : ∀ i ∈ c.types.types, c.Offers i ↔ i.name ∉ runtimeNames ∧ ∀ j ∈ exported, j.name ≠ i.name

theorem runtimeNames_fixed : ∀ word ∈ runtimeNames, Fixed word := by
  decide +kernel

theorem Sources.Of.offering {c : Sources} {d : Definitions} {o : Options} (h : c.Of d o)
    {exported : List (List Ident)}
    (hexported : List.Forall₂ (fun s names => exportedNames s o = .ok names) d.services exported)
    (htexts : (exported.flatten.map Ident.text).Nodup)
    (hfresh : ∀ text ∈ exported.flatten.map Ident.text, text ∉ c.types.types.map Ident.text ++ runtimeNames) :
    c.Offering d exported.flatten := by
  have hexports := preludeFile_exports h.prelude hexported
  have htypes : Idents (typeForms d) c.types.types := typesFile_types h.types
  have hoffered : c.offered = c.types.types ++ (exported.flatten ++ runtimeNames.map plain) := by
    rw [Sources.offered, h.offeredTypes_eq, hexports]
  refine ⟨hoffered, htexts, hfresh, ?_, fun i hi => ?_⟩
  · rw [hoffered, distinct_append_iff htexts hfresh, forall_name_notMem_iff htypes]
    exact and_congr_left' (distinct_iff_apart htypes)
  · unfold Sources.Offers
    rw [h.offeredTypes_eq, hexports, List.map_append, runtimeNames_words, List.mem_append, not_or, and_iff_right hi,
      and_comm]
    simp only [List.mem_map, not_exists, not_and]

/-- The prelude of a generated crate offers the types of the schema, the services with their clients, and four names of
the runtime. Services are checked against everything, but nothing compares types with the names of the runtime. As long
as names are plain and nothing is marked as raw, all names that are offered differ exactly if no type has a name of the
runtime, and a type that has one is hidden. -/
theorem prelude_distinct_iff {schema : Schema} {o : Options} {files : List CrateFile}
    (h : generate schema.toDefinitions o = .ok files) :
    ∃ (c : Sources) (exported : List (List Ident)), c.Of schema.toDefinitions o ∧
      codeFile "src/types.rs" c.types ∈ files ∧ codeFile "src/prelude.rs" c.prelude ∈ files ∧
      List.Forall₂ (fun s names => exportedNames s o = .ok names) schema.services exported ∧
      c.Offering schema.toDefinitions exported.flatten ∧
      ((∀ name ∈ typeForms schema.toDefinitions, Plain name) → (∀ i ∈ c.offered, i.raw = false) →
        (Code.Distinct c.offered ↔ ∀ name ∈ typeForms schema.toDefinitions, name ∉ runtimeNames) ∧
        ∀ i ∈ c.types.types, c.Offers i ↔ i.name ∉ runtimeNames) := by
  obtain ⟨c, hc, hfiles⟩ := sources_of_generate h
  have hcheck := checkNames_of_generate h
  simp only [checkNames, bind_eq_ok] at hcheck
  obtain ⟨types, htypes, hservices⟩ := hcheck
  obtain rfl := typeNames_eq htypes hc.types
  obtain ⟨exported, hexported, htexts, hfresh⟩ := checkServiceNames_exported hservices
  have hoffering := hc.offering hexported htexts hfresh
  refine ⟨c, exported, hc, by simp [hfiles], by simp [hfiles], hexported, hoffering, fun hplain hraw => ⟨?_, ?_⟩⟩
  · have hapart : Apart (typeForms schema.toDefinitions) := apart_of_plain (schema_names_nodup schema).types hplain
    have hmarks : MarksAgree c.offered := fun i hi j hj _ => (hraw i hi).trans (hraw j hj).symm
    rw [hoffering.distinct_iff, and_iff_right hapart, and_iff_left hmarks]
    exact forall₂_congr fun name hname => denotes_none_iff runtimeNames_fixed (hplain name hname)
  · intro i hi
    rw [hoffering.offers_iff i hi]
    refine and_iff_left fun j hj hname => ?_
    -- two names of one word that are both not raw are written alike, which the check excludes
    have hexport : j ∈ c.offered := by
      rw [hoffering.offered]
      exact List.mem_append_right _ (List.mem_append_left _ hj)
    have htype : i ∈ c.offered := by
      rw [hoffering.offered]
      exact List.mem_append_left _ hi
    have htext : j.text = i.text := by simp [Ident.text, hname, hraw j hexport, hraw i htype]
    refine hoffering.fresh j.text (List.mem_map_of_mem hj) (List.mem_append_left _ ?_)
    rw [htext]
    exact List.mem_map_of_mem hi

/-- A crate is generated for an enumeration that is named `Url`. The prelude offers the name twice, and what it stands
for there is the address type of the runtime. -/
theorem type_hidden_by_runtime :
    let d : Definitions := { package := "p", enums := [{ name := "Url", constants := [⟨"A", "a"⟩] }] }
    ∃ (schema : Schema) (files : List CrateFile) (c : Sources), schema.toDefinitions = d ∧
      generate d { runtimePath := "r" } = .ok files ∧ c.Of d { runtimePath := "r" } ∧
      plain "Url" ∈ c.types.types ∧ ¬c.Offers (plain "Url") ∧ ¬Code.Distinct c.offered := by
  intro d
  have hvalid : d.error? = none := by decide +kernel
  obtain ⟨files, hgenerate⟩ : ∃ files, generate d { runtimePath := "r" } = .ok files :=
    exists_of_toOption (by decide +kernel)
  have hgen : generate (Schema.mk d hvalid).toDefinitions { runtimePath := "r" } = .ok files := hgenerate
  obtain ⟨c, exported, hc, -, -, -, hoffering, -⟩ := prelude_distinct_iff hgen
  have hform : "Url" ∈ typeForms d := by decide +kernel
  have hread : Ident.ofName? "Url" = some (plain "Url") := by decide +kernel
  obtain ⟨i, hi, hident⟩ := (exists_of_forall₂ (typesFile_types hc.types)).1 "Url" hform
  obtain rfl := Option.some.inj (hread.symm.trans hident)
  refine ⟨⟨d, hvalid⟩, files, c, rfl, hgenerate, hc, hi, ?_, ?_⟩
  · rw [hoffering.offers_iff _ hi]
    exact fun hfree => hfree.1 (by decide)
  · rw [hoffering.distinct_iff]
    exact fun hdistinct => hdistinct.2.1 "Url" hform "Url" (by decide) (ofName?_eq_some hread)

end Generate

end ServiceBindings
