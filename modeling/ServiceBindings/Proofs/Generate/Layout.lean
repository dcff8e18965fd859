import ServiceBindings.Proofs.Files.Location
import ServiceBindings.Proofs.Generate.Distinct
import ServiceBindings.Proofs.Naming

/-!
Where generated files lie. The file of a service is named after its module, and a module is only checked for being an
identifier once blanks and comments are left out. So a slash in the name of a service gets into the path of its file,
which then lies elsewhere than in the crate.
-/

namespace ServiceBindings.Generate

open Code

/-! ### Modules -/

theorem checkServiceNames_inv {o : Options} {modules taken : List String} {services : List Service}
    (h : checkServiceNames o modules taken services = .ok ()) :
    (services.map moduleName).Nodup ∧ ∀ s ∈ services, moduleName s ∉ modules := by
  induction services generalizing modules taken with
  | nil => exact ⟨List.nodup_nil, by simp⟩
  | cons s rest ih =>
    unfold checkServiceNames at h
    dsimp only at h
    split at h
    · cases h
    · next hfree =>
      simp only [bind_eq_ok] at h
      obtain ⟨names, -, h⟩ := h
      split at h
      · cases h
      · obtain ⟨hnodup, hrest⟩ := ih h
        refine ⟨List.nodup_cons.mpr ⟨?_, hnodup⟩, List.forall_mem_cons.mpr ⟨hfree, ?_⟩⟩
        · intro hmem
          obtain ⟨t, ht, hsame⟩ := List.mem_map.mp hmem
          exact hrest t ht (List.mem_cons.mpr (.inl hsame))
        · exact fun t ht hmem => hrest t ht (List.mem_cons_of_mem _ hmem)

theorem checkServiceNames_congr {o o' : Options} (h : o'.profiles = o.profiles) (modules taken : List String)
    (services : List Service) :
    checkServiceNames o' modules taken services = checkServiceNames o modules taken services := by
  induction services generalizing modules taken with
  | nil => rfl
  | cons s rest ih =>
    have hnames : exportedNames s o' = exportedNames s o := by
      unfold exportedNames
      rw [h]
    unfold checkServiceNames
    simp only [ih, hnames]

/-- Of the options, the check of names looks at the profiles only. -/
theorem checkNames_congr {o o' : Options} (d : Definitions) (h : o'.profiles = o.profiles) :
    checkNames d o' = checkNames d o := by
  unfold checkNames
  simp only [checkServiceNames_congr h]

theorem checkNames_of_generate {d : Definitions} {o : Options} {files : List CrateFile}
    (h : generate d o = .ok files) : checkNames d o = .ok () := by
  unfold generate at h
  cases hfault : o.fault? with
  | some fault =>
    rw [hfault] at h
    cases h
  | none =>
    simp only [hfault, bind_eq_ok, pure_eq_ok] at h
    obtain ⟨_, _, _, hcheck, _⟩ := h
    exact hcheck

/-- The modules of services differ from one another and from those that no service may take. -/
theorem modules_of_generate {d : Definitions} {o : Options} {files : List CrateFile} (h : generate d o = .ok files) :
    (d.services.map moduleName).Nodup ∧ ∀ name ∈ takenModules, name ∉ d.services.map moduleName := by
  have hcheck := checkNames_of_generate h
  simp only [checkNames, bind_eq_ok] at hcheck
  obtain ⟨types, -, hservices⟩ := hcheck
  obtain ⟨hnodup, hfree⟩ := checkServiceNames_inv hservices
  refine ⟨hnodup, fun name hname hmem => ?_⟩
  obtain ⟨s, hs, rfl⟩ := List.mem_map.mp hmem
  exact hfree s hs hname

/-- All modules of a crate differ. -/
theorem modules_nodup {d : Definitions} {o : Options} {files : List CrateFile} (h : generate d o = .ok files) :
    (["lib", "types"] ++ d.services.map moduleName ++ ["prelude"]).Nodup := by
  obtain ⟨hnodup, htaken⟩ := modules_of_generate h
  have hlib := htaken "lib" (by decide)
  have htypes := htaken "types" (by decide)
  have hprelude := htaken "prelude" (by decide)
  rw [List.append_assoc]
  refine List.nodup_append.mpr ⟨by decide, List.nodup_append.mpr ⟨hnodup, by decide, ?_⟩, ?_⟩
  · rintro name hname _ hlast rfl
    obtain rfl := List.mem_singleton.mp hlast
    exact hprelude hname
  · rintro name hname _ hother rfl
    rcases List.mem_append.mp hother with hservice | hlast
    · rcases List.mem_cons.mp hname with rfl | hname
      · exact hlib hservice
      · obtain rfl := List.mem_singleton.mp hname
        exact htypes hservice
    · obtain rfl := List.mem_singleton.mp hlast
      exact absurd hname (by decide)

/-- The modules that the root of a crate declares are read from those of the services. -/
theorem rootFile_inv {d : Definitions} {o : Options} {f : File} (h : rootFile d o = .ok f) :
    ∃ modules, List.Forall₂ (fun s i => memberIdent (moduleName s) = .ok i) d.services modules ∧
      f.items = .module (plain "prelude") :: .module (plain "types") :: modules.map .module := by
  simp only [rootFile, bind_eq_ok, pure_eq_ok] at h
  obtain ⟨modules, hmodules, rfl⟩ := h
  exact ⟨modules, forall₂_of_mapM hmodules, rfl⟩

/-! ### Paths -/

/-- The path of the file of a module. -/
def modulePath (stem : String) : String :=
  Files.join "src" (stem ++ ".rs")

theorem head?_append_rs (stem : String) : (stem ++ ".rs").toList.head? = some '/' ↔ stem.toList.head? = some '/' := by
  rw [String.toList_append]
  cases stem.toList with
  | nil => decide
  | cons c cs => rfl

theorem modulePath_of_absolute {stem : String} (h : stem.toList.head? = some '/') : modulePath stem = stem ++ ".rs" :=
  Files.join_of_absolute "src" ((head?_append_rs stem).mpr h)

theorem modulePath_of_relative {stem : String} (h : stem.toList.head? ≠ some '/') :
    modulePath stem = "src/" ++ stem ++ ".rs" := by
  have hrelative : ¬(stem ++ ".rs").startsWith "/" = true := by
    rwa [Files.startsWith_slash_iff, head?_append_rs]
  have hsrc : "src".isEmpty = false := by decide
  have hend : ¬"src".endsWith "/" = true := by
    rw [Files.endsWith_slash_iff]
    decide
  unfold modulePath Files.join
  rw [hsrc, Bool.or_false, if_neg hrelative, if_neg hend]
  rw [String.append_assoc]
  rfl

@[simp]
theorem modulePath_lib : modulePath "lib" = "src/lib.rs" :=
  modulePath_of_relative (by decide)

@[simp]
theorem modulePath_types : modulePath "types" = "src/types.rs" :=
  modulePath_of_relative (by decide)

@[simp]
theorem modulePath_prelude : modulePath "prelude" = "src/prelude.rs" :=
  modulePath_of_relative (by decide)

theorem eq_of_append_rs {a b : String} (h : a ++ ".rs" = b ++ ".rs") : a = b := by
  have hlist := congrArg String.toList h
  rw [String.toList_append, String.toList_append, List.append_left_inj] at hlist
  exact String.toList_injective hlist

/-- A path in the folder is that of one module, which is not absolute. -/
theorem modulePath_eq_iff {stem name : String} :
    modulePath stem = "src/" ++ name ++ ".rs" ↔ stem.toList.head? ≠ some '/' ∧ stem = name := by
  constructor
  · intro h
    by_cases hhead : stem.toList.head? = some '/'
    · have hslash := (head?_append_rs stem).mpr hhead
      rw [← modulePath_of_absolute hhead, h, String.append_assoc, String.toList_append] at hslash
      cases hslash
    · rw [modulePath_of_relative hhead, String.append_assoc, String.append_assoc] at h
      have hlist : "src/".toList ++ (stem ++ ".rs").toList = "src/".toList ++ (name ++ ".rs").toList := by
        rw [← String.toList_append, h, String.toList_append]
      exact ⟨hhead, eq_of_append_rs (String.toList_injective (List.append_cancel_left hlist))⟩
  · rintro ⟨hhead, rfl⟩
    exact modulePath_of_relative hhead

theorem modulePath_injective : Function.Injective modulePath := by
  intro a b h
  by_cases hb : b.toList.head? = some '/'
  · by_cases ha : a.toList.head? = some '/'
    · rw [modulePath_of_absolute ha, modulePath_of_absolute hb] at h
      exact eq_of_append_rs h
    · rw [modulePath_of_relative ha] at h
      exact absurd hb (modulePath_eq_iff.mp h.symm).1
  · rw [modulePath_of_relative hb] at h
    exact (modulePath_eq_iff.mp h).2

theorem getLast?_modulePath (stem : String) : (modulePath stem).toList.getLast? = some 's' := by
  by_cases hhead : stem.toList.head? = some '/'
  · rw [modulePath_of_absolute hhead, String.toList_append]
    exact List.getLast?_append_of_ne_nil _ (by decide)
  · rw [modulePath_of_relative hhead, String.toList_append]
    exact List.getLast?_append_of_ne_nil _ (by decide)

theorem modulePath_ne_manifest (stem : String) : modulePath stem ≠ "Cargo.toml" := by
  intro h
  have hlast := getLast?_modulePath stem
  rw [h] at hlast
  exact absurd hlast (by decide)

/-- Whether a path leads to a file in the folder of a crate or in the folder `src` there, wherever the crate is. -/
def InCrate (path : String) : Prop :=
  ∀ folder, ∃ name, name ≠ "." ∧ name ≠ ".." ∧
    (Files.components (Files.join folder path) = Files.components folder ++ [name] ∨
      Files.components (Files.join folder path) = Files.components folder ++ ["src", name])

theorem components_join_manifest (folder : String) :
    Files.components (Files.join folder "Cargo.toml") = Files.components folder ++ ["Cargo.toml"] := by
  have hname : Files.components "Cargo.toml" = ["Cargo.toml"] :=
    Files.components_of_slashFree (by decide) (by decide)
  rw [Files.components_join folder (by decide), hname]

theorem inCrate_manifest : InCrate "Cargo.toml" :=
  fun folder => ⟨"Cargo.toml", by decide, by decide, .inl (components_join_manifest folder)⟩

/-- Unless it is absolute, the path leads through the folder and through what the name of the module makes of it. -/
private theorem components_relative {stem : String} (h : stem.toList.head? ≠ some '/') :
    Files.components (modulePath stem) =
      "src" :: (Files.parts (stem.toList ++ ".rs".toList)).map String.ofList := by
  have htext : (modulePath stem).toList = "src".toList ++ '/' :: (stem.toList ++ ".rs".toList) := by
    rw [modulePath_of_relative h, String.append_assoc, String.toList_append, String.toList_append]
    rfl
  have hsrc : Files.parts "src".toList = ["src".toList] := by decide
  rw [Files.components_eq, htext, Files.parts_append_slash, hsrc]
  rfl

private theorem components_absolute {stem : String} (h : stem.toList.head? = some '/') :
    ∃ part rest, Files.components (modulePath stem) = "/" :: part :: rest := by
  have hstop : '.' ∈ (modulePath stem).toList := by
    rw [modulePath_of_absolute h, String.toList_append]
    exact List.mem_append_right _ (by decide)
  have hhead : (modulePath stem).toList.head? = some '/' := by
    rwa [modulePath_of_absolute h, head?_append_rs]
  obtain ⟨part, rest, hsplit⟩ := List.exists_cons_of_ne_nil (Files.parts_ne_nil hstop (by decide))
  exact ⟨_, _, by rw [Files.components_eq, if_pos hhead, hsplit]; rfl⟩

/-- A slash makes two components of what comes after the folder. -/
private theorem length_components_of_slash {stem : String} (h : stem.toList.head? ≠ some '/')
    (hslash : '/' ∈ stem.toList) : 3 ≤ (Files.components (modulePath stem)).length := by
  obtain ⟨front, back, hsplit⟩ := List.append_of_mem hslash
  have hfront : Files.parts front ≠ [] := by
    cases front with
    | nil => exact absurd (by rw [hsplit]; rfl) h
    | cons c cs =>
      have hc : c ≠ '/' := by
        rintro rfl
        exact h (by rw [hsplit]; rfl)
      exact Files.parts_ne_nil List.mem_cons_self hc
  have hstop : '.' ∈ back ++ ".rs".toList := List.mem_append_right _ (by decide)
  have hpos := List.length_pos_iff.mpr hfront
  have hpos' := List.length_pos_iff.mpr (Files.parts_ne_nil hstop (by decide))
  rw [components_relative h, hsplit, List.append_assoc, List.cons_append, Files.parts_append_slash]
  simp only [List.length_cons, List.length_map, List.length_append]
  omega

/-- A module whose name has a slash in it makes no single component below the folder. -/
private theorem not_inCrate_of_slash {stem : String} (hslash : '/' ∈ stem.toList) : ¬InCrate (modulePath stem) := by
  intro hinside
  obtain ⟨name, -, -, hplace⟩ := hinside ""
  have hjoin : Files.join "" (modulePath stem) = modulePath stem := if_pos (by simp)
  have hroot : Files.components "" = [] := by decide
  rw [hjoin, hroot, List.nil_append, List.nil_append] at hplace
  by_cases habsolute : stem.toList.head? = some '/'
  · obtain ⟨part, rest, hcomponents⟩ := components_absolute habsolute
    rw [hcomponents] at hplace
    rcases hplace with hplace | hplace
    · cases hplace
    · exact absurd (List.cons.inj hplace).1 (by decide)
  · have hlength := length_components_of_slash habsolute hslash
    rcases hplace with hplace | hplace
    · rw [hplace, List.length_singleton] at hlength
      omega
    · rw [hplace, List.length_cons, List.length_singleton] at hlength
      omega

/-- The name of a file of code is longer than what leads nowhere or upwards. -/
theorem append_rs_ne (stem : String) {text : String} (hshort : text.length < 3) : stem ++ ".rs" ≠ text := by
  rintro rfl
  rw [String.length_append] at hshort
  have hrs : ".rs".length = 3 := by decide
  omega

/-- A module whose name has no slash in it has a file in the folder `src`. -/
theorem components_modulePath {stem : String} (hslash : '/' ∉ stem.toList) :
    Files.components (modulePath stem) = ["src", stem ++ ".rs"] := by
  have hrelative : stem.toList.head? ≠ some '/' := fun h => hslash (List.mem_of_mem_head? h)
  have hname : '/' ∉ (stem ++ ".rs").toList := by
    rw [String.toList_append]
    exact fun h => (List.mem_append.mp h).elim hslash (by decide)
  have hnonempty : stem ++ ".rs" ≠ "" := append_rs_ne stem (by decide)
  have hlist : (stem ++ ".rs").toList ≠ [] := fun h => hnonempty (String.toList_injective h)
  rw [components_relative hrelative, ← String.toList_append, Files.parts_of_slashFree hlist hname, List.map_singleton,
    String.ofList_toList]

/-- Below a folder, it has one there. -/
theorem components_join_modulePath (folder : String) {stem : String} (hslash : '/' ∉ stem.toList) :
    Files.components (Files.join folder (modulePath stem)) = Files.components folder ++ ["src", stem ++ ".rs"] := by
  have hrelative : stem.toList.head? ≠ some '/' := fun h => hslash (List.mem_of_mem_head? h)
  have hpath : (modulePath stem).toList.head? ≠ some '/' := by
    rw [modulePath_of_relative hrelative, String.append_assoc, String.toList_append]
    exact fun h => absurd h (by simp)
  rw [Files.components_join folder hpath, components_modulePath hslash]

/-- The file of a module is in the crate exactly if no slash is in the name of the module. -/
theorem inCrate_modulePath_iff (stem : String) : InCrate (modulePath stem) ↔ '/' ∉ stem.toList := by
  constructor
  · exact fun hinside hslash => not_inCrate_of_slash hslash hinside
  · intro hslash folder
    exact ⟨stem ++ ".rs", append_rs_ne stem (by decide), append_rs_ne stem (by decide),
      .inr (components_join_modulePath folder hslash)⟩

/-! ### Crates -/

/-- The files of a crate: its manifest, and a file for each of its modules. -/
theorem paths_of_generate {d : Definitions} {o : Options} {files : List CrateFile} (h : generate d o = .ok files) :
    files.map (·.path) =
      "Cargo.toml" :: (["lib", "types"] ++ d.services.map moduleName ++ ["prelude"]).map modulePath := by
  obtain ⟨c, hc, hfiles⟩ := sources_of_generate h
  have hpath (s : Service) (f : File) :
      (codeFile (Files.join "src" (moduleName s ++ ".rs")) f).path = modulePath (moduleName s) := by
    rw [modulePath, codeFile]
  have hservices := zipWith_left_of_forall₂ (fun s => modulePath (moduleName s)) hc.services
  have hfixed (path : String) (f : File) : (codeFile path f).path = path := rfl
  rw [hfiles]
  simp only [List.map_append, List.map_cons, List.map_nil, List.map_zipWith, hpath, hfixed, hservices, modulePath_lib,
    modulePath_types, modulePath_prelude, List.map_map, List.cons_append, List.nil_append, Function.comp_def]

/-- The name of the module of a service that code is generated for is read as an identifier, so it is neither empty
nor one of the names that lead nowhere or upwards. -/
theorem moduleName_ne {d : Definitions} {o : Options} {files : List CrateFile} (h : generate d o = .ok files)
    {s : Service} (hs : s ∈ d.services) : moduleName s ≠ "" ∧ moduleName s ≠ "." ∧ moduleName s ≠ ".." := by
  obtain ⟨c, hc, -⟩ := sources_of_generate h
  obtain ⟨modules, hmodules, -⟩ := rootFile_inv hc.root
  obtain ⟨i, -, hread⟩ := (exists_of_forall₂ hmodules).1 s hs
  have hfail : ∀ name ∈ ["", ".", ".."], Ident.ofName? (snakeCase name) = none := by decide +kernel
  have hne (name : String) (hname : name ∈ ["", ".", ".."]) : moduleName s ≠ name := by
    intro hsame
    rw [memberIdent, hsame, identOf, hfail name hname] at hread
    cases hread
  exact ⟨hne "" (by decide), hne "." (by decide), hne ".." (by decide)⟩

/-- Whether a text is a single component of paths that goes down. -/
structure IsComponent (text : String) : Prop where
  nonempty : text ≠ ""
  slash : '/' ∉ text.toList
  here : text ≠ "."
  up : text ≠ ".."

theorem slash_mem_moduleName (s : Service) : '/' ∈ (moduleName s).toList ↔ '/' ∈ s.name.toList :=
  slash_mem_snakeCase s.name

theorem modules_slashFree {d : Definitions} (h : ∀ s ∈ d.services, '/' ∉ s.name.toList) :
    ∀ stem ∈ ["lib", "types"] ++ d.services.map moduleName ++ ["prelude"], '/' ∉ stem.toList := by
  intro stem hstem
  rcases List.mem_append.mp hstem with hstem | hlast
  · rcases List.mem_append.mp hstem with hfirst | hservice
    · have hfixed : ∀ name ∈ ["lib", "types"], '/' ∉ name.toList := by decide
      exact hfixed stem hfirst
    · obtain ⟨s, hs, rfl⟩ := List.mem_map.mp hservice
      exact fun hname => h s hs ((slash_mem_moduleName s).mp hname)
  · obtain rfl := List.mem_singleton.mp hlast
    decide

/-- All files lie in the crate exactly if no service has a slash in its name. -/
theorem inCrate_iff {d : Definitions} {o : Options} {files : List CrateFile} (h : generate d o = .ok files) :
    (∀ f ∈ files, InCrate f.path) ↔ ∀ s ∈ d.services, '/' ∉ s.name.toList := by
  have hall : (∀ f ∈ files, InCrate f.path) ↔ ∀ path ∈ files.map (·.path), InCrate path := by simp
  rw [hall, paths_of_generate h, List.forall_mem_cons, List.forall_mem_map]
  constructor
  · rintro ⟨-, hmodules⟩ s hs hname
    have hservice := hmodules (moduleName s) (by simp [List.mem_map_of_mem hs])
    exact (inCrate_modulePath_iff _).mp hservice ((slash_mem_moduleName s).mpr hname)
  · exact fun hservices => ⟨inCrate_manifest, fun stem hstem =>
      (inCrate_modulePath_iff stem).mpr (modules_slashFree hservices stem hstem)⟩

/-- The files of a crate that is generated for a schema have different paths, one for each service among them in the
order of the schema. All of them lie in the crate exactly if no service has a slash in its name. -/
theorem generated_inside_iff {schema : Schema} {o : Options} {files : List CrateFile}
    (h : generate schema.toDefinitions o = .ok files) :
    files.map (·.path) = ["Cargo.toml", "src/lib.rs", "src/types.rs"] ++
      schema.services.map (fun s => modulePath (moduleName s)) ++ ["src/prelude.rs"] ∧
    (files.map (·.path)).Nodup ∧
    (∀ s ∈ schema.services, IsComponent (moduleName s) ↔ '/' ∉ s.name.toList) ∧
    (∀ s ∈ schema.services, '/' ∉ s.name.toList → modulePath (moduleName s) = "src/" ++ moduleName s ++ ".rs") ∧
    ((∀ f ∈ files, InCrate f.path) ↔ ∀ s ∈ schema.services, '/' ∉ s.name.toList) := by
  have hpaths := paths_of_generate h
  refine ⟨?_, ?_, fun s hs => ?_, fun s hs hname => ?_, ?_⟩
  · rw [hpaths]
    simp
  · rw [hpaths]
    refine List.nodup_cons.mpr ⟨fun hmem => ?_, (modules_nodup h).map modulePath_injective⟩
    obtain ⟨stem, -, hstem⟩ := List.mem_map.mp hmem
    exact modulePath_ne_manifest stem hstem
  · obtain ⟨hnonempty, hhere, hup⟩ := moduleName_ne h hs
    exact ⟨fun hcomponent hname => hcomponent.slash ((slash_mem_moduleName s).mpr hname),
      fun hname => ⟨hnonempty, fun hmodule => hname ((slash_mem_moduleName s).mp hmodule), hhere, hup⟩⟩
  · exact modulePath_of_relative fun hhead => hname ((slash_mem_moduleName s).mp (List.mem_of_mem_head? hhead))
  · exact inCrate_iff h

/-- A service whose name begins with a comment has a file at an absolute path, wherever its crate is to be. -/
theorem commented_service_outside :
    let d : Definitions := { package := "p", services := [{ name := "/**/a", methods := [] }] }
    ∃ (schema : Schema) (files : List CrateFile), schema.toDefinitions = d ∧
      generate d { runtimePath := "r" } = .ok files ∧ "/**/a.rs" ∈ files.map (·.path) ∧
      Files.join "crate" "/**/a.rs" = "/**/a.rs" ∧ ¬ ∀ f ∈ files, InCrate f.path := by
  intro d
  have hvalid : d.error? = none := by decide +kernel
  have hok : (generate d { runtimePath := "r" }).toOption.isSome = true := by decide +kernel
  cases hgenerate : generate d { runtimePath := "r" } with
  | error e =>
    rw [hgenerate] at hok
    cases hok
  | ok files =>
    have hgen : generate (Schema.mk d hvalid).toDefinitions { runtimePath := "r" } = .ok files := hgenerate
    obtain ⟨hpaths, -, -, -, hiff⟩ := generated_inside_iff hgen
    have hname : moduleName { name := "/**/a", methods := [] } = "/**/a" := by decide +kernel
    have hpath : modulePath "/**/a" = "/**/a.rs" := modulePath_of_absolute (by decide)
    refine ⟨⟨d, hvalid⟩, files, rfl, rfl, ?_, Files.join_of_absolute "crate" (by decide), ?_⟩
    · rw [hpaths, ← hpath, ← hname]
      exact List.mem_append_left _ (List.mem_append_right _ (List.mem_map.mpr ⟨_, List.mem_singleton.mpr rfl, rfl⟩))
    · rw [hiff]
      exact fun hservices => hservices _ (List.mem_singleton.mpr rfl) (by decide)

end ServiceBindings.Generate
