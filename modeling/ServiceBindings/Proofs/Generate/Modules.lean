import Mathlib.Data.List.Perm.Subperm
import ServiceBindings.Proofs.Generate.Layout

/-!
Modules and files. The root of a crate declares a module for each service, and the prelude imports from it, under the
name of its file converted once more. Most names are not changed by that, and the crate is complete exactly if none
is.
-/

namespace ServiceBindings

open Naming Text

namespace Code

/-- The module that an item declares, without a raw mark. -/
def Item.module? : Item → Option String
  | .module i => some i.name
  | _ => none

/-- The modules that a file declares. -/
def File.modules (f : File) : List String :=
  f.items.filterMap Item.module?

/-- The module of its own crate that an item imports from. -/
def Item.crateModule? : Item → Option String
  | .imports _ (root :: i :: _) _ => if root = plain "crate" then some i.name else none
  | _ => none

/-- The modules of its own crate that a file imports from. -/
def File.crateModules (f : File) : List String :=
  f.items.filterMap Item.crateModule?

end Code

namespace Generate

open Code

/-! ### Names of modules -/

/-- A converted name that is a word remains one when it is converted again. -/
theorem isWord_snakeCase {name : String} (h : IsWord (snakeCase name).toList) :
    IsWord (snakeCase (snakeCase name)).toList := by
  obtain ⟨c, body, hlist, hc, hbody⟩ := h
  have hsep : isSeparator c = false := by
    cases hsep : isSeparator c with
    | false => rfl
    | true =>
      simp only [isSeparator, Bool.or_eq_true, decide_eq_true_eq] at hsep
      rcases hsep with (rfl | rfl) | hblank
      · exact absurd (by rw [hlist]; rfl) (snakeCase_ends name).1
      · exact absurd hc (by decide +kernel)
      · have htoken : isTokenBlank c = true := by simp [isTokenBlank, hblank]
        cases hc.symm.trans (not_identifier_of_isTokenBlank htoken).1
  obtain ⟨w, ws, hwords, -⟩ := exists_words_cons hsep body
  have hflat := words_flatten (c :: body)
  rw [hwords, List.filter_cons_of_pos (by simp [hsep]), List.flatten_cons, List.cons_append] at hflat
  have hrest : (w :: ws).flatten = body.filter (!isSeparator ·) := (List.cons.inj hflat).2
  refine ⟨c, ['_'].intercalate (w :: ws), ?_, hc, fun d hd => ?_⟩
  · rw [snakeCase_of_lowered (lowered_snakeCase name), hlist, hwords, intercalate_extend]
  · rcases mem_intercalate hd with rfl | ⟨v, hv, hd⟩
    · decide +kernel
    · have hmem : d ∈ (w :: ws).flatten := List.mem_flatten.mpr ⟨v, hv, hd⟩
      rw [hrest] at hmem
      exact hbody d (List.mem_of_mem_filter hmem)

/-- Whether a module is declared under the name of its file: a word that converting it once more does not change, and
that has a raw form if it is a keyword. -/
structure Settled (stem : String) : Prop where
  converted : snakeCase stem = stem
  word : IsWord stem.toList
  free : stem ∉ pathKeywords

/-- A module is declared under the name of its file exactly if that name is settled. -/
theorem declared_eq_iff {name word : String} (h : Denotes (snakeCase (snakeCase name)) word) :
    word = snakeCase name ↔ Settled (snakeCase name) := by
  constructor
  · rintro rfl
    have hword := h.isWord
    have hsame : snakeCase (snakeCase name) = snakeCase name := by
      rcases h.of_word (isWord_snakeCase hword) with hsame | ⟨-, hunderscore⟩
      · exact hsame.symm
      · refine absurd ?_ (snakeCase_ends name).2
        rw [hunderscore, String.toList_append]
        exact List.getLast?_append_of_ne_nil _ (List.cons_ne_nil '_' [])
    refine ⟨hsame, hword, fun hpath => ?_⟩
    rw [hsame] at h
    obtain ⟨i, hread, hi⟩ := h.ofName?
    have hsuffix := (denotes_iff hread _).mp (Denotes.path hpath)
    rw [hi] at hsuffix
    have hlength := congrArg String.length hsuffix
    rw [String.length_append] at hlength
    exact absurd hlength (by simp)
  · rintro ⟨hsame, hword, hfree⟩
    rw [hsame] at h
    rcases h.of_word hword with heq | ⟨hpath, -⟩
    · exact heq
    · exact absurd hpath hfree

/-- What a word is declared as stays when it is converted once more. -/
theorem declared_twice {name word : String} (h : Denotes (snakeCase (snakeCase name)) word)
    (hname : IsWord (snakeCase name).toList) (hlast : word.toList.getLast? ≠ some '_') : snakeCase word = word := by
  rcases h.of_word (isWord_snakeCase hname) with rfl | ⟨-, rfl⟩
  · exact snakeCase_of_twice name
  · refine absurd ?_ hlast
    rw [String.toList_append]
    exact List.getLast?_append_of_ne_nil _ (List.cons_ne_nil '_' [])

/-! ### Declarations -/

/-- The module that is declared for a file. -/
def declaredName (stem : String) : String :=
  ((Ident.ofName? (snakeCase stem)).map (·.name)).getD ""

theorem declaredName_denotes {stem : String} {i : Ident} (h : memberIdent stem = .ok i) :
    i.name = declaredName stem ∧ Denotes (snakeCase stem) (declaredName stem) := by
  have hread : Ident.ofName? (snakeCase stem) = some i := identOf_eq_ok.mp h
  have hname : i.name = declaredName stem := by
    unfold declaredName
    rw [hread]
    rfl
  exact ⟨hname, hname ▸ ofName?_eq_some hread⟩

/-- The root declares a module for the prelude, for the types, and for each service. -/
theorem rootFile_modules {d : Definitions} {o : Options} {f : File} (h : rootFile d o = .ok f) :
    f.modules = ["prelude", "types"] ++ (d.services.map moduleName).map declaredName ∧
      ∀ s ∈ d.services, Denotes (snakeCase (moduleName s)) (declaredName (moduleName s)) := by
  obtain ⟨modules, hmodules, hitems⟩ := rootFile_inv h
  constructor
  · have hnames : modules.map (·.name) = (d.services.map moduleName).map declaredName := by
      clear hitems
      generalize d.services = services at hmodules
      induction hmodules with
      | nil => rfl
      | cons hread _ ih => rw [List.map_cons, List.map_cons, List.map_cons, ih, (declaredName_denotes hread).1]
    have hdeclared : (modules.map Item.module).filterMap Item.module? = modules.map (·.name) := by
      rw [List.filterMap_map, ← List.filterMap_eq_map]
      rfl
    unfold File.modules
    rw [hitems, ← hnames, ← hdeclared]
    rfl
  · intro s hs
    obtain ⟨i, -, hread⟩ := (exists_of_forall₂ hmodules).1 s hs
    exact (declaredName_denotes hread).2

/-- The prelude imports from the types, if there are any, and from the module of each service. -/
theorem preludeFile_crateModules {d : Definitions} {o : Options} {f : File} (h : preludeFile d o = .ok f) :
    ∀ name ∈ f.crateModules, name = "types" ∨ ∃ s ∈ d.services, name = declaredName (moduleName s) := by
  simp only [preludeFile, bind_eq_ok, pure_eq_ok] at h
  obtain ⟨services, hservices, rfl⟩ := h
  intro name hname
  obtain ⟨item, hitem, hmodule⟩ := List.mem_filterMap.mp hname
  simp only [List.mem_append] at hitem
  rcases hitem with (htypes | hservice) | hruntime
  · left
    split at htypes
    · cases htypes
    · obtain rfl := List.mem_singleton.mp htypes
      exact (Option.some.inj hmodule).symm
  · right
    obtain ⟨s, hs, himport⟩ := (exists_of_forall₂ (forall₂_of_mapM hservices)).2 item hservice
    simp only [bind_eq_ok, pure_eq_ok] at himport
    obtain ⟨i, hread, names, -, rfl⟩ := himport
    exact ⟨s, hs, (Option.some.inj hmodule).symm.trans (declaredName_denotes hread).1⟩
  · obtain rfl := List.mem_singleton.mp hruntime
    cases hmodule

/-! ### Files -/

/-- Whether files have one of a name in the folder `src`, other than the root of the crate. -/
def IsStem (files : List CrateFile) (name : String) : Prop :=
  name ≠ "lib" ∧ "src/" ++ name ++ ".rs" ∈ files.map (·.path)

theorem isStem_iff {d : Definitions} {o : Options} {files : List CrateFile} (h : generate d o = .ok files)
    (name : String) :
    IsStem files name ↔ name.toList.head? ≠ some '/' ∧ name ∈ ["prelude", "types"] ++ d.services.map moduleName := by
  have hmanifest : "src/" ++ name ++ ".rs" ≠ "Cargo.toml" := by
    intro hsame
    have hhead := congrArg (fun path : String => path.toList.head?) hsame
    rw [String.append_assoc, String.toList_append] at hhead
    cases hhead
  have hlib : "lib" ∉ ["prelude", "types"] ++ d.services.map moduleName := by
    intro hmem
    rcases List.mem_append.mp hmem with hfixed | hservice
    · exact absurd hfixed (by decide)
    · exact (modules_of_generate h).2 "lib" (by decide) hservice
  unfold IsStem
  rw [paths_of_generate h, List.mem_cons, or_iff_right hmanifest, List.mem_map]
  simp only [modulePath_eq_iff]
  constructor
  · rintro ⟨hne, stem, hstem, hhead, rfl⟩
    refine ⟨hhead, ?_⟩
    simp only [List.mem_append, List.mem_cons, List.not_mem_nil, or_false] at hstem ⊢
    tauto
  · rintro ⟨hhead, hmem⟩
    refine ⟨fun hsame => hlib (hsame ▸ hmem), name, ?_, hhead, rfl⟩
    simp only [List.mem_append, List.mem_cons, List.not_mem_nil, or_false] at hmem ⊢
    tauto

/-- Items that are images of one another are so each of one. -/
theorem map_perm_of_subset {α : Type} {f : α → α} {xs : List α} (hnodup : xs.Nodup) (hsub : xs ⊆ xs.map f) :
    (xs.map f).Perm xs := by
  have hle : (xs.map f).length ≤ xs.length := by rw [List.length_map]
  exact ((List.subperm_of_subset hnodup hsub).perm_of_length_le hle).symm

/-- The modules of services are declared under the names of their files if those are declared at all. -/
theorem settled_of_subset {services : List Service} (hnodup : (services.map moduleName).Nodup)
    (hreads : ∀ s ∈ services, Denotes (snakeCase (moduleName s)) (declaredName (moduleName s)))
    (hsub : services.map moduleName ⊆ (services.map moduleName).map declaredName) :
    ∀ s ∈ services, Settled (moduleName s) := by
  have hperm := map_perm_of_subset hnodup hsub
  have hinj := List.inj_on_of_nodup_map (hperm.nodup_iff.mpr hnodup)
  have hlast : ∀ name ∈ services.map moduleName, name.toList.getLast? ≠ some '_' :=
    List.forall_mem_map.mpr fun s _ => (snakeCase_ends s.name).2
  have hdeclared : ∀ s ∈ services, declaredName (moduleName s) ∈ services.map moduleName := fun s hs =>
    hperm.subset (List.mem_map_of_mem (List.mem_map_of_mem hs))
  intro s hs
  have hmodule : moduleName s ∈ services.map moduleName := List.mem_map_of_mem hs
  obtain ⟨_, hmem, himage⟩ := List.mem_map.mp (hsub hmodule)
  obtain ⟨r, hr, rfl⟩ := List.mem_map.mp hmem
  have hword : IsWord (moduleName s).toList := himage ▸ (hreads r hr).isWord
  have htwice := declared_twice (hreads s hs) hword (hlast _ (hdeclared s hs))
  -- what the module is declared as is a module too, and is declared under its own name
  obtain ⟨t, ht, hsame⟩ := List.mem_map.mp (hdeclared s hs)
  have hread := hreads t ht
  rw [hsame, htwice] at hread
  have hstays : declaredName (declaredName (moduleName s)) = declaredName (moduleName s) := by
    rcases hread.of_word (hreads s hs).isWord with heq | ⟨-, hunderscore⟩
    · exact heq
    · refine absurd ?_ (hlast _ (hdeclared t ht))
      rw [hsame, hunderscore, String.toList_append]
      exact List.getLast?_append_of_ne_nil _ (List.cons_ne_nil '_' [])
  exact (declared_eq_iff (hreads s hs)).mp (hinj (hdeclared s hs) hmodule hstays)

/-- A settled name does not begin with a slash. -/
theorem Settled.relative {stem : String} (h : Settled stem) : stem.toList.head? ≠ some '/' := by
  obtain ⟨c, body, hlist, hc, -⟩ := h.word
  intro hhead
  rw [hlist] at hhead
  cases hhead
  exact absurd hc (by decide)

/-- The root declares what is settled under the names of the files. -/
theorem rootFile_modules_of_settled {d : Definitions} {o : Options} {f : File} (h : rootFile d o = .ok f)
    (hsettled : ∀ s ∈ d.services, Settled (moduleName s)) :
    f.modules = ["prelude", "types"] ++ d.services.map moduleName := by
  obtain ⟨hmodules, hreads⟩ := rootFile_modules h
  have hstays : ∀ name ∈ d.services.map moduleName, declaredName name = name := by
    intro name hname
    obtain ⟨s, hs, hmodule⟩ := List.mem_map.mp hname
    have hdeclared : declaredName (moduleName s) = moduleName s := (declared_eq_iff (hreads s hs)).mpr (hsettled s hs)
    rwa [hmodule] at hdeclared
  rw [hmodules, List.map_congr_left hstays, List.map_id']

/-! ### Crates -/

/-- The root of a generated crate declares every module that the prelude imports from. It declares a module for each
file in the folder of code, and no others, exactly if the modules of all services are settled. -/
theorem modules_are_files_iff {schema : Schema} {o : Options} {files : List CrateFile}
    (h : generate schema.toDefinitions o = .ok files) :
    ∃ c : Sources, c.Of schema.toDefinitions o ∧ codeFile "src/lib.rs" c.root ∈ files ∧
      codeFile "src/prelude.rs" c.prelude ∈ files ∧
      (∀ name ∈ c.prelude.crateModules, name ∈ c.root.modules) ∧
      ((∀ s ∈ schema.services, IsStem files (moduleName s)) ∧ (∀ name, name ∈ c.root.modules ↔ IsStem files name) ↔
        ∀ s ∈ schema.services, Settled (moduleName s)) := by
  obtain ⟨c, hc, hfiles⟩ := sources_of_generate h
  obtain ⟨hmodules, hreads⟩ := rootFile_modules hc.root
  obtain ⟨hnodup, htaken⟩ := modules_of_generate h
  have hstem {s : Service} (hs : s ∈ schema.services) : moduleName s ∈ schema.services.map moduleName :=
    List.mem_map.mpr ⟨s, hs, rfl⟩
  refine ⟨c, hc, by simp [hfiles], by simp [hfiles], ?_, ?_⟩
  · intro name hname
    rw [hmodules]
    rcases preludeFile_crateModules hc.prelude name hname with htypes | ⟨s, hs, hservice⟩
    · simp [htypes]
    · exact List.mem_append_right _ (List.mem_map.mpr ⟨_, hstem hs, hservice.symm⟩)
  · constructor
    · rintro ⟨hinside, hsame⟩
      refine settled_of_subset hnodup hreads fun name hname => ?_
      obtain ⟨s, hs, rfl⟩ := List.mem_map.mp hname
      have hdeclared := (hsame _).mpr (hinside s hs)
      rw [hmodules] at hdeclared
      rcases List.mem_append.mp hdeclared with hfixed | hservice
      · have hall : ∀ name ∈ ["prelude", "types"], name ∈ takenModules := by decide
        exact absurd (hstem hs) (htaken _ (hall _ hfixed))
      · exact hservice
    · intro hsettled
      have hdeclared := rootFile_modules_of_settled hc.root hsettled
      have hrelative : ∀ name ∈ c.root.modules, name.toList.head? ≠ some '/' := by
        intro name hname
        rw [hdeclared] at hname
        rcases List.mem_append.mp hname with hfirst | hservice
        · have hall : ∀ name ∈ ["prelude", "types"], name.toList.head? ≠ some '/' := by decide
          exact hall name hfirst
        · obtain ⟨s, hs, hmodule⟩ := List.mem_map.mp hservice
          rw [← hmodule]
          exact (hsettled s hs).relative
      have hsame (name : String) : name ∈ c.root.modules ↔ IsStem files name := by
        rw [isStem_iff h, ← hdeclared]
        exact ⟨fun hname => ⟨hrelative name hname, hname⟩, And.right⟩
      refine ⟨fun s hs => (hsame _).mp ?_, hsame⟩
      rw [hdeclared]
      exact List.mem_append_right _ (hstem hs)

/-- A service that is named after a keyword without a raw form has its file under the keyword, where the root declares
a module with an underscore after it. -/
theorem keyword_service_undeclared :
    let d : Definitions := { package := "p", services := [{ name := "Crate", methods := [] }] }
    ∃ (schema : Schema) (files : List CrateFile) (c : Sources), schema.toDefinitions = d ∧
      generate d { runtimePath := "r" } = .ok files ∧ c.Of d { runtimePath := "r" } ∧
      "crate_" ∈ c.root.modules ∧ IsStem files "crate" ∧ ¬ ∀ name, name ∈ c.root.modules ↔ IsStem files name := by
  intro d
  have hvalid : d.error? = none := by decide +kernel
  have hok : (generate d { runtimePath := "r" }).toOption.isSome = true := by decide +kernel
  cases hgenerate : generate d { runtimePath := "r" } with
  | error e =>
    rw [hgenerate] at hok
    cases hok
  | ok files =>
    have hgen : generate (Schema.mk d hvalid).toDefinitions { runtimePath := "r" } = .ok files := hgenerate
    obtain ⟨c, hc, -, -, -, hiff⟩ := modules_are_files_iff hgen
    have hmodule : moduleName { name := "Crate", methods := [] } = "crate" := by decide +kernel
    have hstem : IsStem files "crate" := (isStem_iff hgen "crate").mpr ⟨by decide, by rw [← hmodule]; simp [d]⟩
    refine ⟨⟨d, hvalid⟩, files, c, rfl, rfl, hc, ?_, hstem, fun hsame => ?_⟩
    · have hdeclared : declaredName "crate" = "crate_" := by decide +kernel
      rw [(rootFile_modules hc.root).1, ← hdeclared, ← hmodule]
      exact List.mem_append_right _ (List.mem_singleton.mpr rfl)
    · have hsettled := hiff.mp ⟨List.forall_mem_singleton.mpr (by rwa [hmodule]), hsame⟩
      have hfree := (hsettled _ (List.mem_singleton.mpr rfl)).free
      rw [hmodule] at hfree
      exact hfree (by decide)

end Generate

end ServiceBindings
