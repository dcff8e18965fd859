import ServiceBindings.Proofs.Files.Replacing
import ServiceBindings.Proofs.Generate.Layout

/-!
Writing a crate. Nothing is written unless everything is generated. The files are then replaced in order, and the
first that cannot be replaced leaves those before it written and those after it as they were. Folders are the
exception: they are made on the way to a file before it is known whether the file can be written, and the path of a
crate may lead through the place of one of its files and back.
-/

namespace ServiceBindings.Files

open Generate

/-! ### Printing instead of writing -/

/-- What is generated does not depend on whether it is printed or written. -/
theorem generate_dryRun (d : Definitions) (o : Options) (b : Bool) :
    generate d { o with dryRun := b } = generate d o := by
  have hnames : checkNames d { o with dryRun := b } = checkNames d o := checkNames_congr d (by rfl)
  unfold generate
  rw [hnames]
  rfl

variable {t : Tree} {d : Definitions} {folder : String} {o : Options} {files : List CrateFile}

theorem generateInto_of_error {e : GenerationError} (h : generate d o = .error e) :
    generateInto t d folder o = { tree := t, result := .error e } := by
  unfold generateInto
  rw [h]

theorem generateInto_dry (h : generate d o = .ok files) :
    generateInto t d folder { o with dryRun := true } =
      { tree := t, output := String.join (files.map printed), result := .ok files } := by
  unfold generateInto
  rw [generate_dryRun, h]
  rfl

theorem generateInto_real (h : generate d o = .ok files) :
    generateInto t d folder { o with dryRun := false } =
      { tree := (t.writeFiles folder files).1, result := (t.writeFiles folder files).2.map fun _ => files } := by
  unfold generateInto
  rw [generate_dryRun, h]
  dsimp only
  rw [if_neg Bool.false_ne_true]
  rcases t.writeFiles folder files with ⟨t₁, e | _⟩ <;> rfl

/-- A run that succeeds gives what was generated. -/
theorem eq_of_result_eq_ok (h : generate d o = .ok files) {given : List CrateFile}
    (hresult : (generateInto t d folder { o with dryRun := false }).result = .ok given) : given = files := by
  rw [generateInto_real h] at hresult
  dsimp only at hresult
  cases hwritten : (t.writeFiles folder files).2 with
  | error e =>
    rw [hwritten] at hresult
    cases hresult
  | ok _ =>
    rw [hwritten] at hresult
    exact (Except.ok.inj hresult).symm

/-! ### The paths of a crate -/

/-- A path below a folder ends as the path itself does. -/
theorem getLast?_join (folder : String) {path : String} {c : Char} (h : path.toList.getLast? = some c) :
    (join folder path).toList.getLast? = some c := by
  have hne : path.toList ≠ [] := by
    intro hnil
    rw [hnil] at h
    cases h
  unfold join
  split_ifs
  · exact h
  · rw [String.toList_append, List.getLast?_append_of_ne_nil _ hne, h]
  · rw [String.toList_append, List.getLast?_append_of_ne_nil _ hne, h]

theorem lasting_join (folder : String) {path : String} {c : Char} (h : path.toList.getLast? = some c)
    (hc : c ≠ '/' ∧ c ≠ '.' ∧ c ≠ 'p') : Tree.Lasting (join folder path) := by
  have hlast := getLast?_join folder h
  obtain ⟨front, name, hends⟩ := exists_endsIn hlast hc.1 hc.2.1
  refine ⟨front, name, hends, ?_⟩
  rw [← hends.getLast?, hlast]
  exact fun hp => hc.2.2 (Option.some.inj hp)

/-- Every file of a crate is the manifest or that of a module. -/
theorem path_of_generate (h : generate d o = .ok files) {f : CrateFile} (hf : f ∈ files) :
    f.path = "Cargo.toml" ∨
      ∃ stem ∈ ["lib", "types"] ++ d.services.map moduleName ++ ["prelude"], f.path = modulePath stem := by
  have hpath : f.path ∈ files.map (·.path) := List.mem_map_of_mem hf
  rw [paths_of_generate h] at hpath
  rcases List.mem_cons.mp hpath with hmanifest | hmodule
  · exact .inl hmanifest
  · obtain ⟨stem, hstem, hsame⟩ := List.mem_map.mp hmodule
    exact .inr ⟨stem, hstem, hsame.symm⟩

/-- No file of a crate has a path that could be that of a temporary file. -/
theorem lasting_of_generate (h : generate d o = .ok files) (folder : String) :
    ∀ f ∈ files, Tree.Lasting (join folder f.path) := by
  intro f hf
  rcases path_of_generate h hf with hpath | ⟨stem, -, hpath⟩
  · rw [hpath]
    exact lasting_join folder (c := 'l') (by decide) (by decide)
  · rw [hpath]
    exact lasting_join folder (getLast?_modulePath stem) (by decide)

theorem location_manifest (folder : String) :
    location (join folder "Cargo.toml") = location folder ++ ["Cargo.toml"] := by
  have hname : next (location folder) "Cargo.toml" = location folder ++ ["Cargo.toml"] :=
    next_of_name (by decide) (by decide)
  rw [location, components_join_manifest, follow_append]
  exact hname

theorem location_modulePath (folder : String) {stem : String} (hslash : '/' ∉ stem.toList) :
    location (join folder (modulePath stem)) = location folder ++ ["src", stem ++ ".rs"] := by
  have hsrc : next (location folder) "src" = location folder ++ ["src"] := next_of_name (by decide) (by decide)
  rw [location, components_join_modulePath folder hslash, follow_append, follow_cons, ← location, hsrc, follow_cons,
    next_of_name (append_rs_ne stem (by decide)) (append_rs_ne stem (by decide)), List.append_assoc]
  rfl

section Inside

variable (hinside : ∀ s ∈ d.services, '/' ∉ s.name.toList)
include hinside

/-- Unless a slash is in the name of a service, the files of a crate have places of their own. -/
theorem apart_of_generate (h : generate d o = .ok files) (folder : String) : Tree.Apart folder files := by
  have hplaces : files.map (Tree.placeOf folder) = (location folder ++ ["Cargo.toml"]) ::
      (["lib", "types"] ++ d.services.map moduleName ++ ["prelude"]).map fun stem =>
        location folder ++ ["src", stem ++ ".rs"] := by
    have hpaths : files.map (Tree.placeOf folder) =
        (files.map (·.path)).map fun path => location (join folder path) := by
      rw [List.map_map]
      rfl
    rw [hpaths, paths_of_generate h, List.map_cons, location_manifest, List.map_map]
    refine congrArg ((location folder ++ ["Cargo.toml"]) :: ·) (List.map_congr_left fun stem hstem => ?_)
    exact location_modulePath folder (modules_slashFree hinside stem hstem)
  unfold Tree.Apart
  rw [hplaces]
  refine List.nodup_cons.mpr ⟨fun hmem => ?_, (modules_nodup h).map fun a b hab => ?_⟩
  · obtain ⟨stem, -, hsame⟩ := List.mem_map.mp hmem
    exact absurd (congrArg List.length (List.append_cancel_left hsame)) (by simp)
  · exact eq_of_append_rs (by simpa using hab)

/-- The ways to the folders of a crate end in its folder `src` at the latest. -/
theorem prefix_of_leadsTo (h : generate d o = .ok files) (hup : ".." ∉ components folder) {f : CrateFile}
    (hf : f ∈ files) {place : List String} (hplace : Tree.LeadsTo (join folder f.path) place) :
    place <+: location folder ++ ["src"] := by
  obtain ⟨front, hfront, rfl⟩ := hplace
  have hname : next (location folder) "src" = location folder ++ ["src"] := next_of_name (by decide) (by decide)
  have hsrc : follow [] (components folder ++ ["src"]) = location folder ++ ["src"] := by
    rw [follow_append]
    exact hname
  obtain ⟨back, hback⟩ : front <+: components folder ++ ["src"] := by
    rcases path_of_generate h hf with hpath | ⟨stem, hstem, hpath⟩
    · rw [hpath, components_join_manifest, List.dropLast_concat] at hfront
      exact hfront.trans (List.prefix_append _ _)
    · have hlast : components folder ++ ["src", stem ++ ".rs"] = (components folder ++ ["src"]) ++ [stem ++ ".rs"] := by
        simp
      rw [hpath, components_join_modulePath folder (modules_slashFree hinside stem hstem), hlast,
        List.dropLast_concat] at hfront
      exact hfront
  have hbelow : ".." ∉ back := by
    intro hmem
    have hall : ".." ∈ components folder ++ ["src"] := hback ▸ List.mem_append_right front hmem
    exact (List.mem_append.mp hall).elim hup (by decide)
  rw [← hsrc, ← hback, follow_append]
  exact prefix_follow hbelow _

/-- Without a way up in the path of a crate, no folder of it is where one of its files is to be. -/
theorem not_leadsToSome_of_generate (h : generate d o = .ok files) (hup : ".." ∉ components folder) {f : CrateFile}
    (hf : f ∈ files) : ¬Tree.LeadsToSome folder files (Tree.placeOf folder f) := by
  rintro ⟨g, hg, hleads⟩
  have hprefix := prefix_of_leadsTo hinside h hup hg hleads
  unfold Tree.placeOf at hprefix
  rcases path_of_generate h hf with hpath | ⟨stem, hstem, hpath⟩
  · rw [hpath, location_manifest, List.prefix_append_right_inj] at hprefix
    exact absurd hprefix (by decide)
  · rw [hpath, location_modulePath folder (modules_slashFree hinside stem hstem),
      List.prefix_append_right_inj] at hprefix
    exact absurd hprefix.length_le (by simp)

/-- Without a way up in the path of a crate, the paths of its files have none either. They end in names. -/
theorem components_of_generate (h : generate d o = .ok files) (hup : ".." ∉ components folder) {f : CrateFile}
    (hf : f ∈ files) : ".." ∉ components (join folder f.path) ∧
      ∀ name ∈ (components (join folder f.path)).getLast?, Tree.isName name = true := by
  rcases path_of_generate h hf with hpath | ⟨stem, hstem, hpath⟩
  · rw [hpath, components_join_manifest, List.getLast?_concat]
    refine ⟨fun hmem => (List.mem_append.mp hmem).elim hup (by decide), ?_⟩
    rintro _ ⟨⟩
    decide
  · have hne {text : String} (hshort : text.length < 3) : stem ++ ".rs" ≠ text := append_rs_ne stem hshort
    rw [hpath, components_join_modulePath folder (modules_slashFree hinside stem hstem)]
    refine ⟨fun hmem => (List.mem_append.mp hmem).elim hup ?_, ?_⟩
    · simpa using (hne (by decide)).symm
    · rw [List.getLast?_append_of_ne_nil _ (List.cons_ne_nil _ _)]
      rintro _ ⟨⟩
      simp only [Tree.isName, Bool.and_eq_true, bne_iff_ne]
      exact ⟨⟨hne (by decide), hne (by decide)⟩, hne (by decide)⟩

/-- Where writing was interrupted, the paths that are left lead to what they led to. -/
theorem find?_of_interrupted (h : generate d o = .ok files) (hup : ".." ∉ components folder) (hwf : t.WellFormed)
    {written left : List CrateFile} (hfiles : files = written ++ left) {t' : Tree}
    (hleft : Tree.Interrupted folder written left t t') {f : CrateFile} (hf : f ∈ left) :
    t'.find? (join folder f.path) = t.find? (join folder f.path) := by
  have hmem : f ∈ files := hfiles ▸ List.mem_append_right written hf
  obtain ⟨hway, hname⟩ := components_of_generate hinside h hup hmem
  refine Tree.find?_congr hwf hleft.folder hway hname ?_
  rcases hleft.kept f hf with hsame | ⟨hleads, -⟩
  · exact hsame
  · rw [← hfiles] at hleads
    exact absurd hleads (not_leadsToSome_of_generate hinside h hup hmem)

end Inside

/-! ### Writing a crate -/

/-- How writing the files of a crate ends: all hold their contents, or one cannot be written. -/
inductive Ending (t : Tree) (folder : String) (files : List CrateFile) (real : Outcome) : Prop
  | complete (hresult : real.result = .ok files)
      (hread : ∀ f ∈ files, real.tree.read (join folder f.path) = .ok f.content)
  | interrupted {t₁ : Tree} {written rest : List CrateFile} {f : CrateFile} {p : String} {e : FileError}
      (hfiles : files = written ++ f :: rest) (hwritten : t.writeFiles folder written = (t₁, .ok ()))
      (hfailed : t₁.replaceFile (join folder f.path) f.content = (real.tree, .error (.write p e)))
      (hresult : real.result = .error (.write p e)) (hleft : Tree.Interrupted folder written (f :: rest) t real.tree)

theorem ending_of_generate (h : generate d o = .ok files) (hapart : Tree.Apart folder files) :
    Ending t folder files (generateInto t d folder { o with dryRun := false }) := by
  have hlasting := lasting_of_generate h folder
  rw [generateInto_real h]
  rcases hrun : t.writeFiles folder files with ⟨t', e | ⟨⟩⟩
  · obtain ⟨t₁, written, f, rest, hfiles, hwritten, hfailed⟩ := Tree.writeFiles_error hrun
    obtain ⟨p, e, rfl⟩ := Tree.replaceFile_error hfailed
    rw [hfiles] at hlasting hapart
    exact .interrupted hfiles hwritten hfailed rfl (Tree.interrupted_of_error hlasting hapart hwritten hfailed)
  · exact .complete rfl fun f hf => (Tree.holds_of_writeFiles hlasting hapart hrun f hf).read

/-- Generating a crate keeps a tree well-formed. -/
theorem generateInto_wellFormed (hwf : t.WellFormed) (d : Definitions) (folder : String) (o : Options) :
    (generateInto t d folder o).tree.WellFormed := by
  cases hgenerate : generate d o with
  | error e => rwa [generateInto_of_error hgenerate]
  | ok files =>
    have hrun := hwf.writeFiles folder files
    unfold generateInto
    rw [hgenerate]
    dsimp only
    split
    · exact hwf
    · split
      · next t' _ hwritten => rwa [hwritten] at hrun
      · next t' e hfailed => rwa [hfailed] at hrun

/-- Nothing is written where nothing is generated or everything is printed, and what is printed is what would be
written. Where the files of a crate have places of their own, each of them is written, or those from one on are as they
were; that they have is sure where no service has a slash in its name. Without a way up in the path of the crate, the
paths of the files that are left then lead to what they led to. -/
theorem generateInto_replaces (t : Tree) (d : Definitions) (folder : String) (o : Options) :
    let dry := generateInto t d folder { o with dryRun := true }
    let real := generateInto t d folder { o with dryRun := false }
    dry.tree = t ∧
    (∀ e, generate d o = .error e → real.tree = t ∧ real.result = .error e) ∧
    (∀ files, real.result = .ok files → dry.result = .ok files ∧
      dry.output = String.join (files.map fun f => "=== " ++ f.path ++ " ===\n" ++ f.content ++ "\n\n")) ∧
    ∀ files, generate d o = .ok files →
      (Tree.Apart folder files → Ending t folder files real) ∧
      ((∀ s ∈ d.services, '/' ∉ s.name.toList) → Tree.Apart folder files ∧
        (".." ∉ components folder → t.WellFormed → ∀ written left, files = written ++ left →
          Tree.Interrupted folder written left t real.tree →
          ∀ f ∈ left, real.tree.find? (join folder f.path) = t.find? (join folder f.path))) := by
  intro dry real
  cases hgenerate : generate d o with
  | error e =>
    have hdry : dry = { tree := t, result := .error e } :=
      generateInto_of_error ((generate_dryRun d o true).trans hgenerate)
    have hreal : real = { tree := t, result := .error e } :=
      generateInto_of_error ((generate_dryRun d o false).trans hgenerate)
    rw [hdry, hreal]
    refine ⟨rfl, ?_, fun files h => (by cases h), fun files h => (by cases h)⟩
    rintro _ ⟨⟩
    exact ⟨rfl, rfl⟩
  | ok files =>
    have hdry : dry = { tree := t, output := String.join (files.map printed), result := .ok files } :=
      generateInto_dry hgenerate
    rw [hdry]
    refine ⟨rfl, fun e h => (by cases h), fun given hresult => ?_, ?_⟩
    · rw [eq_of_result_eq_ok hgenerate hresult]
      exact ⟨rfl, rfl⟩
    · rintro _ ⟨⟩
      refine ⟨ending_of_generate hgenerate, fun hinside => ⟨apart_of_generate hinside hgenerate folder, ?_⟩⟩
      intro hup hwf written left hfiles hleft f hf
      exact find?_of_interrupted hinside hgenerate hup hwf hfiles hleft hf

/-- The path of a crate may lead through the place of its manifest and back. There is a folder then where nothing was,
the manifest cannot be written, and no file is the first from which on everything is as it was. -/
theorem folder_in_place_of_manifest :
    let d : Definitions := { package := "p" }
    let o : Options := { runtimePath := "r" }
    let real := generateInto {} d "Cargo.toml/.." o
    ∃ files, generate d o = .ok files ∧ real.result = .error (.write "Cargo.toml/../Cargo.toml" .isDirectory) ∧
      ¬∃ written f rest, files = written ++ f :: rest ∧
        (∀ g ∈ written, real.tree.read (join "Cargo.toml/.." g.path) = .ok g.content) ∧
        ∀ g ∈ f :: rest, real.tree.find? (join "Cargo.toml/.." g.path) =
          ({} : Tree).find? (join "Cargo.toml/.." g.path) := by
  intro d o real
  have hok : (generate d o).toOption.isSome = true := by decide +kernel
  obtain ⟨files, hgenerate⟩ := exists_of_toOption hok
  have hfolder : real.tree.find? (join "Cargo.toml/.." "Cargo.toml") = some .folder := by decide +kernel
  have hnone : ({} : Tree).find? (join "Cargo.toml/.." "Cargo.toml") = none := by decide +kernel
  obtain ⟨manifest, more, rfl, hpath, -⟩ := List.map_eq_cons_iff.mp (paths_of_generate hgenerate)
  have hresult : real.result = .error (.write "Cargo.toml/../Cargo.toml" .isDirectory) := by decide +kernel
  refine ⟨_, hgenerate, hresult, ?_⟩
  rintro ⟨written, f, rest, hfiles, hread, hkept⟩
  cases written with
  | nil =>
    obtain ⟨rfl, -⟩ := List.cons.inj hfiles
    have hsame := hkept manifest List.mem_cons_self
    rw [hpath, hfolder, hnone] at hsame
    cases hsame
  | cons g written =>
    obtain ⟨rfl, -⟩ := List.cons.inj hfiles
    have hheld := hread manifest List.mem_cons_self
    rw [hpath] at hheld
    unfold Tree.find? at hfolder
    rw [hheld] at hfolder
    cases hfolder

/-- A folder in the place of the types stops writing there: what comes before is written, and the rest as it was. -/
theorem folder_stops_writing :
    let t : Tree := (({} : Tree).createFolders "out/src/types.rs").1
    let real := generateInto t { package := "p" } "out" { runtimePath := "r" }
    real.result = .error (.write "out/src/types.rs" .isDirectory) ∧ ∃ written left : List CrateFile,
      (written ++ left).map (·.path) = ["Cargo.toml", "src/lib.rs", "src/types.rs", "src/prelude.rs"] ∧ left ≠ [] ∧
      (∀ f ∈ written, real.tree.read (join "out" f.path) = .ok f.content) ∧
      ∀ f ∈ left, real.tree.find? (join "out" f.path) = t.find? (join "out" f.path) := by
  intro t real
  have hok : (generate { package := "p" } { runtimePath := "r" }).toOption.isSome = true := by decide +kernel
  obtain ⟨files, hgenerate⟩ := exists_of_toOption hok
  have hresult : real.result = .error (.write "out/src/types.rs" .isDirectory) := by decide +kernel
  obtain ⟨-, -, -, hall⟩ := generateInto_replaces t { package := "p" } "out" { runtimePath := "r" }
  obtain ⟨hending, hinside⟩ := hall files hgenerate
  obtain ⟨hapart, hfound⟩ := hinside (by simp)
  refine ⟨hresult, ?_⟩
  cases hending hapart with
  | complete hcomplete =>
    rw [show real.result = _ from hcomplete] at hresult
    cases hresult
  | interrupted hfiles hwritten hfailed hstopped hleft =>
    have hkept := hfound (by decide +kernel) (Tree.wellFormed_empty.createFolders _) _ _ hfiles hleft
    refine ⟨_, _, ?_, List.cons_ne_nil _ _, hleft.held, hkept⟩
    rw [← hfiles, paths_of_generate hgenerate]
    simp

end ServiceBindings.Files
