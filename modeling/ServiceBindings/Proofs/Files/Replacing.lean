import ServiceBindings.Files.Output
import ServiceBindings.Proofs.Files.Temporary
import ServiceBindings.Proofs.Files.WellFormed

/-!
Replacing files. One file is replaced in three steps, each of which can fail; only the last of them changes the place
of the file. Over several files, a later one leaves those before it alone, and a failure those after it.
-/

namespace ServiceBindings.Files

open Generate

namespace Tree

/-! ### One file -/

/-- The folder that is made for a path. -/
def folderFor (path : String) : String :=
  (parent? path).getD ""

/-- How replacing a file goes, by the step that fails. -/
inductive Replacing (t : Tree) (path content : String) : Tree × Except GenerationError Unit → Prop
  | unmade {t₁ : Tree} {e : FileError} (hmade : t.createFolders (folderFor path) = (t₁, .error e)) :
      Replacing t path content (t₁, .error (.write (folderFor path) e))
  | unwritten {t₁ : Tree} {e : FileError} (hmade : t.createFolders (folderFor path) = (t₁, .ok ()))
      (hwrite : t₁.write (temporary path) content = .error e) :
      Replacing t path content (t₁, .error (.write (temporary path) e))
  | unmoved {t₁ t₂ : Tree} {e : FileError} (hmade : t.createFolders (folderFor path) = (t₁, .ok ()))
      (hwrite : t₁.write (temporary path) content = .ok t₂) (hrename : t₂.rename (temporary path) path = .error e) :
      Replacing t path content (t₂, .error (.write path e))
  | moved {t₁ t₂ t₃ : Tree} (hmade : t.createFolders (folderFor path) = (t₁, .ok ()))
      (hwrite : t₁.write (temporary path) content = .ok t₂) (hrename : t₂.rename (temporary path) path = .ok t₃) :
      Replacing t path content (t₃, .ok ())

theorem replaceFile_replacing (t : Tree) (path content : String) :
    Replacing t path content (t.replaceFile path content) := by
  unfold replaceFile
  dsimp only
  rcases hmade : t.createFolders (folderFor path) with ⟨t₁, e | ⟨⟩⟩
  · rw [show (parent? path).getD "" = folderFor path from rfl, hmade]
    exact .unmade hmade
  · rw [show (parent? path).getD "" = folderFor path from rfl, hmade]
    dsimp only
    cases hwrite : t₁.write (temporary path) content with
    | error e => exact .unwritten hmade hwrite
    | ok t₂ =>
      dsimp only
      cases hrename : t₂.rename (temporary path) path with
      | error e => exact .unmoved hmade hwrite hrename
      | ok t₃ => exact .moved hmade hwrite hrename

variable {t t' : Tree} {path content : String}

/-- Only writing fails when a file is replaced. -/
theorem replaceFile_error {e : GenerationError} (h : t.replaceFile path content = (t', .error e)) :
    ∃ p f, e = .write p f := by
  have hsteps := replaceFile_replacing t path content
  rw [h] at hsteps
  cases hsteps <;> exact ⟨_, _, rfl⟩

/-- Whether a path leads to a file of some content. -/
def Holds (t : Tree) (path content : String) : Prop :=
  t.Reaches path ∧ t.get? (location path) = some (.file content)

theorem Holds.read (h : t.Holds path content) : t.read path = .ok content :=
  h.1.read h.2

variable {way touched : List String → Prop}

/-- A file stays as it is where its place is not touched. -/
theorem Holds.of_changes (h : t.Holds path content) (hchanges : Changes way touched t t')
    (huntouched : ¬touched (location path)) : t'.Holds path content := by
  refine ⟨h.1.of_folders hchanges.folder, ?_⟩
  rcases hchanges.kept _ huntouched with hsame | ⟨-, hnone, -⟩
  · rw [hsame, h.2]
  · rw [h.2] at hnone
    cases hnone

theorem write_changes (h : t.write path content = .ok t') (htouched : touched (location path)) :
    Changes way touched t t' ∧ t'.get? (location path) = some (.file content) := by
  obtain ⟨hfile, rfl⟩ := write_eq_ok h
  exact ⟨.set_file hfile content htouched, get?_set_self hfile⟩

/-- Moving a file touches the place that it leaves and the one where it comes to be. -/
theorem rename_changes {source target : String} (h : t.rename source target = .ok t')
    (hfile : t.get? (location source) = some (.file content)) (hsource : touched (location source))
    (htarget : touched (location target)) : Changes way touched t t' ∧ t'.Holds target content := by
  obtain ⟨hreaches, hfree, content', hfile', rfl⟩ := rename_eq_ok h
  obtain rfl : content = content' := by simpa [hfile] using hfile'
  have hmovable : t.get? (location source) ≠ some .folder := by simp [hfile]
  have hchanges : Changes way touched t ((t.erase (location source)).set (location target) (.file content)) :=
    (Changes.erase hmovable hsource).trans (.set_file (get?_erase_ne_folder hmovable hfree) content htarget)
  exact ⟨hchanges, hreaches.of_folders hchanges.folder, get?_set_self hfree⟩

/-- The places through which the folder of a path is reached. -/
def LeadsTo (path : String) (place : List String) : Prop :=
  OnWay [] (components path).dropLast place

section Replaced

variable {front name : List Char} (hends : EndsIn path front name) (hway : ∀ place, LeadsTo path place → way place)
include hends hway

theorem createFolders_changes_of_endsIn {r : Except FileError Unit}
    (hmade : t.createFolders (folderFor path) = (t', r)) : Changes way touched t t' := by
  obtain ⟨folder, hparent, hcomponents⟩ := hends.parent
  have hfolder : folderFor path = folder := by rw [folderFor, hparent, Option.getD_some]
  rw [hfolder] at hmade
  have hchanges : Changes way touched t (t.createFolders folder).1 :=
    createFolders_changes t fun place h => hway place (h.mono hcomponents)
  rwa [hmade] at hchanges

/-- A file that cannot be replaced is not touched, nor is anything but its temporary file. -/
theorem replaceFile_changes_of_error {e : GenerationError} (h : t.replaceFile path content = (t', .error e))
    (htemporary : touched (location (temporary path))) : Changes way touched t t' := by
  have hsteps := replaceFile_replacing t path content
  rw [h] at hsteps
  cases hsteps with
  | unmade hmade => exact createFolders_changes_of_endsIn hends hway hmade
  | unwritten hmade => exact createFolders_changes_of_endsIn hends hway hmade
  | unmoved hmade hwrite =>
    exact (createFolders_changes_of_endsIn hends hway hmade).trans (write_changes hwrite htemporary).1

/-- A file that is replaced holds its new content, and nothing else is touched but its temporary file. -/
theorem replaceFile_changes_of_ok (h : t.replaceFile path content = (t', .ok ()))
    (htemporary : touched (location (temporary path))) (hplace : touched (location path)) :
    Changes way touched t t' ∧ t'.Holds path content := by
  have hsteps := replaceFile_replacing t path content
  rw [h] at hsteps
  cases hsteps with
  | moved hmade hwrite hrename =>
    obtain ⟨hwritten, hfile⟩ := write_changes hwrite htemporary
    obtain ⟨hmoved, hholds⟩ := rename_changes hrename hfile htemporary hplace
    exact ⟨((createFolders_changes_of_endsIn hends hway hmade).trans hwritten).trans hmoved, hholds⟩

end Replaced

/-- Replacing a file keeps a tree well-formed, however it goes. -/
theorem WellFormed.replaceFile (hwf : t.WellFormed) (path content : String) :
    (t.replaceFile path content).1.WellFormed := by
  have hmade (folder : String) {t₁ : Tree} {r : Except FileError Unit} (h : t.createFolders folder = (t₁, r)) :
      t₁.WellFormed := by
    have hfolders := hwf.createFolders folder
    rwa [h] at hfolders
  have hsteps := replaceFile_replacing t path content
  generalize t.replaceFile path content = done at hsteps
  cases hsteps with
  | unmade h => exact hmade _ h
  | unwritten h => exact hmade _ h
  | unmoved h hwrite => exact (hmade _ h).write hwrite
  | moved h hwrite hrename => exact ((hmade _ h).write hwrite).rename hrename

/-! ### Several files -/

/-- Whether a path ends in a name, but not as temporary paths do. -/
def Lasting (path : String) : Prop :=
  ∃ front name, EndsIn path front name ∧ name.getLast? ≠ some 'p'

/-- No temporary file is at the place of a lasting path. -/
theorem Lasting.location_ne {other : String} (h : Lasting path) (hother : Lasting other) :
    location path ≠ location (temporary other) := by
  obtain ⟨front, name, hends, hlast⟩ := h
  obtain ⟨front', name', hends', -⟩ := hother
  refine hends.location_ne hends'.temporary ?_
  rwa [List.getLast?_append_of_ne_nil _ (by decide)]

variable {folder : String} {files : List CrateFile}

/-- The place of a file below a folder. -/
def placeOf (folder : String) (f : CrateFile) : List String :=
  location (join folder f.path)

/-- Whether files have places of their own below a folder. -/
def Apart (folder : String) (files : List CrateFile) : Prop :=
  (files.map (placeOf folder)).Nodup

/-- Whether the way to the folder of one of some files comes through a place. -/
def LeadsToSome (folder : String) (files : List CrateFile) (place : List String) : Prop :=
  ∃ f ∈ files, LeadsTo (join folder f.path) place

/-- Whether a place is that of one of some files or of the temporary file for it. -/
def Rewritten (folder : String) (files : List CrateFile) (place : List String) : Prop :=
  ∃ f ∈ files, place = placeOf folder f ∨ place = location (temporary (join folder f.path))

/-- The place of a file is not rewritten with files that lie elsewhere. -/
theorem not_rewritten {f : CrateFile} (hf : Lasting (join folder f.path))
    (hlasting : ∀ g ∈ files, Lasting (join folder g.path)) (hapart : placeOf folder f ∉ files.map (placeOf folder)) :
    ¬Rewritten folder files (placeOf folder f) := by
  rintro ⟨g, hg, hsame | hsame⟩
  · exact hapart (List.mem_map.mpr ⟨g, hg, hsame.symm⟩)
  · exact hf.location_ne (hlasting g hg) hsame

section Cons

variable {t₁ : Tree} {f : CrateFile} {rest : List CrateFile}

seal replaceFile in
theorem writeFiles_eq (t : Tree) (folder : String) (f : CrateFile) (rest : List CrateFile) :
    t.writeFiles folder (f :: rest) =
      match t.replaceFile (join folder f.path) f.content with
      | (t, .ok _) => t.writeFiles folder rest
      | (t, .error e) => (t, .error e) :=
  rfl

theorem writeFiles_of_replaced (h : t.replaceFile (join folder f.path) f.content = (t₁, .ok ())) :
    t.writeFiles folder (f :: rest) = t₁.writeFiles folder rest := by
  rw [writeFiles_eq, h]

theorem writeFiles_of_failed {e : GenerationError}
    (h : t.replaceFile (join folder f.path) f.content = (t₁, .error e)) :
    t.writeFiles folder (f :: rest) = (t₁, .error e) := by
  rw [writeFiles_eq, h]

theorem writeFiles_cons (h : t.writeFiles folder (f :: rest) = (t', .ok ())) :
    ∃ t₁, t.replaceFile (join folder f.path) f.content = (t₁, .ok ()) ∧ t₁.writeFiles folder rest = (t', .ok ()) := by
  rcases hreplaced : t.replaceFile (join folder f.path) f.content with ⟨t₁, e | ⟨⟩⟩
  · rw [writeFiles_of_failed hreplaced] at h
    cases h
  · rw [writeFiles_of_replaced hreplaced] at h
    exact ⟨t₁, rfl, h⟩

end Cons

theorem writeFiles_changes (hlasting : ∀ f ∈ files, Lasting (join folder f.path))
    (hway : ∀ place, LeadsToSome folder files place → way place)
    (htouched : ∀ place, Rewritten folder files place → touched place)
    (h : t.writeFiles folder files = (t', .ok ())) : Changes way touched t t' := by
  induction files generalizing t with
  | nil =>
    obtain rfl : t = t' := (Prod.mk.inj h).1
    exact .refl t
  | cons f rest ih =>
    obtain ⟨t₁, hreplaced, hrun⟩ := writeFiles_cons h
    obtain ⟨⟨front, name, hends, -⟩, hrest⟩ := List.forall_mem_cons.mp hlasting
    have hfirst : Changes way touched t t₁ :=
      (replaceFile_changes_of_ok hends (fun place hplace => hway place ⟨f, List.mem_cons_self, hplace⟩) hreplaced
        (htouched _ ⟨f, List.mem_cons_self, .inr rfl⟩) (htouched _ ⟨f, List.mem_cons_self, .inl rfl⟩)).1
    refine hfirst.trans (ih hrest (fun place hplace => ?_) (fun place hplace => ?_) hrun)
    · obtain ⟨g, hg, hleads⟩ := hplace
      exact hway place ⟨g, List.mem_cons_of_mem f hg, hleads⟩
    · obtain ⟨g, hg, hsame⟩ := hplace
      exact htouched place ⟨g, List.mem_cons_of_mem f hg, hsame⟩

/-- Files that were all written, each at a place of its own, hold their contents. -/
theorem holds_of_writeFiles (hlasting : ∀ f ∈ files, Lasting (join folder f.path)) (hapart : Apart folder files)
    (h : t.writeFiles folder files = (t', .ok ())) : ∀ f ∈ files, t'.Holds (join folder f.path) f.content := by
  induction files generalizing t with
  | nil => simp
  | cons f rest ih =>
    obtain ⟨t₁, hreplaced, hrun⟩ := writeFiles_cons h
    obtain ⟨hfirst, hrest⟩ := List.forall_mem_cons.mp hlasting
    obtain ⟨hplace, hapart⟩ := List.nodup_cons.mp hapart
    have hlater : Changes (LeadsToSome folder rest) (Rewritten folder rest) t₁ t' :=
      writeFiles_changes hrest (fun _ h => h) (fun _ h => h) hrun
    obtain ⟨front, name, hends, -⟩ := id hfirst
    have hreplacing : Changes (fun _ => True) (fun _ => True) t t₁ ∧ t₁.Holds (join folder f.path) f.content :=
      replaceFile_changes_of_ok hends (fun _ _ => trivial) hreplaced trivial trivial
    exact List.forall_mem_cons.mpr
      ⟨hreplacing.2.of_changes hlater (not_rewritten hfirst hrest hplace), ih hrest hapart hrun⟩

/-- Writing files fails at one of them, once those before it are written. -/
theorem writeFiles_error {e : GenerationError} (h : t.writeFiles folder files = (t', .error e)) :
    ∃ t₁ written f rest, files = written ++ f :: rest ∧ t.writeFiles folder written = (t₁, .ok ()) ∧
      t₁.replaceFile (join folder f.path) f.content = (t', .error e) := by
  induction files generalizing t with
  | nil => cases h
  | cons f rest ih =>
    rcases hreplaced : t.replaceFile (join folder f.path) f.content with ⟨t₁, e' | ⟨⟩⟩
    · rw [writeFiles_of_failed hreplaced] at h
      exact ⟨t, [], f, rest, rfl, rfl, hreplaced.trans h⟩
    · rw [writeFiles_of_replaced hreplaced] at h
      obtain ⟨t₂, written, g, left, hrest, hwritten, hfailed⟩ := ih h
      exact ⟨t₂, f :: written, g, left, congrArg (f :: ·) hrest, (writeFiles_of_replaced hreplaced).trans hwritten,
        hfailed⟩

/-- How a tree is left where writing fails at the first of the files that are left: those before it hold their
contents, and the places of the others are as they were, but for folders that had to be made. -/
structure Interrupted (folder : String) (written left : List CrateFile) (t t' : Tree) : Prop where
  held : ∀ f ∈ written, t'.read (join folder f.path) = .ok f.content
  kept : ∀ f ∈ left, t'.get? (placeOf folder f) = t.get? (placeOf folder f) ∨
    LeadsToSome folder (written ++ left) (placeOf folder f) ∧ t.get? (placeOf folder f) = none ∧
      t'.get? (placeOf folder f) = some .folder
  folder : ∀ place, t.get? place = some .folder → t'.get? place = some .folder

theorem interrupted_of_error {t₁ : Tree} {written rest : List CrateFile} {f : CrateFile} {e : GenerationError}
    (hlasting : ∀ g ∈ written ++ f :: rest, Lasting (join folder g.path))
    (hapart : Apart folder (written ++ f :: rest)) (hwritten : t.writeFiles folder written = (t₁, .ok ()))
    (hfailed : t₁.replaceFile (join folder f.path) f.content = (t', .error e)) :
    Interrupted folder written (f :: rest) t t' := by
  obtain ⟨hdone, hleft⟩ := List.forall_mem_append.mp hlasting
  obtain ⟨front, name, hends, -⟩ := hleft f List.mem_cons_self
  unfold Apart at hapart
  rw [List.map_append, List.nodup_append] at hapart
  obtain ⟨hapart, -, hdisjoint⟩ := hapart
  have hway : ∀ place, LeadsTo (join folder f.path) place → LeadsToSome folder (written ++ f :: rest) place :=
    fun place hplace => ⟨f, by simp, hplace⟩
  have hfailing {touched : List String → Prop} (htemporary : touched (location (temporary (join folder f.path)))) :
      Changes (LeadsToSome folder (written ++ f :: rest)) touched t₁ t' :=
    replaceFile_changes_of_error hends hway hfailed htemporary
  have hrun {touched : List String → Prop} (htouched : ∀ place, Rewritten folder written place → touched place) :
      Changes (LeadsToSome folder (written ++ f :: rest)) touched t t₁ := by
    refine writeFiles_changes hdone (fun place hplace => ?_) htouched hwritten
    obtain ⟨g, hg, hleads⟩ := hplace
    exact ⟨g, List.mem_append_left _ hg, hleads⟩
  have hboth : Changes (LeadsToSome folder (written ++ f :: rest))
      (fun place => Rewritten folder written place ∨ place = location (temporary (join folder f.path))) t t' :=
    (hrun fun _ => .inl).trans (hfailing (.inr rfl))
  refine ⟨fun g hg => ?_, fun g hg => ?_, hboth.folder⟩
  · have hheld := holds_of_writeFiles hdone hapart hwritten g hg
    have hlast : Changes (LeadsToSome folder (written ++ f :: rest))
        (fun place => place = location (temporary (join folder f.path))) t₁ t' := hfailing rfl
    exact (hheld.of_changes hlast ((hdone g hg).location_ne (hleft f List.mem_cons_self))).read
  · refine hboth.kept _ (not_or.mpr ⟨not_rewritten (hleft g hg) hdone ?_, ?_⟩)
    · exact fun hmem => hdisjoint _ hmem _ (List.mem_map_of_mem hg) rfl
    · exact (hleft g hg).location_ne (hleft f List.mem_cons_self)

/-- Writing files keeps a tree well-formed, however it goes. -/
theorem WellFormed.writeFiles (hwf : t.WellFormed) (folder : String) (files : List CrateFile) :
    (t.writeFiles folder files).1.WellFormed := by
  induction files generalizing t with
  | nil => exact hwf
  | cons f rest ih =>
    have hfirst := hwf.replaceFile (join folder f.path) f.content
    rcases hreplaced : t.replaceFile (join folder f.path) f.content with ⟨t₁, e | ⟨⟩⟩
    · rw [hreplaced] at hfirst
      rwa [writeFiles_of_failed hreplaced]
    · rw [hreplaced] at hfirst
      rw [writeFiles_of_replaced hreplaced]
      exact ih hfirst

end Tree

end ServiceBindings.Files
