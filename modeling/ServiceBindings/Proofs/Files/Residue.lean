import ServiceBindings.Proofs.Files.Replacing

/-!
What replacing a file leaves behind. The temporary file is the neighbour of a file whose name is taken from the path,
whether or not something is there already, and nothing takes it away where the last step fails. So a file at the place
of the temporary one is lost even if all goes well, and the temporary file stays where it cannot be moved.
-/

namespace ServiceBindings.Files.Tree

variable {t t' : Tree} {path content : String}

/-! ### Changes at fewer places -/

/-- A place that is as it was need not be counted among those that are touched. -/
theorem Changes.untouch {way touched touched' : List String → Prop} (h : Changes way touched t t')
    (hsame : ∀ place, touched place → touched' place ∨ t'.get? place = t.get? place) : Changes way touched' t t' := by
  refine ⟨fun place hplace => ?_, h.folder⟩
  by_cases htouched : touched place
  · rcases hsame place htouched with htouched' | heq
    · exact absurd htouched' hplace
    · exact .inl heq
  · exact h.kept place htouched

/-- The places where folders may be made for a path: those on the way to the folder that it is in. -/
def MadeFor (path : String) (place : List String) : Prop :=
  OnWay [] (components (folderFor path)) place

/-- The places that replacing a file may touch: that of the file and that of its temporary file. -/
def Touched (path : String) (place : List String) : Prop :=
  place = location path ∨ place = location (temporary path)

theorem createFolders_madeFor {touched : List String → Prop} {r : Except FileError Unit}
    (hmade : t.createFolders (folderFor path) = (t', r)) : Changes (MadeFor path) touched t t' := by
  have hchanges : Changes (MadeFor path) touched t (t.createFolders (folderFor path)).1 :=
    createFolders_changes t fun _ h => h
  rwa [hmade] at hchanges

theorem write_temporary (h : t.write (temporary path) content = .ok t') :
    Changes (MadeFor path) (· = location (temporary path)) t t' ∧
      t'.get? (location (temporary path)) = some (.file content) :=
  write_changes h rfl

/-! ### A file that is replaced -/

/-- Once a file is replaced, nothing is at the place of its temporary file. -/
theorem get?_temporary_of_ok (h : t.replaceFile path content = (t', .ok ()))
    (hne : location (temporary path) ≠ location path) : t'.get? (location (temporary path)) = none := by
  have hsteps := replaceFile_replacing t path content
  rw [h] at hsteps
  cases hsteps with
  | @moved _ t₂ _ hmade hwrite hrename =>
    obtain ⟨-, -, content', hfile, rfl⟩ := rename_eq_ok hrename
    have hmovable : t₂.get? (location (temporary path)) ≠ some .folder := by simp [hfile]
    rw [get?_set_of_ne hne]
    exact get?_erase_self hmovable

/-- What a file is replaced by is read back, and only its place and that of its temporary file are touched. -/
theorem changes_of_replaced (h : t.replaceFile path content = (t', .ok ())) :
    t'.read path = .ok content ∧ Changes (MadeFor path) (Touched path) t t' := by
  have hplace : Touched path (location path) := .inl rfl
  have htemporary : Touched path (location (temporary path)) := .inr rfl
  have hsteps := replaceFile_replacing t path content
  rw [h] at hsteps
  cases hsteps with
  | moved hmade hwrite hrename =>
    obtain ⟨hwritten, hfile⟩ := write_changes hwrite htemporary
    obtain ⟨hmoved, hholds⟩ := rename_changes hrename hfile htemporary hplace
    exact ⟨hholds.read, ((createFolders_madeFor hmade).trans hwritten).trans hmoved⟩

/-- Where a file is replaced, nothing else is touched exactly if there was no file in the place of the temporary
one. -/
theorem replaced_alone_iff (h : t.replaceFile path content = (t', .ok ())) :
    Changes (MadeFor path) (· = location path) t t' ↔
      location (temporary path) = location path ∨ t.get? (location (temporary path)) = none := by
  constructor
  · intro halone
    by_cases hsame : location (temporary path) = location path
    · exact .inl hsame
    · have hgone := get?_temporary_of_ok h hsame
      rcases halone.kept _ hsame with hkept | ⟨-, hnone, -⟩
      · exact .inr (hkept.symm.trans hgone)
      · exact .inr hnone
  · intro hfree
    apply (changes_of_replaced h).2.untouch
    rintro place (rfl | rfl)
    · exact .inl rfl
    · by_cases hsame : location (temporary path) = location path
      · exact .inl hsame
      · have hnone := hfree.resolve_left hsame
        exact .inr ((get?_temporary_of_ok h hsame).trans hnone.symm)

/-! ### A file that is not replaced -/

/-- Whether a content is written to the temporary file of a path and cannot be moved from there. -/
def Stranded (t : Tree) (path content : String) : Prop :=
  ∃ t₁ t₂ e, t.createFolders (folderFor path) = (t₁, .ok ()) ∧ t₁.write (temporary path) content = .ok t₂ ∧
    t₂.rename (temporary path) path = .error e

/-- A folder at the place of a path strands what can be written beside it. -/
theorem stranded_of_folder {t₁ t₂ : Tree} (hfolder : t.get? (location path) = some .folder)
    (hmade : t.createFolders (folderFor path) = (t₁, .ok ()))
    (hwrite : t₁.write (temporary path) content = .ok t₂) : Stranded t path content := by
  cases hrename : t₂.rename (temporary path) path with
  | error e => exact ⟨t₁, t₂, e, hmade, hwrite, hrename⟩
  | ok t₃ =>
    have hmaking : Changes (MadeFor path) (· = location (temporary path)) t t₁ := createFolders_madeFor hmade
    have hkept := (hmaking.trans (write_temporary hwrite).1).folder _ hfolder
    exact absurd hkept (rename_eq_ok hrename).2.1

/-- A stranded content stays in the temporary file. -/
theorem Stranded.get?_temporary (h : Stranded t path content) :
    (t.replaceFile path content).1.get? (location (temporary path)) = some (.file content) := by
  obtain ⟨t₁, t₂, e, hmade, hwrite, hrename⟩ := h
  have hdone : t.replaceFile path content = (t₂, .error (.write path e)) := by
    unfold replaceFile
    dsimp only
    rw [show (parent? path).getD "" = folderFor path from rfl, hmade]
    dsimp only
    rw [hwrite]
    dsimp only
    rw [hrename]
  rw [hdone]
  exact (write_temporary hwrite).2

section Error

variable {e : GenerationError}

/-- Where a file is not replaced, at most its temporary file is touched. -/
theorem changes_of_unreplaced (h : t.replaceFile path content = (t', .error e)) :
    Changes (MadeFor path) (· = location (temporary path)) t t' := by
  have hsteps := replaceFile_replacing t path content
  rw [h] at hsteps
  cases hsteps with
  | unmade hmade => exact createFolders_madeFor hmade
  | unwritten hmade => exact createFolders_madeFor hmade
  | unmoved hmade hwrite => exact (createFolders_madeFor hmade).trans (write_temporary hwrite).1

/-- Where a file is not replaced and nothing is stranded, nothing is touched. -/
theorem changes_of_not_stranded (h : t.replaceFile path content = (t', .error e))
    (hstranded : ¬Stranded t path content) : Changes (MadeFor path) (fun _ => False) t t' := by
  have hsteps := replaceFile_replacing t path content
  rw [h] at hsteps
  cases hsteps with
  | unmade hmade => exact createFolders_madeFor hmade
  | unwritten hmade => exact createFolders_madeFor hmade
  | unmoved hmade hwrite hrename => exact absurd ⟨_, _, _, hmade, hwrite, hrename⟩ hstranded

/-- Where a file is not replaced, nothing is touched exactly if nothing is stranded, or what is stranded was there
before. -/
theorem unreplaced_untouched_iff (h : t.replaceFile path content = (t', .error e)) :
    Changes (MadeFor path) (fun _ => False) t t' ↔
      ¬Stranded t path content ∨ t.get? (location (temporary path)) = some (.file content) := by
  by_cases hstranded : Stranded t path content
  · have hleft := hstranded.get?_temporary
    rw [h] at hleft
    constructor
    · intro huntouched
      rcases huntouched.kept (location (temporary path)) not_false with hkept | ⟨-, -, hfolder⟩
      · exact .inr (hkept.symm.trans hleft)
      · rw [hleft] at hfolder
        cases hfolder
    · intro hbefore
      have hsame := hbefore.resolve_left (not_not_intro hstranded)
      apply (changes_of_unreplaced h).untouch
      rintro place rfl
      exact .inr (hleft.trans hsame.symm)
  · exact ⟨fun _ => .inl hstranded, fun _ => changes_of_not_stranded h hstranded⟩

end Error

/-- A file that is replaced holds its new content. But for folders made on the way to it, only its place and that of
its temporary file are touched, and its own alone exactly if there was no file in the place of the temporary one. Where
it is not replaced, it is writing that failed, and at most the place of the temporary file is touched; nothing is
exactly if the temporary file was not written, or was there before with the same content. -/
theorem replaceFile_residue (t : Tree) (path content : String) :
    let done := t.replaceFile path content
    (done.2 = .ok () →
      done.1.read path = .ok content ∧
      Changes (MadeFor path) (Touched path) t done.1 ∧
      (Changes (MadeFor path) (· = location path) t done.1 ↔
        location (temporary path) = location path ∨ t.get? (location (temporary path)) = none)) ∧
    ∀ e, done.2 = .error e →
      (∃ p f, e = .write p f) ∧
      Changes (MadeFor path) (· = location (temporary path)) t done.1 ∧
      (Changes (MadeFor path) (fun _ => False) t done.1 ↔
        ¬Stranded t path content ∨ t.get? (location (temporary path)) = some (.file content)) := by
  intro done
  refine ⟨fun hok => ?_, fun e herror => ?_⟩
  · have hdone : t.replaceFile path content = (done.1, .ok ()) := Prod.ext rfl hok
    obtain ⟨hread, hchanges⟩ := changes_of_replaced hdone
    exact ⟨hread, hchanges, replaced_alone_iff hdone⟩
  · have hdone : t.replaceFile path content = (done.1, .error e) := Prod.ext rfl herror
    exact ⟨replaceFile_error hdone, changes_of_unreplaced hdone, unreplaced_untouched_iff hdone⟩

/-- A folder in the place of a file leaves the temporary file behind. A file that has the name of the temporary one is
lost, although the other is written. -/
theorem neighbour_is_left_or_lost :
    let folder : Tree := (({} : Tree).createFolders "a").1
    let neighbour : Tree := ⟨[(["a.tmp"], .file "mine")]⟩
    ((folder.replaceFile "a" "x").2 = .error (.write "a" .isDirectory) ∧
      folder.read "a.tmp" = .error .notFound ∧ (folder.replaceFile "a" "x").1.read "a.tmp" = .ok "x" ∧
      ¬Changes (MadeFor "a") (fun _ => False) folder (folder.replaceFile "a" "x").1) ∧
    (neighbour.replaceFile "a.txt" "x").2 = .ok () ∧
      neighbour.read "a.tmp" = .ok "mine" ∧ (neighbour.replaceFile "a.txt" "x").1.read "a.tmp" = .error .notFound ∧
      ¬Changes (MadeFor "a.txt") (· = location "a.txt") neighbour (neighbour.replaceFile "a.txt" "x").1 := by
  intro folder neighbour
  have herror : (folder.replaceFile "a" "x").2 = .error (.write "a" .isDirectory) := by decide +kernel
  have hok : (neighbour.replaceFile "a.txt" "x").2 = .ok () := by decide +kernel
  obtain ⟨-, -, huntouched⟩ := (replaceFile_residue folder "a" "x").2 _ herror
  obtain ⟨-, -, halone⟩ := (replaceFile_residue neighbour "a.txt" "x").1 hok
  have hstranded : Stranded folder "a" "x" := by
    have hmade : folder.createFolders (folderFor "a") = (folder, .ok ()) := by decide +kernel
    have hwrite : folder.write (temporary "a") "x" = .ok (folder.set ["a.tmp"] (.file "x")) := by decide +kernel
    exact stranded_of_folder (by decide +kernel) hmade hwrite
  refine ⟨⟨herror, by decide +kernel, by decide +kernel, ?_⟩, hok, by decide +kernel, by decide +kernel, ?_⟩
  · rw [huntouched]
    rintro (hnot | hbefore)
    · exact hnot hstranded
    · revert hbefore
      decide +kernel
  · rw [halone]
    decide +kernel

end ServiceBindings.Files.Tree
