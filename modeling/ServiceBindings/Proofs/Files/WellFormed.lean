import ServiceBindings.Proofs.Files.Tree

/-!
Well-formed trees. Everything in a tree is in a folder of it, and the operations keep this. In such a tree a path
without a way up leads to whatever is at its place.
-/

namespace ServiceBindings.Files

namespace Tree

variable {t t' : Tree} {key place parts folder : List String} {path name content : String}

/-- Whether everything in a tree is in a folder of it. -/
def WellFormed (t : Tree) : Prop :=
  ∀ place e, t.get? place = some e → t.get? place.dropLast = some .folder

theorem wellFormed_empty : WellFormed {} := by
  intro place e h
  by_cases hgiven : isAbove place = true ∨ place = ["/"]
  · refine if_pos (.inl ?_)
    rcases hgiven with habove | rfl
    · exact List.all_eq_true.mpr fun p hp => List.all_eq_true.mp habove p (List.dropLast_subset _ hp)
    · rfl
  · rw [get?, if_neg hgiven] at h
    cases h

theorem get?_above (hwf : t.WellFormed) (h : t.get? key = some .folder) : t.get? (above key) = some .folder := by
  unfold above
  split_ifs with habove hroot
  · refine if_pos (.inl ?_)
    simpa [isAbove] using habove
  · exact h
  · exact hwf key _ h

/-- What is found at the place of a name in a folder leaves a tree well-formed, unless it replaces a folder. -/
theorem WellFormed.set (hwf : t.WellFormed) {p : String} (hfolder : t.get? key = some .folder)
    (h : t.get? (key ++ [p]) ≠ some .folder) (e : Entry) : (t.set (key ++ [p]) e).WellFormed := by
  intro place found hfound
  have hparent : t.get? place.dropLast = some .folder := by
    by_cases hplace : place = key ++ [p]
    · rwa [hplace, List.dropLast_concat]
    · rw [get?_set_of_ne hplace] at hfound
      exact hwf place found hfound
  have hne : place.dropLast ≠ key ++ [p] := fun heq => h (heq ▸ hparent)
  rwa [get?_set_of_ne hne]

theorem WellFormed.erase (hwf : t.WellFormed) (h : t.get? key ≠ some .folder) : (t.erase key).WellFormed := by
  intro place found hfound
  have hplace : place ≠ key := by
    rintro rfl
    rw [get?_erase_self h] at hfound
    cases hfound
  rw [get?_erase_of_ne hplace] at hfound
  have hparent := hwf place found hfound
  have hne : place.dropLast ≠ key := fun heq => h (heq ▸ hparent)
  rwa [get?_erase_of_ne hne]

/-- Following parts ends in a folder. -/
theorem get?_of_enter (hwf : t.WellFormed) (hkey : t.get? key = some .folder) (h : t.enter key parts = .ok place) :
    t.get? place = some .folder := by
  fun_induction enter t key parts with
  | case1 key =>
    obtain rfl := Except.ok.inj h
    exact hkey
  | case2 key rest ih => exact ih hkey h
  | case3 key rest ih => exact ih (get?_above hwf hkey) h
  | case4 => cases h
  | case5 => cases h
  | case6 => cases h
  | case7 key p rest hhere hup hshort hfolder ih => exact ih hfolder h

theorem get?_of_place (hwf : t.WellFormed) (h : t.place path = .ok (folder, name)) : t.get? folder = some .folder :=
  get?_of_enter hwf rfl (place_eq_ok.mp h).2.2

theorem WellFormed.makeAll (hwf : t.WellFormed) (hkey : t.get? key = some .folder) (parts : List String) :
    (t.makeAll key parts).1.WellFormed := by
  fun_induction Tree.makeAll t key parts with
  | case1 t key => exact hwf
  | case2 t key rest ih => exact ih hwf hkey
  | case3 t key rest ih => exact ih hwf (get?_above hwf hkey)
  | case4 t key p rest hhere hup hlong => exact hwf
  | case5 t key p rest hhere hup hshort t₁ hmade ih =>
    have hfolder := get?_of_makeFolder hmade
    rcases makeFolder_eq_ok hmade with ⟨-, rfl⟩ | ⟨hnone, rfl⟩
    · exact ih hwf hfolder
    · exact ih (hwf.set hkey (by simp [hnone]) .folder) hfolder
  | case6 t key p rest hhere hup hshort e hmade => exact hwf

theorem WellFormed.createFolders (hwf : t.WellFormed) (path : String) : (t.createFolders path).1.WellFormed := by
  unfold Tree.createFolders
  split
  · exact hwf
  · split
    · exact hwf.makeAll rfl _
    · exact hwf

/-- The folder of a path that is written is there. -/
theorem exists_folder_of_write (hwf : t.WellFormed) (h : t.write path content = .ok t') :
    ∃ folder name, location path = folder ++ [name] ∧ t.get? folder = some .folder := by
  simp only [Tree.write, bind_eq_ok, Prod.exists] at h
  obtain ⟨folder, name, hplace, h⟩ := h
  split_ifs at h with hname
  exact ⟨folder, name, location_of_place hplace (by simpa using hname), get?_of_place hwf hplace⟩

theorem WellFormed.write (hwf : t.WellFormed) (h : t.write path content = .ok t') : t'.WellFormed := by
  obtain ⟨folder, name, hlocation, hfolder⟩ := exists_folder_of_write hwf h
  obtain ⟨hfile, rfl⟩ := write_eq_ok h
  rw [hlocation] at hfile ⊢
  exact hwf.set hfolder hfile _

theorem WellFormed.rename (hwf : t.WellFormed) {source target : String} (h : t.rename source target = .ok t') :
    t'.WellFormed := by
  obtain ⟨⟨folder, name, hplace, hname, -⟩, htarget, content, hsource, rfl⟩ := rename_eq_ok h
  have hfile : t.get? (location source) ≠ some .folder := by simp [hsource]
  have herased : Changes (fun _ => True) (fun _ => True) t (t.erase (location source)) := .erase hfile trivial
  have hfolder := herased.folder _ (get?_of_place hwf hplace)
  have hleft := get?_erase_ne_folder hfile htarget
  rw [location_of_place hplace hname] at hleft ⊢
  exact (hwf.erase hfile).set hfolder hleft _

/-! ### What a path leads to -/

/-- What a path leads to, if it leads anywhere. -/
def find? (t : Tree) (path : String) : Option Entry :=
  match t.read path with
  | .ok content => some (.file content)
  | .error .isDirectory => some .folder
  | .error _ => none

/-- Without a way up, a folder is only reached through folders. -/
theorem get?_of_follow (hwf : t.WellFormed) (hup : ".." ∉ parts) (h : t.get? (follow key parts) = some .folder) :
    t.get? key = some .folder := by
  induction parts generalizing key with
  | nil => exact h
  | cons p rest ih =>
    obtain ⟨hp, hrest⟩ := List.ne_and_not_mem_of_not_mem_cons hup
    have hnext := ih hrest h
    by_cases hhere : p = "."
    · rwa [next, if_pos hhere] at hnext
    · rw [next_of_name hhere hp.symm] at hnext
      simpa using hwf _ _ hnext

/-- If the same parts are followed where there are more folders, they are followed as soon as there is a folder at
their end. -/
theorem enter_of_get? (hwf : t.WellFormed) (hup : ".." ∉ parts) (hlater : t'.enter key parts = .ok place)
    (h : t.get? place = some .folder) : t.enter key parts = .ok place := by
  fun_induction enter t' key parts with
  | case1 key => exact hlater
  | case2 key rest ih => exact ih (fun hmem => hup (List.mem_cons_of_mem _ hmem)) hlater
  | case3 key rest ih => exact absurd List.mem_cons_self hup
  | case4 => cases hlater
  | case5 => cases hlater
  | case6 => cases hlater
  | case7 key p rest hhere hstep hshort hfolder ih =>
    have hrest : ".." ∉ rest := fun hmem => hup (List.mem_cons_of_mem _ hmem)
    have hfirst : t.get? (key ++ [p]) = some .folder := by
      rw [enter_eq_ok hlater] at h
      exact get?_of_follow hwf hrest h
    rw [enter_name hhere hstep, if_neg hshort, hfirst]
    exact ih hrest hlater

theorem place_ne_isDirectory : t.place path ≠ .error .isDirectory := by
  have hcheck : check path ≠ .error .isDirectory := by
    unfold check
    split_ifs <;> simp
  have henter (key parts : List String) : t.enter key parts ≠ .error .isDirectory := by
    fun_induction enter t key parts <;> simp_all
  unfold place
  cases hps : check path with
  | error e => simpa [bind, Except.bind, hps] using hcheck
  | ok ps =>
    rw [ok_bind]
    cases ps.getLast? with
    | none => simp
    | some last =>
      cases hlast : t.enter [] ps.dropLast with
      | error e => simpa [bind, Except.bind, hlast] using henter [] ps.dropLast
      | ok folder => simp [bind, Except.bind, pure, Except.pure]

theorem find?_of_unplaced {e : FileError} (h : t.place path = .error e) : t.find? path = none := by
  have hread : t.read path = .error e := by
    rw [Tree.read, h]
    rfl
  rw [find?, hread]
  cases e with
  | isDirectory => exact absurd h place_ne_isDirectory
  | _ => rfl

/-- A path without a way up leads to the same as before, if nothing but folders came to a well-formed tree and its
place is as it was. -/
theorem find?_congr (hwf : t.WellFormed)
    (hfolders : ∀ place, t.get? place = some .folder → t'.get? place = some .folder) (hup : ".." ∉ components path)
    (hname : ∀ name ∈ (components path).getLast?, isName name = true)
    (hsame : t'.get? (location path) = t.get? (location path)) : t'.find? path = t.find? path := by
  cases hplace : t.place path with
  | ok found =>
    obtain ⟨folder, name⟩ := found
    obtain ⟨hcheck, hlast, henter⟩ := place_eq_ok.mp hplace
    have hplace' : t'.place path = .ok (folder, name) :=
      place_eq_ok.mpr ⟨hcheck, hlast, enter_of_folders hfolders henter⟩
    rw [location_of_place hplace (hname name hlast)] at hsame
    unfold find? Tree.read
    rw [hplace, hplace', ok_bind, ok_bind]
    dsimp only
    rw [hsame]
  | error e =>
    rw [find?_of_unplaced hplace]
    cases hplace' : t'.place path with
    | error e' => exact find?_of_unplaced hplace'
    | ok found =>
      obtain ⟨folder, name⟩ := found
      obtain ⟨hcheck, hlast, henter⟩ := place_eq_ok.mp hplace'
      rw [location_of_place hplace' (hname name hlast)] at hsame
      -- an entry at the place was there before, in a folder, so the path would have led to it
      have hnone : t.get? (folder ++ [name]) = none := by
        cases hentry : t.get? (folder ++ [name]) with
        | none => rfl
        | some entry =>
          have hfolder : t.get? folder = some .folder := by simpa using hwf _ _ hentry
          have hbefore := enter_of_get? hwf (fun hmem => hup (List.dropLast_subset _ hmem)) henter hfolder
          rw [place_eq_ok.mpr ⟨hcheck, hlast, hbefore⟩] at hplace
          cases hplace
      unfold find? Tree.read
      rw [hplace', ok_bind]
      dsimp only
      rw [hname name hlast, hsame, hnone, Bool.not_true, if_neg Bool.false_ne_true]
      split_ifs <;> rfl

end Tree

end ServiceBindings.Files
