import ServiceBindings.Files.Tree
import ServiceBindings.Proofs.Sequence

/-!
What the operations on a tree change. A path has a place, whatever the tree. Making folders adds them where there was
nothing on the way; writing and renaming change the places of their paths and no others. No operation takes a folder
away, so what could be reached before can be reached after.
-/

namespace ServiceBindings.Files

/-! ### Places -/

/-- Where a part leads from resolved parts. -/
def next (key : List String) (part : String) : List String :=
  if part = "." then key else if part = ".." then above key else key ++ [part]

/-- Where parts lead from resolved parts, whatever is there. -/
def follow (key parts : List String) : List String :=
  parts.foldl next key

/-- The place of a path: where its components lead from the bottom of the tree. -/
def location (path : String) : List String :=
  follow [] (components path)

/-- The places that following parts comes through. -/
def OnWay (key parts place : List String) : Prop :=
  ∃ front, front <+: parts ∧ follow key front = place

theorem follow_cons (key : List String) (part : String) (parts : List String) :
    follow key (part :: parts) = follow (next key part) parts :=
  rfl

theorem follow_append (key front back : List String) : follow key (front ++ back) = follow (follow key front) back :=
  List.foldl_append

theorem next_of_name {key : List String} {part : String} (hhere : part ≠ ".") (hup : part ≠ "..") :
    next key part = key ++ [part] := by
  rw [next, if_neg hhere, if_neg hup]

/-- Without a way up, parts only lead further down. -/
theorem prefix_follow {parts : List String} (hup : ".." ∉ parts) (key : List String) : key <+: follow key parts := by
  induction parts generalizing key with
  | nil => exact List.prefix_refl key
  | cons p rest ih =>
    obtain ⟨hp, hrest⟩ := List.ne_and_not_mem_of_not_mem_cons hup
    by_cases hhere : p = "."
    · rw [follow_cons, next, if_pos hhere]
      exact ih hrest key
    · rw [follow_cons, next_of_name hhere hp.symm]
      exact (List.prefix_append key [p]).trans (ih hrest _)

theorem onWay_self (key parts : List String) : OnWay key parts key :=
  ⟨[], List.nil_prefix, rfl⟩

theorem OnWay.cons {key parts place : List String} (part : String) (h : OnWay (next key part) parts place) :
    OnWay key (part :: parts) place := by
  obtain ⟨front, hfront, rfl⟩ := h
  exact ⟨part :: front, (List.prefix_cons_inj part).mpr hfront, rfl⟩

theorem OnWay.mono {key parts more place : List String} (h : OnWay key parts place) (hmore : parts <+: more) :
    OnWay key more place := by
  obtain ⟨front, hfront, rfl⟩ := h
  exact ⟨front, hfront.trans hmore, rfl⟩

namespace Tree

/-! ### Entries -/

variable {t t' : Tree} {key place : List String} {e : Entry}

/-- Where something else than a folder is found, no folder is given. -/
private theorem not_given (h : t.get? key ≠ some .folder) : ¬(isAbove key = true ∨ key = ["/"]) :=
  fun hgiven => h (if_pos hgiven)

private theorem lookup_erase (t : Tree) (key place : List String) :
    (t.erase key).entries.lookup place = if place = key then none else t.entries.lookup place := by
  obtain ⟨entries⟩ := t
  change (entries.filter (·.1 ≠ key)).lookup place = if place = key then none else entries.lookup place
  induction entries with
  | nil => simp
  | cons entry rest ih =>
    by_cases hkey : entry.1 = key
    · rw [List.filter_cons_of_neg (by simpa using hkey), ih]
      split
      · rfl
      · next hplace => rw [List.lookup_cons, beq_eq_false_iff_ne.mpr (hkey ▸ hplace)]
    · rw [List.filter_cons_of_pos (by simpa using hkey), List.lookup_cons, List.lookup_cons]
      cases hbeq : place == entry.1 with
      | true =>
        obtain rfl := eq_of_beq hbeq
        exact (if_neg hkey).symm
      | false => exact ih

theorem get?_erase_of_ne (h : place ≠ key) : (t.erase key).get? place = t.get? place := by
  rw [get?, get?, lookup_erase, if_neg h]

theorem get?_erase_self (h : t.get? key ≠ some .folder) : (t'.erase key).get? key = none := by
  rw [get?, if_neg (not_given h), lookup_erase, if_pos rfl]

/-- Taking something away makes no folder. -/
theorem get?_erase_ne_folder (h : t.get? key ≠ some .folder) (hplace : t.get? place ≠ some .folder) :
    (t.erase key).get? place ≠ some .folder := by
  by_cases hsame : place = key
  · rw [hsame, get?_erase_self h]
    exact Option.some_ne_none _ |>.symm
  · rwa [get?_erase_of_ne hsame]

theorem get?_set_of_ne (h : place ≠ key) : (t.set key e).get? place = t.get? place := by
  rw [← get?_erase_of_ne (t := t) h]
  unfold get?
  change (if _ then _ else ((key, e) :: (t.erase key).entries).lookup place) = _
  rw [List.lookup_cons, beq_eq_false_iff_ne.mpr h]

theorem get?_set_self (h : t.get? key ≠ some .folder) : (t'.set key e).get? key = some e := by
  rw [get?, if_neg (not_given h)]
  exact List.lookup_cons_self

/-! ### Changes -/

/-- How a tree changes that keeps its folders: new ones come on some ways, where there was nothing, and anything may
come to be at the places that are touched. -/
structure Changes (way touched : List String → Prop) (t t' : Tree) : Prop where
  kept : ∀ place, ¬touched place →
    t'.get? place = t.get? place ∨ way place ∧ t.get? place = none ∧ t'.get? place = some .folder
  folder : ∀ place, t.get? place = some .folder → t'.get? place = some .folder

variable {way touched : List String → Prop}

theorem Changes.refl (t : Tree) : Changes way touched t t :=
  ⟨fun _ _ => .inl rfl, fun _ h => h⟩

theorem Changes.trans {t₁ t₂ t₃ : Tree} (h : Changes way touched t₁ t₂) (h' : Changes way touched t₂ t₃) :
    Changes way touched t₁ t₃ := by
  refine ⟨fun place hplace => ?_, fun place hplace => h'.folder place (h.folder place hplace)⟩
  rcases h.kept place hplace with hsame | ⟨hway, hnone, hfolder⟩
  · rw [← hsame]
    exact h'.kept place hplace
  · exact .inr ⟨hway, hnone, h'.folder place hfolder⟩

theorem Changes.set_folder (h : t.get? key = none) (hway : way key) : Changes way touched t (t.set key .folder) := by
  have hself : (t.set key .folder).get? key = some .folder := get?_set_self (t := t) (by simp [h])
  refine ⟨fun place _ => ?_, fun place hplace => ?_⟩
  · by_cases heq : place = key
    · subst heq
      exact .inr ⟨hway, h, hself⟩
    · exact .inl (get?_set_of_ne heq)
  · by_cases heq : place = key
    · rwa [heq]
    · rwa [get?_set_of_ne heq]

theorem Changes.set_file (h : t.get? key ≠ some .folder) (content : String) (htouched : touched key) :
    Changes way touched t (t.set key (.file content)) := by
  refine ⟨fun place hplace => .inl (get?_set_of_ne ?_), fun place hplace => ?_⟩
  · rintro rfl
    exact hplace htouched
  · have hne : place ≠ key := fun heq => h (heq ▸ hplace)
    rwa [get?_set_of_ne hne]

theorem Changes.erase (h : t.get? key ≠ some .folder) (htouched : touched key) :
    Changes way touched t (t.erase key) := by
  refine ⟨fun place hplace => .inl (get?_erase_of_ne ?_), fun place hplace => ?_⟩
  · rintro rfl
    exact hplace htouched
  · have hne : place ≠ key := fun heq => h (heq ▸ hplace)
    rwa [get?_erase_of_ne hne]

/-! ### Following parts -/

variable {parts : List String}

/-- A name is entered if it is not too long and leads to a folder. -/
theorem enter_name {p : String} (hhere : p ≠ ".") (hup : p ≠ "..") (rest : List String) :
    t.enter key (p :: rest) =
      if nameLimit < p.utf8ByteSize then .error .nameTooLong
      else
        match t.get? (key ++ [p]) with
        | none => .error .notFound
        | some (.file _) => .error .notDirectory
        | some .folder => t.enter (key ++ [p]) rest := by
  rw [enter.eq_def]
  split
  · contradiction
  · next hcons => exact absurd (List.cons.inj hcons).1 hhere
  · next hcons => exact absurd (List.cons.inj hcons).1 hup
  · next hcons =>
    obtain ⟨rfl, rfl⟩ := List.cons.inj hcons
    rfl

theorem enter_eq_ok (h : t.enter key parts = .ok place) : place = follow key parts := by
  fun_induction enter t key parts with
  | case1 key => exact (Except.ok.inj h).symm
  | case2 key rest ih => exact ih h
  | case3 key rest ih => exact ih h
  | case4 => cases h
  | case5 => cases h
  | case6 => cases h
  | case7 key p rest hhere hup _ _ ih =>
    rw [follow_cons, next_of_name hhere hup]
    exact ih h

/-- Where folders are kept, parts that could be followed still can. -/
theorem enter_of_folders (hfolders : ∀ place, t.get? place = some .folder → t'.get? place = some .folder)
    (h : t.enter key parts = .ok place) : t'.enter key parts = .ok place := by
  fun_induction enter t key parts with
  | case1 key => exact h
  | case2 key rest ih => exact ih h
  | case3 key rest ih => exact ih h
  | case4 => cases h
  | case5 => cases h
  | case6 => cases h
  | case7 key p rest hhere hup hshort hfolder ih =>
    rw [enter_name hhere hup, if_neg hshort, hfolders _ hfolder]
    exact ih h

/-! ### Making folders -/

theorem makeFolder_eq_ok {isLast : Bool} (h : t.makeFolder isLast key = .ok t') :
    t.get? key = some .folder ∧ t' = t ∨ t.get? key = none ∧ t' = t.set key .folder := by
  unfold makeFolder at h
  split at h
  · next hfolder => exact .inl ⟨hfolder, (Except.ok.inj h).symm⟩
  · cases h
  · next hnone => exact .inr ⟨hnone, (Except.ok.inj h).symm⟩

theorem get?_of_makeFolder {isLast : Bool} (h : t.makeFolder isLast key = .ok t') : t'.get? key = some .folder := by
  rcases makeFolder_eq_ok h with ⟨hfolder, rfl⟩ | ⟨hnone, rfl⟩
  · exact hfolder
  · exact get?_set_self (t := t) (by simp [hnone])

theorem makeFolder_changes {isLast : Bool} (h : t.makeFolder isLast key = .ok t') (hway : way key) :
    Changes way touched t t' := by
  rcases makeFolder_eq_ok h with ⟨-, rfl⟩ | ⟨hnone, rfl⟩
  · exact .refl _
  · exact .set_folder hnone hway

/-- Making folders only adds some on the way, whether it succeeds or not. -/
theorem makeAll_changes (t : Tree) {key parts : List String} (hway : ∀ place, OnWay key parts place → way place) :
    Changes way touched t (t.makeAll key parts).1 := by
  fun_induction makeAll t key parts with
  | case1 t key => exact .refl t
  | case2 t key rest ih => exact ih fun place h => hway place (.cons "." h)
  | case3 t key rest ih => exact ih fun place h => hway place (.cons ".." h)
  | case4 t key p rest hhere hup hlong => exact .refl t
  | case5 t key p rest hhere hup hshort t₁ hmade ih =>
    have hplace : next key p = key ++ [p] := next_of_name hhere hup
    have hfirst : way (key ++ [p]) := hway _ (.cons p (hplace ▸ onWay_self _ _))
    exact (makeFolder_changes hmade hfirst).trans (ih fun place h => hway place (.cons p (hplace ▸ h)))
  | case6 t key p rest hhere hup hshort e hmade => exact .refl t

theorem check_eq_ok {path : String} {ps : List String} (h : check path = .ok ps) : ps = components path := by
  unfold check at h
  split_ifs at h
  exact (Except.ok.inj h).symm

theorem createFolders_changes (t : Tree) {path : String}
    (hway : ∀ place, OnWay [] (components path) place → way place) :
    Changes way touched t (t.createFolders path).1 := by
  unfold createFolders
  split
  · exact .refl t
  · split
    · next ps hps =>
      obtain rfl := check_eq_ok hps
      exact makeAll_changes t hway
    · exact .refl t

/-! ### Files -/

variable {path name content : String} {folder : List String}

theorem place_eq_ok : t.place path = .ok (folder, name) ↔
    check path = .ok (components path) ∧ (components path).getLast? = some name ∧
      t.enter [] (components path).dropLast = .ok folder := by
  unfold place
  rw [bind_eq_ok]
  constructor
  · rintro ⟨ps, hps, h⟩
    obtain rfl := check_eq_ok hps
    split at h
    · cases h
    · next last hlast =>
      simp only [bind_eq_ok, pure_eq_ok, Prod.mk.injEq] at h
      obtain ⟨_, henter, rfl, rfl⟩ := h
      exact ⟨hps, hlast, henter⟩
  · rintro ⟨hps, hlast, henter⟩
    refine ⟨_, hps, ?_⟩
    rw [hlast, henter]
    rfl

/-- A path that ends in a name leads to this name in its folder. -/
theorem location_of_place (h : t.place path = .ok (folder, name)) (hname : isName name = true) :
    location path = folder ++ [name] := by
  obtain ⟨-, hlast, henter⟩ := place_eq_ok.mp h
  simp only [isName, Bool.and_eq_true, bne_iff_ne] at hname
  rw [location, ← List.dropLast_append_getLast? name hlast, follow_append, ← enter_eq_ok henter]
  exact next_of_name hname.1.1 hname.1.2

/-- Whether a path leads through folders to a name that a file can have. -/
def Reaches (t : Tree) (path : String) : Prop :=
  ∃ folder name, t.place path = .ok (folder, name) ∧ isName name = true ∧ name.utf8ByteSize ≤ nameLimit ∧
    path.endsWith "/" = false

theorem Reaches.of_folders (h : t.Reaches path)
    (hfolders : ∀ place, t.get? place = some .folder → t'.get? place = some .folder) : t'.Reaches path := by
  obtain ⟨folder, name, hplace, hname⟩ := h
  obtain ⟨hcheck, hlast, henter⟩ := place_eq_ok.mp hplace
  exact ⟨folder, name, place_eq_ok.mpr ⟨hcheck, hlast, enter_of_folders hfolders henter⟩, hname⟩

/-- A file at the place of a path is read if the path leads there. -/
theorem Reaches.read (h : t.Reaches path) (hfile : t.get? (location path) = some (.file content)) :
    t.read path = .ok content := by
  obtain ⟨folder, name, hplace, hname, hshort, hend⟩ := h
  rw [location_of_place hplace hname] at hfile
  unfold Tree.read
  rw [hplace, ok_bind]
  dsimp only
  rw [hname, hfile, hend, if_neg (by decide), if_neg (Nat.not_lt.mpr hshort)]
  rfl

theorem write_eq_ok (h : t.write path content = .ok t') :
    t.get? (location path) ≠ some .folder ∧ t' = t.set (location path) (.file content) := by
  simp only [write, bind_eq_ok, Prod.exists] at h
  obtain ⟨folder, name, hplace, h⟩ := h
  split_ifs at h with hname
  split at h
  · cases h
  · next hfile =>
    rw [location_of_place hplace (by simpa using hname)]
    exact ⟨hfile, (Except.ok.inj h).symm⟩

theorem rename_eq_ok {source target : String} (h : t.rename source target = .ok t') :
    t.Reaches target ∧ t.get? (location target) ≠ some .folder ∧
      ∃ content, t.get? (location source) = some (.file content) ∧
        t' = (t.erase (location source)).set (location target) (.file content) := by
  simp only [rename, bind_eq_ok, Prod.exists] at h
  obtain ⟨sourceFolder, sourceName, hsource, targetFolder, targetName, htarget, h⟩ := h
  split_ifs at h with hnames hshort hend
  · split at h <;> cases h
  simp only [Bool.or_eq_true, Bool.not_eq_true', not_or, Bool.not_eq_false] at hnames
  split at h
  · cases h
  · cases h
  · next content hfile =>
    split at h
    · cases h
    · next hfolder =>
      rw [location_of_place hsource hnames.1, location_of_place htarget hnames.2]
      exact ⟨⟨_, _, htarget, hnames.2, Nat.not_lt.mp hshort, by simpa using hend⟩, hfolder, content, hfile,
        (Except.ok.inj h).symm⟩

end Tree

end ServiceBindings.Files
