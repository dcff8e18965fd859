import Mathlib.Data.List.Basic
import ServiceBindings.Files.Path

/-!
Where a path below a folder leads: through the components of the folder and then through its own, unless it is
absolute and stands for itself.
-/

namespace ServiceBindings.Files

/-! ### Parts -/

theorem parts_slash (rest : List Char) : parts ('/' :: rest) = parts rest := by
  simp [parts]

/-- The first part goes as far as the first slash. -/
theorem parts_append_of_slashFree {part : List Char} (hne : part ≠ []) (hpart : '/' ∉ part) {rest : List Char}
    (hrest : ∀ c ∈ rest.head?, c = '/') : parts (part ++ rest) = part :: parts rest := by
  induction part with
  | nil => exact absurd rfl hne
  | cons c cs ih =>
    obtain ⟨hc, hcs⟩ := List.ne_and_not_mem_of_not_mem_cons hpart
    cases cs with
    | nil =>
      cases rest with
      | nil => simp [parts, hc.symm]
      | cons d after =>
        obtain rfl : d = '/' := hrest d rfl
        simp [parts, hc.symm]
    | cons d after =>
      have hd : d ≠ '/' := fun h => hcs (h ▸ List.mem_cons_self)
      have hread := ih (List.cons_ne_nil d after) hcs
      simp only [List.cons_append] at hread ⊢
      simp [parts.eq_def (c :: _), hc.symm, hd, hread]

theorem parts_of_slashFree {part : List Char} (hne : part ≠ []) (hpart : '/' ∉ part) : parts part = [part] := by
  have hread : parts (part ++ []) = part :: parts [] := parts_append_of_slashFree hne hpart (by simp)
  rwa [List.append_nil] at hread

/-- A text that does not begin with a slash begins with a part. -/
theorem exists_part {c : Char} (hc : c ≠ '/') (cs : List Char) :
    ∃ part rest, c :: cs = part ++ rest ∧ part ≠ [] ∧ '/' ∉ part ∧ ∀ d ∈ rest.head?, d = '/' := by
  induction cs generalizing c with
  | nil => exact ⟨[c], [], rfl, List.cons_ne_nil c [], by simpa using hc.symm, by simp⟩
  | cons d after ih =>
    by_cases hd : d = '/'
    · exact ⟨[c], d :: after, rfl, List.cons_ne_nil c [], by simpa using hc.symm, by simpa using hd⟩
    · obtain ⟨part, rest, hsplit, -, hpart, hrest⟩ := ih hd
      refine ⟨c :: part, rest, by rw [hsplit, List.cons_append], List.cons_ne_nil c part, ?_, hrest⟩
      exact List.not_mem_cons_of_ne_of_not_mem hc.symm hpart

/-- What comes after a slash has its parts for itself. -/
theorem parts_append_slash (front back : List Char) : parts (front ++ '/' :: back) = parts front ++ parts back := by
  -- a part is taken away at a time, and not a character
  induction hlength : front.length using Nat.strongRecOn generalizing front with
  | ind n ih =>
    cases front with
    | nil => exact parts_slash back
    | cons c cs =>
      by_cases hc : c = '/'
      · subst hc
        rw [List.cons_append, parts_slash, parts_slash, ih cs.length (by simp [← hlength]) cs rfl]
      · obtain ⟨part, rest, hsplit, hne, hpart, hrest⟩ := exists_part hc cs
        have hshorter : rest.length < n := by
          have hpos := List.length_pos_iff.mpr hne
          rw [← hlength, hsplit, List.length_append]
          omega
        have hrest' : ∀ d ∈ (rest ++ '/' :: back).head?, d = '/' := by
          cases rest with
          | nil => simp
          | cons d after => simpa using hrest
        rw [hsplit, List.append_assoc, parts_append_of_slashFree hne hpart hrest', ih rest.length hshorter rest rfl,
          parts_append_of_slashFree hne hpart hrest, List.cons_append]

/-- A text that is more than slashes has a part. -/
theorem parts_ne_nil {cs : List Char} {c : Char} (hmem : c ∈ cs) (hc : c ≠ '/') : parts cs ≠ [] := by
  induction cs with
  | nil => cases hmem
  | cons d rest ih =>
    by_cases hd : d = '/'
    · subst hd
      rw [parts_slash]
      exact ih ((List.mem_cons.mp hmem).resolve_left hc)
    · obtain ⟨part, after, hsplit, hne, hpart, hafter⟩ := exists_part hd rest
      rw [hsplit, parts_append_of_slashFree hne hpart hafter]
      exact List.cons_ne_nil _ _

theorem startsWith_slash_iff (path : String) : path.startsWith "/" = true ↔ path.toList.head? = some '/' := by
  rw [String.startsWith_string_iff]
  cases path.toList with
  | nil => simp
  | cons c cs => simp [eq_comm]

theorem endsWith_slash_iff (path : String) : path.endsWith "/" = true ↔ path.toList.getLast? = some '/' := by
  have hsuffix : path.endsWith "/" = true ↔ ['/'] <:+ path.toList := by
    rw [String.endsWith_eq_endsWith_toSlice, String.Slice.endsWith_string_iff, String.copy_toSlice]
    rfl
  rw [hsuffix]
  constructor
  · rintro ⟨front, hfront⟩
    rw [← hfront, List.getLast?_concat]
  · intro hlast
    exact ⟨path.toList.dropLast, List.dropLast_append_getLast? '/' hlast⟩

/-! ### Components -/

theorem components_eq (path : String) :
    components path =
      (if path.toList.head? = some '/' then ["/"] else []) ++ (parts path.toList).map String.ofList := by
  unfold components
  simp only [startsWith_slash_iff]

/-- A name is a component of its own. -/
theorem components_of_slashFree {name : String} (hne : name ≠ "") (hname : '/' ∉ name.toList) :
    components name = [name] := by
  have hlist : name.toList ≠ [] := fun h => hne (String.toList_injective h)
  have hhead : name.toList.head? ≠ some '/' := fun h => hname (List.mem_of_mem_head? h)
  rw [components_eq, if_neg hhead, parts_of_slashFree hlist hname, List.nil_append, List.map_singleton,
    String.ofList_toList]

theorem join_of_absolute (folder : String) {path : String} (hpath : path.toList.head? = some '/') :
    join folder path = path := by
  unfold join
  rw [(startsWith_slash_iff path).mpr hpath, Bool.true_or, if_pos rfl]

/-- A text that goes on from a folder, behind a separator or none, has the components of the folder first. -/
private theorem components_below {folder path joined : String} (sep : List Char) (hne : folder.toList ≠ [])
    (hjoined : joined.toList = folder.toList ++ (sep ++ path.toList))
    (hsep : parts (folder.toList ++ (sep ++ path.toList)) = parts folder.toList ++ parts path.toList) :
    components joined = components folder ++ (parts path.toList).map String.ofList := by
  rw [components_eq, components_eq folder, hjoined, hsep, List.head?_append_of_ne_nil _ hne, List.map_append,
    List.append_assoc]

/-- Below a folder, what is not absolute leads through the components of the folder and then through its own. -/
theorem components_join (folder : String) {path : String} (hpath : path.toList.head? ≠ some '/') :
    components (join folder path) = components folder ++ components path := by
  have hrelative : path.startsWith "/" = false := by
    cases h : path.startsWith "/" with
    | true => exact absurd ((startsWith_slash_iff path).mp h) hpath
    | false => rfl
  have hown : components path = (parts path.toList).map String.ofList := by
    rw [components_eq, if_neg hpath, List.nil_append]
  by_cases hempty : folder = ""
  · subst hempty
    simp [join, components_eq, hpath, parts]
  · have hne : folder.toList ≠ [] := fun h => hempty (String.toList_injective h)
    have hsome : folder.isEmpty = false := by
      cases h : folder.isEmpty with
      | true => exact absurd (String.isEmpty_iff.mp h) hempty
      | false => rfl
    unfold join
    rw [hown, hrelative, hsome, Bool.false_or, if_neg Bool.false_ne_true]
    split
    · next hend =>
      obtain ⟨front, hfront⟩ : ∃ front, folder.toList = front ++ ['/'] :=
        ⟨_, (List.dropLast_append_getLast? '/' ((endsWith_slash_iff folder).mp hend)).symm⟩
      have hfolder : parts folder.toList = parts front := by
        rw [hfront, parts_append_slash]
        exact List.append_nil _
      refine components_below [] hne (by simp) ?_
      rw [hfolder, hfront, List.append_assoc, List.singleton_append, List.nil_append, parts_append_slash]
    · exact components_below ['/'] hne (by simp) (parts_append_slash _ _)

end ServiceBindings.Files
