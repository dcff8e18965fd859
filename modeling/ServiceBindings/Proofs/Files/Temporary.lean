import Mathlib.Data.List.TakeWhile
import ServiceBindings.Proofs.Files.Location
import ServiceBindings.Proofs.Files.Tree

/-!
Temporary files. The file that is written in place of a path is in the same folder and has another name, by which it
differs from every path that does not end as temporary paths do.
-/

namespace ServiceBindings.Files

/-! ### The end of a path -/

/-- How a path ends: what comes up to its last slash, and then a name. A name that ends in a full stop is left out,
since it may be no name. -/
structure EndsIn (path : String) (front name : List Char) : Prop where
  text : path.toList = front ++ name
  slash : '/' ∉ name
  stop : ∃ c, name.getLast? = some c ∧ c ≠ '.'
  front : front = [] ∨ front.getLast? = some '/'

variable {path : String} {front name : List Char}

theorem EndsIn.ne_nil (h : EndsIn path front name) : name ≠ [] := by
  obtain ⟨c, hc, -⟩ := h.stop
  rintro rfl
  cases hc

theorem EndsIn.getLast? (h : EndsIn path front name) : path.toList.getLast? = name.getLast? := by
  rw [h.text, List.getLast?_append_of_ne_nil _ h.ne_nil]

theorem takeWhile_before_slash {back : List Char} (hslash : '/' ∉ name)
    (hback : back = [] ∨ back.head? = some '/') :
    (name ++ back).takeWhile (· ≠ '/') = name ∧ (name ++ back).dropWhile (· ≠ '/') = back := by
  have hall : ∀ c ∈ name, decide (c ≠ '/') = true := by
    intro c hc
    exact decide_eq_true (by rintro rfl; exact hslash hc)
  have hnone : back.takeWhile (· ≠ '/') = [] ∧ back.dropWhile (· ≠ '/') = back := by
    cases back with
    | nil => exact ⟨rfl, rfl⟩
    | cons c rest =>
      obtain rfl : c = '/' := by simpa using hback
      exact ⟨rfl, rfl⟩
  rw [List.takeWhile_append_of_pos hall, List.dropWhile_append_of_pos hall, hnone.1, hnone.2, List.append_nil]
  exact ⟨rfl, rfl⟩

theorem EndsIn.splitLast (h : EndsIn path front name) : splitLast path = (front, name) := by
  obtain ⟨c, hlast, hc⟩ := h.stop
  have hback : front.reverse = [] ∨ front.reverse.head? = some '/' := by simpa using h.front
  have hslash : '/' ∉ name.reverse := by simpa using h.slash
  obtain ⟨htake, hdrop⟩ := takeWhile_before_slash hslash hback
  have htail : dropTail path.toList.reverse = name.reverse ++ front.reverse := by
    obtain ⟨start, rfl⟩ : ∃ start, name = start ++ [c] := ⟨_, (List.dropLast_append_getLast? c hlast).symm⟩
    have hslash : c ≠ '/' := fun hc => h.slash (by simp [hc])
    rw [h.text, List.reverse_append, List.reverse_append, List.reverse_singleton, List.singleton_append,
      List.cons_append, dropTail]
    · exact fun d rest hcons => hslash (List.cons.inj hcons).1
    · exact fun rest hcons => hc (List.cons.inj hcons).1
  unfold Files.splitLast
  dsimp only
  rw [htail, htake, hdrop, List.reverse_reverse, List.reverse_reverse]

/-- A path that ends in neither a slash nor a full stop ends in a name. -/
theorem exists_endsIn {c : Char} (hlast : path.toList.getLast? = some c) (hslash : c ≠ '/') (hstop : c ≠ '.') :
    ∃ front name, EndsIn path front name := by
  have hsplit := List.takeWhile_append_dropWhile (p := fun d => decide (d ≠ '/')) (l := path.toList.reverse)
  have hname : path.toList = (path.toList.reverse.dropWhile (· ≠ '/')).reverse ++
      (path.toList.reverse.takeWhile (· ≠ '/')).reverse := by
    rw [← List.reverse_append, hsplit, List.reverse_reverse]
  obtain ⟨rest, hrest⟩ : ∃ rest, path.toList.reverse = c :: rest := by
    refine List.head?_eq_some_iff.mp ?_
    rw [List.head?_reverse, hlast]
  refine ⟨_, _, hname, ?_, ⟨c, ?_, hstop⟩, ?_⟩
  · intro hmem
    simpa using List.mem_takeWhile_imp (List.mem_reverse.mp hmem)
  · rw [List.getLast?_reverse, hrest, List.takeWhile_cons_of_pos (by simpa using hslash)]
    rfl
  · cases hback : path.toList.reverse.dropWhile (· ≠ '/') with
    | nil => exact .inl rfl
    | cons d more =>
      have hd := List.head?_dropWhile_not (fun d => decide (d ≠ '/')) path.toList.reverse
      rw [hback] at hd
      exact .inr (by simpa using hd)

/-! ### Components -/

/-- The parts behind a slash come after the components up to it. -/
theorem components_append_slash (start back : List Char) :
    components (String.ofList (start ++ '/' :: back)) =
      components (String.ofList (start ++ ['/'])) ++ (parts back).map String.ofList := by
  have hhead : (start ++ '/' :: back).head? = (start ++ ['/']).head? := by cases start <;> rfl
  have hend : parts (start ++ ['/']) = parts start := by
    rw [parts_append_slash]
    exact List.append_nil _
  rw [components_eq, components_eq, String.toList_ofList, String.toList_ofList, hhead, hend, parts_append_slash,
    List.map_append, List.append_assoc]

/-- The name is the last component, after those of what comes before it. -/
theorem EndsIn.components (h : EndsIn path front name) :
    components path = components (String.ofList front) ++ [String.ofList name] := by
  have hparts : parts name = [name] := parts_of_slashFree h.ne_nil h.slash
  rw [← String.ofList_toList (s := path), h.text]
  rcases h.front with rfl | hlast
  · have hhead : name.head? ≠ some '/' := fun hhead => h.slash (List.mem_of_mem_head? hhead)
    rw [components_eq, String.toList_ofList, List.nil_append, hparts, if_neg hhead]
    rfl
  · obtain ⟨start, rfl⟩ : ∃ start, front = start ++ ['/'] := ⟨_, (List.dropLast_append_getLast? '/' hlast).symm⟩
    rw [List.append_assoc, List.singleton_append, components_append_slash, hparts]
    rfl

theorem EndsIn.location (h : EndsIn path front name) :
    location path = follow [] (Files.components (String.ofList front)) ++ [String.ofList name] := by
  obtain ⟨c, hlast, hc⟩ := h.stop
  have hne (text : String) (htext : text.toList.getLast? = some '.') : String.ofList name ≠ text := by
    rintro rfl
    rw [String.toList_ofList, hlast] at htext
    exact hc (Option.some.inj htext)
  rw [Files.location, h.components, follow_append]
  exact next_of_name (hne "." (by decide)) (hne ".." (by decide))

/-- Paths whose last characters differ have different places. -/
theorem EndsIn.location_ne {other : String} {front' name' : List Char} (h : EndsIn path front name)
    (hother : EndsIn other front' name') (hne : name.getLast? ≠ name'.getLast?) :
    Files.location path ≠ Files.location other := by
  intro hsame
  rw [h.location, hother.location] at hsame
  have hnames : String.ofList name = String.ofList name' := by simpa using congrArg List.getLast? hsame
  exact hne (by rw [String.ofList_injective hnames])

/-- What is dropped at the end of a path are components that lead nowhere. -/
theorem components_dropTail (cs : List Char) :
    components (String.ofList (dropTail cs).reverse) <+: components (String.ofList cs.reverse) := by
  fun_induction dropTail cs with
  | case1 c rest ih =>
    have hhead : ((c :: rest).reverse ++ ['/']).head? = (c :: rest).reverse.head? :=
      List.head?_append_of_ne_nil _ (by simp)
    have hsame : components (String.ofList ('/' :: c :: rest).reverse) =
        components (String.ofList (c :: rest).reverse) := by
      rw [List.reverse_cons, components_eq, components_eq, String.toList_ofList, String.toList_ofList, hhead,
        parts_append_slash]
      exact congrArg _ (congrArg _ (List.append_nil _))
    rwa [hsame]
  | case2 rest ih =>
    have hmore : components (String.ofList ('.' :: '/' :: rest).reverse) =
        components (String.ofList ('/' :: rest).reverse) ++ ["."] := by
      rw [List.reverse_cons, List.reverse_cons, List.append_assoc, List.singleton_append, components_append_slash]
      rfl
    rw [hmore]
    exact ih.trans (List.prefix_append _ _)
  | case3 cs => exact List.prefix_refl _

/-! ### The temporary path -/

theorem stem_subset (name : List Char) : stem name ⊆ name := by
  have hsuffix : (name.reverse.dropWhile (· ≠ '.')).drop 1 <:+ name.reverse :=
    (List.drop_suffix 1 _).trans (List.dropWhile_suffix _)
  unfold stem
  cases hfront : (name.reverse.dropWhile (· ≠ '.')).drop 1 with
  | nil => exact List.Subset.refl name
  | cons c front =>
    rw [hfront] at hsuffix
    exact fun d hd => List.mem_reverse.mp (hsuffix.subset (List.mem_reverse.mp hd))

theorem EndsIn.fileName? (h : EndsIn path front name) : fileName? path = some name := by
  obtain ⟨c, hlast, hc⟩ := h.stop
  unfold Files.fileName?
  rw [h.splitLast]
  split
  · next heq => exact absurd (Prod.mk.inj heq).2 h.ne_nil
  · next heq =>
    rw [(Prod.mk.inj heq).2] at hlast
    exact absurd (Option.some.inj hlast).symm hc
  · next heq =>
    rw [(Prod.mk.inj heq).2] at hlast
    exact absurd (Option.some.inj hlast).symm hc
  · next heq => rw [(Prod.mk.inj heq).2]

/-- The temporary file is in the same folder. -/
theorem EndsIn.temporary (h : EndsIn path front name) : EndsIn (temporary path) front (stem name ++ ".tmp".toList) := by
  refine ⟨?_, ?_, ⟨'p', ?_, by decide⟩, h.front⟩
  · unfold Files.temporary
    rw [h.fileName?, h.splitLast, String.toList_append, String.toList_ofList, List.append_assoc]
  · rw [List.mem_append]
    rintro (hmem | hmem)
    · exact h.slash (stem_subset name hmem)
    · exact absurd hmem (by decide)
  · exact List.getLast?_append_of_ne_nil _ (by decide)

/-- The folder of a path has no components but those before its name. -/
theorem EndsIn.parent (h : EndsIn path front name) :
    ∃ folder, parent? path = some folder ∧ Files.components folder <+: (Files.components path).dropLast := by
  refine ⟨String.ofList (dropTail front.reverse).reverse, ?_, ?_⟩
  · unfold parent?
    rw [h.splitLast]
    split
    · next heq => exact absurd (Prod.mk.inj heq).2 h.ne_nil
    · next heq => rw [(Prod.mk.inj heq).1]
  · have hdrop := components_dropTail front.reverse
    rw [List.reverse_reverse] at hdrop
    rwa [h.components, List.dropLast_concat]

end ServiceBindings.Files
