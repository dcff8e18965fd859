import ServiceBindings.Naming
import ServiceBindings.Proofs.Text.Lowercase

/-!
Converted names. Cutting a name into words loses its separators and nothing else, and words that are put together
with underscores are found again. A name that was converted twice is not changed by a third conversion; the second
can change it, since an uppercase letter without a lowercase form begins a word only behind a lowercase one.
-/

namespace ServiceBindings

namespace Naming

open Text

/-! ### Words -/

section

variable {c d : Char} {rest after : List Char}

theorem words_separator (hc : isSeparator c = true) : words (c :: rest) = words rest := by
  rw [words.eq_def]
  simp [hc]

theorem words_singleton (hc : isSeparator c = false) : words [c] = [[c]] := by
  simp [words, hc]

/-- Between two words. -/
theorem words_break (hc : isSeparator c = false) (hd : (isSeparator d || startsWord c d after.head?) = true) :
    words (c :: d :: after) = [c] :: words (d :: after) := by
  rw [words]
  simp [hc, hd]

/-- Within a word. -/
theorem words_extend (hc : isSeparator c = false) (hd : (isSeparator d || startsWord c d after.head?) = false) :
    words (c :: d :: after) = extendFirst c (words (d :: after)) := by
  rw [words]
  simp [hc, hd]

end

/-- The first word of a text that does not begin with a separator begins where the text does. -/
theorem exists_words_cons {c : Char} (hc : isSeparator c = false) (rest : List Char) :
    ∃ w ws, words (c :: rest) = (c :: w) :: ws ∧ w <+: rest := by
  induction rest generalizing c with
  | nil => exact ⟨[], [], words_singleton hc, List.nil_prefix⟩
  | cons d after ih =>
    cases hd : isSeparator d || startsWord c d after.head? with
    | true => exact ⟨[], _, words_break hc hd, List.nil_prefix⟩
    | false =>
      obtain ⟨w, ws, hwords, hw⟩ := ih (Bool.or_eq_false_iff.mp hd).1
      refine ⟨d :: w, ws, ?_, List.cons_prefix_cons.mpr ⟨rfl, hw⟩⟩
      rw [words_extend hc hd, hwords]
      rfl

theorem flatten_extendFirst (c : Char) (ws : List (List Char)) : (extendFirst c ws).flatten = c :: ws.flatten := by
  cases ws <;> rfl

/-- The words of a text are all of it but the separators. -/
theorem words_flatten (cs : List Char) : (words cs).flatten = cs.filter (!isSeparator ·) := by
  fun_induction words cs with
  | case1 => rfl
  | case2 c rest hc ih => simpa [hc] using ih
  | case3 c hc => simp [hc]
  | case4 c hc d after hbreak ih => simpa [hc] using ih
  | case5 c hc d after hbreak ih => simpa [hc, flatten_extendFirst] using ih

theorem mem_of_mem_words {cs w : List Char} (hw : w ∈ words cs) {c : Char} (hc : c ∈ w) :
    c ∈ cs ∧ isSeparator c = false := by
  have hflat : c ∈ (words cs).flatten := List.mem_flatten.mpr ⟨w, hw, hc⟩
  rw [words_flatten] at hflat
  simpa using List.mem_filter.mp hflat

private theorem signs_stay : isLower '_' = false ∧ lower '_' = ['_'] ∧ lower '/' = ['/'] := by
  decide

/-- An underscore makes no capital before it the first letter of a word. -/
private theorem startsWord_underscore (before c : Char) (front back : List Char) :
    startsWord before c (front ++ '_' :: back).head? = startsWord before c front.head? := by
  cases front with
  | nil => simp [startsWord, signs_stay.1]
  | cons d front => rfl

/-- The underscore ends a word, and begins none. -/
theorem words_append_underscore (front back : List Char) :
    words (front ++ '_' :: back) = words front ++ words back := by
  have hunderscore : isSeparator '_' = true := by decide
  fun_induction words front with
  | case1 => exact words_separator hunderscore
  | case2 c rest hc ih => rwa [List.cons_append, words_separator hc]
  | case3 c hc =>
    have hbreak : (isSeparator '_' || startsWord c '_' back.head?) = true := by simp [hunderscore]
    rw [List.cons_append, List.nil_append, words_break (by simpa using hc) hbreak, words_separator hunderscore]
    rfl
  | case4 c hc d after hbreak ih =>
    rw [← startsWord_underscore c d after back] at hbreak
    simp only [List.cons_append] at ih ⊢
    rw [words_break (by simpa using hc) hbreak, ih]
  | case5 c hc d after hbreak ih =>
    have hextend : (isSeparator d || startsWord c d after.head?) = false := by simpa using hbreak
    obtain ⟨w, ws, hwords, -⟩ := exists_words_cons (Bool.or_eq_false_iff.mp hextend).1 after
    rw [← startsWord_underscore c d after back] at hextend
    simp only [List.cons_append] at ih ⊢
    rw [words_extend (by simpa using hc) hextend, ih, hwords]
    rfl

/-- A capital that begins no word does not begin one at the end of a text either. -/
theorem startsWord_none {before c : Char} {after : Option Char} (h : startsWord before c after = false) :
    startsWord before c none = false := by
  simp only [startsWord, Option.any_none, Bool.and_false, Bool.or_false, Bool.and_eq_false_iff,
    Bool.or_eq_false_iff] at h ⊢
  tauto

/-- A word is the only word in itself. -/
theorem words_of_mem_words (cs : List Char) : ∀ w ∈ words cs, words w = [w] := by
  fun_induction words cs with
  | case1 => exact fun w h => absurd h List.not_mem_nil
  | case2 c rest hc ih => exact ih
  | case3 c hc => exact List.forall_mem_singleton.mpr (words_singleton (by simpa using hc))
  | case4 c hc d after hbreak ih =>
    exact List.forall_mem_cons.mpr ⟨words_singleton (by simpa using hc), ih⟩
  | case5 c hc d after hbreak ih =>
    obtain ⟨hd, hstart⟩ := Bool.or_eq_false_iff.mp (by simpa using hbreak)
    obtain ⟨v, ws, hwords, hv⟩ := exists_words_cons hd after
    rw [hwords] at ih ⊢
    obtain ⟨hfirst, hothers⟩ := List.forall_mem_cons.mp ih
    refine List.forall_mem_cons.mpr ⟨?_, hothers⟩
    -- the word ends earlier than the text, which only makes fewer words begin
    have hnext : startsWord c d v.head? = false := by
      cases v with
      | nil => exact startsWord_none hstart
      | cons e v =>
        obtain ⟨tail, rfl⟩ := hv
        exact hstart
    rw [words_extend (by simpa using hc) (Bool.or_eq_false_iff.mpr ⟨hd, hnext⟩), hfirst]
    rfl

theorem ne_nil_of_mem_words {cs w : List Char} (h : w ∈ words cs) : w ≠ [] := by
  rintro rfl
  cases words_of_mem_words cs [] h

/-- Words that are put together with underscores are found again. -/
theorem words_intercalate {ws : List (List Char)} (h : ∀ w ∈ ws, words w = [w]) :
    words (['_'].intercalate ws) = ws := by
  induction ws with
  | nil => rfl
  | cons w ws ih =>
    obtain ⟨hw, hws⟩ := List.forall_mem_cons.mp h
    cases ws with
    | nil => rw [List.intercalate_singleton, hw]
    | cons v vs =>
      rw [List.intercalate_cons_cons, List.append_assoc, List.singleton_append, words_append_underscore, hw, ih hws]
      rfl

/-! ### Joined words -/

theorem mem_intercalate {sep d : Char} {ws : List (List Char)} (h : d ∈ [sep].intercalate ws) :
    d = sep ∨ ∃ w ∈ ws, d ∈ w := by
  induction ws with
  | nil => cases h
  | cons w ws ih =>
    cases ws with
    | nil => exact .inr ⟨w, List.mem_cons_self, by rwa [List.intercalate_singleton] at h⟩
    | cons v vs =>
      rw [List.intercalate_cons_cons, List.append_assoc, List.singleton_append] at h
      rcases List.mem_append.mp h with h | h
      · exact .inr ⟨w, List.mem_cons_self, h⟩
      · rcases List.mem_cons.mp h with rfl | h
        · exact .inl rfl
        · exact (ih h).imp_right fun ⟨u, hu, hd⟩ => ⟨u, List.mem_cons_of_mem w hu, hd⟩

theorem mem_intercalate_of_mem {sep d : Char} {w : List Char} {ws : List (List Char)} (hw : w ∈ ws) (hd : d ∈ w) :
    d ∈ [sep].intercalate ws := by
  induction ws with
  | nil => cases hw
  | cons v ws ih =>
    cases ws with
    | nil =>
      obtain rfl := List.mem_singleton.mp hw
      rwa [List.intercalate_singleton]
    | cons u us =>
      rw [List.intercalate_cons_cons, List.append_assoc]
      rcases List.mem_cons.mp hw with rfl | hw
      · exact List.mem_append_left _ hd
      · exact List.mem_append_right _ (List.mem_append_right _ (ih hw))

theorem intercalate_extend (sep c : Char) (w : List Char) (ws : List (List Char)) :
    [sep].intercalate ((c :: w) :: ws) = c :: [sep].intercalate (w :: ws) := by
  cases ws with
  | nil => simp [List.intercalate_singleton]
  | cons v vs => simp [List.intercalate_cons_cons]

/-- What comes first is in a word, if no word is empty. -/
theorem head?_intercalate {sep d : Char} {ws : List (List Char)} (hne : ∀ w ∈ ws, w ≠ [])
    (h : ([sep].intercalate ws).head? = some d) : ∃ w ∈ ws, d ∈ w := by
  cases ws with
  | nil => cases h
  | cons w ws =>
    obtain ⟨c, cs, rfl⟩ := List.exists_cons_of_ne_nil (hne w List.mem_cons_self)
    rw [intercalate_extend] at h
    cases h
    exact ⟨_, List.mem_cons_self, List.mem_cons_self⟩

/-- What comes last is in a word, if no word is empty. -/
theorem getLast?_intercalate {sep d : Char} {ws : List (List Char)} (hne : ∀ w ∈ ws, w ≠ [])
    (h : ([sep].intercalate ws).getLast? = some d) : ∃ w ∈ ws, d ∈ w := by
  induction ws with
  | nil => cases h
  | cons w ws ih =>
    cases ws with
    | nil =>
      rw [List.intercalate_singleton] at h
      exact ⟨w, List.mem_cons_self, List.mem_of_getLast? h⟩
    | cons v vs =>
      obtain ⟨-, hrest⟩ := List.forall_mem_cons.mp hne
      obtain ⟨c, cs, hv⟩ := List.exists_cons_of_ne_nil (hrest v List.mem_cons_self)
      have hback : [sep].intercalate (v :: vs) ≠ [] :=
        List.ne_nil_of_mem (mem_intercalate_of_mem List.mem_cons_self (by rw [hv]; exact List.mem_cons_self))
      rw [List.intercalate_cons_cons, List.getLast?_append_of_ne_nil _ hback] at h
      obtain ⟨u, hu, hd⟩ := ih hrest h
      exact ⟨u, List.mem_cons_of_mem w hu, hd⟩

/-- Words that are put together can be told apart again, if none is empty or has the separator in it. -/
theorem intercalate_injective {sep : Char} {ws vs : List (List Char)} (hws : ∀ w ∈ ws, w ≠ [] ∧ sep ∉ w)
    (hvs : ∀ v ∈ vs, v ≠ [] ∧ sep ∉ v) (h : [sep].intercalate ws = [sep].intercalate vs) : ws = vs := by
  have hnil {us : List (List Char)} (hus : ∀ u ∈ us, u ≠ [] ∧ sep ∉ u) (hempty : [sep].intercalate us = []) :
      us = [] := by
    cases us with
    | nil => rfl
    | cons u us =>
      obtain ⟨c, hc⟩ := List.exists_mem_of_ne_nil u (hus u List.mem_cons_self).1
      have hmem : c ∈ [sep].intercalate (u :: us) := mem_intercalate_of_mem List.mem_cons_self hc
      cases hempty ▸ hmem
  by_cases hnone : vs = []
  · subst hnone
    exact hnil hws h
  · have hsome : ws ≠ [] := by
      rintro rfl
      exact hnone (hnil hvs h.symm)
    rw [← List.splitOn_intercalate sep (fun w hw => (hws w hw).2) hsome, h,
      List.splitOn_intercalate sep (fun v hv => (hvs v hv).2) hnone]

end Naming

open Naming Text

/-! ### Conversion -/

theorem snakeCase_toList (name : String) :
    (snakeCase name).toList = ['_'].intercalate ((words name.toList).map lowerWord) :=
  String.toList_ofList

theorem lowered_snakeCase (name : String) : Lowered (snakeCase name).toList := by
  rw [snakeCase_toList]
  intro d hd
  rcases mem_intercalate hd with rfl | ⟨w, hw, hd⟩
  · exact signs_stay.2.1
  · obtain ⟨v, -, rfl⟩ := List.mem_map.mp hw
    exact lowered_lowerWord v d hd

/-- Converting a name in lowercase only puts underscores between its words. -/
theorem snakeCase_of_lowered {name : String} (h : Lowered name.toList) :
    (snakeCase name).toList = ['_'].intercalate (words name.toList) := by
  have hwords : ∀ w ∈ words name.toList, lowerWord w = w :=
    fun w hw => lowerWord_of_lowered fun c hc => h c (mem_of_mem_words hw hc).1
  rw [snakeCase_toList, List.map_congr_left hwords, List.map_id']

/-- A third conversion finds the words that the second made. -/
theorem snakeCase_of_twice (name : String) :
    snakeCase (snakeCase (snakeCase name)) = snakeCase (snakeCase name) := by
  refine String.toList_injective ?_
  have htwice := snakeCase_of_lowered (lowered_snakeCase name)
  rw [snakeCase_of_lowered (lowered_snakeCase (snakeCase name)), htwice,
    words_intercalate (words_of_mem_words _)]

/-- A converted name has a slash exactly if the name has. -/
theorem slash_mem_snakeCase (name : String) : '/' ∈ (snakeCase name).toList ↔ '/' ∈ name.toList := by
  rw [snakeCase_toList]
  constructor
  · intro h
    rcases mem_intercalate h with h | ⟨w, hw, hd⟩
    · exact absurd h (by decide)
    · obtain ⟨v, hv, rfl⟩ := List.mem_map.mp hw
      exact (mem_of_mem_words hv (mem_of_mem_lowerWord hd (by decide))).1
  · intro h
    have hflat : '/' ∈ (words name.toList).flatten := by
      rw [words_flatten]
      exact List.mem_filter.mpr ⟨h, by decide⟩
    obtain ⟨w, hw, hd⟩ := List.mem_flatten.mp hflat
    exact mem_intercalate_of_mem (List.mem_map_of_mem hw) (mem_lowerWord hd signs_stay.2.2)

/-- A converted word is not empty, and a separator that is a sign of ASCII is not in it. -/
theorem converted_words {sep : Char} (hsep : isSeparator sep = true) (hsign : sep < 'a') (name : String) :
    ∀ w ∈ (words name.toList).map lowerWord, w ≠ [] ∧ sep ∉ w := by
  refine List.forall_mem_map.mpr fun w hw => ⟨lowerWord_ne_nil (ne_nil_of_mem_words hw), fun hmem => ?_⟩
  cases hsep.symm.trans (mem_of_mem_words hw (mem_of_mem_lowerWord hmem hsign)).2

/-- A converted name neither begins nor ends with an underscore. -/
theorem snakeCase_ends (name : String) :
    (snakeCase name).toList.head? ≠ some '_' ∧ (snakeCase name).toList.getLast? ≠ some '_' := by
  rw [snakeCase_toList]
  have hsep : isSeparator '_' = true := by decide
  have hwords := converted_words hsep (by decide) name
  have hne : ∀ w ∈ (words name.toList).map lowerWord, w ≠ [] := fun w hw => (hwords w hw).1
  constructor
  · intro h
    obtain ⟨w, hw, hd⟩ := head?_intercalate hne h
    exact (hwords w hw).2 hd
  · intro h
    obtain ⟨w, hw, hd⟩ := getLast?_intercalate hne h
    exact (hwords w hw).2 hd

/-! ### Capitals -/

set_option maxRecDepth 8000 in
private theorem upperExpansions_capital : ∀ e ∈ upperExpansions, e.2 ≠ [] ∧
    ∀ n ∈ e.2, ¬('a' ≤ Char.ofNat n ∧ Char.ofNat n ≤ 'z') := by
  decide

set_option maxRecDepth 8000 in
private theorem upperShifts_capital : ∀ s ∈ upperShifts,
    (s.run.last + s.distance).toNat < 'a'.toNat ∨ 'z'.toNat < (s.run.first + s.distance).toNat := by
  decide

private theorem upper_lowercase : ∀ n < 123, 97 ≤ n → upper (Char.ofNat n) ≠ [Char.ofNat n] := by
  decide

/-- No uppercase form is a lowercase letter of ASCII. -/
theorem not_lowercase_of_mem_upper {c d : Char} (h : d ∈ upper c) : ¬('a' ≤ d ∧ d ≤ 'z') := by
  rintro ⟨hlow, hhigh⟩
  have hbounds : 97 ≤ d.toNat ∧ d.toNat ≤ 122 := ⟨hlow, hhigh⟩
  unfold upper at h
  rcases mapCase_cases upperShifts upperExpansions c with ⟨ns, hns, himage⟩ | hstays | ⟨s, hs, hcontains, hmoved⟩
  · rw [himage, List.mem_map] at h
    obtain ⟨n, hn, rfl⟩ := h
    exact (upperExpansions_capital (c.toNat, ns) hns).2 n hn ⟨hlow, hhigh⟩
  · rw [hstays, List.mem_singleton] at h
    subst h
    exact upper_lowercase d.toNat (by omega) hbounds.1 (by rwa [Char.ofNat_toNat])
  · rw [hmoved, List.mem_singleton] at h
    have hrange := upperShifts_capital s hs
    obtain ⟨hfirst, hlast, -⟩ := Run.contains_iff.mp hcontains
    have ha : 'a'.toNat = 97 := rfl
    have hz : 'z'.toNat = 122 := rfl
    rw [h, toNat_ofNat] at hbounds
    split_ifs at hbounds <;> omega

theorem upper_ne_nil (c : Char) : upper c ≠ [] :=
  mapCase_ne_nil upperShifts (fun e he => (upperExpansions_capital e he).1) c

/-- The name of a type does not begin with a lowercase letter of ASCII. -/
theorem pascalCase_head {name : String} {d : Char} (h : (pascalCase name).toList.head? = some d) :
    ¬('a' ≤ d ∧ d ≤ 'z') := by
  rw [pascalCase, String.toList_ofList] at h
  cases hwords : words name.toList with
  | nil => simp [hwords] at h
  | cons w ws =>
    obtain ⟨c, rest, rfl⟩ := List.exists_cons_of_ne_nil (ne_nil_of_mem_words (hwords ▸ List.mem_cons_self))
    obtain ⟨e, es, hupper⟩ := List.exists_cons_of_ne_nil (upper_ne_nil c)
    obtain rfl : e = d := by simpa [hwords, capitalize, hupper] using h
    exact not_lowercase_of_mem_upper (hupper ▸ List.mem_cons_self)

end ServiceBindings
