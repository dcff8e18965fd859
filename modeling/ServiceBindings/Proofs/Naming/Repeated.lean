import ServiceBindings.Proofs.Naming.Cuts
import ServiceBindings.Proofs.Text.Letters

/-!
Repeated conversion. The second conversion of a name cuts the words that the first one put in lowercase. It finds them
whole unless a capital without a lowercase form stands where a word in lowercase would end.
-/

namespace ServiceBindings

namespace Naming

open Text

/-! ### Whole words -/

/-- A word goes on as long as none starts at its next letter. -/
theorem words_cons_eq_singleton {c d : Char} {after : List Char} (hc : isSeparator c = false)
    (hd : isSeparator d = false) :
    words (c :: d :: after) = [c :: d :: after] ↔
      startsWord c d after.head? = false ∧ words (d :: after) = [d :: after] := by
  cases hstart : startsWord c d after.head? with
  | true => simp [words_break hc (show (isSeparator d || startsWord c d after.head?) = true by simp [hstart])]
  | false =>
    obtain ⟨w, ws, hwords, -⟩ := exists_words_cons hd after
    rw [words_extend hc (by simp [hd, hstart]), hwords]
    simp [extendFirst]

theorem not_isSeparator_of_whole {w : List Char} (hw : words w = [w]) : ∀ c ∈ w, isSeparator c = false :=
  fun _ hc => (mem_of_mem_words (hw ▸ List.mem_singleton_self w) hc).2

/-- Whether a word that goes on from `c` to a capital without a lowercase form ends there in lowercase: `c` becomes a
lowercase letter, or it is such a capital too and what comes `after` becomes a lowercase letter. -/
def EndsLowered (c : Char) (after : Option Char) : Prop :=
  (lower c ≠ [c] ∧ c ≠ dottedCapital) ∨ (isLoneCapital c = true ∧ ∃ e ∈ after, lower e ≠ [e])

/-- Whether a word remains one in lowercase: it ends before none of its capitals without a lowercase form. -/
def StaysWhole (w : List Char) : Prop :=
  ∀ c d after, c :: d :: after <:+ w → isLoneCapital d = true → ¬EndsLowered c after.head?

theorem staysWhole_singleton (c : Char) : StaysWhole [c] := by
  intro a d after hsuffix
  have hlength := hsuffix.length_le
  simp at hlength

theorem staysWhole_cons_cons {c d : Char} {after : List Char} :
    StaysWhole (c :: d :: after) ↔
      (isLoneCapital d = true → ¬EndsLowered c after.head?) ∧ StaysWhole (d :: after) := by
  constructor
  · intro h
    exact ⟨h c d after List.suffix_rfl, fun a b back hsuffix => h a b back (hsuffix.trans (List.suffix_cons c _))⟩
  · rintro ⟨hfirst, hrest⟩ a b back hsuffix
    rcases List.suffix_cons_iff.mp hsuffix with heq | hsuffix
    · cases heq
      exact hfirst
    · exact hrest a b back hsuffix

/-! ### Words in lowercase -/

private theorem dot_in_word : isSeparator '\u0307' = false ∧ isLower '\u0307' = false ∧ isUpper '\u0307' = false ∧
    isSeparator 'i' = false ∧ lower dottedCapital ≠ [dottedCapital] := by
  decide

theorem not_isSeparator_of_lowering {c : Char} {image : List Char} (h : Lowering c image)
    (hc : isSeparator c = false) : ∀ d ∈ image, isSeparator d = false := by
  cases h with
  | same => exact List.forall_mem_singleton.mpr hc
  | letter _ _ hd => exact List.forall_mem_singleton.mpr (not_isSeparator_of_isLower hd)
  | dotted => simp [dot_in_word]

/-- In a text that was mapped to lowercase a word starts only at a capital without a lowercase form. It does after a
lowercase letter or a digit, and after another capital if what follows is or has become a lowercase letter. -/
theorem startsWord_lowered (before : List Char) {d : Char} (hd : isSeparator d = false) (after : List Char) :
    ∃ e rest, lowerAfter before (d :: after) = e :: rest ∧ isSeparator e = false ∧
      ∀ x, startsWord x e rest.head? = true ↔
        isLoneCapital d = true ∧ (isLower x = true ∨ x.isDigit = true ∨
          isUpper x = true ∧ ∃ f ∈ after.head?, isLower f = true ∨ lower f ≠ [f]) := by
  obtain ⟨image, himage, hcons⟩ := lowerAfter_cons before d after
  obtain ⟨e, tail, rfl, -, hupper⟩ := himage.head
  rw [List.cons_append] at hcons
  refine ⟨e, _, hcons, not_isSeparator_of_lowering himage hd e List.mem_cons_self, fun x => ?_⟩
  simp only [startsWord, Bool.and_eq_true, Bool.or_eq_true, hupper, or_assoc]
  refine and_congr_right fun hlone => ?_
  obtain ⟨rfl, rfl⟩ := List.cons.inj (himage.of_lone hlone)
  rw [List.nil_append, head?_lowerAfter]

/-- A letter within a word that stays as it is ends it in lowercase only because of what comes after the next one. -/
theorem endsLowered_of_same {c d : Char} {after : List Char} (hsame : lower c = [c]) (hd : isLoneCapital d = true)
    (hstart : startsWord c d after.head? = false) :
    (isLower c = true ∨ c.isDigit = true ∨
      isUpper c = true ∧ ∃ e ∈ after.head?, isLower e = true ∨ lower e ≠ [e]) ↔ EndsLowered c after.head? := by
  have hupper : isUpper d = true := (Bool.and_eq_true_iff.mp hd).1
  simp only [startsWord, hupper, Bool.true_and, Bool.or_eq_false_iff, Bool.and_eq_false_iff] at hstart
  obtain ⟨⟨hlower, hdigit⟩, hnext⟩ := hstart
  simp only [EndsLowered, hsame, hlower, hdigit, isLoneCapital, ne_eq, not_true_eq_false, false_and, false_or,
    Bool.false_eq_true, beq_self_eq_true, Bool.and_true]
  refine and_congr_right fun hc => exists_congr fun e => and_congr_right fun he => ?_
  have hsmall : isLower e = false := by
    rcases hnext with hnone | hnone
    · exact absurd (hc.symm.trans hnone) (by decide)
    · rw [Option.mem_def.mp he] at hnone
      exact hnone
  simp [hsmall]

/-- A word is one in lowercase if its rest is, and if it does not end at its first letter. -/
theorem words_lowerAfter_cons_cons (before : List Char) {c d : Char} {after : List Char}
    (hw : words (c :: d :: after) = [c :: d :: after]) :
    words (lowerAfter before (c :: d :: after)) = [lowerAfter before (c :: d :: after)] ↔
      (isLoneCapital d = true → ¬EndsLowered c after.head?) ∧
        words (lowerAfter (c :: before) (d :: after)) = [lowerAfter (c :: before) (d :: after)] := by
  have hsep := not_isSeparator_of_whole hw
  have hc : isSeparator c = false := hsep c List.mem_cons_self
  have hd : isSeparator d = false := hsep d (by simp)
  obtain ⟨hstart, -⟩ := (words_cons_eq_singleton hc hd).mp hw
  obtain ⟨image, himage, hcons⟩ := lowerAfter_cons before c (d :: after)
  obtain ⟨e, rest, hback, he, hbreak⟩ := startsWord_lowered (c :: before) hd after
  rw [hcons, hback]
  cases himage with
  | same hsame =>
    rw [List.singleton_append, words_cons_eq_singleton hc he]
    refine and_congr_left fun _ => ?_
    rw [← Bool.not_eq_true, hbreak, not_and]
    exact forall_congr' fun hlone => not_congr (endsLowered_of_same hsame hlone hstart)
  | letter hother hdotted hx =>
    rw [List.singleton_append, words_cons_eq_singleton (not_isSeparator_of_isLower hx) he]
    refine and_congr_left fun _ => ?_
    rw [← Bool.not_eq_true, hbreak]
    simp [hx, EndsLowered, hother, hdotted]
  | dotted hdotted =>
    subst hdotted
    have hdot : startsWord '\u0307' e rest.head? = false := by
      rw [← Bool.not_eq_true, hbreak]
      simp [dot_in_word, show ('\u0307' : Char).isDigit = false by decide]
    have hi (next : Option Char) : startsWord 'i' '\u0307' next = false := by simp [startsWord, dot_in_word]
    have hends : ¬EndsLowered dottedCapital after.head? := by simp [EndsLowered, isLoneCapital, dot_in_word]
    rw [List.cons_append, List.singleton_append, words_cons_eq_singleton dot_in_word.2.2.2.1 dot_in_word.1,
      words_cons_eq_singleton dot_in_word.1 he]
    simp [hdot, hi, hends]

/-- A word is still one word in lowercase exactly if it stays whole. -/
theorem words_lowerAfter_iff (before : List Char) {w : List Char} (hw : words w = [w]) :
    words (lowerAfter before w) = [lowerAfter before w] ↔ StaysWhole w := by
  induction w generalizing before with
  | nil => cases hw
  | cons c rest ih =>
    have hsep := not_isSeparator_of_whole hw
    have hc : isSeparator c = false := hsep c List.mem_cons_self
    cases rest with
    | nil =>
      refine iff_of_true ?_ (staysWhole_singleton c)
      obtain ⟨image, himage, hcons⟩ := lowerAfter_cons before c []
      rw [hcons, lowerAfter, List.append_nil]
      cases himage with
      | same => exact words_singleton hc
      | letter _ _ hx => exact words_singleton (not_isSeparator_of_isLower hx)
      | dotted => decide
    | cons d after =>
      have hd : isSeparator d = false := hsep d (by simp)
      obtain ⟨-, hrest⟩ := (words_cons_eq_singleton hc hd).mp hw
      rw [words_lowerAfter_cons_cons before hw, ih (c :: before) hrest, staysWhole_cons_cons]

end Naming

open Naming Text

/-! ### Converted names -/

/-- Converting a name twice is converting it once exactly if the second conversion finds each word of the first. -/
theorem snakeCase_twice_iff_words (name : String) :
    snakeCase (snakeCase name) = snakeCase name ↔
      ∀ w ∈ words name.toList, words (lowerWord w) = [lowerWord w] := by
  have htwice := snakeCase_of_lowered (lowered_snakeCase name)
  have honce := snakeCase_toList name
  constructor
  · intro h w hw
    have hunderscore : isSeparator '_' = true := by decide
    have hjoined : ['_'].intercalate ((words name.toList).map lowerWord) =
        ['_'].intercalate (words (snakeCase name).toList) := by
      rw [← honce, ← htwice, h]
    have hfound : (words name.toList).map lowerWord = words (snakeCase name).toList := by
      refine intercalate_injective (converted_words hunderscore (by decide) name) (fun v hv => ?_) hjoined
      refine ⟨ne_nil_of_mem_words hv, fun hmem => ?_⟩
      cases hunderscore.symm.trans (mem_of_mem_words hv hmem).2
    exact words_of_mem_words _ _ (hfound ▸ List.mem_map_of_mem hw)
  · intro h
    refine String.toList_injective ?_
    rw [htwice, honce, words_intercalate (List.forall_mem_map.mpr h)]

/-- A name is converted once and for all if each of its capitals has a lowercase form. -/
theorem snakeCase_twice_of_paired {name : String} (h : ∀ c ∈ name.toList, isLoneCapital c = false) :
    snakeCase (snakeCase name) = snakeCase name := by
  refine (snakeCase_twice_iff_words name).mpr fun w hw => ?_
  refine (words_lowerAfter_iff [] (words_of_mem_words _ w hw)).mpr fun c d after hsuffix hd => ?_
  have hmem : d ∈ w := hsuffix.subset (by simp)
  cases hd.symm.trans (h d (mem_of_mem_words hw hmem).1)

/-- Converting a name twice is converting it once exactly if its words stay whole in lowercase: in none of them does a
capital without a lowercase form come after a letter that has another lowercase form, other than `İ`, or between a
second capital without one and such a letter. -/
theorem snakeCase_twice_iff (name : String) :
    snakeCase (snakeCase name) = snakeCase name ↔ ∀ w ∈ nameWords name, StaysWhole w.toList := by
  have hwhole (w : List Char) (hw : w ∈ words name.toList) : words (lowerWord w) = [lowerWord w] ↔ StaysWhole w :=
    words_lowerAfter_iff [] (words_of_mem_words _ w hw)
  rw [snakeCase_twice_iff_words, forall₂_congr hwhole]
  simp [nameWords]

/-- Only the second conversion cuts a word between a capital that it finds in lowercase and one that has no such form;
two capitals of the latter kind remain together. -/
theorem lone_capital_cut_later :
    snakeCase "Aℂ" = "aℂ" ∧ snakeCase "aℂ" = "a_ℂ" ∧ snakeCase (snakeCase "Aℂ") ≠ snakeCase "Aℂ" ∧
      snakeCase (snakeCase "ℝℂ") = snakeCase "ℝℂ" := by
  have hletters : lower 'A' ≠ ['A'] ∧ 'A' ≠ dottedCapital ∧ isLoneCapital 'ℂ' = true := by decide
  have hwords : nameWords "Aℂ" = ["Aℂ"] ∧ nameWords "ℝℂ" = ["ℝℂ"] := by decide
  refine ⟨by decide, by decide, fun hsame => ?_, (snakeCase_twice_iff "ℝℂ").mpr ?_⟩
  · have hwhole := (snakeCase_twice_iff "Aℂ").mp hsame "Aℂ" (by simp [hwords])
    exact hwhole 'A' 'ℂ' [] List.suffix_rfl hletters.2.2 (.inl ⟨hletters.1, hletters.2.1⟩)
  · have hsame : "ℝℂ".toList = ['ℝ', 'ℂ'] ∧ lower 'ℝ' = ['ℝ'] := by decide
    rw [hwords.2, List.forall_mem_singleton, hsame.1]
    refine staysWhole_cons_cons.mpr ⟨fun _ => ?_, staysWhole_singleton 'ℂ'⟩
    simp [EndsLowered, hsame.2]

end ServiceBindings
