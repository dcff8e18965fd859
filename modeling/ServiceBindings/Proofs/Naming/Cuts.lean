import ServiceBindings.Proofs.Naming

/-!
Where names are cut. The words of a name are all of it but the separators, and between two letters that stand next to
each other a word ends exactly at a capital after a lowercase letter or a digit, and before the last capital of an
acronym.
-/

namespace ServiceBindings

namespace Naming

open Text

/-- The number of the word in which a letter stands, with letters counted from the first word on. -/
def wordAt : List (List Char) → Nat → Nat
  | [], _ => 0
  | w :: ws, n => if n < w.length then 0 else wordAt ws (n - w.length) + 1

@[simp] theorem wordAt_zero_cons (c : Char) (w : List Char) (ws : List (List Char)) :
    wordAt ((c :: w) :: ws) 0 = 0 := by
  simp [wordAt]

@[simp] theorem wordAt_nil_cons (ws : List (List Char)) (n : Nat) : wordAt ([] :: ws) n = wordAt ws n + 1 := by
  simp [wordAt]

/-- A letter in front of the first word moves the others by one place. -/
@[simp] theorem wordAt_succ_cons (c : Char) (w : List Char) (ws : List (List Char)) (n : Nat) :
    wordAt ((c :: w) :: ws) (n + 1) = wordAt (w :: ws) n := by
  simp [wordAt]

private theorem blanks_not_lowercase : ∀ r ∈ blanks, ∀ n ∈ List.range' r.first (r.last + 1 - r.first),
    memRuns lowercaseLetters n = false := by
  decide +kernel

/-- A lowercase letter separates nothing, so that what comes after a separator decides no cut before it. -/
theorem not_isSeparator_of_isLower {c : Char} (hc : isLower c = true) : isSeparator c = false := by
  by_contra hsep
  simp only [isSeparator, Bool.not_eq_false, Bool.or_eq_true, decide_eq_true_eq] at hsep
  rcases hsep with (rfl | rfl) | hblank
  · exact absurd hc (by decide)
  · exact absurd hc (by decide)
  · obtain ⟨r, hr, hlo, hhi⟩ := exists_run_of_memRuns hblank
    have hnot := blanks_not_lowercase r hr c.toNat (List.mem_range'_1.mpr (by omega))
    exact absurd (hc.symm.trans hnot) (by decide)

/-- A word starts at an uppercase letter after a lowercase letter or a digit, and at the last capital of an acronym: the
one that a lowercase letter of the same run follows. -/
theorem startsWord_iff {before c : Char} {after : List Char} :
    startsWord before c after.head? = true ↔
      isUpper c = true ∧ (isLower before = true ∨ before.isDigit = true ∨
        isUpper before = true ∧ ∃ e ∈ after.head?, isSeparator e = false ∧ isLower e = true) := by
  have hnext : after.head?.any isLower = true ↔ ∃ e ∈ after.head?, isSeparator e = false ∧ isLower e = true := by
    rw [Option.any_eq_true]
    exact exists_congr fun e => and_congr_right fun _ => ⟨fun h => ⟨not_isSeparator_of_isLower h, h⟩, And.right⟩
  simp only [startsWord, Bool.and_eq_true, Bool.or_eq_true, hnext, or_assoc]

/-- Two letters that stand next to each other are in different words exactly if a word starts at the second. -/
theorem wordAt_ne_iff (front : List Char) {c d : Char} (after : List Char) (hc : isSeparator c = false)
    (hd : isSeparator d = false) :
    let n := (front.filter (!isSeparator ·)).length
    let ws := words (front ++ c :: d :: after)
    wordAt ws n ≠ wordAt ws (n + 1) ↔ startsWord c d after.head? = true := by
  induction front with
  | nil =>
    cases hstart : startsWord c d after.head? with
    | true => simp [words_break hc (show (isSeparator d || startsWord c d after.head?) = true by simp [hstart])]
    | false =>
      obtain ⟨w, ws, hwords, -⟩ := exists_words_cons hd after
      have hextend := words_extend hc (show (isSeparator d || startsWord c d after.head?) = false by simp [hd, hstart])
      simp [hextend, hwords, extendFirst]
  | cons x front ih =>
    cases hx : isSeparator x with
    | true => simpa [hx, words_separator hx] using ih
    | false =>
      obtain ⟨y, rest, hrest⟩ := List.exists_cons_of_ne_nil (show front ++ c :: d :: after ≠ [] by simp)
      cases hbreak : isSeparator y || startsWord x y rest.head? with
      | true =>
        have hwords := words_break hx hbreak
        rw [← hrest] at hwords
        simpa [hx, hwords] using ih
      | false =>
        have hwords := words_extend hx hbreak
        obtain ⟨w, ws, hfirst, -⟩ := exists_words_cons (Bool.or_eq_false_iff.mp hbreak).1 rest
        rw [← hrest] at hwords hfirst
        simpa [hx, hwords, hfirst, extendFirst] using ih

end Naming

open Naming Text

/-- Cutting a name into words loses nothing but separators. No word is empty or has a separator in it, and of two
letters that stand next to each other the second is in another word exactly if it is an uppercase letter, and the
first a lowercase letter, a digit of ASCII, or an uppercase one while the second is followed by a lowercase letter
of the same run. -/
theorem nameWords_cut (name : String) :
    (nameWords name).flatMap String.toList = name.toList.filter (!isSeparator ·) ∧
    (∀ w ∈ nameWords name, w ≠ "" ∧ ∀ c ∈ w.toList, isSeparator c = false) ∧
    ∀ front c d after, name.toList = front ++ c :: d :: after → isSeparator c = false → isSeparator d = false →
      let n := (front.filter (!isSeparator ·)).length
      let ws := (nameWords name).map String.toList
      (wordAt ws n ≠ wordAt ws (n + 1) ↔
        isUpper d = true ∧ (isLower c = true ∨ c.isDigit = true ∨
          isUpper c = true ∧ ∃ e ∈ after.head?, isSeparator e = false ∧ isLower e = true)) := by
  have hlists : (nameWords name).map String.toList = words name.toList := by
    simp [nameWords, Function.comp_def]
  refine ⟨?_, ?_, ?_⟩
  · rw [List.flatMap, hlists, words_flatten]
  · refine List.forall_mem_map.mpr fun w hw => ⟨?_, ?_⟩
    · simpa using ne_nil_of_mem_words hw
    · rw [String.toList_ofList]
      exact fun c hc => (mem_of_mem_words hw hc).2
  · intro front c d after hname hc hd n ws
    rw [show ws = words (front ++ c :: d :: after) by rw [← hname, ← hlists]]
    rw [← startsWord_iff]
    exact wordAt_ne_iff front after hc hd

/-- An acronym ends before the capital that a lowercase letter follows. -/
theorem acronym_is_cut :
    let ws := (nameWords "HTTPClient").map String.toList
    "HTTPClient".toList = ['H', 'T', 'T'] ++ 'P' :: 'C' :: ['l', 'i', 'e', 'n', 't'] ∧ isSeparator 'P' = false ∧
      isSeparator 'C' = false ∧ wordAt ws 3 ≠ wordAt ws 4 := by
  intro ws
  have hname : "HTTPClient".toList = ['H', 'T', 'T'] ++ 'P' :: 'C' :: ['l', 'i', 'e', 'n', 't'] := by decide
  have hp : isSeparator 'P' = false := by decide
  have hc : isSeparator 'C' = false := by decide
  refine ⟨hname, hp, hc, ?_⟩
  obtain ⟨_, _, hcut⟩ := nameWords_cut "HTTPClient"
  exact (hcut _ 'P' 'C' _ hname hp hc).mpr ⟨by decide, .inr (.inr ⟨by decide, 'l', rfl, by decide, by decide⟩)⟩

end ServiceBindings
