import Mathlib.Data.List.TakeWhile
import ServiceBindings.Code.Ident

/-!
How identifiers are written. A name denotes a word if it is the word with blanks and comments around it, possibly in
raw form; keywords denote what stands in for them. Reading a name finds the word that it denotes and no other, so two
names become one identifier exactly if they denote one word.
-/

namespace ServiceBindings.Code

open Text

/-! ### Characters -/

private theorem blanks_not_identifier : ∀ r ∈ blanks, ∀ n ∈ List.range' r.first (r.last + 1 - r.first),
    memRuns identifierStart n = false ∧ memRuns identifierContinue n = false := by
  decide +kernel

private theorem marks_not_identifier {c : Char} (hc : c = '\u200e' ∨ c = '\u200f' ∨ c = byteOrderMark) :
    startsIdentifier c = false ∧ continuesIdentifier c = false := by
  rcases hc with rfl | rfl | rfl
  · decide +kernel
  · decide +kernel
  · decide +kernel

/-- Blanks are no part of identifiers. -/
theorem not_identifier_of_isTokenBlank {c : Char} (hc : isTokenBlank c = true) :
    startsIdentifier c = false ∧ continuesIdentifier c = false := by
  simp only [isTokenBlank, Bool.or_eq_true, decide_eq_true_eq] at hc
  rcases hc with (hblank | rfl) | rfl
  · obtain ⟨r, hr, hlo, hhi⟩ := exists_run_of_memRuns hblank
    obtain ⟨hstart, hcontinue⟩ := blanks_not_identifier r hr c.toNat (List.mem_range'_1.mpr (by omega))
    have hunderscore : c ≠ '_' := by
      rintro rfl
      cases hblank
    exact ⟨by simp [startsIdentifier, hunderscore, hstart], hcontinue⟩
  · exact marks_not_identifier (.inl rfl)
  · exact marks_not_identifier (.inr (.inl rfl))

theorem dropMark_of_identifier {c : Char} (hc : startsIdentifier c = true ∨ continuesIdentifier c = true)
    (cs : List Char) : dropMark (c :: cs) = c :: cs := by
  have hne : c ≠ byteOrderMark := by
    rintro rfl
    simp [marks_not_identifier (.inr (.inr rfl))] at hc
  simp [dropMark, hne]

/-! ### Padding -/

/-- What is left of a text after some of the blanks and comments in front of it. -/
inductive Padding : List Char → List Char → Prop
  | none (cs : List Char) : Padding cs cs
  | blank {c : Char} {cs rest : List Char} (hc : isTokenBlank c = true) (hcs : Padding cs rest) :
      Padding (c :: cs) rest
  | comment {cs after rest : List Char} (hc : skipComment? cs = some after) (hafter : Padding after rest) :
      Padding cs rest

/-- Whether a text begins with neither a blank nor a comment. -/
structure Solid (cs : List Char) : Prop where
  blank : ∀ c ∈ cs.head?, isTokenBlank c = false
  comment : skipComment? cs = Option.none

private theorem length_skipLine (cs : List Char) : (skipLine cs).length ≤ cs.length := by
  fun_induction skipLine cs with
  | case1 => simp
  | case2 => simp
  | case3 c rest _ ih => simpa using Nat.le_succ_of_le ih

private theorem length_skipBlock? {depth : Nat} {cs rest : List Char} (hskip : skipBlock? depth cs = some rest) :
    rest.length < cs.length := by
  fun_induction skipBlock? depth cs with
  | case1 depth cs ih => exact Nat.lt_of_lt_of_le (ih hskip) (by simp; omega)
  | case2 depth cs hdepth =>
    cases hskip
    simp only [List.length_cons]
    omega
  | case3 depth cs hdepth ih => exact Nat.lt_of_lt_of_le (ih hskip) (by simp; omega)
  | case4 depth c cs _ _ ih => exact Nat.lt_of_lt_of_le (ih hskip) (by simp)
  | case5 => cases hskip

private theorem length_skipComment? {cs after : List Char} (hskip : skipComment? cs = some after) :
    after.length < cs.length := by
  unfold skipComment? at hskip
  split at hskip
  · next hline =>
    obtain ⟨rest, rfl⟩ := List.isPrefixOf_iff_prefix.mp hline
    split at hskip
    · cases hskip
    · obtain rfl := Option.some.inj hskip
      have hbody : skipLine (['/', '/'] ++ rest) = skipLine rest := by simp [skipLine]
      rw [hbody]
      exact Nat.lt_of_le_of_lt (length_skipLine rest) (by simp only [List.length_append, List.length_cons]; omega)
  · split at hskip
    · next hempty =>
      obtain ⟨rest, rfl⟩ := List.isPrefixOf_iff_prefix.mp hempty
      obtain rfl := Option.some.inj hskip
      simp only [List.length_drop, List.length_append, List.length_cons]
      omega
    · split at hskip
      · split at hskip
        · cases hskip
        · exact length_skipBlock? hskip
      · cases hskip

/-- What is dropped in front of a text is blanks and comments. -/
theorem padding_dropSpace (cs : List Char) : Padding cs (dropSpace cs) := by
  unfold dropSpace
  generalize cs.length = fuel
  induction fuel generalizing cs with
  | zero => exact .none cs
  | succ fuel ih =>
    unfold skipSpace
    cases hcomment : skipComment? cs with
    | some after => exact .comment hcomment (ih after)
    | none =>
      cases cs with
      | nil => exact .none []
      | cons c rest =>
        by_cases hblank : isTokenBlank c = true
        · simp only [hblank, if_true]
          exact .blank hblank (ih rest)
        · simp only [hblank]
          exact .none (c :: rest)

private theorem skipComment?_of_blank {c : Char} (hc : isTokenBlank c = true) (cs : List Char) :
    skipComment? (c :: cs) = none := by
  have hslash : c ≠ '/' := by
    rintro rfl
    cases hc
  simp [skipComment?, Ne.symm hslash]

/-- All blanks and comments are dropped in front of what begins with neither. -/
theorem dropSpace_of_padding {cs rest : List Char} (hpad : Padding cs rest) (hsolid : Solid rest) :
    dropSpace cs = rest := by
  unfold dropSpace
  generalize hfuel : cs.length = fuel
  have hle : cs.length ≤ fuel := Nat.le_of_eq hfuel
  clear hfuel
  induction hpad generalizing fuel with
  | none cs =>
    cases fuel with
    | zero => rfl
    | succ fuel =>
      unfold skipSpace
      rw [hsolid.comment]
      cases cs with
      | nil => rfl
      | cons c rest => simp [hsolid.blank c (by simp)]
  | blank hc hcs ih =>
    cases fuel with
    | zero => cases hle
    | succ fuel =>
      unfold skipSpace
      rw [skipComment?_of_blank hc]
      simp only [hc, if_true]
      exact ih hsolid fuel (by simpa using hle)
  | comment hc hafter ih =>
    have hshorter := length_skipComment? hc
    cases fuel with
    | zero => omega
    | succ fuel =>
      unfold skipSpace
      rw [hc]
      exact ih hsolid fuel (by omega)

theorem solid_nil : Solid [] :=
  ⟨by simp, rfl⟩

/-- Padding up to the end of a text is dropped altogether. -/
theorem dropSpace_eq_nil_iff {cs : List Char} : dropSpace cs = [] ↔ Padding cs [] :=
  ⟨fun h => h ▸ padding_dropSpace cs, fun h => dropSpace_of_padding h solid_nil⟩

/-! ### Words -/

/-- Whether a text is a word, that is an identifier or keyword without marks. -/
def IsWord (w : List Char) : Prop :=
  ∃ c rest, w = c :: rest ∧ startsIdentifier c = true ∧ ∀ d ∈ rest, continuesIdentifier d = true

/-- Whether a word that ends before a text goes no further. -/
def Ends (rest : List Char) : Prop :=
  ∀ c ∈ rest.head?, continuesIdentifier c = false

private theorem span_eq {p : Char → Bool} {body rest : List Char} (hbody : ∀ c ∈ body, p c = true)
    (hrest : ∀ c ∈ rest.head?, p c = false) :
    (body ++ rest).takeWhile p = body ∧ (body ++ rest).dropWhile p = rest := by
  rw [List.takeWhile_append_of_pos hbody, List.dropWhile_append_of_pos hbody]
  cases rest with
  | nil => simp
  | cons c rest => simp [hrest c (by simp)]

theorem takeWord?_eq_some_iff {cs w rest : List Char} :
    takeWord? cs = some (w, rest) ↔ IsWord w ∧ Ends rest ∧ cs = w ++ rest := by
  constructor
  · intro htake
    cases cs with
    | nil => cases htake
    | cons c tail =>
      by_cases hc : startsIdentifier c = true
      · simp only [takeWord?, if_pos hc, Option.some.injEq, Prod.mk.injEq] at htake
        obtain ⟨rfl, rfl⟩ := htake
        refine ⟨⟨c, _, rfl, hc, fun d hd => List.mem_takeWhile_imp hd⟩, ?_, by simp⟩
        intro d hd
        have hhead := List.head?_dropWhile_not continuesIdentifier tail
        rw [Option.mem_def.mp hd] at hhead
        simpa using hhead
      · simp [takeWord?, hc] at htake
  · rintro ⟨⟨c, body, rfl, hc, hbody⟩, hrest, rfl⟩
    obtain ⟨htake, hdrop⟩ := span_eq hbody hrest
    simp [takeWord?, hc, htake, hdrop]

/-! ### Names -/

/-- Whether a text is an identifier, followed by nothing but blanks and comments. -/
inductive Spells : Ident → List Char → Prop
  | word {w rest : List Char} (hw : IsWord w) (hends : Ends rest)
      (hfree : isReserved (String.ofList w) = false) (hrest : Padding rest []) :
      Spells ⟨String.ofList w, false⟩ (w ++ rest)
  | raw {w rest : List Char} (hw : IsWord w) (hends : Ends rest)
      (hfree : String.ofList w ≠ "_" ∧ String.ofList w ∉ pathKeywords) (hrest : Padding rest []) :
      Spells ⟨String.ofList w, true⟩ ('r' :: '#' :: w ++ rest)

/-- The word that a name denotes in code. -/
inductive Denotes : String → String → Prop
  /-- a keyword without a raw form has an underscore after it -/
  | path {name : String} (hpath : name ∈ pathKeywords) : Denotes name (name ++ "_")
  | keyword {name : String} (hkeyword : name ∈ escapableKeywords) : Denotes name name
  | written {name : String} {text : List Char} {i : Ident} (hpath : name ∉ pathKeywords)
      (hkeyword : name ∉ escapableKeywords) (hpad : Padding (dropMark name.toList) text) (hspells : Spells i text) :
      Denotes name i.name

private theorem not_padding_hash {cs : List Char} : ¬ Padding ('#' :: cs) [] := by
  intro hpad
  cases hpad with
  | blank hc _ => exact absurd hc (by decide)
  | comment hc _ => simp [skipComment?] at hc

/-- The identifier in front of a text, if nothing but padding follows, is the one that the text spells. -/
theorem spells_iff {i : Ident} {text : List Char} :
    Spells i text ↔ ∃ rest, takeIdent? text = some (i, rest) ∧ Padding rest [] ∧
      (i.raw = false → isReserved i.name = false) := by
  constructor
  · intro hspells
    cases hspells with
    | @word w rest hw hends hfree hrest =>
      refine ⟨rest, ?_, hrest, fun _ => hfree⟩
      have hword : takeWord? (w ++ rest) = some (w, rest) := takeWord?_eq_some_iff.mpr ⟨hw, hends, rfl⟩
      unfold takeIdent?
      split
      · next tail htext =>
        -- a word that is followed by a hash is no identifier
        obtain ⟨c, body, rfl, _, hbody⟩ := hw
        obtain ⟨_, htail⟩ := List.cons.inj htext
        cases body with
        | nil =>
          obtain rfl : rest = '#' :: tail := htail
          exact absurd hrest not_padding_hash
        | cons d body =>
          obtain ⟨rfl, _⟩ := List.cons.inj htail
          exact absurd (hbody '#' List.mem_cons_self) (by decide)
      · simp [hword]
    | @raw w rest hw hends hfree hrest =>
      refine ⟨rest, ?_, hrest, by simp⟩
      have hword : takeWord? (w ++ rest) = some (w, rest) := takeWord?_eq_some_iff.mpr ⟨hw, hends, rfl⟩
      simp [takeIdent?, hword, hfree]
  · rintro ⟨rest, htake, hrest, hfree⟩
    unfold takeIdent? at htake
    split at htake
    · next tail =>
      obtain ⟨⟨w, after⟩, hword, hident⟩ := Option.bind_eq_some_iff.mp htake
      obtain ⟨hw, hends, rfl⟩ := takeWord?_eq_some_iff.mp hword
      dsimp only at hident
      split at hident
      · cases hident
      · next hallowed =>
        cases hident
        exact .raw hw hends (by simpa [not_or] using hallowed) hrest
    · obtain ⟨⟨w, after⟩, hword, hident⟩ := Option.map_eq_some_iff.mp htake
      obtain ⟨hw, hends, rfl⟩ := takeWord?_eq_some_iff.mp hword
      cases hident
      exact .word hw hends (hfree rfl) hrest

/-- A text that spells an identifier begins with neither a blank nor a comment. -/
theorem Spells.solid {i : Ident} {text : List Char} (h : Spells i text) : Solid text := by
  have hstart {c : Char} {cs : List Char} (hc : startsIdentifier c = true) : Solid (c :: cs) := by
    have hslash : c ≠ '/' := by
      rintro rfl
      cases hc
    refine ⟨?_, by simp [skipComment?, Ne.symm hslash]⟩
    intro d hd
    cases hd
    cases hblank : isTokenBlank c with
    | true => cases hc.symm.trans (not_identifier_of_isTokenBlank hblank).1
    | false => rfl
  cases h with
  | word hw =>
    obtain ⟨c, body, rfl, hc, _⟩ := hw
    exact hstart hc
  | raw => exact hstart (by decide)

/-- A name is read as an identifier exactly if it denotes the word of one. -/
theorem ofName?_eq_some {name : String} {i : Ident} (hread : Ident.ofName? name = some i) : Denotes name i.name := by
  unfold Ident.ofName? at hread
  split at hread
  · next hpath =>
    cases hread
    exact .path hpath
  · next hpath =>
    split at hread
    · next hkeyword =>
      cases hread
      exact .keyword hkeyword
    · next hkeyword =>
      unfold readIdent? at hread
      cases htake : takeIdent? (dropSpace (dropMark name.toList)) with
      | none => simp [htake] at hread
      | some taken =>
        obtain ⟨j, rest⟩ := taken
        simp only [htake] at hread
        split at hread
        · cases hread
        · next hend =>
          split at hread
          · cases hread
          · next hfree =>
            cases hread
            refine .written hpath hkeyword (padding_dropSpace _) (spells_iff.mpr ⟨rest, htake, ?_, ?_⟩)
            · exact dropSpace_eq_nil_iff.mp (Decidable.not_not.mp hend)
            · intro hraw
              simpa [hraw] using hfree

private theorem not_mem_pathKeywords : ∀ name ∈ escapableKeywords, name ∉ pathKeywords := by
  decide

/-- A name that denotes a word is read as an identifier of it. -/
theorem Denotes.ofName? {name word : String} (h : Denotes name word) :
    ∃ i, Ident.ofName? name = some i ∧ i.name = word := by
  cases h with
  | path hpath => exact ⟨⟨name ++ "_", false⟩, by simp [Ident.ofName?, hpath], rfl⟩
  | keyword hkeyword =>
    have hpath := not_mem_pathKeywords name hkeyword
    exact ⟨⟨name, true⟩, by simp [Ident.ofName?, hpath, hkeyword], rfl⟩
  | @written text i hpath hkeyword hpad hspells =>
    obtain ⟨rest, htake, hrest, hfree⟩ := spells_iff.mp hspells
    refine ⟨i, ?_, rfl⟩
    have hsolid := dropSpace_of_padding hpad hspells.solid
    have hend := dropSpace_eq_nil_iff.mpr hrest
    have hallowed : (!i.raw && isReserved i.name) = false := by
      cases hraw : i.raw with
      | true => rfl
      | false => simp [hfree hraw]
    simp [Ident.ofName?, hpath, hkeyword, readIdent?, hsolid, htake, hend, hallowed]

/-- A name that is read denotes one word. -/
theorem denotes_iff {name : String} {i : Ident} (hread : Ident.ofName? name = some i) (word : String) :
    Denotes name word ↔ i.name = word := by
  constructor
  · intro h
    obtain ⟨j, hj, rfl⟩ := h.ofName?
    rw [Option.some.inj (hread.symm.trans hj)]
  · rintro rfl
    exact ofName?_eq_some hread

theorem exists_ofName?_iff {name : String} : (∃ i, Ident.ofName? name = some i) ↔ ∃ word, Denotes name word := by
  constructor
  · rintro ⟨i, hi⟩
    exact ⟨i.name, ofName?_eq_some hi⟩
  · rintro ⟨word, hword⟩
    obtain ⟨i, hi, -⟩ := hword.ofName?
    exact ⟨i, hi⟩

/-! ### Silent names -/

private theorem keywords_are_words : ∀ name ∈ pathKeywords ++ escapableKeywords,
    name.toList.head? ≠ some '_' ∧ name.toList.all continuesIdentifier = true := by
  decide +kernel

private theorem not_keyword_of_underscore {u : String} (hu : u.toList.head? = some '_') :
    u ∉ pathKeywords ∧ u ∉ escapableKeywords := by
  rw [← not_or, ← List.mem_append]
  exact fun hmem => (keywords_are_words u hmem).1 hu

private theorem padding_of_continues {c : Char} (hc : continuesIdentifier c = true) {cs text : List Char}
    (hpad : Padding (c :: cs) text) : text = c :: cs := by
  cases hpad with
  | none => rfl
  | blank hblank _ => cases hc.symm.trans (not_identifier_of_isTokenBlank hblank).2
  | comment hcomment _ =>
    have hslash : c ≠ '/' := by
      rintro rfl
      exact absurd hc (by decide)
    simp [skipComment?, Ne.symm hslash] at hcomment

/-- A name with an underscore before it denotes the underscore and the word in front of the name. -/
private theorem silent_denotes {name word : String} (h : Denotes ("_" ++ name) word) :
    word = String.ofList ('_' :: name.toList.takeWhile continuesIdentifier) ∧
      name.toList.takeWhile continuesIdentifier ≠ [] ∧ Padding (name.toList.dropWhile continuesIdentifier) [] := by
  have htext : ("_" ++ name).toList = '_' :: name.toList := by simp
  obtain ⟨hnopath, hnoescapable⟩ := not_keyword_of_underscore (u := "_" ++ name) (by simp [htext])
  cases h with
  | path hpath => exact absurd hpath hnopath
  | keyword hescapable => exact absurd hescapable hnoescapable
  | @written text i _ _ hpad hspells =>
    have hmark : dropMark ('_' :: name.toList) = '_' :: name.toList := by simp [dropMark, byteOrderMark]
    rw [htext, hmark] at hpad
    obtain rfl := padding_of_continues (by decide) hpad
    obtain ⟨rest, htake, hrest, hfree⟩ := spells_iff.mp hspells
    have hword : takeIdent? ('_' :: name.toList) =
        some (⟨String.ofList ('_' :: name.toList.takeWhile continuesIdentifier), false⟩,
          name.toList.dropWhile continuesIdentifier) := by
      simp [takeIdent?, takeWord?, startsIdentifier]
    obtain ⟨rfl, rfl⟩ := Prod.mk.inj (Option.some.inj (hword.symm.trans htake))
    refine ⟨rfl, ?_, hrest⟩
    intro hnil
    have hreserved := hfree rfl
    simp [hnil, isReserved] at hreserved

/-- A text that begins with a character of identifiers spells the word in front of it, unless it is in raw form. -/
private theorem spells_of_continues {c : Char} (hc : continuesIdentifier c = true) {cs text : List Char} {i : Ident}
    (hpad : Padding (dropMark (c :: cs)) text) (hspells : Spells i text) :
    (∃ tail, c :: cs = 'r' :: '#' :: tail) ∨
      i.name = String.ofList ((c :: cs).takeWhile continuesIdentifier) ∧ i.name ∉ pathKeywords := by
  rw [dropMark_of_identifier (.inr hc)] at hpad
  obtain rfl := padding_of_continues hc hpad
  obtain ⟨rest, htake, _, hfree⟩ := spells_iff.mp hspells
  unfold takeIdent? at htake
  split at htake
  · next tail htext => exact .inl ⟨tail, htext⟩
  · obtain ⟨⟨w, after⟩, hword, hident⟩ := Option.map_eq_some_iff.mp htake
    cases hident
    obtain ⟨⟨d, body, rfl, _, hbody⟩, hends, hsplit⟩ := takeWord?_eq_some_iff.mp hword
    obtain ⟨rfl, htail⟩ := List.cons.inj hsplit
    have hspan : cs.takeWhile continuesIdentifier = body := by
      rw [show cs = body ++ rest from htail]
      exact (span_eq hbody hends).1
    have hreserved := hfree rfl
    simp only [isReserved, Bool.or_eq_false_iff, decide_eq_false_iff_not] at hreserved
    rw [List.takeWhile_cons_of_pos hc, hspan]
    exact .inr ⟨rfl, hreserved.1.2⟩

/-- The word that a name denotes with an underscore before it decides the one that it denotes without. -/
private theorem denotes_of_silent {name word silent : String} (h : Denotes name word)
    (hsilent : Denotes ("_" ++ name) silent) :
    let u := String.ofList (name.toList.takeWhile continuesIdentifier)
    (u ∈ pathKeywords ∧ word = u ++ "_") ∨ (u ∉ pathKeywords ∧ word = u) := by
  obtain ⟨_, hne, hend⟩ := silent_denotes hsilent
  have hwhole (hmem : name ∈ pathKeywords ++ escapableKeywords) :
      String.ofList (name.toList.takeWhile continuesIdentifier) = name := by
    have hall := List.all_eq_true.mp (keywords_are_words name hmem).2
    rw [List.takeWhile_eq_self_iff.mpr hall, String.ofList_toList]
  cases h with
  | path hpath =>
    dsimp only
    rw [hwhole (List.mem_append_left _ hpath)]
    exact .inl ⟨hpath, rfl⟩
  | keyword hkeyword =>
    dsimp only
    rw [hwhole (List.mem_append_right _ hkeyword)]
    exact .inr ⟨not_mem_pathKeywords name hkeyword, rfl⟩
  | @written text i _ _ hpad hspells =>
    cases hname : name.toList with
    | nil => simp [hname] at hne
    | cons c cs =>
      rw [hname] at hne hend hpad
      have hc : continuesIdentifier c = true := by
        by_contra hc
        simp [hc] at hne
      obtain ⟨tail, htext⟩ | ⟨hword, hfree⟩ := spells_of_continues hc hpad hspells
      · -- the hash after the letter is neither part of the word nor left out
        rw [htext] at hend
        exact absurd hend not_padding_hash
      · rw [← hword]
        exact .inr ⟨hfree, rfl⟩

/-- Names that become one identifier with an underscore before them do so without. -/
theorem Denotes.eq_of_silent {a b v w silent : String} (ha : Denotes a v) (hb : Denotes b w)
    (hsa : Denotes ("_" ++ a) silent) (hsb : Denotes ("_" ++ b) silent) : v = w := by
  have hword : String.ofList (a.toList.takeWhile continuesIdentifier) =
      String.ofList (b.toList.takeWhile continuesIdentifier) := by
    have heq := (silent_denotes hsa).1.symm.trans (silent_denotes hsb).1
    rw [(List.cons.inj (String.ofList_injective heq)).2]
  have hpa := denotes_of_silent ha hsa
  have hpb := denotes_of_silent hb hsb
  rw [hword] at hpa
  rcases hpa with ⟨hmem, rfl⟩ | ⟨hmem, rfl⟩ <;> rcases hpb with ⟨hmem', rfl⟩ | ⟨hmem', rfl⟩
  · rfl
  · exact absurd hmem hmem'
  · exact absurd hmem' hmem
  · rfl

/-- Whether a name begins with a character of identifiers and not with the mark of the raw form. -/
structure Bare (name : String) : Prop where
  begins : name.toList.head?.any continuesIdentifier = true
  unmarked : ¬ ['r', '#'] <+: name.toList

instance (name : String) : Decidable (Bare name) :=
  decidable_of_iff (name.toList.head?.any continuesIdentifier = true ∧ ¬ ['r', '#'] <+: name.toList)
    ⟨fun h => ⟨h.1, h.2⟩, fun h => ⟨h.begins, h.unmarked⟩⟩

/-- A word with an underscore before it is read on its own, keywords included. -/
private theorem denotes_silent_word {name : String} {w rest : List Char} (hname : name.toList = w ++ rest)
    (hne : w ≠ []) (hw : ∀ c ∈ w, continuesIdentifier c = true) (hends : Ends rest) (hrest : Padding rest []) :
    Denotes ("_" ++ name) (String.ofList ('_' :: w)) := by
  have htext : ("_" ++ name).toList = '_' :: w ++ rest := by simp [hname]
  obtain ⟨hpath, hescapable⟩ := not_keyword_of_underscore (u := "_" ++ name) (by simp [htext])
  obtain ⟨hpath', hescapable'⟩ := not_keyword_of_underscore (u := String.ofList ('_' :: w)) (by simp)
  have hfree : isReserved (String.ofList ('_' :: w)) = false := by
    have hlong : String.ofList ('_' :: w) ≠ "_" := by
      intro heq
      exact hne (List.cons.inj (String.ofList_injective heq)).2
    simp only [isReserved, hlong, hpath', hescapable', decide_false, Bool.or_false, Bool.false_and]
  have hpad : Padding (dropMark ("_" ++ name).toList) ('_' :: w ++ rest) := by
    have hmark : dropMark ('_' :: w ++ rest) = '_' :: w ++ rest := dropMark_of_identifier (.inl (by decide)) _
    rw [htext, hmark]
    exact .none _
  exact .written hpath hescapable hpad (.word ⟨'_', w, rfl, by decide, hw⟩ hends hfree hrest)

/-- A name that denotes a word does so with an underscore before it exactly if it is bare: behind the underscore, blanks
and comments are no longer in front, and the raw form is none. -/
theorem Denotes.exists_silent_iff {name word : String} (h : Denotes name word) :
    (∃ silent, Denotes ("_" ++ name) silent) ↔ Bare name := by
  constructor
  · rintro ⟨silent, hsilent⟩
    obtain ⟨-, hne, hend⟩ := silent_denotes hsilent
    refine ⟨?_, ?_⟩
    · cases hname : name.toList with
      | nil => simp [hname] at hne
      | cons c cs =>
        by_contra hc
        exact hne (by simp_all)
    · rintro ⟨tail, htail⟩
      have hraw : name.toList.dropWhile continuesIdentifier = '#' :: tail := by
        rw [← htail]
        rfl
      exact not_padding_hash (hraw ▸ hend)
  · intro hbare
    have hwhole (hmem : name ∈ pathKeywords ++ escapableKeywords) : ∃ silent, Denotes ("_" ++ name) silent := by
      have hall := List.all_eq_true.mp (keywords_are_words name hmem).2
      have hne : name.toList ≠ [] := by
        intro hnil
        simpa [hnil] using hbare.begins
      exact ⟨_, denotes_silent_word (List.append_nil _).symm hne hall (by simp [Ends]) (.none [])⟩
    cases h with
    | path hpath => exact hwhole (List.mem_append_left _ hpath)
    | keyword hkeyword => exact hwhole (List.mem_append_right _ hkeyword)
    | @written text i _ _ hpad hspells =>
      cases hname : name.toList with
      | nil => simpa [hname] using hbare.begins
      | cons c cs =>
        have hc : continuesIdentifier c = true := by simpa [hname] using hbare.begins
        rw [hname, dropMark_of_identifier (.inr hc)] at hpad
        obtain rfl := padding_of_continues hc hpad
        generalize htext : c :: cs = text at hspells
        cases hspells with
        | @word w rest hw hends _ hrest =>
          obtain ⟨d, body, rfl, _, hbody⟩ := hw
          obtain ⟨rfl, _⟩ := List.cons.inj htext
          exact ⟨_, denotes_silent_word (hname.trans htext) (List.cons_ne_nil _ _)
            (List.forall_mem_cons.mpr ⟨hc, hbody⟩) hends hrest⟩
        | raw => exact absurd ⟨_, (hname.trans htext).symm⟩ hbare.unmarked

/-! ### Plain names -/

/-- Whether a name consists of characters of identifiers, of which an underscore is not the last. -/
structure Plain (name : String) : Prop where
  continues : ∀ c ∈ name.toList, continuesIdentifier c = true
  last : name.toList.getLast? ≠ some '_'

instance (name : String) : Decidable (Plain name) :=
  decidable_of_iff (name.toList.all continuesIdentifier = true ∧ name.toList.getLast? ≠ some '_')
    ⟨fun h => ⟨List.all_eq_true.mp h.1, h.2⟩, fun h => ⟨List.all_eq_true.mpr h.continues, h.last⟩⟩

/-- A plain name denotes itself, unless it is a keyword without a raw form. -/
theorem Denotes.of_plain {name word : String} (h : Denotes name word) (hplain : Plain name) :
    word = name ∨ word = name ++ "_" := by
  cases h with
  | path => exact .inr rfl
  | keyword => exact .inl rfl
  | @written text i _ _ hpad hspells =>
    left
    have hwhole := List.takeWhile_eq_self_iff.mpr hplain.continues
    cases hname : name.toList with
    | nil =>
      rw [hname] at hpad
      obtain rfl : text = [] := by
        cases hpad with
        | none => rfl
        | comment hcomment _ => cases hcomment
      obtain ⟨_, htake, _⟩ := spells_iff.mp hspells
      cases htake
    | cons c cs =>
      have hall := hplain.continues
      rw [hname] at hpad hall
      obtain ⟨tail, htext⟩ | ⟨hword, _⟩ := spells_of_continues (hall c List.mem_cons_self) hpad hspells
      · rw [htext] at hall
        exact absurd (hall '#' (by simp)) (by decide)
      · rw [hword, ← hname, hwhole, String.ofList_toList]

theorem Denotes.bare_of_plain {name word : String} (h : Denotes name word) (hplain : Plain name) : Bare name := by
  refine ⟨?_, ?_⟩
  · cases hname : name.toList with
    | nil =>
      obtain rfl : name = "" := String.toList_injective hname
      have hempty : Ident.ofName? "" = none := by decide +kernel
      obtain ⟨i, hi, -⟩ := h.ofName?
      cases hempty.symm.trans hi
    | cons c cs => exact hplain.continues c (by simp [hname])
  · rintro ⟨tail, htail⟩
    exact absurd (hplain.continues '#' (by simp [← htail])) (by decide)

/-- Different plain names do not denote one word. -/
theorem Denotes.plain_inj {a b word : String} (ha : Denotes a word) (hb : Denotes b word) (hpa : Plain a)
    (hpb : Plain b) : a = b := by
  have hlast (name : String) : (name ++ "_").toList.getLast? = some '_' := by simp
  rcases ha.of_plain hpa with rfl | rfl <;> rcases hb.of_plain hpb with heq | heq
  · exact heq
  · exact absurd (heq ▸ hlast b) hpa.last
  · exact absurd (heq ▸ hlast a) hpb.last
  · simpa using heq

/-- Whether a word is a plain name of itself. -/
structure Fixed (word : String) : Prop where
  plain : Plain word
  reads : Ident.ofName? word = some ⟨word, false⟩

instance (word : String) : Decidable (Fixed word) :=
  decidable_of_iff (Plain word ∧ Ident.ofName? word = some ⟨word, false⟩)
    ⟨fun h => ⟨h.1, h.2⟩, fun h => ⟨h.plain, h.reads⟩⟩

theorem Fixed.denotes {word : String} (h : Fixed word) : Denotes word word :=
  ofName?_eq_some h.reads

/-- A plain name denotes a fixed word exactly if it is that word. -/
theorem Fixed.denotes_iff {name word : String} (h : Fixed word) (hplain : Plain name) :
    Denotes name word ↔ name = word := by
  constructor
  · intro hname
    exact hname.plain_inj h.denotes hplain h.plain
  · rintro rfl
    exact h.denotes

theorem denotes_none_iff {words : List String} (hwords : ∀ word ∈ words, Fixed word) {name : String}
    (hplain : Plain name) : (∀ word ∈ words, ¬Denotes name word) ↔ name ∉ words := by
  constructor
  · intro hnone hname
    exact hnone name hname (hwords name hname).denotes
  · intro hname word hword hdenotes
    rw [(hwords word hword).denotes_iff hplain] at hdenotes
    exact hname (hdenotes ▸ hword)

/-! ### Words as names -/

private theorem words_of_keywords : ∀ name ∈ pathKeywords.map (· ++ "_") ++ escapableKeywords,
    takeWord? name.toList = some (name.toList, []) := by
  decide +kernel

/-- What a name denotes is a word. -/
theorem Denotes.isWord {name word : String} (h : Denotes name word) : IsWord word.toList := by
  cases h with
  | path hpath =>
    exact (takeWord?_eq_some_iff.mp (words_of_keywords _ (List.mem_append_left _ (List.mem_map_of_mem hpath)))).1
  | keyword hkeyword => exact (takeWord?_eq_some_iff.mp (words_of_keywords _ (List.mem_append_right _ hkeyword))).1
  | written _ _ _ hspells =>
    cases hspells with
    | word hw => rwa [String.toList_ofList]
    | raw hw => rwa [String.toList_ofList]

/-- A word denotes itself, unless it is a keyword without a raw form. -/
theorem Denotes.of_word {name word : String} (h : Denotes name word) (hname : IsWord name.toList) :
    word = name ∨ name ∈ pathKeywords ∧ word = name ++ "_" := by
  cases h with
  | path hpath => exact .inr ⟨hpath, rfl⟩
  | keyword => exact .inl rfl
  | @written text i _ _ hpad hspells =>
    left
    have hwhole : takeWord? name.toList = some (name.toList, []) :=
      takeWord?_eq_some_iff.mpr ⟨hname, by simp [Ends], by simp⟩
    obtain ⟨c, body, hlist, hc, hbody⟩ := hname
    rw [hlist] at hpad hwhole
    rw [dropMark_of_identifier (.inl hc)] at hpad
    obtain rfl : text = c :: body := by
      cases hpad with
      | none => rfl
      | blank hblank _ => cases hc.symm.trans (not_identifier_of_isTokenBlank hblank).1
      | comment hcomment _ =>
        have hslash : c ≠ '/' := by
          rintro rfl
          exact absurd hc (by decide)
        simp [skipComment?, Ne.symm hslash] at hcomment
    obtain ⟨rest, htake, _⟩ := spells_iff.mp hspells
    unfold takeIdent? at htake
    split at htake
    · next tail htext =>
      obtain ⟨_, rfl⟩ := List.cons.inj htext
      exact absurd (hbody '#' List.mem_cons_self) (by decide)
    · rw [hwhole] at htake
      cases htake
      rw [← hlist, String.ofList_toList]

end ServiceBindings.Code
