import Mathlib.Data.List.TakeDrop
import ServiceBindings.Proofs.Url.Extension

/-!
Ordinary texts. A text that addresses neither leave out nor read as a way to another folder becomes one segment, from
which it is read back, so the path of an address tells which texts were appended to its base.
-/

namespace ServiceBindings

namespace Url

open Text

/-! ### Percent encoding is read back -/

theorem hexValue?_hexDigit : ∀ n < 16, hexValue? (hexDigit n) = some n := by
  decide

theorem percentDecode_percentByte_append {b : Nat} (hb : b < 256) (rest : List Char) :
    percentDecode (percentByte b ++ rest) = b :: percentDecode rest := by
  have hhigh := hexValue?_hexDigit (b / 16) (by omega)
  have hlow := hexValue?_hexDigit (b % 16) (Nat.mod_lt b (by decide))
  simp only [percentByte, List.cons_append, List.nil_append]
  rw [percentDecode, hhigh, hlow]
  exact congrArg (· :: percentDecode rest) (Nat.div_add_mod b 16)

theorem percentDecode_bytes_append {bytes : List Nat} (hall : ∀ b ∈ bytes, b < 256) (rest : List Char) :
    percentDecode (bytes.flatMap percentByte ++ rest) = bytes ++ percentDecode rest := by
  induction bytes with
  | nil => rfl
  | cons b bytes ih =>
    obtain ⟨hb, hbytes⟩ := List.forall_mem_cons.mp hall
    rw [List.flatMap_cons, List.append_assoc, percentDecode_percentByte_append hb, ih hbytes, List.cons_append]

theorem percentDecode_cons {c : Char} (hc : c ≠ '%') (rest : List Char) :
    percentDecode (c :: rest) = encodeChar c ++ percentDecode rest := by
  rw [percentDecode]
  exact fun _ _ _ h _ => hc h

/-- An encoded text stands for the bytes of the text, if its own percent signs are encoded too. -/
theorem percentDecode_percentEncode {set : Char → Bool} (hpercent : set '%' = true) (cs : List Char) :
    percentDecode (percentEncode set cs) = encodeUtf8 cs := by
  induction cs with
  | nil => rfl
  | cons c cs ih =>
    change percentDecode ((if set c then (encodeChar c).flatMap percentByte else [c]) ++ percentEncode set cs) =
      encodeChar c ++ encodeUtf8 cs
    cases hc : set c with
    | true => rw [if_pos rfl, percentDecode_bytes_append (fun _ => lt_of_mem_encodeChar), ih]
    | false =>
      have hne : c ≠ '%' := by
        rintro rfl
        rw [hpercent] at hc
        cases hc
      rw [if_neg Bool.false_ne_true, List.singleton_append, percentDecode_cons hne, ih]

/-! ### Paths as texts -/

/-- A base path as further segments follow it: without one slash at its end, and without the slash of the root. -/
def trunk (text : List Char) : List Char :=
  if withoutEnd text = ['/'] then [] else withoutEnd text

theorem segmentsText_cons (s : Segment) (segments : List Segment) :
    segmentsText (s :: segments) = '/' :: (s ++ segmentsText segments) :=
  rfl

theorem segmentsText_eq_slash {segments : List Segment} : segmentsText segments = ['/'] ↔ segments = [[]] := by
  constructor
  · intro h
    match segments with
    | [] => cases h
    | s :: rest =>
      obtain ⟨rfl, hrest⟩ : s = [] ∧ segmentsText rest = [] := by simpa [segmentsText_cons] using h
      cases rest with
      | nil => rfl
      | cons t rest => cases hrest
  · rintro rfl
    rfl

/-- Dropping an empty segment at the end of a path drops the slash at the end of its text. -/
theorem segmentsText_foldersOf_dropEmptyEnd {segments : List Segment} (hfree : SlashFree segments) :
    segmentsText (foldersOf (dropEmptyEnd segments)) = trunk (segmentsText segments) := by
  have hfolders (segments : List Segment) : segmentsText (foldersOf segments) =
      if segmentsText segments = ['/'] then [] else segmentsText segments := by
    by_cases hroot : segments = [[]]
    · subst hroot
      rfl
    · rw [if_neg (mt segmentsText_eq_slash.mp hroot), foldersOf, if_neg hroot]
  rcases List.eq_nil_or_concat segments with rfl | ⟨front, l, rfl⟩
  · rfl
  · rw [List.concat_eq_append] at hfree ⊢
    by_cases hl : l = []
    · subst hl
      by_cases hfront : front = []
      · subst hfront
        rfl
      · have hdrop : dropEmptyEnd (front ++ [[]]) = front := by simp [dropEmptyEnd, hfront]
        have hend : withoutEnd (segmentsText (front ++ [[]])) = segmentsText front := by
          rw [segmentsText_append, segmentsText_singleton]
          simp [withoutEnd]
        rw [hdrop, trunk, hend, hfolders]
    · have hdrop : dropEmptyEnd (front ++ [l]) = front ++ [l] := by simp [dropEmptyEnd, hl]
      rw [hdrop, trunk, withoutEnd_segmentsText hl (hfree l (by simp)), hfolders]

/-- A path's text tells its segments, each of which ends where the next slash stands. -/
theorem segmentsText_injective {segments others : List Segment} (hsegments : SlashFree segments)
    (hothers : SlashFree others) (h : segmentsText segments = segmentsText others) : segments = others := by
  have hbefore (s : Segment) (hs : '/' ∉ s) (rest : List Segment) :
      (s ++ segmentsText rest).span (· != '/') = (s, segmentsText rest) := by
    have hnone : (segmentsText rest).takeWhile (· != '/') = [] ∧
        (segmentsText rest).dropWhile (· != '/') = segmentsText rest := by
      cases rest with
      | nil => exact ⟨rfl, rfl⟩
      | cons t rest => exact ⟨rfl, rfl⟩
    have hall : ∀ c ∈ s, (c != '/') = true := by
      intro c hc
      exact bne_iff_ne.mpr (by rintro rfl; exact hs hc)
    rw [List.span_eq_takeWhile_dropWhile, List.takeWhile_append_of_pos hall, List.dropWhile_append_of_pos hall,
      hnone.1, hnone.2, List.append_nil]
  induction segments generalizing others with
  | nil =>
    cases others with
    | nil => rfl
    | cons t others => cases h
  | cons s segments ih =>
    cases others with
    | nil => cases h
    | cons t others =>
      obtain ⟨hs, hfree⟩ := List.forall_mem_cons.mp hsegments
      obtain ⟨ht, hfree'⟩ := List.forall_mem_cons.mp hothers
      have htail : s ++ segmentsText segments = t ++ segmentsText others := (List.cons.inj h).2
      have hspan := congrArg (List.span (· != '/')) htail
      rw [hbefore s hs, hbefore t ht] at hspan
      obtain ⟨rfl, hrest⟩ := Prod.mk.inj hspan
      rw [ih hfree hfree' hrest]

/-! ### Ordinary texts -/

/-- A text that is kept as it is: it is not empty, no way to another folder, and has nothing that addresses drop. -/
structure Ordinary (text : String) : Prop where
  ne_empty : text ≠ ""
  ne_stop : text ≠ "."
  ne_stops : text ≠ ".."
  unbroken : ∀ c ∈ text.toList, c ≠ '\t' ∧ c ≠ '\n' ∧ c ≠ '\r'

theorem ordinary_iff (text : String) : Ordinary text ↔
    text ≠ "" ∧ text ≠ "." ∧ text ≠ ".." ∧ withoutLineEnds text.toList = text.toList := by
  have hline : withoutLineEnds text.toList = text.toList ↔ ∀ c ∈ text.toList, c ≠ '\t' ∧ c ≠ '\n' ∧ c ≠ '\r' := by
    simp [withoutLineEnds, and_assoc]
  rw [hline]
  exact ⟨fun h => ⟨h.ne_empty, h.ne_stop, h.ne_stops, h.unbroken⟩, fun h => ⟨h.1, h.2.1, h.2.2.1, h.2.2.2⟩⟩

instance (text : String) : Decidable (Ordinary text) :=
  decidable_of_iff' _ (ordinary_iff text)

/-- Whether a segment is one that nothing ends early and that stands for a text. -/
structure Encodes (text : String) (segment : Segment) : Prop where
  unseparated : ∀ c ∈ segment, c ≠ '/' ∧ c ≠ '?' ∧ c ≠ '#' ∧ c ≠ '\\'
  decoded : decodeUtf8 (percentDecode segment) = .ofChars text.toList

theorem Encodes.slashFree {texts : List String} {segments : List Segment}
    (h : List.Forall₂ Encodes texts segments) : SlashFree segments := by
  intro s hs hslash
  obtain ⟨t, -, ht⟩ := (exists_of_forall₂ h).2 s hs
  exact (ht.unseparated '/' hslash).1 rfl

/-- A segment stands for one text. -/
theorem Encodes.text_unique {text other : String} {segment : Segment} (h : Encodes text segment)
    (hother : Encodes other segment) : text = other := by
  have hglyphs : text.toList.map some = other.toList.map some := h.decoded.symm.trans hother.decoded
  exact String.toList_injective (List.map_injective_iff.mpr (fun _ _ => Option.some.inj) hglyphs)

theorem Encodes.texts_unique {texts others : List String} {segments : List Segment}
    (h : List.Forall₂ Encodes texts segments) (hothers : List.Forall₂ Encodes others segments) : texts = others := by
  induction h generalizing others with
  | nil => rw [List.forall₂_nil_right_iff.mp hothers]
  | cons ht _ ih =>
    obtain ⟨t, others, hother, hrest, rfl⟩ := List.forall₂_cons_right_iff.mp hothers
    rw [ht.text_unique hother, ih hrest]

variable {rule : PathRule}

theorem encodes_percentEncode (hspecial : rule.special = true) (text : String) :
    Encodes text (percentEncode (segmentSet rule.special) text.toList) := by
  have hmarks : ∀ c ∈ ['/', '?', '#', '\\'], segmentSet true c = true ∧ c ∉ "%0123456789ABCDEF*".toList := by
    simp only [List.forall_mem_cons]
    exact ⟨by decide, by decide, by decide, by decide, List.forall_mem_nil _⟩
  rw [hspecial]
  refine ⟨fun c hc => ?_, ?_⟩
  · have hmark : c ∉ ['/', '?', '#', '\\'] := by
      intro hmark
      obtain ⟨hset, hcode⟩ := hmarks c hmark
      rcases mem_percentEncode hc with ⟨-, hunset⟩ | hmem
      · rw [hset] at hunset
        cases hunset
      · exact hcode hmem
    simpa using hmark
  · rw [percentDecode_percentEncode (by decide), decodeUtf8_encodeUtf8]

/-- An ordinary text adds itself, encoded, behind the folders. -/
theorem appendText_of_ordinary (hfile : rule.file = false) (segments : List Segment) {text : String}
    (h : Ordinary text) : appendText rule segments text.toList =
      foldersOf segments ++ [percentEncode (segmentSet rule.special) text.toList] := by
  have hone : text.toList ≠ ['.'] := fun hstop => h.ne_stop (String.toList_injective hstop)
  have htwo : text.toList ≠ ['.', '.'] := fun hstops => h.ne_stops (String.toList_injective hstops)
  obtain ⟨-, -, -, hline⟩ := (ordinary_iff text).mp h
  unfold appendText
  rw [if_neg (not_or.mpr ⟨hone, htwo⟩), hline]
  simp only [normalizeFront, hfile, Bool.false_eq_true, if_false, endPath, resolve_percentEncode hfile, if_neg hone,
    if_neg htwo]
  rfl

/-- Its segment is not empty, so the next text comes behind it. -/
theorem foldersOf_appendText_of_ordinary (hfile : rule.file = false) (segments : List Segment) {text : String}
    (h : Ordinary text) : foldersOf (appendText rule segments text.toList) =
      foldersOf segments ++ [percentEncode (segmentSet rule.special) text.toList] := by
  have hsegment : percentEncode (segmentSet rule.special) text.toList ≠ [] := by
    intro hnil
    have hself : percentEncode (segmentSet rule.special) text.toList = text.toList :=
      percentEncode_eq_self (by simp [hnil])
    exact h.ne_empty (String.toList_injective (hself.symm.trans hnil))
  rw [appendText_of_ordinary hfile segments h]
  refine if_neg fun hroot => hsegment ?_
  simpa using congrArg List.getLast? hroot

theorem foldersOf_foldl_of_ordinary (hfile : rule.file = false) {texts : List String} (h : ∀ t ∈ texts, Ordinary t)
    (segments : List Segment) : foldersOf ((texts.map String.toList).foldl (appendText rule) segments) =
      foldersOf segments ++ texts.map fun t => percentEncode (segmentSet rule.special) t.toList := by
  induction texts generalizing segments with
  | nil => exact (List.append_nil _).symm
  | cons t ts ih =>
    obtain ⟨ht, hts⟩ := List.forall_mem_cons.mp h
    rw [List.map_cons, List.foldl_cons, ih hts, foldersOf_appendText_of_ordinary hfile segments ht, List.map_cons,
      List.append_assoc, List.singleton_append]

/-- Ordinary texts, of which there is at least one, become the segments behind the trunk of the path. -/
theorem segmentsText_appendTexts (hfile : rule.file = false) (hspecial : rule.special = true)
    {segments : List Segment} (hfree : SlashFree segments) {texts : List String} (hne : texts ≠ [])
    (h : ∀ t ∈ texts, Ordinary t) :
    ∃ codes, List.Forall₂ Encodes texts codes ∧
      segmentsText (appendTexts rule segments (texts.map String.toList)) =
        trunk (segmentsText segments) ++ segmentsText codes := by
  refine ⟨texts.map fun t => percentEncode (segmentSet rule.special) t.toList, ?_, ?_⟩
  · exact List.forall₂_map_right_iff.mpr (List.forall₂_same.mpr fun t _ => encodes_percentEncode hspecial t)
  · have hrun := foldersOf_foldl_of_ordinary hfile h (dropEmptyEnd segments)
    have hbehind : foldersOf (appendTexts rule segments (texts.map String.toList)) =
        appendTexts rule segments (texts.map String.toList) := by
      refine if_neg fun hroot => hne ?_
      have hnil := hrun.symm.trans (congrArg foldersOf hroot)
      exact List.map_eq_nil_iff.mp (List.append_eq_nil_iff.mp hnil).2
    rw [← hbehind, ← segmentsText_foldersOf_dropEmptyEnd hfree, ← segmentsText_append]
    exact congrArg segmentsText hrun

/-! ### Addresses -/

/-- Addresses that differ in their paths alone differ in what is written. -/
theorem path_text_eq_of_text_eq {base u v : Url} (hu : SameBeside base u) (hv : SameBeside base v)
    (h : u.text = v.text) : u.path.text = v.path.text := by
  unfold text at h
  rw [hu.scheme, hu.authority, hu.guarded, hu.query, hu.fragment, hv.scheme, hv.authority, hv.guarded, hv.query,
    hv.fragment] at h
  simpa [← String.toList_inj] using h

/-- Ordinary texts can be appended to every address of the web. Each of them becomes one segment behind the trunk of
the path, from which it is read back, so other ordinary texts give another address. -/
theorem build_ordinary {s : String} {base : Url} (h : parse s = .ok base)
    (hweb : base.scheme = "http" ∨ base.scheme = "https") {texts : List String} (hne : texts ≠ [])
    (hordinary : ∀ t ∈ texts, Ordinary t) :
    ∃ u, base.build texts = .ok u ∧ SameBeside base u ∧
      (∃ codes, List.Forall₂ Encodes texts codes ∧ u.path.text = trunk base.path.text ++ segmentsText codes) ∧
      ∀ others v, others ≠ [] → (∀ t ∈ others, Ordinary t) → base.build others = .ok v → v.text = u.text →
        others = texts := by
  obtain ⟨hspecial, hfile⟩ := pathRule_of_web hweb
  have hfree := parse_slashFree h
  have hbase : segmentsText base.path.segments = base.path.text := by
    cases hpath : base.path with
    | rooted segments => rfl
    | rootless text =>
      have hsegments := base.segments_ne_nil hspecial
      rw [hpath] at hsegments
      exact absurd rfl hsegments
  have hbuilt {texts : List String} (hne : texts ≠ []) (hordinary : ∀ t ∈ texts, Ordinary t) :
      ∃ u, base.build texts = .ok u ∧ SameBeside base u ∧ ∃ codes, List.Forall₂ Encodes texts codes ∧
        u.path.text = trunk base.path.text ++ segmentsText codes := by
    obtain ⟨u, hu, hbeside, hpath⟩ := build_of_web hweb texts
    obtain ⟨codes, hcodes, htext⟩ := segmentsText_appendTexts hfile hspecial hfree hne hordinary
    refine ⟨u, hu, hbeside, codes, hcodes, ?_⟩
    rw [hpath, ← hbase]
    exact htext
  obtain ⟨u, hu, hbeside, codes, hcodes, hpath⟩ := hbuilt hne hordinary
  refine ⟨u, hu, hbeside, ⟨codes, hcodes, hpath⟩, fun others v hothers hall hv htext => ?_⟩
  obtain ⟨w, hw, hbeside', codes', hcodes', hpath'⟩ := hbuilt hothers hall
  obtain rfl : w = v := Except.ok.inj (hw.symm.trans hv)
  have hpaths := path_text_eq_of_text_eq hbeside' hbeside htext
  rw [hpath, hpath'] at hpaths
  have hsame := segmentsText_injective (Encodes.slashFree hcodes') (Encodes.slashFree hcodes)
    (List.append_cancel_left hpaths)
  subst hsame
  exact Encodes.texts_unique hcodes' hcodes

/-- Texts that hold separators, percent signs or what looks like a code, behind a base that ends in a slash. -/
theorem marked_texts_survive :
    ∃ base u, parse "http://localhost/api/?q" = .ok base ∧
      base.build ["a/b c", "%41", "é?#\\", "...", "k=v"] = .ok u ∧
      u.text = "http://localhost/api/a%2Fb%20c/%2541/%C3%A9%3F%23%5C/.../k=v?q" ∧
      ∀ others v, others ≠ [] → (∀ t ∈ others, Ordinary t) → base.build others = .ok v → v.text = u.text →
        others = ["a/b c", "%41", "é?#\\", "...", "k=v"] := by
  have hparse : parse "http://localhost/api/?q" = .ok {
      scheme := "http"
      authority := some { host := .name "localhost".toList }
      path := .rooted ["api".toList, []]
      query := some ['q']
      segments_ne_nil := fun _ => List.cons_ne_nil _ _ } := by
    decide +kernel
  have hordinary : ∀ t ∈ ["a/b c", "%41", "é?#\\", "...", "k=v"], Ordinary t := by decide
  obtain ⟨u, hu, -, -, hunique⟩ := build_ordinary hparse (.inl rfl) (List.cons_ne_nil _ _) hordinary
  refine ⟨_, u, hparse, hu, ?_, hunique⟩
  cases hu
  decide +kernel

end Url

end ServiceBindings
