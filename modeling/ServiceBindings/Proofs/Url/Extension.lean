import ServiceBindings.Call.Builder
import ServiceBindings.Proofs.Text.Utf8
import ServiceBindings.Proofs.Url.Segments

/-!
Extension. What one more text does to the path that the texts before it made. The path goes on behind what was there,
except after a text that is `..` only once its tabulators and line ends are gone: it is not left out as `..` is, and
takes the segment before it away.
-/

namespace ServiceBindings

namespace Url

open Text

/-! ### Full stops in encoded texts -/

/-- The byte of the full stop belongs to the full stop alone: all the bytes of a longer form are large. -/
theorem eq_of_stop_mem_encodeChar {c : Char} (h : 0x2E ∈ encodeChar c) : c = '.' := by
  have hn : c.toNat = 0x2E := by
    unfold encodeChar at h
    dsimp only at h
    split_ifs at h <;> simp only [List.mem_cons, List.not_mem_nil, or_false] at h <;> omega
  rw [← Char.ofNat_toNat c, hn]

/-- Only the byte of the full stop has its code, in either case of the digits. -/
theorem eq_stop_of_hexDigit {b : Nat} (hhigh : hexDigit (b / 16) = '2')
    (hlow : hexDigit (b % 16) = 'e' ∨ hexDigit (b % 16) = 'E') : b = 0x2E := by
  have hlarge : b / 16 < 16 := by
    by_contra hn
    obtain ⟨k, hk⟩ : ∃ k, b / 16 = k + 16 := ⟨b / 16 - 16, by omega⟩
    rw [hk] at hhigh
    exact absurd hhigh (by decide : '*' ≠ '2')
  have htwo : ∀ k < 16, hexDigit k = '2' → k = 2 := by decide
  have hfourteen : ∀ k < 16, hexDigit k = 'e' ∨ hexDigit k = 'E' → k = 14 := by decide
  have hfirst := htwo _ hlarge hhigh
  have hsecond := hfourteen _ (Nat.mod_lt b (by decide)) hlow
  omega

theorem hexDigit_ne_percent (n : Nat) : hexDigit n ≠ '%' := by
  intro h
  have hmem := hexDigit_mem n
  rw [h] at hmem
  exact absurd hmem (by decide)

theorem plainStops_cons {c : Char} (hc : c ≠ '%') (rest : List Char) :
    plainStops (c :: rest) = c :: plainStops rest := by
  rw [plainStops]
  · exact fun _ h _ => hc h
  · exact fun _ h _ => hc h

theorem plainStops_percentByte_append {b : Nat} (hb : b ≠ 0x2E) (rest : List Char) :
    plainStops (percentByte b ++ rest) = percentByte b ++ plainStops rest := by
  have hcode : plainStops ('%' :: hexDigit (b / 16) :: hexDigit (b % 16) :: rest) =
      '%' :: plainStops (hexDigit (b / 16) :: hexDigit (b % 16) :: rest) := by
    rw [plainStops]
    · rintro tail - htail
      obtain ⟨hfirst, hsecond, -⟩ := by simpa using htail
      exact hb (eq_stop_of_hexDigit hfirst (.inl hsecond))
    · rintro tail - htail
      obtain ⟨hfirst, hsecond, -⟩ := by simpa using htail
      exact hb (eq_stop_of_hexDigit hfirst (.inr hsecond))
  simp only [percentByte, List.cons_append, List.nil_append]
  rw [hcode, plainStops_cons (hexDigit_ne_percent _), plainStops_cons (hexDigit_ne_percent _)]

/-- An encoded text holds no code of a full stop, since the percent sign is encoded and the full stop is not. -/
theorem plainStops_percentEncode {set : Char → Bool} (hpercent : set '%' = true) (hstop : set '.' = false)
    (cs : List Char) : plainStops (percentEncode set cs) = percentEncode set cs := by
  have hbytes (bytes : List Nat) (hall : 0x2E ∉ bytes) (rest : List Char) :
      plainStops (bytes.flatMap percentByte ++ rest) = bytes.flatMap percentByte ++ plainStops rest := by
    induction bytes with
    | nil => rfl
    | cons b bytes ih =>
      obtain ⟨hb, hbytes⟩ := List.ne_and_not_mem_of_not_mem_cons hall
      rw [List.flatMap_cons, List.append_assoc, plainStops_percentByte_append hb.symm, ih hbytes, List.append_assoc]
  induction cs with
  | nil => rfl
  | cons c cs ih =>
    change plainStops ((if set c then (encodeChar c).flatMap percentByte else [c]) ++ percentEncode set cs) =
      (if set c then (encodeChar c).flatMap percentByte else [c]) ++ percentEncode set cs
    cases hc : set c with
    | true =>
      have hnone : 0x2E ∉ encodeChar c := by
        intro hmem
        rw [eq_of_stop_mem_encodeChar hmem, hstop] at hc
        cases hc
      rw [if_pos rfl, hbytes _ hnone, ih]
    | false =>
      have hne : c ≠ '%' := by
        rintro rfl
        rw [hpercent] at hc
        cases hc
      rw [if_neg Bool.false_ne_true, List.singleton_append, plainStops_cons hne, ih]

/-- A text that has no percent sign once it is encoded is its own encoding. -/
theorem percentEncode_eq_self {set : Char → Bool} {cs : List Char} (h : '%' ∉ percentEncode set cs) :
    percentEncode set cs = cs := by
  induction cs with
  | nil => rfl
  | cons c cs ih =>
    change '%' ∉ (if set c then (encodeChar c).flatMap percentByte else [c]) ++ percentEncode set cs at h
    change (if set c then (encodeChar c).flatMap percentByte else [c]) ++ percentEncode set cs = c :: cs
    obtain ⟨hfirst, hrest⟩ := not_or.mp (mt List.mem_append.mpr h)
    cases hc : set c with
    | true =>
      obtain ⟨b, bytes, hbytes⟩ := List.exists_cons_of_ne_nil (encodeChar_ne_nil c)
      simp [hc, hbytes, percentByte] at hfirst
    | false => rw [if_neg Bool.false_ne_true, ih hrest, List.singleton_append]

/-- Full stops are written as they are, and by nothing else. -/
theorem percentEncode_eq_stops {set : Char → Bool} (hstop : set '.' = false) {cs stops : List Char}
    (hstops : ∀ c ∈ stops, c = '.') : percentEncode set cs = stops ↔ cs = stops := by
  constructor
  · intro h
    have hpercent : '%' ∉ percentEncode set cs := by
      rw [h]
      exact fun hmem => absurd (hstops _ hmem) (by decide)
    rw [← percentEncode_eq_self hpercent, h]
  · rintro rfl
    induction cs with
    | nil => rfl
    | cons c cs ih =>
      obtain ⟨rfl, hcs⟩ := List.forall_mem_cons.mp hstops
      change (if set '.' then _ else ['.']) ++ percentEncode set cs = '.' :: cs
      rw [hstop, if_neg Bool.false_ne_true, ih hcs, List.singleton_append]

/-! ### One more text -/

variable {rule : PathRule}

/-- Whether a text is `..`, but only without its tabulators and line ends. -/
def Climbs (text : List Char) : Prop :=
  text ≠ ['.', '.'] ∧ withoutLineEnds text = ['.', '.']

instance (text : List Char) : Decidable (Climbs text) :=
  inferInstanceAs (Decidable (_ ∧ _))

/-- Whether the last of some segments can be left: it is not empty and not a drive. -/
def LeavesLast (segments : List Segment) : Prop :=
  ∃ l ∈ segments.getLast?, l ≠ [] ∧ beginsWithDrive l = false

/-- The segments that a text comes behind: all of them, but none at the root. -/
def foldersOf (segments : List Segment) : List Segment :=
  if segments = [[]] then [] else segments

theorem resolve_percentEncode (hfile : rule.file = false) (fs : List Segment) (text : List Char) :
    resolve rule fs (percentEncode (segmentSet rule.special) text) =
      if text = ['.'] then (fs, [])
      else if text = ['.', '.'] then (parentFolder fs, [])
      else (fs, percentEncode (segmentSet rule.special) text) := by
  have hpercent : segmentSet rule.special '%' = true := by cases rule.special <;> decide
  have hstop : segmentSet rule.special '.' = false := by cases rule.special <;> decide
  unfold resolve
  rw [plainStops_percentEncode hpercent hstop]
  by_cases hone : text = ['.']
  · rw [(percentEncode_eq_stops hstop (by simp)).mpr hone, if_pos hone]
    rfl
  · by_cases htwo : text = ['.', '.']
    · rw [(percentEncode_eq_stops hstop (by simp)).mpr htwo, if_neg hone, if_pos htwo]
      rfl
    · rw [if_neg hone, if_neg htwo]
      split
      · next h => exact absurd ((percentEncode_eq_stops hstop (by simp)).mp h) hone
      · next h => exact absurd ((percentEncode_eq_stops hstop (by simp)).mp h) htwo
      · rw [hfile, Bool.false_and, Bool.false_and, if_neg Bool.false_ne_true]

/-- A text that does not climb leaves the segments as they are, or adds one behind them. -/
theorem appendText_of_not_climbs (hfile : rule.file = false) (segments : List Segment) {text : List Char}
    (h : ¬Climbs text) :
    appendText rule segments text = segments ∨
      ∃ s, '/' ∉ s ∧ appendText rule segments text = foldersOf segments ++ [s] := by
  unfold appendText
  by_cases hdots : text = ['.'] ∨ text = ['.', '.']
  · exact .inl (if_pos hdots)
  · right
    have htwo : withoutLineEnds text ≠ ['.', '.'] := fun hline => h ⟨fun htext => hdots (.inr htext), hline⟩
    have hslash : '/' ∉ percentEncode (segmentSet rule.special) (withoutLineEnds text) :=
      not_slash_mem_percentEncode fun _ => by cases rule.special <;> decide
    rw [if_neg hdots]
    simp only [normalizeFront, hfile, Bool.false_eq_true, if_false, endPath, resolve_percentEncode hfile, if_neg htwo]
    split
    · exact ⟨[], List.not_mem_nil, rfl⟩
    · exact ⟨_, hslash, rfl⟩

/-- A text that climbs leads to the folder above. -/
theorem appendText_of_climbs (hfile : rule.file = false) (segments : List Segment) {text : List Char}
    (h : Climbs text) : appendText rule segments text = parentFolder (foldersOf segments) ++ [[]] := by
  obtain ⟨htext, hline⟩ := h
  have hone : text ≠ ['.'] := by
    rintro rfl
    exact absurd hline (by decide)
  unfold appendText
  rw [if_neg (not_or.mpr ⟨hone, htext⟩), hline]
  simp only [normalizeFront, hfile, Bool.false_eq_true, if_false, endPath, resolve_percentEncode hfile]
  rfl

theorem foldersOf_subset (segments : List Segment) : foldersOf segments ⊆ segments := by
  unfold foldersOf
  split
  · exact List.nil_subset _
  · exact List.Subset.refl _

theorem appendText_slashFree (hfile : rule.file = false) {segments : List Segment} (hfree : SlashFree segments)
    (text : List Char) : SlashFree (appendText rule segments text) := by
  have hfolders : SlashFree (foldersOf segments) := hfree.of_subset (foldersOf_subset segments)
  by_cases h : Climbs text
  · rw [appendText_of_climbs hfile segments h]
    exact (hfolders.of_subset (parentFolder_subset _)).append (slashFree_singleton List.not_mem_nil)
  · rcases appendText_of_not_climbs hfile segments h with hsame | ⟨s, hs, hmore⟩
    · rwa [hsame]
    · rw [hmore]
      exact hfolders.append (slashFree_singleton hs)

theorem dropEmptyEnd_subset (segments : List Segment) : dropEmptyEnd segments ⊆ segments := by
  unfold dropEmptyEnd
  split
  · exact List.dropLast_subset _
  · exact List.Subset.refl _

theorem appendTexts_slashFree (hfile : rule.file = false) {segments : List Segment} (hfree : SlashFree segments)
    (texts : List (List Char)) : SlashFree (appendTexts rule segments texts) := by
  have hrun : ∀ segments, SlashFree segments → SlashFree (texts.foldl (appendText rule) segments) := by
    induction texts with
    | nil => exact fun segments hfree => hfree
    | cons t ts ih => exact fun segments hfree => ih _ (appendText_slashFree hfile hfree t)
  exact hrun _ (hfree.of_subset (dropEmptyEnd_subset segments))

/-! ### The text of the path -/

/-- A path's text without a slash at its end. -/
def withoutEnd (text : List Char) : List Char :=
  if text.getLast? = some '/' then text.dropLast else text

theorem segmentsText_append (front back : List Segment) :
    segmentsText (front ++ back) = segmentsText front ++ segmentsText back :=
  List.flatMap_append

theorem segmentsText_mono {front segments : List Segment} (h : front <+: segments) :
    segmentsText front <+: segmentsText segments := by
  obtain ⟨back, rfl⟩ := h
  rw [segmentsText_append]
  exact List.prefix_append _ _

theorem segmentsText_singleton (s : Segment) : segmentsText [s] = '/' :: s :=
  List.append_nil _

theorem withoutEnd_prefix_self (text : List Char) : withoutEnd text <+: text := by
  unfold withoutEnd
  split
  · exact List.dropLast_prefix text
  · exact List.prefix_refl text

/-- Only an empty segment at the end ends the path with a slash. -/
theorem withoutEnd_segmentsText {front : List Segment} {l : Segment} (hl : l ≠ []) (hslash : '/' ∉ l) :
    withoutEnd (segmentsText (front ++ [l])) = segmentsText (front ++ [l]) := by
  refine if_neg fun hlast => hslash ?_
  rw [segmentsText_append, segmentsText_singleton, List.getLast?_append_of_ne_nil _ (List.cons_ne_nil '/' l),
    List.getLast?_cons_of_ne_nil hl] at hlast
  exact List.mem_of_getLast? hlast

theorem withoutEnd_prefix_foldersOf (segments : List Segment) :
    withoutEnd (segmentsText segments) <+: segmentsText (foldersOf segments) := by
  unfold foldersOf
  split
  · next h =>
    subst h
    exact List.nil_prefix
  · exact withoutEnd_prefix_self _

/-- If the last segment cannot be left, it is empty and the folder above ends in another, or it is a drive and stays. -/
theorem parentFolder_of_not_leavesLast {segments : List Segment} (h : ¬LeavesLast segments) :
    parentFolder (foldersOf segments) ++ [[]] = segments ∨ parentFolder (foldersOf segments) = foldersOf segments := by
  cases hlast : (foldersOf segments).getLast? with
  | none =>
    right
    rw [List.getLast?_eq_none_iff.mp hlast]
    rfl
  | some l =>
    have hne : segments ≠ [[]] := by
      rintro rfl
      cases hlast
    have hsame : foldersOf segments = segments := if_neg hne
    rw [hsame] at hlast ⊢
    cases hdrive : beginsWithDrive l with
    | true =>
      right
      simp [parentFolder, hlast, hdrive]
    | false =>
      left
      obtain rfl : l = [] := by
        by_contra hl
        exact h ⟨l, hlast, hl, hdrive⟩
      simpa [parentFolder, hlast, hdrive] using List.dropLast_append_getLast? [] hlast

/-- A text that does not climb leaves the folders where they are. -/
theorem foldersOf_prefix_appendText (hfile : rule.file = false) (segments : List Segment) {text : List Char}
    (h : ¬Climbs text) : foldersOf segments <+: foldersOf (appendText rule segments text) := by
  rcases appendText_of_not_climbs hfile segments h with hsame | ⟨s, -, hmore⟩
  · exact ⟨[], by rw [List.append_nil, hsame]⟩
  · rw [hmore]
    by_cases hroot : foldersOf segments ++ [s] = [[]]
    · have hnil : foldersOf segments = [] := by
        have hlength := congrArg List.length hroot
        simp only [List.length_append, List.length_singleton] at hlength
        exact List.length_eq_zero_iff.mp (by omega)
      rw [hnil]
      exact List.nil_prefix
    · rw [show foldersOf (foldersOf segments ++ [s]) = foldersOf segments ++ [s] from if_neg hroot]
      exact List.prefix_append _ _

theorem foldersOf_prefix_foldl (hfile : rule.file = false) {texts : List (List Char)} (h : ∀ t ∈ texts, ¬Climbs t)
    (segments : List Segment) : foldersOf segments <+: foldersOf (texts.foldl (appendText rule) segments) := by
  induction texts generalizing segments with
  | nil => exact List.prefix_refl _
  | cons t ts ih =>
    obtain ⟨ht, hts⟩ := List.forall_mem_cons.mp h
    exact (foldersOf_prefix_appendText hfile segments ht).trans (ih hts _)

theorem segmentsText_foldersOf_prefix_self (segments : List Segment) :
    segmentsText (foldersOf segments) <+: segmentsText segments := by
  unfold foldersOf
  split
  · exact List.nil_prefix
  · exact List.prefix_refl _

/-- The path goes on behind what was there, except after a text that climbs out of a segment that can be left. -/
theorem appendText_extends_iff (hfile : rule.file = false) {segments : List Segment} (hfree : SlashFree segments)
    (text : List Char) :
    withoutEnd (segmentsText segments) <+: segmentsText (appendText rule segments text) ↔
      ¬(Climbs text ∧ LeavesLast segments) := by
  have hbehind (s : Segment) : withoutEnd (segmentsText segments) <+: segmentsText (foldersOf segments ++ [s]) :=
    (withoutEnd_prefix_foldersOf segments).trans (segmentsText_mono (List.prefix_append _ _))
  by_cases hclimbs : Climbs text
  · -- the folder above has no room for the segment that was left
    rw [appendText_of_climbs hfile segments hclimbs]
    by_cases hleaves : LeavesLast segments
    · obtain ⟨l, hl, hne, hdrive⟩ := hleaves
      obtain ⟨front, rfl⟩ : ∃ front, segments = front ++ [l] := ⟨_, (List.dropLast_append_getLast? l hl).symm⟩
      have hparent : parentFolder (foldersOf (front ++ [l])) = front := by
        have hroot : front ++ [l] ≠ [[]] := by
          intro h
          exact hne (by simpa using congrArg List.getLast? h)
        simp [foldersOf, hroot, parentFolder, hdrive]
      refine iff_of_false (fun hprefix => ?_) (not_not.mpr ⟨hclimbs, l, hl, hne, hdrive⟩)
      rw [hparent, withoutEnd_segmentsText hne (hfree l (by simp)), segmentsText_append, segmentsText_append] at hprefix
      have hlength := hprefix.length_le
      simp only [List.length_append, segmentsText_singleton, List.length_cons, List.length_nil] at hlength
      exact hne (List.length_eq_zero_iff.mp (by omega))
    · refine iff_of_true ?_ (fun h => hleaves h.2)
      rcases parentFolder_of_not_leavesLast hleaves with hsame | hstays
      · rw [hsame]
        exact withoutEnd_prefix_self _
      · rw [hstays]
        exact hbehind []
  · refine iff_of_true ?_ (fun h => hclimbs h.1)
    rcases appendText_of_not_climbs hfile segments hclimbs with hsame | ⟨s, -, hmore⟩
    · rw [hsame]
      exact withoutEnd_prefix_self _
    · rw [hmore]
      exact hbehind s

/-! ### Addresses -/

/-- What extending the path of an address leaves alone. -/
structure SameBeside (u v : Url) : Prop where
  scheme : v.scheme = u.scheme
  authority : v.authority = u.authority
  guarded : v.guarded = u.guarded
  query : v.query = u.query
  fragment : v.fragment = u.fragment

/-- The schemes of the web are special and read no drives. -/
theorem pathRule_of_web {scheme : String} (h : scheme = "http" ∨ scheme = "https") :
    isSpecialScheme scheme = true ∧ (pathRule scheme).file = false := by
  rcases h with rfl | rfl <;> decide

/-- Texts can always be appended to an address of the web, and its path alone changes. -/
theorem build_of_web {u : Url} (h : u.scheme = "http" ∨ u.scheme = "https") (texts : List String) :
    ∃ v, u.build texts = .ok v ∧ SameBeside u v ∧
      v.path = .rooted (appendTexts (pathRule u.scheme) u.path.segments (texts.map String.toList)) := by
  have hne := u.segments_ne_nil (pathRule_of_web h).1
  obtain ⟨scheme, authority, guarded, path, query, fragment, hsegments⟩ := u
  cases path with
  | rootless text => exact absurd rfl hne
  | rooted segments => exact ⟨_, rfl, ⟨rfl, rfl, rfl, rfl, rfl⟩, rfl⟩

theorem appendTexts_append (segments : List Segment) (texts more : List (List Char)) :
    appendTexts rule segments (texts ++ more) = more.foldl (appendText rule) (appendTexts rule segments texts) :=
  List.foldl_append

/-- No text but one that climbs ever takes away from the path of the texts before it, however many follow. -/
theorem build_extends_of_not_climbs {base : Url} (hweb : base.scheme = "http" ∨ base.scheme = "https")
    (texts : List String) {more : List String} (hmore : ∀ t ∈ more, ¬Climbs t.toList) :
    ∃ u v, base.build texts = .ok u ∧ base.build (texts ++ more) = .ok v ∧
      withoutEnd u.path.text <+: v.path.text := by
  obtain ⟨u, hu, -, hpath⟩ := build_of_web hweb texts
  obtain ⟨v, hv, -, hpath'⟩ := build_of_web hweb (texts ++ more)
  refine ⟨u, v, hu, hv, ?_⟩
  rw [List.map_append, appendTexts_append] at hpath'
  rw [hpath, hpath']
  have hfolders := foldersOf_prefix_foldl (pathRule_of_web hweb).2 (List.forall_mem_map.mpr hmore)
    (appendTexts (pathRule base.scheme) base.path.segments (texts.map String.toList))
  have hbehind := (withoutEnd_prefix_foldersOf _).trans (segmentsText_mono hfolders)
  exact hbehind.trans (segmentsText_foldersOf_prefix_self _)

/-- Over an address of the web, the path of some texts and one more goes on behind the path of these texts unless the
last text climbs out of a segment that can be left. -/
theorem build_extends_iff {s : String} {base : Url} (h : parse s = .ok base)
    (hweb : base.scheme = "http" ∨ base.scheme = "https") (texts : List String) (t : String) :
    ∃ u v, base.build texts = .ok u ∧ base.build (texts ++ [t]) = .ok v ∧ SameBeside base u ∧ SameBeside base v ∧
      (withoutEnd u.path.text <+: v.path.text ↔ ¬(Climbs t.toList ∧ LeavesLast u.path.segments)) := by
  have hfile := (pathRule_of_web hweb).2
  obtain ⟨u, hu, hbeside, hpath⟩ := build_of_web hweb texts
  obtain ⟨v, hv, hbeside', hpath'⟩ := build_of_web hweb (texts ++ [t])
  refine ⟨u, v, hu, hv, hbeside, hbeside', ?_⟩
  rw [List.map_append, appendTexts_append] at hpath'
  rw [hpath, hpath']
  exact appendText_extends_iff hfile (appendTexts_slashFree hfile (parse_slashFree h) _) t.toList

/-- A text of two full stops with a tabulator between them takes the last segment of `http://localhost/api/foo` away. -/
theorem tabulated_stops_climb :
    ∃ base u v, parse "http://localhost/api" = .ok base ∧ base.build ["foo"] = .ok u ∧
      base.build ["foo", ".\t."] = .ok v ∧ u.text = "http://localhost/api/foo" ∧ v.text = "http://localhost/api/" ∧
      ¬withoutEnd u.path.text <+: v.path.text := by
  have hparse : parse "http://localhost/api" = .ok {
      scheme := "http"
      authority := some { host := .name "localhost".toList }
      path := .rooted ["api".toList]
      segments_ne_nil := fun _ => List.cons_ne_nil _ _ } := by
    decide +kernel
  obtain ⟨u, v, hu, hv, -, -, hiff⟩ := build_extends_iff hparse (.inl rfl) ["foo"] ".\t."
  refine ⟨_, u, v, hparse, hu, hv, ?_, ?_, ?_⟩
  · cases hu
    decide +kernel
  · cases hv
    decide +kernel
  · rw [hiff]
    refine not_not.mpr ⟨by decide, ?_⟩
    cases hu
    exact ⟨"foo".toList, by decide, by decide, by decide⟩

end Url

end ServiceBindings
