import ServiceBindings.Generate.Manifest
import ServiceBindings.Toml.Reader

/-!
What a manifest means. Quotation marks and backslashes are escaped in it and nothing else is, so that a string is read
back exactly if it has no control but the tabulator. The name of a crate never has one; the path of the runtime may
have one, and no manifest is read then.
-/

namespace ServiceBindings

/-! ### Scanning -/

namespace Toml

/-- A scan of one text after another goes on where the first ends. -/
theorem scan_append (m : Mode) (front back : List Char) :
    scan m (front ++ back) = (scan m front).bind fun r => (scan r.2 back).map fun q => (r.1 ++ q.1, q.2) := by
  induction front generalizing m with
  | nil => simp [scan]
  | cons c rest ih =>
    rw [List.cons_append, scan, scan]
    cases step m c with
    | none => rfl
    | some r =>
      rw [Option.bind_some, Option.bind_some, ih]
      cases scan r.2 rest with
      | none => rfl
      | some q =>
        simp only [Option.bind_some, Option.map_some, Option.map_map]
        congr 1
        funext p
        simp

/-- Whether a text is a string, wherever it stands: what follows is scanned as if it came first. -/
def Quotes (text s : String) : Prop :=
  ∀ back, scan .between (text.toList ++ back) =
    (scan .between back).map fun r => (.text s.toList :: r.1, r.2)

/-- Whether a text is no beginning of anything. -/
def Broken (text : String) : Prop :=
  ∀ back, scan .between (text.toList ++ back) = none

theorem not_broken_of_quotes {text s : String} (h : Quotes text s) : ¬Broken text := by
  intro hbroken
  have hnone := hbroken []
  rw [h] at hnone
  cases hnone

end Toml

namespace Generate

open Toml

/-! ### Strings -/

/-- Whether a text can be given in a manifest: its only control is the tabulator. -/
def isWritable (s : String) : Bool :=
  s.toList.all inText

theorem scan_manifestChar (s : List Char) (c : Char) :
    scan (.text s) (manifestChar c) = if inText c then some ([], .text (s ++ [c])) else none := by
  unfold manifestChar
  split
  · next h => rw [h]; rfl
  · next hback =>
    split
    · next h => rw [h]; rfl
    · next hquote =>
      simp only [scan, step, hback, hquote, if_false]
      split <;> rfl

/-- What is written for some characters is read as these, up to the first control. -/
theorem scan_flatMap_manifestChar (s cs : List Char) :
    scan (.text s) (cs.flatMap manifestChar) = if cs.all inText then some ([], .text (s ++ cs)) else none := by
  induction cs generalizing s with
  | nil => simp [scan]
  | cons c rest ih =>
    have hfirst := scan_manifestChar s c
    rw [List.flatMap_cons, List.all_cons]
    cases hc : inText c with
    | false =>
      rw [hc] at hfirst
      rw [scan_append, hfirst]
      rfl
    | true =>
      rw [hc] at hfirst
      rw [scan_append, hfirst, if_pos rfl, Option.bind_some, ih, Bool.true_and, List.append_assoc]
      split <;> rfl

theorem toList_manifestString (s : String) :
    (manifestString s).toList = '"' :: (s.toList.flatMap manifestChar ++ ['"']) := by
  simp [manifestString]

/-- The string of a text that can be given is a string of the text, and ends with its last quotation mark. -/
theorem quotes_manifestString {s : String} (h : isWritable s = true) : Quotes (manifestString s) s := by
  intro back
  have htext : scan .between ('"' :: (s.toList.flatMap manifestChar ++ ['"'])) = some ([.text s.toList], .between) := by
    have hopen : scan .between ['"'] = some ([], .text []) := rfl
    have hchars := scan_flatMap_manifestChar [] s.toList
    rw [show s.toList.all inText = true from h, if_pos rfl, List.nil_append] at hchars
    rw [← List.singleton_append, scan_append, hopen, Option.bind_some, scan_append, hchars]
    rfl
  rw [toList_manifestString, scan_append, htext]
  rfl

/-- That of any other text is nothing. -/
theorem broken_manifestString {s : String} (h : isWritable s = false) : Broken (manifestString s) := by
  intro back
  have hchars := scan_flatMap_manifestChar [] s.toList
  rw [show s.toList.all inText = false from h, if_neg Bool.false_ne_true] at hchars
  have hopen : scan .between ['"'] = some ([], .text []) := rfl
  rw [toList_manifestString, ← List.singleton_append, List.append_assoc, scan_append, hopen, Option.bind_some,
    List.append_assoc, scan_append, hchars]
  rfl

theorem inText_of_isAlphanum {c : Char} (h : c.isAlphanum = true) : inText c = true := by
  have hbounds : 48 ≤ c.toNat ∧ c.toNat ≤ 122 := by
    change (decide (65 ≤ c.val ∧ c.val ≤ 90) || (decide (97 ≤ c.val) && decide (c.val ≤ 122)) ||
      (decide (48 ≤ c.val) && decide (c.val ≤ 57))) = true at h
    simp only [Bool.or_eq_true, Bool.and_eq_true, decide_eq_true_eq, UInt32.le_iff_toNat_le] at h
    change ((65 ≤ c.toNat ∧ c.toNat ≤ 90) ∨ 97 ≤ c.toNat ∧ c.toNat ≤ 122) ∨ 48 ≤ c.toNat ∧ c.toNat ≤ 57 at h
    omega
  have hspace : ' ' ≤ c := UInt32.le_iff_toNat_le.mpr (Nat.le_trans (by decide) hbounds.1)
  have hdelete : c ≠ '\x7f' := by
    rintro rfl
    exact absurd hbounds.2 (by decide)
  simp [inText, hspace, hdelete]

/-- Nothing is wrong with the characters of the name of a crate. -/
theorem isWritable_of_checkCrateName {name : String} (h : checkCrateName name = .ok ()) : isWritable name = true := by
  unfold checkCrateName at h
  split at h
  · next hname =>
    obtain ⟨-, hall⟩ := Bool.and_eq_true_iff.mp hname
    refine List.all_eq_true.mpr fun c hc => ?_
    have hin := List.all_eq_true.mp hall c hc
    simp only [inCrateName, Bool.or_eq_true, decide_eq_true_eq] at hin
    rcases hin with (halnum | rfl) | rfl
    · exact inText_of_isAlphanum halnum
    · rfl
    · rfl
  · cases h

/-! ### Manifests

A manifest is the name and the path between three texts that are always the same. -/

def frontText : String := "[package]\nname = "

def middleText : String :=
  "\nversion = \"0.1.0\"\nedition = \"2024\"\npublish = false\n\n[dependencies]\nclientgen = \x7b path = "

def backText : String :=
  " \x7d\nserde = \x7b version = \"1.0\", features = [\"derive\"] \x7d\n\n[workspace]\n"

def frontTokens : List Token :=
  [.mark '[', .word "package".toList, .mark ']', .newline, .word "name".toList, .mark '=']

def middleTokens : List Token :=
  [.newline, .word "version".toList, .mark '=', .text "0.1.0".toList,
    .newline, .word "edition".toList, .mark '=', .text "2024".toList,
    .newline, .word "publish".toList, .mark '=', .word "false".toList,
    .newline, .newline, .mark '[', .word "dependencies".toList, .mark ']',
    .newline, .word "clientgen".toList, .mark '=', .mark '\x7b', .word "path".toList, .mark '=']

def backTokens : List Token :=
  [.mark '\x7d', .newline, .word "serde".toList, .mark '=', .mark '\x7b', .word "version".toList, .mark '=',
    .text "1.0".toList, .mark ',', .word "features".toList, .mark '=', .mark '[', .text "derive".toList, .mark ']',
    .mark '\x7d', .newline, .newline, .mark '[', .word "workspace".toList, .mark ']', .newline]

theorem scan_frontText : scan .between frontText.toList = some (frontTokens, .between) := by decide +kernel

theorem scan_middleText : scan .between middleText.toList = some (middleTokens, .between) := by decide +kernel

theorem scan_backText : scan .between backText.toList = some (backTokens, .between) := by decide +kernel

theorem toList_manifest (name path : String) : (manifest name path).toList =
    frontText.toList ++ ((manifestString name).toList ++
      (middleText.toList ++ ((manifestString path).toList ++ backText.toList))) := by
  simp [manifest, manifestLines, String.join, frontText, middleText, backText]

/-- The tokens of a manifest. -/
def manifestTokens (name path : String) : List Token :=
  frontTokens ++ .text name.toList :: (middleTokens ++ .text path.toList :: backTokens)

/-- What a manifest says. -/
def manifestTable (name path : String) : Value :=
  .table [
    ("package", .table [("name", .text name), ("version", .text "0.1.0"), ("edition", .text "2024"),
      ("publish", .flag false)]),
    ("dependencies", .table [("clientgen", .table [("path", .text path)]),
      ("serde", .table [("version", .text "1.0"), ("features", .array [.text "derive"])])]),
    ("workspace", .table [])]

section Manifest

variable {name : String} (hname : checkCrateName name = .ok ()) (path : String)
include hname

/-- A manifest is scanned to its end if its path can be given. -/
theorem scan_manifest : scan .between (manifest name path).toList =
    if isWritable path then some (manifestTokens name path, .between) else none := by
  have hquotes := quotes_manifestString (isWritable_of_checkCrateName hname)
  rw [toList_manifest, scan_append, scan_frontText, Option.bind_some, hquotes, scan_append, scan_middleText,
    Option.bind_some]
  cases hpath : isWritable path with
  | true =>
    rw [quotes_manifestString hpath, scan_backText]
    rfl
  | false =>
    rw [broken_manifestString hpath]
    rfl

/-- A manifest is read as the name and the path that it was made of, or not at all. -/
theorem read?_manifest :
    read? (manifest name path) = if isWritable path then some (manifestTable name path) else none := by
  have hscan := scan_manifest hname path
  cases hpath : isWritable path with
  | true =>
    rw [hpath, if_pos rfl] at hscan
    have htokens : tokens? (manifest name path) = some (manifestTokens name path) := by
      unfold tokens?
      rw [hscan]
    have hlines : (lines (manifestTokens name path)).mapM line? = some [
        .header "package", .pair "name" (.text (String.ofList name.toList)), .pair "version" (.text "0.1.0"),
        .pair "edition" (.text "2024"), .pair "publish" (.flag false), .blank, .header "dependencies",
        .pair "clientgen" (.table [("path", .text (String.ofList path.toList))]),
        .pair "serde" (.table [("version", .text "1.0"), ("features", .array [.text "derive"])]), .blank,
        .header "workspace", .blank] := rfl
    rw [String.ofList_toList, String.ofList_toList] at hlines
    unfold read?
    rw [htokens, Option.bind_eq_bind, Option.bind_some, hlines]
    rfl
  | false =>
    rw [hpath, if_neg Bool.false_ne_true] at hscan
    unfold read? tokens?
    rw [hscan]
    rfl

end Manifest

/-- The name of a crate is written as a string of the name. The path of the runtime is written as a string of the path
exactly if its only control is the tabulator, and then the manifest is read as the name and the path. Any other path
gives a manifest that is not read, whatever follows the path. So manifests that are read and say the same at every key
are made of the same name and the same path. -/
theorem manifest_means {name : String} (hname : checkCrateName name = .ok ()) (path : String) :
    Quotes (manifestString name) name ∧
    (isWritable path = true →
      Quotes (manifestString path) path ∧ read? (manifest name path) = some (manifestTable name path)) ∧
    (isWritable path = false →
      Broken (manifestString path) ∧ (∀ s, ¬Quotes (manifestString path) s) ∧ read? (manifest name path) = none) ∧
    ∀ name' path' v v', checkCrateName name' = .ok () → read? (manifest name path) = some v →
      read? (manifest name' path') = some v' → (∀ keys, v.find? keys = v'.find? keys) →
      name = name' ∧ path = path' := by
  have hread := read?_manifest hname path
  refine ⟨quotes_manifestString (isWritable_of_checkCrateName hname), fun hpath => ?_, fun hpath => ?_, ?_⟩
  · rw [hpath] at hread
    exact ⟨quotes_manifestString hpath, hread⟩
  · rw [hpath] at hread
    have hbroken := broken_manifestString hpath
    exact ⟨hbroken, fun s hs => not_broken_of_quotes hs hbroken, hread⟩
  · intro name' path' v v' hname' hv hv' hsame
    rw [hread] at hv
    rw [read?_manifest hname' path'] at hv'
    split at hv <;> cases hv
    split at hv' <;> cases hv'
    have hnames := hsame ["package", "name"]
    have hpaths := hsame ["dependencies", "clientgen", "path"]
    exact ⟨Value.text.inj (Option.some.inj hnames), Value.text.inj (Option.some.inj hpaths)⟩

/-- A newline in the path of the runtime is not escaped, and the manifest is not read. -/
theorem newline_breaks_manifest :
    checkCrateName "p" = .ok () ∧ isWritable "a\nb" = false ∧ manifestString "a\nb" = "\"a\nb\"" ∧
      Broken (manifestString "a\nb") ∧ (∀ s, ¬Quotes (manifestString "a\nb") s) ∧ read? (manifest "p" "a\nb") = none ∧
      isWritable "C:\\work\\\"x\"" = true ∧
      read? (manifest "p" "C:\\work\\\"x\"") = some (manifestTable "p" "C:\\work\\\"x\"") := by
  have hname : checkCrateName "p" = .ok () := rfl
  obtain ⟨-, -, hbroken, -⟩ := manifest_means hname "a\nb"
  obtain ⟨-, hread, -⟩ := manifest_means hname "C:\\work\\\"x\""
  exact ⟨hname, by decide, by decide +kernel, (hbroken (by decide)).1, (hbroken (by decide)).2.1,
    (hbroken (by decide)).2.2, by decide, (hread (by decide)).2⟩

end Generate

end ServiceBindings
