import ServiceBindings.Json.Reader
import ServiceBindings.Json.Writer
import ServiceBindings.Proofs.Json.Normal
import ServiceBindings.Proofs.Json.Numbers

/-!
Reading what was written. The text of a normal form is read as the normal form, and what any text is read as is a
normal form.
-/

namespace ServiceBindings.Json

open Text

/-- The places of a text. -/
def glyphs (s : String) : Glyphs := .ofChars s.toList

theorem glyphs_append (s t : String) : glyphs (s ++ t) = glyphs s ++ glyphs t := by
  simp [glyphs, Glyphs.ofChars]

/-! ### Strings -/

theorem chars?_ofChars (cs : List Char) : Glyphs.chars? (.ofChars cs) = some cs := by
  induction cs with
  | nil => rfl
  | cons c rest ih =>
    rw [Glyphs.ofChars, List.map_cons, Glyphs.chars?]
    exact congrArg (Option.map (c :: ·)) ih

/-- The places of the content of a written string. -/
def content (cs : List Char) : Glyphs := cs.flatMap fun c => glyphs (renderChar c)

theorem glyphs_renderString (s : String) : glyphs (renderString s) = some '"' :: (content s.toList ++ [some '"']) := by
  simp [renderString, glyphs, content, Glyphs.ofChars, String.toList_join, List.flatMap_map, List.map_flatMap]

/-- The two digits of a control character that has no short escape. -/
private theorem controlEscape_eq : ∀ n < 32, controlEscape (Char.ofNat n) =
    String.ofList ['\\', 'u', '0', '0', Nat.digitChar (n / 16), Nat.digitChar (n % 16)] := by
  decide

private theorem hexValue?_digitChar : ∀ n < 16, hexValue? (Nat.digitChar n) = some n := by
  decide

theorem scanHex_digits {a b c d : Char} {w x y z : Nat} (ha : hexValue? a = some w) (hb : hexValue? b = some x)
    (hc : hexValue? c = some y) (hd : hexValue? d = some z) (rest : Glyphs) :
    scanHex (some a :: some b :: some c :: some d :: rest) = .ok (((w * 16 + x) * 16 + y) * 16 + z, rest) := by
  have hbytes : ¬ byteCount ((some a :: some b :: some c :: some d :: rest).take 4) < 4 := by
    have := a.utf8Size_pos
    have := b.utf8Size_pos
    have := c.utf8Size_pos
    have := d.utf8Size_pos
    simp only [byteCount, glyphSize, List.take_succ_cons, List.take_zero, List.foldr_cons, List.foldr_nil]
    omega
  rw [scanHex, if_neg hbytes]
  simp only [ha, hb, hc, hd]

/-- Every character is read back in one step. -/
theorem scanStringAfter_renderChar (fuel : Nat) (done : Glyphs) (c : Char) (gs : Glyphs) :
    scanStringAfter (fuel + 1) done (glyphs (renderChar c) ++ gs) = scanStringAfter fuel (some c :: done) gs := by
  unfold renderChar
  split
  · rfl
  · rfl
  · rfl
  · rfl
  · rfl
  · rfl
  · rfl
  · next hquote hbackslash _ _ _ _ _ =>
    split
    · next hcontrol =>
      have hescape := controlEscape_eq c.toNat hcontrol
      rw [Char.ofNat_toNat] at hescape
      have hunit : scanUnit (some '0' :: some '0' :: some (Nat.digitChar (c.toNat / 16)) ::
          some (Nat.digitChar (c.toNat % 16)) :: gs) = .ok (c, gs) := by
        have hzero : hexValue? '0' = some 0 := by decide
        have hhigh := hexValue?_digitChar (c.toNat / 16) (by omega)
        have hlow := hexValue?_digitChar (c.toNat % 16) (by omega)
        have hvalue : ((0 * 16 + 0) * 16 + c.toNat / 16) * 16 + c.toNat % 16 = c.toNat := by omega
        rw [scanUnit, scanHex_digits hzero hzero hhigh hlow, hvalue]
        simp only [ok_bind]
        rw [if_neg (by omega), if_pos (by omega), Char.ofNat_toNat]
      rw [hescape]
      simp only [glyphs, Glyphs.ofChars, String.toList_ofList, List.map_cons, List.map_nil, List.cons_append,
        List.nil_append, scanStringAfter, hunit, ok_bind]
    · next hcontrol =>
      have hsame : glyphs c.toString = [some c] := by simp [glyphs, Glyphs.ofChars]
      rw [hsame, List.singleton_append, scanStringAfter, if_neg hcontrol]
      · exact hquote
      · exact hbackslash

theorem scanStringAfter_content {fuel : Nat} {cs : List Char} (hfuel : cs.length < fuel) (done : List Char)
    (rest : Glyphs) : scanStringAfter fuel (.ofChars done) (content cs ++ some '"' :: rest) =
      .ok (String.ofList (done.reverse ++ cs), rest) := by
  induction cs generalizing fuel done with
  | nil =>
    obtain ⟨fuel, rfl⟩ := Nat.exists_eq_succ_of_ne_zero (Nat.ne_of_gt hfuel)
    have hreverse : (Glyphs.ofChars done).reverse = Glyphs.ofChars done.reverse := List.map_reverse.symm
    simp [content, scanStringAfter, hreverse, chars?_ofChars]
  | cons c cs ih =>
    obtain ⟨fuel, rfl⟩ := Nat.exists_eq_succ_of_ne_zero (Nat.ne_of_gt (Nat.zero_lt_of_lt hfuel))
    have hrest := ih (by simpa using hfuel) (c :: done)
    rw [content, List.flatMap_cons, List.append_assoc, scanStringAfter_renderChar, ← content]
    simpa [Glyphs.ofChars] using hrest

theorem renderChar_ne_empty (c : Char) : renderChar c ≠ "" := by
  unfold renderChar
  split
  iterate 7 decide
  split <;> simp [controlEscape]

theorem length_le_content (cs : List Char) : cs.length ≤ (content cs).length := by
  induction cs with
  | nil => exact Nat.zero_le _
  | cons c cs ih =>
    have hchar : 0 < (glyphs (renderChar c)).length := by
      simpa [glyphs, Glyphs.ofChars, Nat.pos_iff_ne_zero] using renderChar_ne_empty c
    rw [content, List.flatMap_cons, List.length_append, ← content, List.length_cons]
    omega

/-- A written string is read as the string. -/
theorem scanString_content (s : String) (rest : Glyphs) :
    scanString (content s.toList ++ some '"' :: rest) = .ok (s, rest) := by
  have hfuel : s.toList.length < (content s.toList ++ some '"' :: rest).length := by
    have := length_le_content s.toList
    simp
    omega
  exact (scanStringAfter_content hfuel [] rest).trans (by simp)

/-! ### Integers -/

/-- The written form of an integer: a sign where it is negative, and then digits. -/
theorem glyphs_toString (n : Int) : glyphs (toString n) =
    if 0 ≤ n then Glyphs.ofChars (Nat.toDigits 10 n.natAbs)
    else some '-' :: Glyphs.ofChars (Nat.toDigits 10 n.natAbs) := by
  rw [Int.toString_eq_repr, Int.repr_eq_if]
  split
  · next hn => rw [glyphs, Nat.toList_repr, show n.toNat = n.natAbs by omega]
  · next hn =>
    rw [glyphs_append, glyphs, glyphs, Nat.toList_repr, show (-n).toNat = n.natAbs by omega]
    rfl

theorem IntegerKind.range {k : IntegerKind} {n : Int} (h : k.contains n = true) :
    IntegerKind.i64.least ≤ n ∧ n ≤ IntegerKind.u64.greatest := by
  have h31 : Int.pow 2 31 = 2 ^ 31 := rfl
  have h32 : Int.pow 2 32 = 2 ^ 32 := rfl
  have h63 : Int.pow 2 63 = 2 ^ 63 := rfl
  have h64 : Int.pow 2 64 = 2 ^ 64 := rfl
  simp only [contains, Bool.and_eq_true, decide_eq_true_eq] at h
  cases k <;> simp only [least, greatest, h31, h32, h63, h64] at h ⊢ <;> omega

theorem skipBlanks_cons {c : Char} (hblank : isJsonBlank c = false) (rest : Glyphs) :
    skipBlanks (some c :: rest) = some c :: rest := by
  rw [skipBlanks, if_neg (by simp [hblank])]

theorem not_blank_of_isDigit {c : Char} (h : c.isDigit = true) : isJsonBlank c = false := by
  have hne {other : Char} (hother : other.isDigit = false) : c ≠ other := digit_ne h hother
  simp [isJsonBlank, hne]

/-- An integer of a kind is read from its written form. -/
theorem readValue_integer (records : List Record) {k : IntegerKind} {n : Int} (hrange : k.contains n = true)
    (fuel depth : Nat) {rest : Glyphs} (hrest : Ends rest) :
    readValue records (fuel + 1) depth (.integer k) (glyphs (toString n) ++ rest) =
      .ok (.number (.integer n), rest) := by
  obtain ⟨hleast, hgreatest⟩ := IntegerKind.range hrange
  have hleast64 : IntegerKind.i64.least = -2 ^ 63 := rfl
  have hgreatest64 : IntegerKind.u64.greatest = 2 ^ 64 - 1 := rfl
  have hsize : n.natAbs ≤ largestInteger := by
    have hlargest : largestInteger = 2 ^ 64 - 1 := rfl
    omega
  have hkind : (Shape.integer k).ofNumber records (.integer n) = .ok (.number (.integer n)) := by
    simp [Shape.ofNumber, hrange]
  rw [glyphs_toString]
  split
  · next hn =>
    obtain ⟨c, cs, hcs, hdigit⟩ := exists_first_digit n.natAbs
    have hscan := scanNumber_toDigits false hsize hrest
    have hsign : c ≠ '-' := digit_ne hdigit rfl
    rw [integral_natAbs hn] at hscan
    rw [hcs] at hscan ⊢
    simp only [Glyphs.ofChars, List.map_cons, List.cons_append] at hscan ⊢
    simp [readValue, skipBlanks_cons (not_blank_of_isDigit hdigit), hsign, digitAt?_of_isDigit hdigit, hscan, ok_bind,
      hkind]
  · next hn =>
    have hscan := scanNumber_toDigits true hsize hrest
    rw [integral_natAbs_of_neg (by omega) (by simp; omega)] at hscan
    simp [readValue, skipBlanks, isJsonBlank, hscan, ok_bind, hkind]

/-! ### Written values -/

/-- Texts with commas between them, and before the first unless it is the first of all. -/
def joined (first : Bool) : List Glyphs → Glyphs
  | [] => []
  | t :: rest => (if first then t else some ',' :: t) ++ joined false rest

theorem glyphs_intercalate (ts : List String) : glyphs (",".intercalate ts) = joined true (ts.map glyphs) := by
  cases ts with
  | nil => rfl
  | cons t rest =>
    induction rest generalizing t with
    | nil => simp [joined]
    | cons u rest ih =>
      have hcomma : glyphs "," = [some ','] := rfl
      rw [String.intercalate_cons_cons, glyphs_append, glyphs_append, ih, hcomma]
      simp [joined]

theorem length_joined_cons (first : Bool) (t : Glyphs) (rest : List Glyphs) :
    t.length + (joined false rest).length ≤ (joined first (t :: rest)).length := by
  cases first <;> simp [joined]

/-- The text of a member of an object. -/
def memberText (e : String × Json) : Glyphs :=
  some '"' :: (content e.1.toList ++ some '"' :: some ':' :: glyphs e.2.render)

theorem glyphs_array (items : List Json) :
    glyphs (Json.array items).render =
      some '[' :: (joined true (items.map fun v => glyphs v.render) ++ [some ']']) := by
  have hitems : renderItems items = items.map render := by
    induction items with
    | nil => rfl
    | cons v rest ih => rw [renderItems, ih, List.map_cons]
  rw [render, hitems, glyphs_append, glyphs_append, glyphs_intercalate, List.map_map]
  rfl

theorem glyphs_object (members : List (String × Json)) :
    glyphs (Json.object members).render = some '\x7b' :: (joined true (members.map memberText) ++ [some '\x7d']) := by
  have hmembers : (renderMembers members).map glyphs = members.map memberText := by
    induction members with
    | nil => rfl
    | cons e rest ih =>
      have hcolon : glyphs ":" = [some ':'] := rfl
      rw [renderMembers, List.map_cons, List.map_cons, ih, glyphs_append, glyphs_append, glyphs_renderString, hcolon]
      simp [memberText]
  rw [render, glyphs_append, glyphs_append, glyphs_intercalate, hmembers]
  rfl

/-- Values without floating point numbers, in which lists and objects stand within each other at most so deep. -/
inductive Textual : Nat → Json → Prop
  | null (depth : Nat) : Textual depth .null
  | bool (depth : Nat) (b : Bool) : Textual depth (.bool b)
  | string (depth : Nat) (s : String) : Textual depth (.string s)
  | integer (depth : Nat) (n : Int) : Textual depth (.number (.integer n))
  | array {depth : Nat} {items : List Json} (h : ∀ v ∈ items, Textual depth v) : Textual (depth + 1) (.array items)
  | object {depth : Nat} {members : List (String × Json)} (h : ∀ e ∈ members, Textual depth e.2) :
      Textual (depth + 1) (.object members)

/-- A written value begins with no blank and with no part of a list around it, and only `null` begins like `null`. -/
theorem Textual.head {depth : Nat} {v : Json} (h : Textual depth v) :
    ∃ c rest, glyphs v.render = some c :: rest ∧ isJsonBlank c = false ∧ c ≠ ',' ∧ c ≠ ']' ∧ (v ≠ .null → c ≠ 'n') := by
  cases h with
  | null => exact ⟨'n', _, rfl, by decide, by decide, by decide, fun hnull => absurd rfl hnull⟩
  | bool _ b =>
    cases b with
    | true => exact ⟨'t', _, rfl, by simp [isJsonBlank]⟩
    | false => exact ⟨'f', _, rfl, by simp [isJsonBlank]⟩
  | string _ s => exact ⟨'"', _, glyphs_renderString s, by simp [isJsonBlank]⟩
  | integer _ n =>
    have hrender : glyphs (Json.number (.integer n)).render = glyphs (toString n) := rfl
    rw [hrender, glyphs_toString]
    split
    · obtain ⟨c, cs, hcs, hdigit⟩ := exists_first_digit n.natAbs
      have hne {other : Char} (hother : other.isDigit = false) : c ≠ other := digit_ne hdigit hother
      rw [hcs]
      exact ⟨c, _, rfl, not_blank_of_isDigit hdigit, hne rfl, hne rfl, fun _ => hne rfl⟩
    · exact ⟨'-', _, rfl, by simp [isJsonBlank]⟩
  | array => exact ⟨'[', _, glyphs_array _, by simp [isJsonBlank]⟩
  | object => exact ⟨'\x7b', _, glyphs_object _, by simp [isJsonBlank]⟩

/-! ### Lists and objects -/

theorem beforeItem_written {depth : Nat} {v : Json} (h : Textual depth v) (first : Bool) (rest : Glyphs) :
    beforeItem first ((if first then glyphs v.render else some ',' :: glyphs v.render) ++ rest) =
      .ok (true, glyphs v.render ++ rest) := by
  obtain ⟨c, others, hrender, hblank, hcomma, hclose, _⟩ := h.head
  have hblanks := skipBlanks_cons hblank (others ++ rest)
  rw [hrender]
  cases first with
  | true => simp [beforeItem, hblanks, hcomma, hclose]
  | false =>
    have hbefore := skipBlanks_cons (c := ',') (by decide) (some c :: (others ++ rest))
    simp [beforeItem, hbefore, hblanks, hclose]

theorem beforeItem_close (first : Bool) (rest : Glyphs) :
    beforeItem first (some ']' :: rest) = .ok (false, some ']' :: rest) := by
  cases first <;> rfl

theorem beforeMember_written (first : Bool) (e : String × Json) (rest : Glyphs) :
    beforeMember first ((if first then memberText e else some ',' :: memberText e) ++ rest) =
      .ok (some e.1, some ':' :: (glyphs e.2.render ++ rest)) := by
  have hkey := scanString_content e.1 (some ':' :: (glyphs e.2.render ++ rest))
  cases first with
  | true => simp [beforeMember, memberText, skipBlanks, isJsonBlank, hkey, ok_bind, Functor.map, Except.map]
  | false => simp [beforeMember, memberText, skipBlanks, isJsonBlank, hkey, ok_bind, Functor.map, Except.map]

theorem beforeMember_close (first : Bool) (rest : Glyphs) :
    beforeMember first (some '\x7d' :: rest) = .ok (none, some '\x7d' :: rest) := by
  cases first <;> rfl

theorem colon_cons (rest : Glyphs) : colon (some ':' :: rest) = .ok rest := rfl

variable {records : List Record}

private theorem exists_step {n fuel : Nat} (hfuel : n + 2 ≤ fuel) : ∃ fuel', fuel = fuel' + 1 :=
  ⟨fuel - 1, by omega⟩

/-- Whether a value is read from its text, whatever comes after it that does not go on with a number. -/
def ReadBack (records : List Record) (depth : Nat) (s : Shape) (v : Json) : Prop :=
  ∀ fuel rest, Ends rest → 2 * (glyphs v.render).length + 3 ≤ fuel →
    readValue records fuel depth s (glyphs v.render ++ rest) = .ok (v, rest)

/-- A number ends before a comma and before the end of a list or an object. -/
theorem ends_joined (ts : List Glyphs) {c : Char} (hdigit : digitAt? (some c) = none) (hpoint : c ≠ '.') (he : c ≠ 'e')
    (hE : c ≠ 'E') (rest : Glyphs) : Ends (joined false ts ++ some c :: rest) := by
  cases ts with
  | nil => exact ends_cons hdigit hpoint he hE rest
  | cons t ts => exact ends_cons (by decide) (by decide) (by decide) (by decide) _

theorem readItems_written {depth : Nat} {item : Shape} {items : List Json} (htextual : ∀ v ∈ items, Textual depth v)
    (hitems : ∀ v ∈ items, ReadBack records depth item v) (first : Bool) (fuel : Nat)
    (hfuel : 2 * (joined first (items.map fun v => glyphs v.render)).length + 4 ≤ fuel) (rest : Glyphs) :
    readItems records fuel depth item first (joined first (items.map fun v => glyphs v.render) ++ some ']' :: rest) =
      .ok (items, some ']' :: rest) := by
  induction items generalizing first fuel with
  | nil =>
    obtain ⟨fuel, rfl⟩ := exists_step hfuel
    simp only [List.map_nil, joined, List.nil_append, readItems, beforeItem_close, ok_bind]
    rfl
  | cons v others ih =>
    obtain ⟨fuel, rfl⟩ := exists_step hfuel
    have hv := htextual v List.mem_cons_self
    have hlength := length_joined_cons first (glyphs v.render) (others.map fun v => glyphs v.render)
    have hpositive : 0 < (glyphs v.render).length := by
      obtain ⟨c, rest, hrender, _⟩ := hv.head
      simp [hrender]
    rw [List.map_cons] at hfuel
    have hends : Ends (joined false (others.map fun v => glyphs v.render) ++ some ']' :: rest) :=
      ends_joined _ (by decide) (by decide) (by decide) (by decide) rest
    have hread := hitems v List.mem_cons_self fuel _ hends (by omega)
    have hothers := ih (fun w hw => htextual w (List.mem_cons_of_mem v hw))
      (fun w hw => hitems w (List.mem_cons_of_mem v hw)) false fuel (by omega)
    rw [List.map_cons, joined, readItems, List.append_assoc, beforeItem_written hv]
    simp only [ok_bind, if_true, hread, hothers]

/-- Whether a member of an object is one of a record, and its value is read from its text. -/
def MemberReadBack (records : List Record) (depth : Nat) (r : Record) (e : String × Json) : Prop :=
  ∃ m, r.members.find? (·.name == e.1) = some m ∧ ReadBack records depth m.shape e.2

theorem readMembers_written {depth : Nat} {r : Record} {es found : List (String × Json)}
    (hnodup : ((es ++ found).map (·.1)).Nodup) (hes : ∀ e ∈ es, MemberReadBack records depth r e) (first : Bool)
    (fuel : Nat) (hfuel : 2 * (joined first (es.map memberText)).length + 4 ≤ fuel) (rest : Glyphs) :
    readMembers records fuel depth r found first (joined first (es.map memberText) ++ some '\x7d' :: rest) =
      .ok (es.reverse ++ found, some '\x7d' :: rest) := by
  induction es generalizing first fuel found with
  | nil =>
    obtain ⟨fuel, rfl⟩ := exists_step hfuel
    simp only [List.map_nil, joined, List.nil_append, readMembers, beforeMember_close, ok_bind]
    rfl
  | cons e others ih =>
    obtain ⟨fuel, rfl⟩ := exists_step hfuel
    obtain ⟨m, hm, hv⟩ := hes e List.mem_cons_self
    have hlength := length_joined_cons first (memberText e) (others.map memberText)
    have hmember : (glyphs e.2.render).length + 3 ≤ (memberText e).length := by
      simp [memberText]
    rw [List.map_cons] at hfuel
    have hends : Ends (joined false (others.map memberText) ++ some '\x7d' :: rest) :=
      ends_joined _ (by decide) (by decide) (by decide) (by decide) rest
    have hread := hv fuel _ hends (by omega)
    have hnodup' : ((others ++ e :: found).map (·.1)).Nodup :=
      (List.Perm.nodup_iff (List.perm_middle.map _)).mpr hnodup
    have hfresh : found.lookup e.1 = none := lookup_eq_none_of_nodup hnodup
    have hothers := ih hnodup' (fun w hw => hes w (List.mem_cons_of_mem e hw)) false fuel (by omega)
    rw [List.map_cons, joined, readMembers, List.append_assoc, beforeMember_written]
    simp [ok_bind, hm, hfresh, colon_cons, hread, hothers]

/-! ### One value -/

theorem readValue_flag (fuel depth : Nat) (b : Bool) (rest : Glyphs) :
    readValue records (fuel + 1) depth .flag (glyphs (Json.bool b).render ++ rest) = .ok (.bool b, rest) := by
  cases b with
  | true =>
    have hword : glyphs (Json.bool true).render = ['t', 'r', 'u', 'e'].map some := rfl
    simp [hword, readValue, skipBlanks, isJsonBlank, scanWord, ok_bind]
  | false =>
    have hword : glyphs (Json.bool false).render = ['f', 'a', 'l', 's', 'e'].map some := rfl
    simp [hword, readValue, skipBlanks, isJsonBlank, scanWord, ok_bind]

theorem readValue_absent (fuel depth : Nat) (item : Shape) (rest : Glyphs) :
    readValue records (fuel + 1) depth (.optional item) (glyphs Json.null.render ++ rest) = .ok (.null, rest) := by
  have hword : glyphs Json.null.render = ['n', 'u', 'l', 'l'].map some := rfl
  simp [hword, readValue, skipBlanks, isJsonBlank, scanWord, ok_bind]

/-- A value that is not `null` is read where it is optional as it is where it is required. -/
theorem readValue_present {depth : Nat} {v : Json} (htextual : Textual depth v) (hv : v ≠ .null) (fuel : Nat)
    (item : Shape) (rest : Glyphs) :
    readValue records (fuel + 1) depth (.optional item) (glyphs v.render ++ rest) =
      readValue records fuel depth item (glyphs v.render ++ rest) := by
  obtain ⟨c, others, hrender, hblank, _, _, hn⟩ := htextual.head
  rw [hrender, List.cons_append]
  simp [readValue, skipBlanks_cons hblank, hn hv]

/-- A text is read as itself, as a constant of an enumeration, or as a variant, depending on the shape. -/
theorem readValue_text (fuel depth : Nat) (s : String) (rest : Glyphs) :
    readValue records (fuel + 1) depth .text (glyphs (Json.string s).render ++ rest) = .ok (.string s, rest) := by
  rw [render, glyphs_renderString]
  simp [readValue, skipBlanks, isJsonBlank, scanString_content s rest, ok_bind]

theorem readValue_wire (fuel depth : Nat) {values : List String} {s : String} (hs : s ∈ values) (rest : Glyphs) :
    readValue records (fuel + 1) depth (.wire values) (glyphs (Json.string s).render ++ rest) =
      .ok (.string s, rest) := by
  rw [render, glyphs_renderString]
  simp [readValue, skipBlanks, isJsonBlank, scanString_content s rest, Shape.ofWire, hs, ok_bind]

theorem readValue_bare (fuel depth : Nat) {variants : List Variant} {name : String}
    (hname : variants.find? (·.name == name) = some ⟨name, false⟩) (rest : Glyphs) :
    readValue records (fuel + 1) depth (.choice variants) (glyphs (Json.string name).render ++ rest) =
      .ok (.string name, rest) := by
  rw [render, glyphs_renderString]
  simp [readValue, skipBlanks, isJsonBlank, scanString_content name rest, bareVariant, variant?_eq_ok.mpr hname,
    ok_bind]

theorem readValue_tagged (fuel depth : Nat) {variants : List Variant} {name : String}
    (hname : variants.find? (·.name == name) = some ⟨name, true⟩) (s : String) (rest : Glyphs) :
    readValue records (fuel + 1) (depth + 1) (.choice variants)
        (glyphs (Json.object [(name, .string s)]).render ++ rest) = .ok (.object [(name, .string s)], rest) := by
  have hkey := scanString_content name (some ':' :: some '"' :: (content s.toList ++ some '"' :: some '\x7d' :: rest))
  have hstring := scanString_content s (some '\x7d' :: rest)
  rw [glyphs_object]
  simp [joined, memberText, render, glyphs_renderString, readValue, skipBlanks, isJsonBlank, enter, readVariant, hkey,
    variant?_eq_ok.mpr hname, colon_cons, hstring, ok_bind]

/-- A list is read from its text if its items are. -/
theorem readValue_array {depth : Nat} {item : Shape} {items : List Json} (htextual : ∀ v ∈ items, Textual depth v)
    (hitems : ∀ v ∈ items, ReadBack records depth item v) {fuel : Nat}
    (hfuel : 2 * (glyphs (Json.array items).render).length + 1 ≤ fuel) (rest : Glyphs) :
    readValue records (fuel + 1) (depth + 1) (.sequence item) (glyphs (Json.array items).render ++ rest) =
      .ok (.array items, rest) := by
  rw [glyphs_array] at hfuel ⊢
  have hread := readItems_written htextual hitems true fuel (by simp at hfuel; omega) rest
  simp [readValue, skipBlanks, isJsonBlank, enter, ok_bind, hread, closeList]

/-- An object is read from its text if its members are, which are those of a record in order. -/
theorem readValue_object (hrecords : WellFormed records) {name : String} {r : Record}
    (hr : Record.find? records name = some r) {depth : Nat} {value : String → Json}
    (hes : ∀ e ∈ Record.entries r.members value, MemberReadBack records depth r e) {fuel : Nat}
    (hfuel : 2 * (glyphs (Json.object (Record.entries r.members value)).render).length + 1 ≤ fuel) (rest : Glyphs) :
    readValue records (fuel + 1) (depth + 1) (.record name)
        (glyphs (Json.object (Record.entries r.members value)).render ++ rest) =
      .ok (.object (Record.entries r.members value), rest) := by
  have hmem := Record.mem_of_find? hr
  have hnodup : ((Record.entries r.members value ++ ([] : List (String × Json))).map (·.1)).Nodup := by
    rw [List.append_nil]
    exact (hrecords.names r hmem).sublist (Record.entries_keys_sublist r.members value)
  rw [glyphs_object] at hfuel ⊢
  have hmembers := readMembers_written hnodup hes true fuel (by simp at hfuel; omega) rest
  have hnormal := hrecords.normal_reverse hmem value
  simp [readValue, skipBlanks, isJsonBlank, hr, enter, ok_bind, hmembers, hnormal, closeObject]

/-! ### Normal forms -/

/-- Whether a shape nowhere allows any value, and is nowhere optional twice. -/
def Shape.simple : Shape → Bool
  | .any => false
  | .optional item => !item.isOptional && item.simple
  | .sequence item => item.simple
  | _ => true

/-- Only the normal forms of optional shapes can be `null`. -/
theorem Normal.ne_null {s : Shape} {v : Json} (h : Normal records s v) (hs : s.simple = true)
    (hrequired : s.isOptional = false) : v ≠ .null := by
  rintro rfl
  cases h with
  | any => cases hs
  | absent | present => cases hrequired

/-- A normal form is read from its text, within a number of steps that grows with the length of the text. -/
theorem readValue_of_normal (hrecords : WellFormed records)
    (hsimple : ∀ r ∈ records, ∀ m ∈ r.members, m.shape.simple = true) {s : Shape} {v : Json} (h : Normal records s v)
    (hs : s.simple = true) {depth : Nat} (htextual : Textual depth v) {fuel : Nat}
    (hfuel : 2 * (glyphs v.render).length + s.isOptional.toNat + 2 ≤ fuel) {rest : Glyphs} (hrest : Ends rest) :
    readValue records fuel depth s (glyphs v.render ++ rest) = .ok (v, rest) := by
  -- Two steps for each character suffice, since every item and member has a character of its own besides its value. An
  -- optional value takes one step more and is not optional itself.
  induction h generalizing depth fuel rest with
  | double | single => cases htextual
  | any => cases hs
  | integer hrange =>
    obtain ⟨fuel, rfl⟩ := exists_step hfuel
    exact readValue_integer records hrange fuel depth hrest
  | text s =>
    obtain ⟨fuel, rfl⟩ := exists_step hfuel
    exact readValue_text fuel depth s rest
  | flag b =>
    obtain ⟨fuel, rfl⟩ := exists_step hfuel
    exact readValue_flag fuel depth b rest
  | absent item =>
    obtain ⟨fuel, rfl⟩ := exists_step hfuel
    exact readValue_absent fuel depth item rest
  | @present item v h ih =>
    obtain ⟨fuel, rfl⟩ := exists_step hfuel
    simp only [Shape.simple, Bool.and_eq_true, Bool.not_eq_true'] at hs
    simp only [Shape.isOptional, Bool.toNat_true] at hfuel
    have hslack : 2 * (glyphs v.render).length + item.isOptional.toNat + 2 ≤ fuel := by
      rw [hs.1, Bool.toNat_false]
      omega
    rw [readValue_present htextual (h.ne_null hs.2 hs.1)]
    exact ih hs.2 htextual hslack hrest
  | @sequence item items hitems ih =>
    obtain ⟨fuel, rfl⟩ := exists_step hfuel
    cases htextual with
    | @array depth _ htextual =>
      have hread : ∀ v ∈ items, ReadBack records depth item v := fun v hv fuel rest hends hfuel => by
        refine ih v hv hs (htextual v hv) ?_ hends
        have := item.isOptional.toNat_le
        omega
      exact readValue_array htextual hread (by omega) rest
  | @bare variants name hname =>
    obtain ⟨fuel, rfl⟩ := exists_step hfuel
    exact readValue_bare fuel depth hname rest
  | @tagged variants name hname s =>
    obtain ⟨fuel, rfl⟩ := exists_step hfuel
    cases htextual with
    | object => exact readValue_tagged fuel _ hname s rest
  | @wire values t ht =>
    obtain ⟨fuel, rfl⟩ := exists_step hfuel
    exact readValue_wire fuel depth ht rest
  | @record name r hr value _ ih =>
    obtain ⟨fuel, rfl⟩ := exists_step hfuel
    cases htextual with
    | @object depth _ htextual =>
      have hmem := Record.mem_of_find? hr
      have hes : ∀ e ∈ Record.entries r.members value, MemberReadBack records depth r e := by
        intro e he
        have htext := htextual e he
        obtain ⟨m, hm, rfl⟩ := Record.mem_entries he
        refine ⟨m, (find?_key_eq_some_iff (hrecords.names r hmem)).mpr ⟨hm, rfl⟩, fun fuel rest hends hfuel => ?_⟩
        refine ih m hm (hsimple r hmem m hm) htext (Nat.le_trans ?_ hfuel) hends
        have := m.shape.isOptional.toNat_le
        simp only
        omega
      exact readValue_object hrecords hr hes (by omega) rest

/-- The text of a normal form that is not nested too deeply is read as the normal form. -/
theorem Shape.read_of_normal (hrecords : WellFormed records)
    (hsimple : ∀ r ∈ records, ∀ m ∈ r.members, m.shape.simple = true) {s : Shape} {v : Json} (h : Normal records s v)
    (hs : s.simple = true) (htextual : Textual depthLimit v) :
    s.read records (.ofChars v.render.toList) = .ok v := by
  have hfuel : 2 * (glyphs v.render).length + s.isOptional.toNat + 2 ≤ 3 * (glyphs v.render).length + 8 := by
    have := s.isOptional.toNat_le
    omega
  have hread := readValue_of_normal hrecords hsimple h hs htextual hfuel ends_nil
  rw [List.append_nil] at hread
  rw [← glyphs, Shape.read, hread]
  rfl

/-! ### Any text -/

/-- A variant that stands in an object is read as a normal form of the choice. -/
theorem normal_of_readVariant {variants : List Variant} {gs rest : Glyphs} {v : Json}
    (h : readVariant variants gs = .ok (v, rest)) : Normal records (.choice variants) v := by
  unfold readVariant at h
  split at h
  · cases h
  · obtain ⟨⟨name, others⟩, _, h⟩ := bind_eq_ok.mp h
    obtain ⟨variant, hvariant, h⟩ := bind_eq_ok.mp h
    obtain ⟨others, _, h⟩ := bind_eq_ok.mp h
    rw [variant?_eq_ok] at hvariant
    simp only at h
    split at h
    · next hcarries =>
      split at h
      · cases h
      · obtain ⟨⟨s, _⟩, _, h⟩ := bind_eq_ok.mp h
        simp only [ok_bind] at h
        split at h
        · cases h
        · obtain ⟨rfl, _⟩ := Prod.mk.inj (Except.ok.inj h)
          exact .tagged (find?_variant hvariant hcarries) s
        · cases h
      · cases h
    · next hcarries =>
      split at h
      · cases h
      · obtain ⟨_, _, h⟩ := bind_eq_ok.mp h
        simp only [ok_bind] at h
        split at h
        · cases h
        · obtain ⟨rfl, _⟩ := Prod.mk.inj (Except.ok.inj h)
          exact .bare (find?_variant hvariant (eq_false_of_ne_true hcarries))
        · cases h
      · cases h
  · cases h

mutual

/-- What a text is read as is a normal form. -/
theorem normal_of_readValue (hrecords : WellFormed records) :
    (fuel : Nat) → {depth : Nat} → {s : Shape} → {gs : Glyphs} → {v : Json} → {rest : Glyphs} →
      readValue records fuel depth s gs = .ok (v, rest) → Normal records s v
  | 0, depth, s, gs, v, rest, h => by
    rw [readValue] at h
    cases h
  | fuel + 1, depth, s, gs, v, rest, h => by
    rw [readValue] at h
    split at h
    · cases h
    · next g others _ =>
      cases s with
      | any => exact .any v
      | text =>
        simp only at h
        split at h
        · obtain ⟨⟨t, _⟩, _, h⟩ := bind_eq_ok.mp h
          obtain ⟨rfl, _⟩ := Prod.mk.inj (Except.ok.inj h)
          exact .text t
        · cases h
      | flag =>
        simp only at h
        split at h
        · obtain ⟨_, _, h⟩ := bind_eq_ok.mp h
          obtain ⟨rfl, _⟩ := Prod.mk.inj (Except.ok.inj h)
          exact .flag true
        · split at h
          · obtain ⟨_, _, h⟩ := bind_eq_ok.mp h
            obtain ⟨rfl, _⟩ := Prod.mk.inj (Except.ok.inj h)
            exact .flag false
          · cases h
      | wire values =>
        simp only at h
        split at h
        · obtain ⟨⟨t, _⟩, _, h⟩ := bind_eq_ok.mp h
          obtain ⟨w, hw, h⟩ := bind_eq_ok.mp h
          obtain ⟨rfl, _⟩ := Prod.mk.inj (Except.ok.inj h)
          exact normal_of_wire hw
        · cases h
      | optional item =>
        simp only at h
        split at h
        · obtain ⟨_, _, h⟩ := bind_eq_ok.mp h
          obtain ⟨rfl, _⟩ := Prod.mk.inj (Except.ok.inj h)
          exact .absent item
        · exact .present (normal_of_readValue hrecords fuel h)
      | choice variants =>
        simp only at h
        split at h
        · obtain ⟨⟨name, _⟩, _, h⟩ := bind_eq_ok.mp h
          obtain ⟨w, hw, h⟩ := bind_eq_ok.mp h
          obtain ⟨rfl, _⟩ := Prod.mk.inj (Except.ok.inj h)
          exact normal_of_bareName hw
        · split at h
          · obtain ⟨_, _, h⟩ := bind_eq_ok.mp h
            exact normal_of_readVariant h
          · cases h
      | sequence item =>
        simp only at h
        split at h
        · obtain ⟨_, _, h⟩ := bind_eq_ok.mp h
          obtain ⟨⟨items, _⟩, hitems, h⟩ := bind_eq_ok.mp h
          obtain ⟨_, _, h⟩ := bind_eq_ok.mp h
          obtain ⟨rfl, _⟩ := Prod.mk.inj (Except.ok.inj h)
          exact .sequence (normal_of_readItems hrecords fuel hitems)
        · cases h
      | record name =>
        simp only at h
        split at h
        · cases h
        · next r hr =>
          have hmem := Record.mem_of_find? hr
          split at h
          · obtain ⟨_, _, h⟩ := bind_eq_ok.mp h
            obtain ⟨⟨members, _⟩, hmembers, h⟩ := bind_eq_ok.mp h
            obtain ⟨_, _, h⟩ := bind_eq_ok.mp h
            obtain ⟨rfl, _⟩ := Prod.mk.inj (Except.ok.inj h)
            exact normal_of_filled hrecords hr (filled_of_readPlaces hrecords fuel hmem (fun _ hm => hm) hmembers)
          · split at h
            · obtain ⟨_, _, h⟩ := bind_eq_ok.mp h
              obtain ⟨⟨found, _⟩, hfound, h⟩ := bind_eq_ok.mp h
              obtain ⟨members, hmembers, h⟩ := bind_eq_ok.mp h
              obtain ⟨_, _, h⟩ := bind_eq_ok.mp h
              obtain ⟨rfl, _⟩ := Prod.mk.inj (Except.ok.inj h)
              exact normal_of_found hrecords hr (normal_of_readMembers hrecords fuel hmem .nil hfound) hmembers
            · cases h
      | integer | double | single =>
        simp only at h
        split at h
        · obtain ⟨⟨n, _⟩, _, h⟩ := bind_eq_ok.mp h
          obtain ⟨w, hw, h⟩ := bind_eq_ok.mp h
          obtain ⟨rfl, _⟩ := Prod.mk.inj (Except.ok.inj h)
          exact normal_of_number hw
        · split at h
          · obtain ⟨⟨n, _⟩, _, h⟩ := bind_eq_ok.mp h
            obtain ⟨w, hw, h⟩ := bind_eq_ok.mp h
            obtain ⟨rfl, _⟩ := Prod.mk.inj (Except.ok.inj h)
            exact normal_of_number hw
          · cases h

private theorem normal_of_readItems (hrecords : WellFormed records) :
    (fuel : Nat) → {depth : Nat} → {s : Shape} → {first : Bool} → {gs : Glyphs} → {vs : List Json} →
      {rest : Glyphs} → readItems records fuel depth s first gs = .ok (vs, rest) → ∀ v ∈ vs, Normal records s v
  | 0, depth, s, first, gs, vs, rest, h => by
    rw [readItems] at h
    cases h
  | fuel + 1, depth, s, first, gs, vs, rest, h => by
    rw [readItems] at h
    obtain ⟨⟨more, others⟩, _, h⟩ := bind_eq_ok.mp h
    cases more with
    | false =>
      obtain ⟨rfl, _⟩ := Prod.mk.inj (Except.ok.inj h)
      simp
    | true =>
      obtain ⟨⟨v, _⟩, hv, h⟩ := bind_eq_ok.mp h
      obtain ⟨⟨ws, _⟩, hws, h⟩ := bind_eq_ok.mp h
      obtain ⟨rfl, _⟩ := Prod.mk.inj (Except.ok.inj h)
      exact List.forall_mem_cons.mpr ⟨normal_of_readValue hrecords fuel hv, normal_of_readItems hrecords fuel hws⟩

private theorem filled_of_readPlaces (hrecords : WellFormed records) :
    (fuel : Nat) → {depth : Nat} → {r : Record} → {ms : List Member} → {count : Nat} → {gs : Glyphs} →
      {es : List (String × Json)} → {rest : Glyphs} → r ∈ records → (∀ m ∈ ms, m ∈ r.members) →
      readPlaces records fuel depth r ms count gs = .ok (es, rest) →
      Record.Filled (fun m v => Normal records m.shape v) ms es
  | 0, depth, r, ms, count, gs, es, rest, hr, hms, h => by
    rw [readPlaces] at h
    cases h
  | fuel + 1, depth, r, [], count, gs, es, rest, hr, hms, h => by
    simp only [readPlaces] at h
    obtain ⟨rfl, _⟩ := Prod.mk.inj (Except.ok.inj h)
    exact .nil
  | fuel + 1, depth, r, m :: ms, count, gs, es, rest, hr, hms, h => by
    rw [readPlaces] at h
    obtain ⟨⟨more, others⟩, _, h⟩ := bind_eq_ok.mp h
    cases more with
    | false =>
      obtain ⟨filled, hfilled, h⟩ := bind_eq_ok.mp h
      obtain ⟨rfl, _⟩ := Prod.mk.inj (Except.ok.inj h)
      exact (Record.filled_of_rest hfilled).imp fun m' hm' v hv => hrecords.defaults r hr m' (hms m' hm') v hv
    | true =>
      obtain ⟨⟨v, _⟩, hv, h⟩ := bind_eq_ok.mp h
      obtain ⟨⟨ws, _⟩, hws, h⟩ := bind_eq_ok.mp h
      obtain ⟨rfl, _⟩ := Prod.mk.inj (Except.ok.inj h)
      exact .cons (normal_of_readValue hrecords fuel hv)
        (filled_of_readPlaces hrecords fuel hr (fun m' hm' => hms m' (List.mem_cons_of_mem m hm')) hws)

private theorem normal_of_readMembers (hrecords : WellFormed records) :
    (fuel : Nat) → {depth : Nat} → {r : Record} → {found : List (String × Json)} → {first : Bool} → {gs : Glyphs} →
      {found' : List (String × Json)} → {rest : Glyphs} → r ∈ records → NormalFound records r found →
      readMembers records fuel depth r found first gs = .ok (found', rest) → NormalFound records r found'
  | 0, depth, r, found, first, gs, found', rest, hr, hfound, h => by
    rw [readMembers] at h
    cases h
  | fuel + 1, depth, r, found, first, gs, found', rest, hr, hfound, h => by
    rw [readMembers] at h
    obtain ⟨⟨key?, others⟩, _, h⟩ := bind_eq_ok.mp h
    cases key? with
    | none =>
      obtain ⟨rfl, _⟩ := Prod.mk.inj (Except.ok.inj h)
      exact hfound
    | some key =>
      simp only at h
      split at h
      · next m hm =>
        split at h
        · cases h
        · obtain ⟨_, _, h⟩ := bind_eq_ok.mp h
          obtain ⟨⟨v, _⟩, hv, h⟩ := bind_eq_ok.mp h
          have hnext := hfound.cons hrecords hr hm (normal_of_readValue hrecords fuel hv)
          exact normal_of_readMembers hrecords fuel hr hnext h
      · obtain ⟨_, _, h⟩ := bind_eq_ok.mp h
        obtain ⟨_, _, h⟩ := bind_eq_ok.mp h
        exact normal_of_readMembers hrecords fuel hr hfound h

end

end ServiceBindings.Json
