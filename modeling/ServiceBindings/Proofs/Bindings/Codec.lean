import ServiceBindings.Proofs.Bindings.Types
import ServiceBindings.Proofs.Lookup

/-!
Constants and wire values. Looking one up by the other goes both ways in an enumeration of a schema, in whatever order
its constants are declared. So does the code that is generated for it, unless two names are one identifier there.
-/

namespace ServiceBindings

namespace Enumeration

variable {e : Enumeration}

theorem Valid.constant_names (h : e.Valid) : (e.constants.map (·.name)).Nodup := by
  refine List.Nodup.of_map pascalCase ?_
  rw [List.map_map]
  exact h.names

/-- The value of a constant leads back to it. -/
theorem Valid.constantFor?_valueOf? (h : e.Valid) {k : Constant} (hk : k ∈ e.constants) :
    e.valueOf? k.name = some k.value ∧ e.constantFor? k.value = some k := by
  refine ⟨?_, (find?_key_eq_some_iff h.values).mpr ⟨hk, rfl⟩⟩
  rw [valueOf?, (find?_key_eq_some_iff h.constant_names).mpr ⟨hk, rfl⟩]
  rfl

/-- The order of the constants does not matter for looking them up. -/
theorem Valid.lookups_perm (h : e.Valid) {constants : List Constant} (hperm : constants.Perm e.constants)
    (text : String) :
    valueOf? { e with constants } text = e.valueOf? text ∧
      constantFor? { e with constants } text = e.constantFor? text := by
  refine ⟨?_, find?_key_perm h.values hperm text⟩
  simp only [valueOf?, find?_key_perm h.constant_names hperm text]

end Enumeration

end ServiceBindings

namespace ServiceBindings.Bindings

open Code Generate

variable {e : Enumeration} {c : Codec}

/-! ### Arms -/

/-- The arms of a codec are those of the constants of the enumeration. -/
theorem CodecOf.mem_arms_iff (h : CodecOf e c) {arm : Ident × String} :
    arm ∈ c.arms ↔ ∃ k ∈ e.constants, ConstantOf k arm := by
  obtain ⟨harm, hconstant⟩ := exists_of_forall₂ h.arms
  refine ⟨hconstant arm, ?_⟩
  rintro ⟨k, hk, hi, htext⟩
  obtain ⟨arm', hmem, hi', htext'⟩ := harm k hk
  have hsame : arm = arm' := Prod.ext (Option.some.inj (hi.symm.trans hi')) (htext.trans htext'.symm)
  exact hsame ▸ hmem

/-- A text belongs to one arm at most. -/
theorem CodecOf.arm_unique (h : CodecOf e c) (hvalid : e.Valid) {i j : Ident} {text : String}
    (hi : (i, text) ∈ c.arms) (hj : (j, text) ∈ c.arms) : i = j := by
  have hnodup : (c.arms.map (·.2)).Nodup := h.values ▸ hvalid.values
  exact congrArg Prod.fst (List.inj_on_of_nodup_map hnodup hi hj rfl)

/-- Decoding finds the identifier that is encoded as the text. -/
theorem CodecOf.decode_eq_ok_iff (h : CodecOf e c) (hvalid : e.Valid) {i : Ident} {text : String} :
    c.decode text = .ok i ↔ c.encode? i = some text := by
  constructor
  · intro hdecode
    unfold Codec.decode at hdecode
    split at hdecode
    · next j hfound =>
      obtain rfl := Except.ok.inj hdecode
      simpa using List.find?_some hfound
    · cases hdecode
  · intro hencode
    have harm := mem_of_lookup_eq_some hencode
    have hmem : i ∈ c.constants := by
      rw [h.constants]
      exact List.mem_map_of_mem harm
    have hsome : (c.constants.find? fun j => c.encode? j == some text).isSome :=
      List.find?_isSome.mpr ⟨i, hmem, by simp [hencode]⟩
    obtain ⟨j, hfound⟩ := Option.isSome_iff_exists.mp hsome
    have hj : c.encode? j = some text := by simpa using List.find?_some hfound
    rw [Codec.decode, hfound, h.arm_unique hvalid harm (mem_of_lookup_eq_some hj)]

/-- Decoding a text that no identifier is encoded as fails with the text. -/
theorem decode_eq_error (c : Codec) {text : String} (hnone : ∀ i, c.decode text ≠ .ok i) :
    c.decode text = .error (.unknownEnumValue text) := by
  unfold Codec.decode at *
  split at hnone
  · next j _ => exact absurd rfl (hnone j)
  · rfl

theorem CodecOf.mem_values (h : CodecOf e c) {i : Ident} {text : String} (hencode : c.encode? i = some text) :
    text ∈ e.constants.map (·.value) := by
  rw [← h.values]
  exact List.mem_map_of_mem (mem_of_lookup_eq_some hencode)

/-- All values can be decoded exactly if the constants are different identifiers. -/
theorem CodecOf.decodes_all_iff (h : CodecOf e c) (hvalid : e.Valid) :
    (∀ text ∈ e.constants.map (·.value), ∃ i, c.decode text = .ok i) ↔ c.constants.Nodup := by
  rw [← h.values]
  constructor
  · intro hall
    -- Every arm is the one that its identifier is encoded by, so identifiers repeat only where texts do.
    have hencode : ∀ arm ∈ c.arms, c.encode? arm.1 = some arm.2 := by
      rintro ⟨i, text⟩ harm
      obtain ⟨j, hj⟩ := hall text (List.mem_map_of_mem harm)
      rw [h.decode_eq_ok_iff hvalid] at hj
      rwa [h.arm_unique hvalid harm (mem_of_lookup_eq_some hj)]
    have htexts : c.constants.map c.encode? = (c.arms.map (·.2)).map some := by
      rw [h.constants, List.map_map, List.map_map]
      exact List.map_congr_left hencode
    have hnodup : (c.constants.map c.encode?).Nodup := by
      rw [htexts, h.values]
      exact hvalid.values.map fun _ _ => Option.some.inj
    exact List.Nodup.of_map c.encode? hnodup
  · intro hnodup text htext
    obtain ⟨⟨i, _⟩, harm, rfl⟩ := List.mem_map.mp htext
    rw [h.constants] at hnodup
    exact ⟨i, (h.decode_eq_ok_iff hvalid).mpr ((lookup_eq_some_iff hnodup).mpr harm)⟩

/-! ### Order -/

/-- Codecs of enumerations with the same constants have the same arms, in whatever order. -/
theorem CodecOf.arms_perm {e' : Enumeration} {c' : Codec} (h : CodecOf e c) (h' : CodecOf e' c') (hvalid : e.Valid)
    (hperm : e'.constants.Perm e.constants) : c'.arms.Perm c.arms := by
  have hvalues : (c.arms.map (·.2)).Nodup := h.values ▸ hvalid.values
  have hvalues' : (c'.arms.map (·.2)).Nodup := h'.values ▸ (hperm.map _).nodup_iff.mpr hvalid.values
  refine (List.perm_ext_iff_of_nodup (List.Nodup.of_map _ hvalues') (List.Nodup.of_map _ hvalues)).mpr fun arm => ?_
  simp only [h.mem_arms_iff, h'.mem_arms_iff, hperm.mem_iff]

/-- Where constants are different identifiers, their order does not matter. -/
theorem CodecOf.eq_of_perm {e' : Enumeration} {c' : Codec} (h : CodecOf e c) (h' : CodecOf e' c') (hvalid : e.Valid)
    (hperm : e'.constants.Perm e.constants) (hnodup : c.constants.Nodup) :
    (∀ i, c'.encode? i = c.encode? i) ∧ ∀ text, c'.decode text = c.decode text := by
  have hencode : ∀ i, c'.encode? i = c.encode? i :=
    lookup_perm (h.constants ▸ hnodup) (h.arms_perm h' hvalid hperm)
  have hvalid' : e'.Valid :=
    ⟨(hperm.map _).nodup_iff.mpr hvalid.names, (hperm.map _).nodup_iff.mpr hvalid.values⟩
  have hsame : ∀ text i, c'.decode text = .ok i ↔ c.decode text = .ok i := fun text i => by
    rw [h'.decode_eq_ok_iff hvalid', h.decode_eq_ok_iff hvalid, hencode]
  refine ⟨hencode, fun text => ?_⟩
  by_cases hsome : ∃ i, c.decode text = .ok i
  · obtain ⟨i, hi⟩ := hsome
    rw [hi, hsame, hi]
  · rw [decode_eq_error c (not_exists.mp hsome), decode_eq_error c' fun i hi => hsome ⟨i, (hsame text i).mp hi⟩]

/-! ### Generated code -/

/-- The codec of an enumeration is found in its code. -/
theorem codec?_of_enumCode {code : List Item} (h : enumCode e = .ok code) :
    ∃ type c, Ident.ofName? (pascalCase e.name) = some type ∧ codec? code type = some c ∧ CodecOf e c := by
  obtain ⟨type, c, htype, hcodec, ⟨item, hitem, hc⟩, hsole⟩ := enumCode_codec h
  refine ⟨type, c, htype, ?_, hcodec⟩
  have hsome : (codec? code type).isSome := List.findSome?_isSome_iff.mpr ⟨item, hitem, by rw [hc]; rfl⟩
  obtain ⟨c', hfound⟩ := Option.isSome_iff_exists.mp hsome
  obtain ⟨item', hitem', hc'⟩ := List.exists_of_findSome?_eq_some hfound
  rw [hfound, (hsole item' hitem' type c' hc').2]

/-- Whether an enumeration has code does not depend on the order of its constants. -/
theorem enumCode_perm {code : List Item} (h : enumCode e = .ok code) {constants : List Constant}
    (hperm : constants.Perm e.constants) : ∃ code', enumCode { e with constants } = .ok code' := by
  simp only [enumCode, bind_eq_ok, pure_eq_ok] at h
  obtain ⟨name, hname, arms, harms, -⟩ := h
  have heach := (exists_of_forall₂ (forall₂_of_mapM harms)).1
  obtain ⟨arms', harms'⟩ := exists_mapM fun k (hk : k ∈ constants) =>
    (heach k (hperm.mem_iff.mp hk)).imp fun _ h => h.2
  exact ⟨_, by simp only [enumCode, hname, harms']; rfl⟩

/-- The constants of an enumeration of a schema and their wire values lead to each other, and the order of the constants
does not matter. What its code decodes is encoded as the text that it was decoded from, and other texts are reported.
The code decodes every wire value exactly if the constants are different identifiers. This is so, and then the code
does what the schema says in whatever order, where no two of their names denote one word, as with plain names. -/
theorem codec_inverts_iff {schema : Schema} {e : Enumeration} (he : e ∈ schema.enums) :
    (∀ k ∈ e.constants, e.valueOf? k.name = some k.value ∧ e.constantFor? k.value = some k) ∧
      (∀ text k, e.constantFor? text = some k ↔ k ∈ e.constants ∧ k.value = text) ∧
      (∀ constants, constants.Perm e.constants → ∀ text,
        Enumeration.valueOf? { e with constants } text = e.valueOf? text ∧
          Enumeration.constantFor? { e with constants } text = e.constantFor? text) ∧
      ∀ code, enumCode e = .ok code → ∃ type c, Ident.ofName? (pascalCase e.name) = some type ∧
        codec? code type = some c ∧ CodecOf e c ∧
        (∀ text i, c.decode text = .ok i → c.encode? i = some text ∧ text ∈ e.constants.map (·.value)) ∧
        (∀ text ∉ e.constants.map (·.value), c.decode text = .error (.unknownEnumValue text)) ∧
        ((∀ text ∈ e.constants.map (·.value), ∃ i, c.decode text = .ok i) ↔ c.constants.Nodup) ∧
        (Apart (e.constants.map fun k => pascalCase k.name) →
          Code.Distinct c.constants ∧
          (∀ k ∈ e.constants, ∃ i, Ident.ofName? (pascalCase k.name) = some i ∧
            c.encode? i = some k.value ∧ c.decode k.value = .ok i) ∧
          ∀ constants, constants.Perm e.constants → ∃ code' c', enumCode { e with constants } = .ok code' ∧
            codec? code' type = some c' ∧ (∀ i, c'.encode? i = c.encode? i) ∧
            ∀ text, c'.decode text = c.decode text) ∧
        ((∀ k ∈ e.constants, Plain (pascalCase k.name)) → Apart (e.constants.map fun k => pascalCase k.name)) := by
  have hvalid : e.Valid := (Definitions.error?_eq_none_iff.mp schema.valid).enums e he
  refine ⟨fun k hk => hvalid.constantFor?_valueOf? hk, fun text k => find?_key_eq_some_iff hvalid.values,
    fun constants hperm => hvalid.lookups_perm hperm, fun code hcode => ?_⟩
  obtain ⟨type, c, htype, hc, hcodec⟩ := codec?_of_enumCode hcode
  have hdecoded : ∀ text i, c.decode text = .ok i → c.encode? i = some text ∧ text ∈ e.constants.map (·.value) := by
    intro text i hi
    have hencode := (hcodec.decode_eq_ok_iff hvalid).mp hi
    exact ⟨hencode, hcodec.mem_values hencode⟩
  refine ⟨type, c, htype, hc, hcodec, hdecoded, ?unknown, hcodec.decodes_all_iff hvalid, ?exact, ?plain⟩
  case unknown =>
    intro text htext
    exact decode_eq_error c fun i hi => htext (hdecoded text i hi).2
  case exact =>
    intro hapart
    have hdistinct := (distinct_iff_apart hcodec.idents).mpr hapart
    have hnodup : c.constants.Nodup := List.Nodup.of_map _ hdistinct
    refine ⟨hdistinct, fun k hk => ?_, fun constants hperm => ?_⟩
    · obtain ⟨⟨i, _⟩, harm, hi, rfl⟩ := (exists_of_forall₂ hcodec.arms).1 k hk
      have hencode := (lookup_eq_some_iff (hcodec.constants ▸ hnodup)).mpr harm
      exact ⟨i, hi, hencode, (hcodec.decode_eq_ok_iff hvalid).mpr hencode⟩
    · obtain ⟨code', hcode'⟩ := enumCode_perm hcode hperm
      obtain ⟨type', c', htype', hc', hcodec'⟩ := codec?_of_enumCode hcode'
      obtain rfl : type' = type := Option.some.inj (htype'.symm.trans htype)
      exact ⟨code', c', hcode', hc', hcodec.eq_of_perm hcodec' hvalid hperm hnodup⟩
  case plain =>
    intro hplain
    have hnames := hvalid.names
    exact apart_of_plain hnames (List.forall_mem_map.mpr hplain)

/-- Two constants are accepted that become one identifier, and the value of the second cannot be decoded. -/
theorem commented_constant_undecoded :
    let e : Enumeration := { name := "E", constants := [⟨"/**/a", "x"⟩, ⟨"/***/a", "y"⟩] }
    ∃ (schema : Schema) (code : List Item) (type : Ident) (c : Codec), e ∈ schema.enums ∧ enumCode e = .ok code ∧
      codec? code type = some c ∧ e.constantFor? "y" = some ⟨"/***/a", "y"⟩ ∧
      c.decode "y" = .error (.unknownEnumValue "y") := by
  intro e
  let d : Definitions := { package := "p", enums := [e] }
  have hvalid : d.error? = none := by decide +kernel
  obtain ⟨code, hcode⟩ : ∃ code, enumCode e = .ok code := exists_of_toOption (by decide +kernel)
  have he : e ∈ (Schema.mk d hvalid).enums := List.mem_singleton.mpr rfl
  obtain ⟨hvalues, _, _, hcodes⟩ := codec_inverts_iff he
  obtain ⟨type, c, _, hc, hcodec, _⟩ := hcodes code hcode
  refine ⟨⟨d, hvalid⟩, code, type, c, he, hcode, hc, (hvalues ⟨"/***/a", "y"⟩ (by simp [e])).2, ?_⟩
  have hfirst : Ident.ofName? (pascalCase "/**/a") = some (plain "a") := by decide +kernel
  have hsecond : Ident.ofName? (pascalCase "/***/a") = some (plain "a") := by decide +kernel
  have harms : c.arms = [(plain "a", "x"), (plain "a", "y")] := by
    obtain ⟨⟨i, _⟩, _, ⟨hi, rfl⟩, htail, harms⟩ := List.forall₂_cons_left_iff.mp hcodec.arms
    obtain ⟨⟨j, _⟩, _, ⟨hj, rfl⟩, hend, rfl⟩ := List.forall₂_cons_left_iff.mp htail
    obtain rfl := Option.some.inj (hi.symm.trans hfirst)
    obtain rfl := Option.some.inj (hj.symm.trans hsecond)
    rw [harms, List.forall₂_nil_left_iff.mp hend]
  have hconstants : c.constants = [plain "a", plain "a"] := by rw [hcodec.constants, harms]; rfl
  have hencode : c.encode? (plain "a") = some "x" := by rw [Codec.encode?, harms]; rfl
  simp [Codec.decode, hconstants, hencode]

end ServiceBindings.Bindings
