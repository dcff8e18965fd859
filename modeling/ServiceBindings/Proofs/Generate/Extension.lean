import ServiceBindings.Proofs.Generate.Boxing

/-!
Schemas that grow. The code of a definition depends on the definitions that it leads to and on no others, so that what
is generated for a schema stays the same, to the last token, when definitions are added to the schema.
-/

namespace ServiceBindings

open Relation

namespace Definitions

/-- Whether definitions are among others, wherever these stand. -/
structure Within (d d' : Definitions) : Prop where
  services : d.services ⊆ d'.services
  enums : d.enums ⊆ d'.enums
  messages : d.messages ⊆ d'.messages

variable {d d' : Definitions} {inPath : Bool} {t : DataType}

/-- A reference that is allowed meets an enumeration after the extension exactly if it did before. -/
theorem Within.isEnum_eq (h : d.Within d') (hvalid' : d'.Valid) (hresolves : d.Resolves inPath t) :
    d'.isEnum t = d.isEnum t := by
  cases t with
  | named n =>
    rcases hresolves n rfl with ⟨e, he, rfl⟩ | ⟨_, m, hm, rfl⟩
    · rw [isEnum_named, isEnum_named, enum?_isSome_iff.mpr ⟨e, he, rfl⟩, enum?_isSome_iff.mpr ⟨e, h.enums he, rfl⟩]
    · have hnone : d.enum? m.name = none := by
        refine Option.not_isSome_iff_eq_none.mp fun hsome => ?_
        obtain ⟨e, he, hname⟩ := enum?_isSome_iff.mp hsome
        exact enum?_ne_none (h.enums he) (hname ▸ hvalid'.enum?_eq_none (h.messages hm))
      rw [isEnum_named, isEnum_named, hnone, hvalid'.enum?_eq_none (h.messages hm)]
  | _ => rfl

theorem Within.refers (h : d.Within d') {a b : String} (hrefers : d.Refers a b) : d'.Refers a b := by
  obtain ⟨m, hm, rfl, f, hf, htype⟩ := hrefers
  exact ⟨m, h.messages hm, rfl, f, hf, htype⟩

/-- A name of before refers to nothing new, and what it refers to is a name of before. -/
theorem Within.refers_iff (h : d.Within d') (hvalid : d.Valid) (hvalid' : d'.Valid) {a b : String}
    (hmeets : d.Meets false a) : d'.Refers a b ↔ d.Refers a b ∧ d.Meets false b := by
  constructor
  · rintro ⟨m', hm', rfl, f, hf, htype⟩
    rcases hmeets with ⟨e, he, hname⟩ | ⟨_, m, hm, hname⟩
    · exact absurd (hname ▸ hvalid'.enum?_eq_none hm') (enum?_ne_none (h.enums he))
    · obtain rfl := List.inj_on_of_nodup_map hvalid'.message_names (h.messages hm) hm' hname
      exact ⟨⟨m, hm, rfl, f, hf, htype⟩, (hvalid.messages m hm).types f hf b htype⟩
  · exact fun hrefers => h.refers hrefers.1

/-- From a name of before, fields lead to the same names after the extension. -/
theorem Within.reaches_iff (h : d.Within d') (hvalid : d.Valid) (hvalid' : d'.Valid) {a b : String}
    (hmeets : d.Meets false a) : TransGen d'.Refers a b ↔ TransGen d.Refers a b := by
  constructor
  · intro hreach
    induction hreach using TransGen.head_induction_on with
    | single hab => exact .single ((h.refers_iff hvalid hvalid' hmeets).mp hab).1
    | head hac _ ih =>
      obtain ⟨hac, hmeets⟩ := (h.refers_iff hvalid hvalid' hmeets).mp hac
      exact .head hac (ih hmeets)
  · exact TransGen.mono (fun _ _ => h.refers) a b

end Definitions

namespace Generate

open Code Definitions

variable {d d' : Definitions}

/-! ### Messages -/

/-- A type of before leads to the same messages. -/
theorem leadsTo_within (h : d.Within d') (hvalid : d.Valid) (hvalid' : d'.Valid) {t : DataType}
    (hresolves : d.Resolves false t) (target : String) : leadsTo d' t target = leadsTo d t target := by
  rw [Bool.eq_iff_iff, leadsTo_eq_true_iff hvalid.message_names, leadsTo_eq_true_iff hvalid'.message_names]
  refine exists_congr fun n => and_congr_right fun hn => or_congr_right ?_
  exact h.reaches_iff hvalid hvalid' (hresolves n hn)

theorem messageCode_within (h : d.Within d') (hvalid : d.Valid) (hvalid' : d'.Valid) {m : Message}
    (hm : m ∈ d.messages) : messageCode m d' = messageCode m d := by
  have hfields : m.fields.mapM (fieldDecl m d') = m.fields.mapM (fieldDecl m d) := by
    refine mapM_congr fun f hf => ?_
    simp only [fieldDecl, fieldType, leadsTo_within h hvalid hvalid' ((hvalid.messages m hm).types f hf)]
  rw [messageCode, messageCode, hfields]

/-- The code of an enumeration is a part of the file of types, in one piece. -/
theorem enumCode_infix {f : File} (hfile : typesFile d = .ok f) {e : Enumeration} (he : e ∈ d.enums) :
    ∃ code, enumCode e = .ok code ∧ code <:+: f.items := by
  obtain ⟨enums, messages, henums, _, hitems⟩ := typesFile_inv hfile
  obtain ⟨code, hmem, hcode⟩ := (exists_of_forall₂ henums).1 e he
  refine ⟨code, hcode, ?_⟩
  rw [hitems]
  exact (List.infix_of_mem_flatten hmem).trans (List.prefix_append _ _).isInfix

/-- All code of the types of before is among the code of the types after the extension. -/
theorem typesFile_within (h : d.Within d') (hvalid : d.Valid) (hvalid' : d'.Valid) {f' : File}
    (hfile : typesFile d' = .ok f') : ∃ f, typesFile d = .ok f ∧ f.items ⊆ f'.items := by
  obtain ⟨enums', messages', henums', hmessages', hitems'⟩ := typesFile_inv hfile
  have henum : ∀ e ∈ d.enums, ∃ code ∈ enums', enumCode e = .ok code := fun e he =>
    (exists_of_forall₂ henums').1 e (h.enums he)
  have hmessage : ∀ m ∈ d.messages, ∃ item ∈ messages', messageCode m d = .ok item := by
    intro m hm
    obtain ⟨item, hitem, hcode⟩ := (exists_of_forall₂ hmessages').1 m (h.messages hm)
    exact ⟨item, hitem, messageCode_within h hvalid hvalid' hm ▸ hcode⟩
  obtain ⟨enums, henums⟩ := exists_mapM fun e he => (henum e he).imp fun _ hcode => hcode.2
  obtain ⟨messages, hmessages⟩ := exists_mapM fun m hm => (hmessage m hm).imp fun _ hcode => hcode.2
  refine ⟨_, by rw [typesFile, henums, hmessages]; rfl, ?_⟩
  rw [hitems']
  intro item hitem
  rcases List.mem_append.mp hitem with hitem | hitem
  · obtain ⟨code, hcode, hitem⟩ := List.mem_flatten.mp hitem
    obtain ⟨e, he, hok⟩ := (exists_of_forall₂ (forall₂_of_mapM henums)).2 code hcode
    obtain ⟨code', hcode', hok'⟩ := henum e he
    obtain rfl := Except.ok.inj (hok.symm.trans hok')
    exact List.mem_append_left _ (List.mem_flatten_of_mem hcode' hitem)
  · obtain ⟨m, hm, hok⟩ := (exists_of_forall₂ (forall₂_of_mapM hmessages)).2 item hitem
    obtain ⟨item', hitem', hok'⟩ := hmessage m hm
    obtain rfl := Except.ok.inj (hok.symm.trans hok')
    exact List.mem_append_right _ hitem'

/-! ### Services -/

theorem argumentType_congr {t : DataType} (h : d'.isEnum t = d.isEnum t) : argumentType t d' = argumentType t d := by
  cases t <;> simp [argumentType, h]

/-- The head of a method depends on which of its types are enumerations. -/
theorem methodSignature_congr {m : Method} (h : ∀ t ∈ m.types, d'.isEnum t = d.isEnum t) (unused : Bool) :
    methodSignature m d' unused = methodSignature m d unused := by
  have hparam : ∀ t ∈ m.types, ∀ name, methodParam d' unused name t = methodParam d unused name t := by
    intro t ht name
    rw [methodParam, methodParam, argumentType_congr (h t ht)]
  have hpath : m.pathParams.mapM (fun p => methodParam d' unused p.name p.type) =
      m.pathParams.mapM (fun p => methodParam d unused p.name p.type) :=
    mapM_congr fun p hp => hparam p.type (by simp [Method.types, List.mem_map_of_mem hp]) p.name
  have hrequest : m.request.mapM (methodParam d' unused requestName) =
      m.request.mapM (methodParam d unused requestName) := by
    cases hm : m.request with
    | none => rfl
    | some t => simp only [Option.mapM_some, hparam t (by simp [Method.types, hm])]
  rw [methodSignature, methodSignature, hpath, hrequest]

section Service

variable {s : Service} (h : ∀ m ∈ s.methods, ∀ t ∈ m.types, d'.isEnum t = d.isEnum t)

include h

theorem traitCode_congr : traitCode s d' = traitCode s d := by
  have hmethods : s.methods.mapM (fun m => do return ([methodComment m], (← methodSignature m d' false).code)) =
      s.methods.mapM (fun m => do return ([methodComment m], (← methodSignature m d false).code)) :=
    mapM_congr fun m hm => by rw [methodSignature_congr (h m hm)]
  rw [traitCode, traitCode, hmethods]

theorem bindingCode_congr (p : Profile) : bindingCode s p d' = bindingCode s p d := by
  have hmethods : s.methods.mapM (fun m => methodCode s m p d') = s.methods.mapM (fun m => methodCode s m p d) :=
    mapM_congr fun m hm => by simp only [methodCode, methodSignature_congr (h m hm)]
  rw [bindingCode, bindingCode, hmethods]

/-- The module of a service depends on which of the types of its methods are enumerations. -/
theorem serviceFile_congr (o : Options) : serviceFile s d' o = serviceFile s d o := by
  simp only [serviceFile, clientItems, traitCode_congr h, bindingCode_congr h]

end Service

/-- Definitions that are added to a schema change nothing in what was generated before. The structure of a message and
the module of a service are the same under both schemas, or fail alike. Where the types of the larger schema have code,
so have those of the smaller one; all of it is in the code of the larger one, that of an enumeration in one piece. -/
theorem extension_keeps_code {schema extended : Schema} (h : schema.Within extended.toDefinitions) :
    (∀ m ∈ schema.messages, messageCode m extended.toDefinitions = messageCode m schema.toDefinitions) ∧
    (∀ types', typesFile extended.toDefinitions = .ok types' →
      ∃ types, typesFile schema.toDefinitions = .ok types ∧ types.items ⊆ types'.items ∧
        ∀ e ∈ schema.enums, ∃ code, enumCode e = .ok code ∧ code <:+: types.items ∧ code <:+: types'.items) ∧
    ∀ s ∈ schema.services, ∀ o,
      serviceFile s extended.toDefinitions o = serviceFile s schema.toDefinitions o := by
  have hvalid := Definitions.error?_eq_none_iff.mp schema.valid
  have hvalid' := Definitions.error?_eq_none_iff.mp extended.valid
  refine ⟨fun m hm => messageCode_within h hvalid hvalid' hm, ?_, ?_⟩
  · intro types' htypes'
    obtain ⟨types, htypes, hsub⟩ := typesFile_within h hvalid hvalid' htypes'
    refine ⟨types, htypes, hsub, fun e he => ?_⟩
    obtain ⟨code, hcode, hinfix⟩ := enumCode_infix htypes he
    obtain ⟨code', hcode', hinfix'⟩ := enumCode_infix htypes' (h.enums he)
    obtain rfl := Except.ok.inj (hcode.symm.trans hcode')
    exact ⟨code, hcode, hinfix, hinfix'⟩
  · intro s hs o
    refine serviceFile_congr (fun m hm t ht => ?_) o
    obtain ⟨inPath, hmention⟩ := mentions_of_mem_types hs hm ht
    exact h.isEnum_eq hvalid' (hvalid.resolves hmention)

/-- A message that refers to one of before, an enumeration and a service are added, each in front of what there was. -/
theorem added_reference_keeps_code :
    let a : Message := { name := "A", fields := [⟨"b", .named "B", true⟩, ⟨"e", .named "E", false⟩] }
    let e : Enumeration := { name := "E", constants := [⟨"X", "x"⟩] }
    let m : Method :=
      { name := "m", pattern := .unary, request := some (.named "A"), pathParams := [⟨"id", .named "E"⟩] }
    let s : Service := { name := "S", methods := [m] }
    let d : Definitions := { package := "p", services := [s], enums := [e], messages := [a, { name := "B" }] }
    let d' : Definitions :=
      { package := "p", services := [{ name := "T" }, s], enums := [{ name := "F" }, e]
        messages := [{ name := "C", fields := [⟨"a", .named "A", true⟩] }, { name := "B" }, a] }
    let o : Options := { runtimePath := "r" }
    ∃ schema extended : Schema, schema.toDefinitions = d ∧ extended.toDefinitions = d' ∧ d.Within d' ∧
      (∃ item, messageCode a d = .ok item ∧ messageCode a d' = .ok item) ∧
      ∃ file, serviceFile s d o = .ok file ∧ serviceFile s d' o = .ok file := by
  intro a e m s d d' o
  have hvalid : d.error? = none := by decide +kernel
  have hvalid' : d'.error? = none := by decide +kernel
  have hwithin : (Schema.mk d hvalid).Within (Schema.mk d' hvalid').toDefinitions :=
    ⟨by simp [d, d'], by simp [d, d'], by simp [d, d']⟩
  obtain ⟨item, hitem⟩ : ∃ item, messageCode a d = .ok item := exists_of_toOption (by decide +kernel)
  obtain ⟨file, hfile⟩ : ∃ file, serviceFile s d o = .ok file := exists_of_toOption (by decide +kernel)
  obtain ⟨hmessages, _, hservices⟩ := extension_keeps_code hwithin
  refine ⟨⟨d, hvalid⟩, ⟨d', hvalid'⟩, rfl, rfl, hwithin, ⟨item, hitem, ?_⟩, file, hfile, ?_⟩
  · exact (hmessages a List.mem_cons_self).trans hitem
  · exact (hservices s (List.mem_singleton.mpr rfl) o).trans hfile

end Generate

end ServiceBindings
