import ServiceBindings.Proofs.Generate.Distinct

/-!
Clients fit the trait of their service. A client that never reads the parameters of a method puts underscores before
their names, which changes nothing else in the head of the method. Names that are read with blanks, comments or the mark
of the raw form in front are no longer read behind an underscore, and then there is no client.
-/

namespace ServiceBindings.Generate

open Code

/-- The type of a parameter and how its argument is passed. -/
def MethodParam.form (p : MethodParam) : Ty × Passing :=
  (p.type, p.pass)

/-- Whether two heads of methods are the same but for the names of parameters. -/
structure Fits (head trait : MethodSignature) : Prop where
  name : head.name = trait.name
  output : head.output = trait.output
  request : head.request.map MethodParam.form = trait.request.map MethodParam.form
  pathParams : head.pathParams.map MethodParam.form = trait.pathParams.map MethodParam.form

variable {m : Method} {d : Definitions} {unused : Bool} {trait : MethodSignature}

/-- The types of parameters do not depend on their names, nor on whether they are read. -/
theorem forms_eq {α : Type} {name : α → String} {type : α → DataType} {unused unused' : Bool} {ps qs : List MethodParam}
    (h : List.Forall₂ (fun p q => ∃ a, methodParam d unused (name a) (type a) = .ok p ∧
      methodParam d unused' (name a) (type a) = .ok q) ps qs) :
    ps.map MethodParam.form = qs.map MethodParam.form := by
  refine map_eq_map_of_forall₂ (h.imp fun p q hboth => ?_)
  obtain ⟨a, hp, hq⟩ := hboth
  exact Except.ok.inj ((methodParam_eq_ok.mp hp).1.symm.trans (methodParam_eq_ok.mp hq).1)

/-- The heads of a method with its parameters read and not read fit each other. -/
theorem fits_of_methodSignature {unused' : Bool} {head : MethodSignature}
    (hhead : methodSignature m d unused = .ok head) (htrait : methodSignature m d unused' = .ok trait) :
    Fits head trait := by
  obtain ⟨hname, hrequest, hparams⟩ := methodSignature_inv hhead
  obtain ⟨hname', hrequest', hparams'⟩ := methodSignature_inv htrait
  refine ⟨Option.some.inj (hname.symm.trans hname'), ?_, ?_, ?_⟩
  · simp only [methodSignature, bind_eq_ok, pure_eq_ok] at hhead htrait
    obtain ⟨_, _, _, _, output, houtput, _, _, rfl⟩ := hhead
    obtain ⟨_, _, _, _, output', houtput', _, _, rfl⟩ := htrait
    exact Except.ok.inj (houtput.symm.trans houtput')
  · have hforms := forms_eq (forall₂_common hrequest hrequest')
    rw [← Option.toList_map, ← Option.toList_map] at hforms
    simpa using congrArg List.head? hforms
  · exact forms_eq (forall₂_common hparams hparams')

/-- Where there is a head of a method, there is one with other names exactly if these are read. -/
theorem exists_methodSignature_iff (htrait : methodSignature m d unused = .ok trait) {unused' : Bool} :
    (∃ head, methodSignature m d unused' = .ok head) ↔
      ∀ name ∈ paramNames m, ∃ i, Ident.ofName? (paramForm unused' name) = some i := by
  constructor
  · rintro ⟨head, hhead⟩ name hname
    obtain ⟨-, hidents⟩ := methodSignature_names hhead
    obtain ⟨i, -, hi⟩ := (exists_of_forall₂ hidents).1 _ (List.mem_map_of_mem hname)
    exact ⟨i, hi⟩
  · intro hread
    obtain ⟨-, hrequest, hparams⟩ := methodSignature_inv htrait
    have hparam {name name' : String} {t : DataType} {q : MethodParam} (hq : methodParam d unused name t = .ok q)
        (hname : name' ∈ paramNames m) : ∃ p, methodParam d unused' name' t = .ok p := by
      obtain ⟨i, hi⟩ := hread name' hname
      exact ⟨⟨i, q.type, q.pass⟩, methodParam_eq_ok.mpr ⟨(methodParam_eq_ok.mp hq).1, hi⟩⟩
    have hpath : ∃ ps, m.pathParams.mapM (fun p => methodParam d unused' p.name p.type) = .ok ps := by
      refine exists_mapM fun p hp => ?_
      obtain ⟨q, -, hq⟩ := (exists_of_forall₂ hparams).1 p hp
      exact hparam hq (by simp [paramNames, List.mem_map_of_mem hp])
    have hrequest' : ∃ r, m.request.mapM (methodParam d unused' requestName) = .ok r := by
      cases hm : m.request with
      | none => exact ⟨none, rfl⟩
      | some t =>
        obtain ⟨q, -, hq⟩ := (exists_of_forall₂ hrequest).1 t (by simp [hm])
        have hname : requestName ∈ paramNames m := by simp [paramNames, hm]
        obtain ⟨p, hp⟩ := hparam hq hname
        exact ⟨some p, by rw [Option.mapM_some, hp]; rfl⟩
    simp only [methodSignature, bind_eq_ok, pure_eq_ok] at htrait
    obtain ⟨_, _, _, _, output, houtput, name, hname, -⟩ := htrait
    obtain ⟨ps, hps⟩ := hpath
    obtain ⟨r, hr⟩ := hrequest'
    exact ⟨⟨name, r, ps, output⟩, by rw [methodSignature, hr, hps, houtput, hname]; rfl⟩

theorem denotes_of_methodSignature (htrait : methodSignature m d false = .ok trait) {name : String}
    (hname : name ∈ paramNames m) : ∃ word, Denotes (snakeCase name) word := by
  obtain ⟨-, hnames⟩ := methodSignature_names htrait
  obtain ⟨i, -, hi⟩ := (exists_of_forall₂ hnames).1 _ (List.mem_map_of_mem hname)
  exact ⟨i.name, ofName?_eq_some hi⟩

/-- The parameters of a method in the trait may be left unread exactly if their converted names are bare. -/
theorem exists_unread_iff (htrait : methodSignature m d false = .ok trait) :
    (∃ head, methodSignature m d true = .ok head) ↔ ∀ name ∈ paramNames m, Bare (snakeCase name) := by
  rw [exists_methodSignature_iff htrait]
  refine forall₂_congr fun name hname => ?_
  obtain ⟨word, hword⟩ := denotes_of_methodSignature htrait hname
  rw [← hword.exists_silent_iff, paramForm, if_pos rfl]
  exact exists_ofName?_iff

/-- The identifiers of parameters that are never read are distinct if those of the parameters are. -/
theorem distinct_of_methodSignature {head : MethodSignature} (hhead : methodSignature m d unused = .ok head)
    (htrait : methodSignature m d false = .ok trait) (hdistinct : Distinct trait.code.scope) :
    Distinct head.code.scope := by
  have hnames := (methodSignature_scope htrait).2
  have hidents := (methodSignature_scope hhead).2
  have hapart : Apart ((paramNames m).map snakeCase) := (distinct_iff_apart hnames).mp hdistinct
  rw [distinct_iff_apart hidents]
  cases unused with
  | false => exact hapart
  | true =>
    rw [map_paramForm_true]
    exact apart_silent hnames hapart

/-- Names that give different identifiers are different. -/
theorem nodup_of_idents {names : List String} {idents : List Ident} (h : Idents names idents) (hnodup : idents.Nodup) :
    names.Nodup := by
  have hmap : names.map Ident.ofName? = idents.map some := map_eq_map_of_forall₂ h
  have hsome : (idents.map some).Nodup := hnodup.map fun _ _ => Option.some.inj
  exact (hmap ▸ hsome).of_map Ident.ofName?

/-- Where the trait of a service has a method, the body of the method under a profile can be written. -/
theorem exists_methodBody (htrait : methodSignature m d unused = .ok trait) (p : Profile) (head : MethodSignature)
    (binding : Binding) : ∃ body, methodBody m p head binding = .ok body := by
  cases binding with
  | unsupported => exact ⟨_, rfl⟩
  | stub => exact ⟨_, rfl⟩
  | bridged =>
    simp only [methodSignature, bind_eq_ok] at htrait
    obtain ⟨_, _, _, _, output, houtput, -⟩ := htrait
    have hdecoder : ∃ result, decoder m.response = .ok result := by
      cases hm : m.response with
      | none => exact ⟨_, rfl⟩
      | some t =>
        rw [hm, outputType] at houtput
        exact ⟨_, by rw [decoder, houtput]; rfl⟩
    obtain ⟨result, hresult⟩ := hdecoder
    exact ⟨_, by rw [methodBody, sendingBody, hresult]; rfl⟩

/-- Where the trait of a service has a method and a profile binds it, a client has the method exactly if it reads the
parameters or their converted names are bare. Its head then fits the one in the trait, and its parameters are distinct
if those in the trait are. If converted names are plain, there is such a method, and different identifiers stay
different. -/
theorem client_fits_iff {s : Service} {p : Profile} {binding : Binding} (hbinding : bindingFor s m p = .ok binding)
    (htrait : methodSignature m d false = .ok trait) :
    ((∃ head, methodSignature m d (binding != .bridged) = .ok head) ↔
        binding = .bridged ∨ ∀ name ∈ paramNames m, Bare (snakeCase name)) ∧
      (∀ head, methodSignature m d (binding != .bridged) = .ok head →
        Fits head trait ∧ (Distinct trait.code.scope → Distinct head.code.scope) ∧
        ∃ body, methodCode s m p d = .ok (.function [] false head.code { result := body })) ∧
      ((∀ name ∈ paramNames m, Plain (snakeCase name)) →
        ∃ head, methodSignature m d (binding != .bridged) = .ok head ∧
          ((trait.params.map (·.name)).Nodup → (head.params.map (·.name)).Nodup)) := by
  have hiff : (∃ head, methodSignature m d (binding != .bridged) = .ok head) ↔
      binding = .bridged ∨ ∀ name ∈ paramNames m, Bare (snakeCase name) := by
    by_cases hbridged : binding = .bridged
    · subst hbridged
      exact ⟨fun _ => .inl rfl, fun _ => ⟨trait, htrait⟩⟩
    · have hunread : (binding != .bridged) = true := by simpa using hbridged
      rw [hunread, exists_unread_iff htrait, or_iff_right hbridged]
  refine ⟨hiff, fun head hhead => ?_, fun hplain => ?_⟩
  · obtain ⟨body, hbody⟩ := exists_methodBody htrait p head binding
    refine ⟨fits_of_methodSignature hhead htrait, distinct_of_methodSignature hhead htrait, body, ?_⟩
    rw [methodCode, hbinding, ok_bind, hhead, ok_bind, hbody]
    rfl
  · have hbare : ∀ name ∈ paramNames m, Bare (snakeCase name) := by
      intro name hname
      obtain ⟨word, hword⟩ := denotes_of_methodSignature htrait hname
      exact hword.bare_of_plain (hplain name hname)
    obtain ⟨head, hhead⟩ := hiff.mpr (.inr hbare)
    refine ⟨head, hhead, fun hnodup => ?_⟩
    obtain ⟨-, hnames⟩ := methodSignature_names htrait
    have hapart : Apart ((paramNames m).map (paramForm false)) :=
      apart_of_plain (nodup_of_idents hnames hnodup) (List.forall_mem_map.mpr hplain)
    have hscope : Distinct trait.code.scope := (distinct_iff_apart (methodSignature_scope htrait).2).mpr hapart
    rw [← scope_code]
    exact (distinct_of_methodSignature hhead htrait hscope).of_map Ident.name

/-- A schema is accepted with two methods over a profile whose clients read no parameters. The client has the one with
a keyword as parameter; the other has the keyword in raw form, which the trait takes and the client does not. -/
theorem raw_parameter_fits_trait_alone :
    let raw : Method := { name := "raw", pattern := .unary, pathParams := [⟨"r#type", .string⟩] }
    let escaped : Method :=
      { name := "escaped", pattern := .unary, request := some .string, pathParams := [⟨"type", .u32⟩] }
    let s : Service := { name := "S", methods := [raw, escaped] }
    let d : Definitions := { package := "p", services := [s] }
    d.error? = none ∧
      (∃ trait, methodSignature raw d false = .ok trait ∧ ∀ head, methodSignature raw d true ≠ .ok head) ∧
      ∃ trait head, methodSignature escaped d false = .ok trait ∧ methodSignature escaped d true = .ok head ∧
        Fits head trait := by
  intro raw escaped s d
  have hraw : bindingFor s raw .httpStub = .ok .stub := rfl
  have hescaped : bindingFor s escaped .httpStub = .ok .stub := rfl
  obtain ⟨trait, htrait⟩ : ∃ trait, methodSignature raw d false = .ok trait := exists_of_toOption (by decide +kernel)
  obtain ⟨trait', htrait'⟩ : ∃ trait, methodSignature escaped d false = .ok trait :=
    exists_of_toOption (by decide +kernel)
  obtain ⟨hiff, -, -⟩ := client_fits_iff hraw htrait
  obtain ⟨-, hfits, hplain⟩ := client_fits_iff hescaped htrait'
  have hnames : ∀ name ∈ paramNames escaped, Plain (snakeCase name) := by decide +kernel
  obtain ⟨head, hhead, -⟩ := hplain hnames
  refine ⟨by decide +kernel, ⟨trait, htrait, fun head hhead => ?_⟩, trait', head, htrait', hhead,
    (hfits head hhead).1⟩
  rcases hiff.mp ⟨head, hhead⟩ with hbridged | hbare
  · cases hbridged
  · have hmarked : ¬ ∀ name ∈ paramNames raw, Bare (snakeCase name) := by decide +kernel
    exact hmarked hbare

end ServiceBindings.Generate
