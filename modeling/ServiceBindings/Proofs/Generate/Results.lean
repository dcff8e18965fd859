import ServiceBindings.Generate.Crate
import ServiceBindings.Proofs.Sequence

/-!
What the functions of the generator give when they succeed, each in terms of those that it calls.
-/

namespace ServiceBindings.Generate

open Code

/-! ### Names -/

theorem identOf_eq_ok {name : String} {i : Ident} : identOf name = .ok i ↔ Ident.ofName? name = some i := by
  unfold identOf
  cases Ident.ofName? name <;> simp

/-- Whether identifiers are those of names, in the order of the names. -/
def Idents (names : List String) (idents : List Ident) : Prop :=
  List.Forall₂ (fun name i => Ident.ofName? name = some i) names idents

theorem idents_map {α β : Type} {name : α → String} {ident : β → Ident} {xs : List α} {ys : List β}
    (h : List.Forall₂ (fun x y => Ident.ofName? (name x) = some (ident y)) xs ys) :
    Idents (xs.map name) (ys.map ident) :=
  List.forall₂_map_left_iff.mpr (List.forall₂_map_right_iff.mpr h)

/-! ### Methods -/

/-- The names of the parameters of a method, of which the request is the first. -/
def paramNames (m : Method) : List String :=
  (m.request.map fun _ => requestName).toList ++ m.pathParams.map (·.name)

/-- The converted name of a parameter. -/
def paramForm (unused : Bool) (name : String) : String :=
  if unused then "_" ++ snakeCase name else snakeCase name

theorem map_paramForm_true (names : List String) :
    names.map (paramForm true) = (names.map snakeCase).map ("_" ++ ·) := by
  simp [paramForm, Function.comp_def]

theorem paramIdent_eq_ok {unused : Bool} {name : String} {i : Ident} :
    paramIdent unused name = .ok i ↔ Ident.ofName? (paramForm unused name) = some i := by
  cases unused with
  | false => simp [paramIdent, paramForm, memberIdent, identOf_eq_ok]
  | true => simp [paramIdent, paramForm, silentIdent, identOf_eq_ok]

theorem methodParam_eq_ok {d : Definitions} {unused : Bool} {name : String} {t : DataType} {p : MethodParam} :
    methodParam d unused name t = .ok p ↔
      argumentType t d = .ok (p.type, p.pass) ∧ Ident.ofName? (paramForm unused name) = some p.name := by
  simp only [methodParam, bind_eq_ok, pure_eq_ok, paramIdent_eq_ok]
  constructor
  · rintro ⟨⟨type, pass⟩, htype, i, hi, rfl⟩
    exact ⟨htype, hi⟩
  · rintro ⟨htype, hname⟩
    exact ⟨_, htype, p.name, hname, rfl⟩

/-- The head of a method is made from its name, its request and its path parameters, each on its own. -/
theorem methodSignature_inv {m : Method} {d : Definitions} {unused : Bool} {signature : MethodSignature}
    (h : methodSignature m d unused = .ok signature) :
    Ident.ofName? (snakeCase m.name) = some signature.name ∧
      List.Forall₂ (fun t q => methodParam d unused requestName t = .ok q) m.request.toList
        signature.request.toList ∧
      List.Forall₂ (fun p q => methodParam d unused p.name p.type = .ok q) m.pathParams signature.pathParams := by
  simp only [methodSignature, bind_eq_ok, pure_eq_ok, memberIdent, identOf_eq_ok] at h
  obtain ⟨request, hrequest, pathParams, hparams, output, _, name, hname, rfl⟩ := h
  refine ⟨hname, ?_, forall₂_of_mapM hparams⟩
  cases hm : m.request with
  | none =>
    rw [hm] at hrequest
    obtain rfl := pure_eq_ok.mp hrequest
    exact .nil
  | some t =>
    rw [hm] at hrequest
    obtain ⟨q, hq, hrequest⟩ := bind_eq_ok.mp hrequest
    obtain rfl := pure_eq_ok.mp hrequest
    exact .cons hq .nil

/-- The head of a method has the name of the method and those of its parameters. -/
theorem methodSignature_names {m : Method} {d : Definitions} {unused : Bool} {signature : MethodSignature}
    (h : methodSignature m d unused = .ok signature) :
    Ident.ofName? (snakeCase m.name) = some signature.name ∧
      Idents ((paramNames m).map (paramForm unused)) (signature.params.map (·.name)) := by
  obtain ⟨hname, hrequest, hparams⟩ := methodSignature_inv h
  have hpath : Idents ((m.pathParams.map (·.name)).map (paramForm unused)) (signature.pathParams.map (·.name)) := by
    rw [List.map_map]
    exact idents_map (hparams.imp fun p q hq => (methodParam_eq_ok.mp hq).2)
  have hrequests : Idents (((m.request.map fun _ => requestName).toList).map (paramForm unused))
      (signature.request.toList.map (·.name)) := by
    rw [Option.toList_map, List.map_map]
    exact idents_map (hrequest.imp fun t q hq => (methodParam_eq_ok.mp hq).2)
  refine ⟨hname, ?_⟩
  rw [paramNames, MethodSignature.params, List.map_append, List.map_append]
  exact List.rel_append hrequests hpath

/-- A method of a client has the head of the method and a body for the way in which the method is bound. -/
theorem methodCode_inv {s : Service} {m : Method} {p : Profile} {d : Definitions} {member : Member}
    (h : methodCode s m p d = .ok member) :
    ∃ binding signature body, bindingFor s m p = .ok binding ∧
      methodSignature m d (binding != .bridged) = .ok signature ∧ methodBody m p signature binding = .ok body ∧
      member = .function [] false signature.code { result := body } := by
  simp only [methodCode, bind_eq_ok, pure_eq_ok] at h
  obtain ⟨binding, hbinding, signature, hsignature, body, hbody, hmember⟩ := h
  exact ⟨binding, signature, body, hbinding, hsignature, hbody, hmember.symm⟩

/-! ### Clients -/

theorem bindingCode_inv {s : Service} {p : Profile} {d : Definitions} {item : Item} (h : bindingCode s p d = .ok item) :
    ∃ trait client members, clientTypeIdent s p = .ok client ∧
      List.Forall₂ (fun m member => methodCode s m p d = .ok member) s.methods members ∧
      item = .implementation [] (some (.path false [trait] [] [])) (identTy client) members := by
  simp only [bindingCode, bind_eq_ok, pure_eq_ok] at h
  obtain ⟨trait, _, client, hclient, members, hmembers, hitem⟩ := h
  exact ⟨trait, client, members, hclient, forall₂_of_mapM hmembers, hitem.symm⟩

/-- The code of a client is there if nothing is wrong with the specification of its builder. -/
theorem clientCode_idents {s : Service} {p : Profile} {spec : BuilderSpec} {items : List Item}
    (h : clientCode s p spec = .ok items) :
    ∃ client builder setters, clientTypeIdent s p = .ok client ∧ builderTypeIdent s p = .ok builder ∧
      List.Forall₂ (fun f member => setterCode f = .ok member) spec.fields setters ∧
      items = [clientItem s p client, clientFunctions p client builder, builderItem client builder,
        .implementation [] none (identTy builder) (setters ++ [buildCode spec client])] := by
  unfold clientCode at h
  cases hfault : specFault? spec with
  | some fault =>
    rw [hfault] at h
    cases h
  | none =>
    simp only [hfault, bind_eq_ok, pure_eq_ok] at h
    obtain ⟨client, hclient, builder, hbuilder, setters, hsetters, hitems⟩ := h
    exact ⟨client, builder, setters, hclient, hbuilder, forall₂_of_mapM hsetters, hitems.symm⟩

theorem clientCode_inv {s : Service} {p : Profile} {spec : BuilderSpec} {items : List Item}
    (h : clientCode s p spec = .ok items) :
    ∃ client builder setters, clientTypeIdent s p = .ok client ∧
      List.Forall₂ (fun f member => setterCode f = .ok member) spec.fields setters ∧
      items = [clientItem s p client, clientFunctions p client builder, builderItem client builder,
        .implementation [] none (identTy builder) (setters ++ [buildCode spec client])] := by
  obtain ⟨client, builder, setters, hclient, _, hsetters, hitems⟩ := clientCode_idents h
  exact ⟨client, builder, setters, hclient, hsetters, hitems⟩

/-- For each profile there are a client and the implementation of the service by the client. -/
theorem clientItems_inv {s : Service} {d : Definitions} {o : Options} {items : List Item}
    (h : clientItems s d o = .ok items) :
    ∃ codes, items = codes.flatten ∧
      List.Forall₂ (fun p code => ∃ client item, clientCode s p o.builder = .ok client ∧
        bindingCode s p d = .ok item ∧ code = client ++ [item]) o.profiles codes := by
  simp only [clientItems, bind_eq_ok, pure_eq_ok] at h
  obtain ⟨codes, hcodes, hitems⟩ := h
  refine ⟨codes, hitems.symm, (forall₂_of_mapM hcodes).imp fun p code hcode => ?_⟩
  simp only [bind_eq_ok, pure_eq_ok] at hcode
  obtain ⟨client, hclient, item, hitem, hcode⟩ := hcode
  exact ⟨client, item, hclient, hitem, hcode.symm⟩

/-! ### Types -/

theorem enumCode_inv {e : Enumeration} {items : List Item} (h : enumCode e = .ok items) :
    ∃ name constants, Ident.ofName? (pascalCase e.name) = some name ∧
      List.Forall₂ (fun c constant => Ident.ofName? (pascalCase c.name) = some constant.1 ∧ constant.2 = c.value)
        e.constants constants ∧
      items = enumItem e name constants :: codecItem name constants :: inherentItem name ::
        (textItems name ++ serdeItems name) := by
  simp only [enumCode, bind_eq_ok, pure_eq_ok] at h
  obtain ⟨name, hname, constants, hconstants, hitems⟩ := h
  refine ⟨name, constants, identOf_eq_ok.mp hname, ?_, hitems.symm⟩
  refine (forall₂_of_mapM hconstants).imp fun c constant hcode => ?_
  obtain ⟨i, hi, hcode⟩ := bind_eq_ok.mp hcode
  obtain rfl := pure_eq_ok.mp hcode
  exact ⟨identOf_eq_ok.mp hi, rfl⟩

theorem messageCode_inv {m : Message} {d : Definitions} {item : Item} (h : messageCode m d = .ok item) :
    ∃ attrs name fields, Ident.ofName? (pascalCase m.name) = some name ∧
      List.Forall₂ (fun f code => fieldDecl m d f = .ok code) m.fields fields ∧
      item = .struct attrs true name (some fields) := by
  simp only [messageCode, bind_eq_ok, pure_eq_ok] at h
  obtain ⟨name, hname, fields, hfields, hitem⟩ := h
  exact ⟨_, name, fields, identOf_eq_ok.mp hname, forall₂_of_mapM hfields, hitem.symm⟩

theorem typesFile_inv {d : Definitions} {f : File} (h : typesFile d = .ok f) :
    ∃ enums messages, List.Forall₂ (fun e code => enumCode e = .ok code) d.enums enums ∧
      List.Forall₂ (fun m code => messageCode m d = .ok code) d.messages messages ∧
      f.items = enums.flatten ++ messages := by
  simp only [typesFile, bind_eq_ok, pure_eq_ok] at h
  obtain ⟨enums, henums, messages, hmessages, rfl⟩ := h
  exact ⟨enums, messages, forall₂_of_mapM henums, forall₂_of_mapM hmessages, rfl⟩

end ServiceBindings.Generate
