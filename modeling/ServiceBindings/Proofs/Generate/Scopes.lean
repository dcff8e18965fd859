import ServiceBindings.Proofs.Code.Writing
import ServiceBindings.Proofs.Generate.Results

/-!
The scopes of generated code, in each of which every identifier may be declared once: the methods of a trait, the
parameters of a function, the fields of a structure, the constants of an enumeration. The names of a schema that are
converted into one scope have to denote different words.
-/

namespace ServiceBindings.Code

/-- The identifiers that the parameters of a function declare. -/
def Signature.scope (s : Signature) : List Ident :=
  s.params.filterMap fun
    | .typed name _ => some name
    | .receiver _ => none

/-- The scopes of a member. -/
def Member.scopes : Member → List (List Ident)
  | .function _ _ signature _ => [signature.scope]
  | .const .. | .alias .. => []

/-- The scopes of an item. -/
def Item.scopes : Item → List (List Ident)
  | .struct _ _ _ fields => [(fields.getD []).map (·.name)]
  | .enumeration _ _ variants => [variants.map (·.name)]
  | .trait _ _ _ methods => methods.map (·.2.name) :: methods.map (·.2.scope)
  | .implementation _ _ _ members => members.flatMap Member.scopes
  | .module _ | .imports .. => []

/-- Whether the identifiers of a scope differ in more than their raw forms. -/
def Distinct (scope : List Ident) : Prop :=
  (scope.map (·.name)).Nodup

/-- Whether no two of some names denote one word. -/
def Apart (names : List String) : Prop :=
  names.Pairwise fun a b => ¬ ∃ word, Denotes a word ∧ Denotes b word

theorem distinct_of_length_le {scope : List Ident} (hlength : scope.length ≤ 1) : Distinct scope := by
  match scope with
  | [] => exact List.nodup_nil
  | [i] => exact List.pairwise_singleton _ i.name

end ServiceBindings.Code

namespace ServiceBindings.Generate

open Code

/-- The identifiers of names differ exactly if no two of the names denote one word. -/
theorem distinct_iff_apart {names : List String} {scope : List Ident} (h : Idents names scope) :
    Distinct scope ↔ Apart names := by
  unfold Distinct Apart List.Nodup
  induction h with
  | nil => simp
  | @cons name i names scope hname hrest ih =>
    rw [List.map_cons, List.pairwise_cons, List.pairwise_cons, ih]
    refine and_congr_left' ?_
    constructor
    · rintro hne other hother ⟨word, hword, hsame⟩
      obtain ⟨j, hj, hread⟩ := (exists_of_forall₂ hrest).1 other hother
      refine hne j.name (List.mem_map_of_mem hj) ?_
      rw [(denotes_iff hname word).mp hword, (denotes_iff hread word).mp hsame]
    · rintro hapart word hword rfl
      obtain ⟨j, hj, hsame⟩ := List.mem_map.mp hword
      obtain ⟨other, hother, hread⟩ := (exists_of_forall₂ hrest).2 j hj
      exact hapart other hother ⟨i.name, (denotes_iff hname _).mpr rfl, (denotes_iff hread _).mpr hsame⟩

/-- No identifier is one of some words exactly if no name denotes one of them. -/
theorem forall_name_notMem_iff {names : List String} {idents : List Ident} (h : Idents names idents)
    {words : List String} :
    (∀ i ∈ idents, i.name ∉ words) ↔ ∀ name ∈ names, ∀ word ∈ words, ¬Denotes name word := by
  obtain ⟨hnames, hidents⟩ := exists_of_forall₂ h
  constructor
  · intro hfree name hname word hword hdenotes
    obtain ⟨i, hi, hread⟩ := hnames name hname
    rw [denotes_iff hread] at hdenotes
    exact hfree i hi (hdenotes ▸ hword)
  · intro hnone i hi hword
    obtain ⟨name, hname, hread⟩ := hidents i hi
    exact hnone name hname _ hword (ofName?_eq_some hread)

/-! ### Fixed code -/

/-- Whether no scope of an item has two identifiers. -/
def Narrow (item : Item) : Prop :=
  ∀ scope ∈ item.scopes, scope.length ≤ 1

theorem Narrow.distinct {item : Item} (h : Narrow item) : ∀ scope ∈ item.scopes, Distinct scope :=
  fun scope hscope => distinct_of_length_le (h scope hscope)

/-! ### Parts of generated code -/

/-- Parameters that are apart stay so with underscores before them. -/
theorem apart_silent {names : List String} {idents : List Ident} (hnames : Idents names idents)
    (hapart : Apart names) : Apart (names.map ("_" ++ ·)) := by
  unfold Apart at *
  rw [List.pairwise_map]
  refine hapart.imp_of_mem ?_
  rintro a b ha hb hne ⟨word, hsa, hsb⟩
  obtain ⟨i, _, hi⟩ := (exists_of_forall₂ hnames).1 a ha
  obtain ⟨j, _, hj⟩ := (exists_of_forall₂ hnames).1 b hb
  have hword := Denotes.eq_of_silent (ofName?_eq_some hi) (ofName?_eq_some hj) hsa hsb
  exact hne ⟨i.name, ofName?_eq_some hi, hword ▸ ofName?_eq_some hj⟩

theorem scope_code (signature : MethodSignature) : signature.code.scope = signature.params.map (·.name) := by
  simp [Signature.scope, MethodSignature.code, List.filterMap_map]

/-- The head of a method declares the parameters of the method. -/
theorem methodSignature_scope {m : Method} {d : Definitions} {unused : Bool} {signature : MethodSignature}
    (h : methodSignature m d unused = .ok signature) :
    Ident.ofName? (snakeCase m.name) = some signature.code.name ∧
      Idents ((paramNames m).map (paramForm unused)) signature.code.scope := by
  rw [scope_code]
  exact methodSignature_names h

/-- Whether the names of a service are apart in the scopes of its trait. -/
def ApartInTrait (s : Service) : Prop :=
  Apart (s.methods.map fun m => snakeCase m.name) ∧ ∀ m ∈ s.methods, Apart ((paramNames m).map snakeCase)

/-- What the trait of a service declares. -/
private theorem traitCode_methods {s : Service} {d : Definitions} {item : Item} (h : traitCode s d = .ok item) :
    ∃ attrs name parents methods, item = .trait attrs name parents methods ∧
      List.Forall₂ (fun m code => Ident.ofName? (snakeCase m.name) = some code.2.name ∧
        Idents ((paramNames m).map snakeCase) code.2.scope) s.methods methods := by
  simp only [traitCode, bind_eq_ok, pure_eq_ok] at h
  obtain ⟨name, _, methods, hmethods, rfl⟩ := h
  refine ⟨_, name, _, methods, rfl, (forall₂_of_mapM hmethods).imp fun m code hcode => ?_⟩
  obtain ⟨signature, hsignature, hcode⟩ := bind_eq_ok.mp hcode
  obtain rfl := pure_eq_ok.mp hcode
  exact methodSignature_scope hsignature

/-- The scopes of a trait are as distinct as the names of the service are apart. -/
theorem traitCode_distinct_iff {s : Service} {d : Definitions} {item : Item} (h : traitCode s d = .ok item) :
    (∀ scope ∈ item.scopes, Distinct scope) ↔ ApartInTrait s := by
  obtain ⟨attrs, name, parents, methods, rfl, hmethods⟩ := traitCode_methods h
  have hnames : Idents (s.methods.map fun m => snakeCase m.name) (methods.map (·.2.name)) :=
    idents_map (hmethods.imp fun _ _ hm => hm.1)
  have hparams : (∀ code ∈ methods, Distinct code.2.scope) ↔
      ∀ m ∈ s.methods, Apart ((paramNames m).map snakeCase) := by
    obtain ⟨hleft, hright⟩ := exists_of_forall₂ hmethods
    constructor
    · intro hdistinct m hm
      obtain ⟨code, hcode, _, hscope⟩ := hleft m hm
      exact (distinct_iff_apart hscope).mp (hdistinct code hcode)
    · intro hapart code hcode
      obtain ⟨m, hm, _, hscope⟩ := hright code hcode
      exact (distinct_iff_apart hscope).mpr (hapart m hm)
  rw [Item.scopes, List.forall_mem_cons, distinct_iff_apart hnames, List.forall_mem_map, hparams]
  rfl

/-- The functions of a client declare what the trait declares, possibly with underscores, which makes nothing equal. -/
theorem bindingCode_distinct {s : Service} {d : Definitions} {p : Profile} {trait item : Item}
    (htrait : traitCode s d = .ok trait) (hapart : ApartInTrait s) (h : bindingCode s p d = .ok item) :
    ∀ scope ∈ item.scopes, Distinct scope := by
  obtain ⟨_, _, _, methods, _, hmethods⟩ := traitCode_methods htrait
  obtain ⟨_, client, members, _, hmembers, rfl⟩ := bindingCode_inv h
  intro scope hscope
  obtain ⟨member, hmember, hscope⟩ := List.mem_flatMap.mp hscope
  obtain ⟨m, hm, hcode⟩ := (exists_of_forall₂ hmembers).2 member hmember
  obtain ⟨code, _, _, hnames⟩ := (exists_of_forall₂ hmethods).1 m hm
  obtain ⟨binding, signature, body, _, hsignature, _, rfl⟩ := methodCode_inv hcode
  obtain rfl : scope = signature.code.scope := by simpa [Member.scopes] using hscope
  have hparams := (methodSignature_scope hsignature).2
  rw [distinct_iff_apart hparams]
  cases hunused : binding != .bridged with
  | false =>
    rw [hunused] at hparams
    exact hapart.2 m hm
  | true =>
    rw [map_paramForm_true]
    exact apart_silent hnames (hapart.2 m hm)

/-! ### Types -/

/-- The fields of a structure are as distinct as those of the message are apart. -/
theorem messageCode_distinct_iff {m : Message} {d : Definitions} {item : Item} (h : messageCode m d = .ok item) :
    (∀ scope ∈ item.scopes, Distinct scope) ↔ Apart (m.fields.map fun f => snakeCase f.name) := by
  obtain ⟨_, name, fields, _, hfields, rfl⟩ := messageCode_inv h
  have hnames : Idents (m.fields.map fun f => snakeCase f.name) (fields.map (·.name)) := by
    refine idents_map (hfields.imp fun f code hcode => ?_)
    simp only [fieldDecl, bind_eq_ok, pure_eq_ok] at hcode
    obtain ⟨i, hi, type, _, rfl⟩ := hcode
    exact identOf_eq_ok.mp hi
  rw [← distinct_iff_apart hnames]
  simp [Item.scopes]

/-- The code of a message declares one type. -/
theorem messageCode_type {m : Message} {d : Definitions} {item : Item} (h : messageCode m d = .ok item) :
    ∃ i, item.type? = some i ∧ Ident.ofName? (pascalCase m.name) = some i := by
  obtain ⟨_, name, _, hname, _, rfl⟩ := messageCode_inv h
  exact ⟨name, rfl, hname⟩

/-- No function of an enumeration has two parameters. -/
private theorem enum_functions_narrow (name : Ident) (constants : List (Ident × String)) :
    ∀ item ∈ codecItem name constants :: inherentItem name :: (textItems name ++ serdeItems name), Narrow item := by
  simp [Narrow, codecItem, inherentItem, textItems, serdeItems, head, Item.scopes, Member.scopes, Signature.scope]

/-- The constants of an enumeration are as distinct as those of the schema are apart. -/
theorem enumCode_distinct_iff {e : Enumeration} {items : List Item} (h : enumCode e = .ok items) :
    (∀ item ∈ items, ∀ scope ∈ item.scopes, Distinct scope) ↔ Apart (e.constants.map fun c => pascalCase c.name) := by
  obtain ⟨name, constants, _, hconstants, rfl⟩ := enumCode_inv h
  have hnames : Idents (e.constants.map fun c => pascalCase c.name) (constants.map (·.1)) :=
    idents_map (hconstants.imp fun _ _ hcode => hcode.1)
  have hscope : (enumItem e name constants).scopes = [constants.map (·.1)] := by
    simp [enumItem, Item.scopes, Function.comp_def]
  rw [← distinct_iff_apart hnames]
  rw [List.forall_mem_cons, hscope, List.forall_mem_singleton]
  exact and_iff_left fun item hitem => (enum_functions_narrow name constants item hitem).distinct

/-- The code of an enumeration declares one type. -/
theorem enumCode_type {e : Enumeration} {items : List Item} (h : enumCode e = .ok items) :
    ∃ i, items.filterMap Item.type? = [i] ∧ Ident.ofName? (pascalCase e.name) = some i := by
  obtain ⟨name, constants, hname, _, rfl⟩ := enumCode_inv h
  exact ⟨name, rfl, hname⟩

/-! ### Clients -/

private theorem setterCode_narrow {f : BuilderSetting} {member : Member} (h : setterCode f = .ok member) :
    ∀ scope ∈ member.scopes, scope.length ≤ 1 := by
  simp only [setterCode, bind_eq_ok, pure_eq_ok] at h
  obtain ⟨i, _, rfl⟩ := h
  simp [Member.scopes, Signature.scope]

/-- No function and no structure of a client has two names in one scope. -/
theorem clientCode_narrow {s : Service} {p : Profile} {spec : BuilderSpec} {items : List Item}
    (h : clientCode s p spec = .ok items) : ∀ item ∈ items, Narrow item := by
  obtain ⟨client, builder, setters, _, hsetters, rfl⟩ := clientCode_inv h
  have hmembers : ∀ member ∈ setters ++ [buildCode spec client], ∀ scope ∈ member.scopes, scope.length ≤ 1 := by
    intro member hmember
    rcases List.mem_append.mp hmember with hsetter | hbuild
    · obtain ⟨f, _, hf⟩ := (exists_of_forall₂ hsetters).2 member hsetter
      exact setterCode_narrow hf
    · obtain rfl := List.mem_singleton.mp hbuild
      simp [buildCode, Member.scopes, Signature.scope]
  have hbuilder : Narrow (.implementation [] none (identTy builder) (setters ++ [buildCode spec client])) := by
    intro scope hscope
    obtain ⟨member, hmember, hscope⟩ := List.mem_flatMap.mp hscope
    exact hmembers member hmember scope hscope
  rw [List.forall_mem_cons, List.forall_mem_cons, List.forall_mem_cons, List.forall_mem_singleton]
  refine ⟨?_, ?_, ?_, hbuilder⟩
  · simp [Narrow, clientItem, Item.scopes]
  · simp [Narrow, clientFunctions, Item.scopes, Member.scopes, Signature.scope]
  · simp [Narrow, builderItem, Item.scopes]

end ServiceBindings.Generate
