import ServiceBindings.Proofs.Generate.Distinct
import ServiceBindings.Proofs.Schema.References

/-!
Types across the files of a crate. The module of a service imports the types that its methods mention and no others,
in the order of their names, and every type that is imported, or is that of a field, is declared in the file of types.
-/

namespace ServiceBindings.Code

/-- The identifiers that an item takes from the types of the crate. -/
def Item.typeImport? : Item → Option (List Ident)
  | .imports false path (.names names) => if path = [plain "crate", plain "types"] then some names else none
  | _ => none

/-- What a file takes from the types of the crate, import by import. -/
def File.typeImports (f : File) : List (List Ident) :=
  f.items.filterMap Item.typeImport?

/-- The types that a file declares. -/
def File.types (f : File) : List Ident :=
  f.items.filterMap Item.type?

mutual

/-- The types without a path that a type is made of. -/
def Ty.locals : Ty → List Ident
  | .path rooted names _ args =>
    (match rooted, names with
      | false, [i] => [i]
      | _, _ => []) ++ localsOfAll args
  | .ref _ _ target => target.locals
  | .slice item => item.locals
  | .unit => []
  | .dyn bound => bound.locals

/-- The types without a path that any of several types is made of. -/
def localsOfAll : List Ty → List Ident
  | [] => []
  | t :: ts => t.locals ++ localsOfAll ts

end

end ServiceBindings.Code

namespace ServiceBindings.Generate

open Code Definitions

variable {d : Definitions}

/-! ### Names in order -/

theorem mem_insertName {n x : String} {names : List String} : x ∈ insertName n names ↔ x = n ∨ x ∈ names := by
  fun_induction insertName n names with
  | case1 => simp
  | case2 => simp
  | case3 => simp
  | case4 m rest _ _ ih =>
    simp only [List.mem_cons, ih]
    tauto

theorem insertName_increasing {n : String} {names : List String} (h : names.Pairwise (· < ·)) :
    (insertName n names).Pairwise (· < ·) := by
  fun_induction insertName n names with
  | case1 => exact List.pairwise_singleton _ _
  | case2 m rest hlt =>
    refine List.pairwise_cons.mpr ⟨fun x hx => ?_, h⟩
    rcases List.mem_cons.mp hx with rfl | hx
    · exact hlt
    · exact String.lt_trans hlt ((List.pairwise_cons.mp h).1 x hx)
  | case3 => exact h
  | case4 m rest hlt hne ih =>
    obtain ⟨hfirst, hrest⟩ := List.pairwise_cons.mp h
    refine List.pairwise_cons.mpr ⟨fun x hx => ?_, ih hrest⟩
    rcases mem_insertName.mp hx with rfl | hx
    · by_contra hnot
      exact hne (String.le_antisymm (String.not_lt.mp hnot) (String.not_lt.mp hlt))
    · exact hfirst x hx

theorem mem_typeNamesIn {n : String} {types : List DataType} : n ∈ typeNamesIn types ↔ .named n ∈ types := by
  have hmem : ∀ names : List String, n ∈ names.foldr insertName [] ↔ n ∈ names := by
    intro names
    induction names with
    | nil => simp
    | cons m rest ih => rw [List.foldr_cons, mem_insertName, ih, List.mem_cons]
  rw [typeNamesIn, hmem, List.mem_filterMap]
  constructor
  · rintro ⟨t, ht, hname⟩
    rwa [← DataType.name?_eq_some_iff.mp hname]
  · exact fun hmem => ⟨_, hmem, rfl⟩

theorem typeNamesIn_increasing (types : List DataType) : (typeNamesIn types).Pairwise (· < ·) := by
  unfold typeNamesIn
  induction types.filterMap DataType.name? with
  | nil => exact .nil
  | cons n rest ih => exact insertName_increasing ih

/-! ### Arguments -/

/-- A named type is passed by value if it is an enumeration, and by reference otherwise. -/
theorem argumentType_named {n : String} {ty : Ty} {pass : Passing} (h : argumentType (.named n) d = .ok (ty, pass)) :
    ∃ owned, valueType (.named n) = .ok owned ∧
      (ty, pass) = if d.isEnum (.named n) then (owned, .value) else (.ref none false owned, .ref) := by
  simp only [argumentType, bind_eq_ok, pure_eq_ok] at h
  obtain ⟨owned, howned, hpass⟩ := h
  exact ⟨owned, howned, hpass.symm⟩

/-! ### Imports -/

/-- The methods of a service import the identifiers of the names that they mention, if there are any. -/
theorem typeImports_inv {s : Service} {items : List Item} (h : typeImports s = .ok items) :
    ∃ idents, Idents ((typeNamesIn (s.methods.flatMap Method.types)).map pascalCase) idents ∧
      items = if idents.isEmpty then [] else [.imports false [plain "crate", plain "types"] (.names idents)] := by
  simp only [typeImports, bind_eq_ok, pure_eq_ok] at h
  obtain ⟨idents, hidents, hitems⟩ := h
  refine ⟨idents, ?_, hitems.symm⟩
  refine List.forall₂_map_left_iff.mpr ((forall₂_of_mapM hidents).imp fun n i hi => ?_)
  exact identOf_eq_ok.mp hi

/-- Traits and clients import nothing. -/
theorem clientItems_typeImport {s : Service} {o : Options} {items : List Item} (h : clientItems s d o = .ok items) :
    ∀ item ∈ items, item.typeImport? = none := by
  obtain ⟨codes, rfl, hcodes⟩ := clientItems_inv h
  intro item hitem
  obtain ⟨code, hcode, hmem⟩ := List.mem_flatten.mp hitem
  obtain ⟨p, _, client, binding, hclient, hbinding, rfl⟩ := (exists_of_forall₂ hcodes).2 code hcode
  rcases List.mem_append.mp hmem with hclientItem | hbound
  · obtain ⟨_, _, _, _, _, rfl⟩ := clientCode_inv hclient
    simp only [List.mem_cons, List.not_mem_nil, or_false] at hclientItem
    rcases hclientItem with rfl | rfl | rfl | rfl <;> rfl
  · obtain ⟨_, _, _, _, _, rfl⟩ := bindingCode_inv hbinding
    obtain rfl := List.mem_singleton.mp hbound
    rfl

theorem traitCode_typeImport {s : Service} {item : Item} (h : traitCode s d = .ok item) : item.typeImport? = none := by
  simp only [traitCode, bind_eq_ok, pure_eq_ok] at h
  obtain ⟨_, _, _, _, rfl⟩ := h
  rfl

/-- The module of a service imports the identifiers of the names that its methods mention, in one import or in none. -/
theorem serviceFile_typeImports {s : Service} {o : Options} {file : File} (h : serviceFile s d o = .ok file) :
    ∃ idents, Idents ((typeNamesIn (s.methods.flatMap Method.types)).map pascalCase) idents ∧
      file.typeImports = if idents.isEmpty then [] else [idents] := by
  simp only [serviceFile, bind_eq_ok, pure_eq_ok] at h
  obtain ⟨imports, himports, trait, htrait, clients, hclients, rfl⟩ := h
  obtain ⟨idents, hidents, rfl⟩ := typeImports_inv himports
  refine ⟨idents, hidents, ?_⟩
  have hnone : clients.filterMap Item.typeImport? = [] :=
    List.filterMap_eq_nil_iff.mpr (clientItems_typeImport hclients)
  have hown : [trait].filterMap Item.typeImport? = [] := by simp [traitCode_typeImport htrait]
  rw [File.typeImports, List.filterMap_append, List.filterMap_append, hown, hnone]
  cases idents <;> rfl

/-! ### Declared types -/

/-- A type of the schema is declared under the identifier of its name. -/
theorem declared_of_meets {types : File} (h : typesFile d = .ok types) {inPath : Bool} {n : String}
    (hmeets : d.Meets inPath n) {i : Ident} (hi : Ident.ofName? (pascalCase n) = some i) : i ∈ types.types := by
  have hname : n ∈ d.enums.map (·.name) ++ d.messages.map (·.name) := by
    rcases hmeets with ⟨e, he, rfl⟩ | ⟨_, m, hm, rfl⟩
    · exact List.mem_append_left _ (List.mem_map_of_mem he)
    · exact List.mem_append_right _ (List.mem_map_of_mem hm)
  obtain ⟨j, hj, hread⟩ := (exists_of_forall₂ (typesFile_types h)).1 _ (List.mem_map_of_mem hname)
  rw [hi] at hread
  rwa [Option.some.inj hread]

/-- A field of a named type is made of that type and no other without a path, whether in a box or optional. -/
theorem fieldDecl_locals {m : Message} {f : Field} {decl : FieldDecl} (h : fieldDecl m d f = .ok decl) {n : String}
    (hn : f.type = .named n) : ∃ i, Ident.ofName? (pascalCase n) = some i ∧ decl.type.locals = [i] := by
  simp only [fieldDecl, fieldType, hn, valueType, bind_eq_ok, pure_eq_ok] at h
  obtain ⟨_, _, type, ⟨owned, ⟨i, hi, rfl⟩, rfl⟩, rfl⟩ := h
  refine ⟨i, identOf_eq_ok.mp hi, ?_⟩
  cases f.required <;> cases leadsTo d (.named n) m.name <;> simp [tyRooted, Ty.locals, localsOfAll]

/-- Every structure in the file of types is that of a message. -/
theorem message_of_struct {types : File} (h : typesFile d = .ok types) {attrs : List Attribute} {isPub : Bool}
    {name : Ident} {fields : List FieldDecl} (hitem : .struct attrs isPub name (some fields) ∈ types.items) :
    ∃ m ∈ d.messages, Ident.ofName? (pascalCase m.name) = some name ∧
      List.Forall₂ (fun f decl => fieldDecl m d f = .ok decl) m.fields fields := by
  obtain ⟨enums, messages, henums, hmessages, hitems⟩ := typesFile_inv h
  rw [hitems] at hitem
  rcases List.mem_append.mp hitem with henum | hmessage
  · obtain ⟨code, hcode, hmem⟩ := List.mem_flatten.mp henum
    obtain ⟨e, _, he⟩ := (exists_of_forall₂ henums).2 code hcode
    obtain ⟨_, _, _, _, rfl⟩ := enumCode_inv he
    simp [enumItem, codecItem, inherentItem, textItems, serdeItems] at hmem
  · obtain ⟨m, hm, hcode⟩ := (exists_of_forall₂ hmessages).2 _ hmessage
    obtain ⟨_, _, _, hname, hfields, heq⟩ := messageCode_inv hcode
    obtain ⟨rfl, rfl, rfl, hsame⟩ := Item.struct.inj heq
    obtain rfl := Option.some.inj hsame
    exact ⟨m, hm, hname, hfields⟩

/-! ### Closed references -/

/-- The references of a schema are closed, and every view of a name tells an enumeration from a message in the same way.
The module of a service imports the identifiers of the types that its methods mention, by increasing names, at once or,
if they mention none, not at all; and what is imported or is the named type of a field is declared.
No identifier is imported twice exactly if no two of the names denote one word. -/
theorem references_closed (schema : Schema) :
    (∀ n, schema.isEnum (.named n) = true ↔ schema.kinds.lookup n = some .enumeration) ∧
    (∀ inPath n, schema.Mentions inPath (.named n) →
      ((∃ e, schema.enum? n = some e) ∧ schema.message? n = none ∨
        inPath = false ∧ schema.enum? n = none ∧ ∃ m, schema.message? n = some m) ∧
      ∀ ty pass, argumentType (.named n) schema.toDefinitions = .ok (ty, pass) →
        (pass = .value ↔ ∃ e, schema.enum? n = some e)) ∧
    ∀ types, typesFile schema.toDefinitions = .ok types →
      (∀ s ∈ schema.services, ∀ o file, serviceFile s schema.toDefinitions o = .ok file →
        ∃ names idents, names.Pairwise (· < ·) ∧ (∀ n, n ∈ names ↔ ∃ m ∈ s.methods, .named n ∈ m.types) ∧
          Idents (names.map pascalCase) idents ∧
          file.typeImports = (if names = [] then [] else [idents]) ∧ (∀ i ∈ idents, i ∈ types.types) ∧
          (Code.Distinct idents ↔ Apart (names.map pascalCase))) ∧
      ∀ attrs isPub name fields, .struct attrs isPub name (some fields) ∈ types.items →
        ∃ m ∈ schema.messages, Ident.ofName? (pascalCase m.name) = some name ∧
          List.Forall₂ (fun f decl => ∀ n, f.type = .named n →
            ∃ i ∈ types.types, Ident.ofName? (pascalCase n) = some i ∧ decl.type.locals = [i]) m.fields fields := by
  have hvalid := Definitions.error?_eq_none_iff.mp schema.valid
  refine ⟨fun n => hvalid.isEnum_iff, ?_, fun types htypes => ⟨?_, ?_⟩⟩
  · intro inPath n hmention
    refine ⟨hvalid.meets_cases (hvalid.resolves hmention n rfl), fun ty pass harg => ?_⟩
    obtain ⟨owned, _, hpass⟩ := argumentType_named harg
    rw [isEnum_named] at hpass
    cases hfound : schema.enum? n with
    | none => simp_all
    | some e => simp_all
  · intro s hs o file hfile
    obtain ⟨idents, hidents, himports⟩ := serviceFile_typeImports hfile
    have hmem : ∀ n, n ∈ typeNamesIn (s.methods.flatMap Method.types) ↔ ∃ m ∈ s.methods, .named n ∈ m.types := by
      simp [mem_typeNamesIn, List.mem_flatMap]
    refine ⟨_, idents, typeNamesIn_increasing _, hmem, hidents, ?_, ?_, distinct_iff_apart hidents⟩
    · rw [himports]
      have hlength := List.Forall₂.length_eq hidents
      cases idents <;> cases hnames : typeNamesIn (s.methods.flatMap Method.types) <;> simp_all
    · intro i hi
      obtain ⟨name, hname, hread⟩ := (exists_of_forall₂ hidents).2 i hi
      obtain ⟨n, hn, rfl⟩ := List.mem_map.mp hname
      obtain ⟨m, hm, ht⟩ := (hmem n).mp hn
      obtain ⟨inPath, hmention⟩ := mentions_of_mem_types hs hm ht
      exact declared_of_meets htypes (hvalid.resolves hmention n rfl) hread
  · intro attrs isPub name fields hitem
    obtain ⟨m, hm, hname, hfields⟩ := message_of_struct htypes hitem
    refine ⟨m, hm, hname, ?_⟩
    have hboth := (List.forall₂_and_left _ _).mpr ⟨fun f hf => hf, hfields⟩
    refine hboth.imp fun f decl hdecl n hn => ?_
    obtain ⟨i, hi, hlocals⟩ := fieldDecl_locals hdecl.2 hn
    have hmention : schema.Mentions false f.type := .field hm hdecl.1
    exact ⟨i, declared_of_meets htypes (hvalid.resolves hmention n hn) hi, hi, hlocals⟩

/-- Two messages whose names differ in a comment only: both are imported, under one identifier. -/
theorem commented_type_imported_twice :
    let m : Method :=
      { name := "m", pattern := .unary, request := some (.named "/**/a"), response := some (.named "/***/a") }
    let s : Service := { name := "S", methods := [m] }
    let d : Definitions := { package := "p", services := [s], messages := [{ name := "/**/a" }, { name := "/***/a" }] }
    let o : Options := { profiles := [], runtimePath := "r" }
    ∃ (schema : Schema) (types file : File) (names : List String) (idents : List Ident), schema.toDefinitions = d ∧
      typesFile d = .ok types ∧ serviceFile s d o = .ok file ∧ names.Pairwise (· < ·) ∧
      "/**/a" ∈ names ∧ "/***/a" ∈ names ∧ file.typeImports = [idents] ∧ idents = [plain "a", plain "a"] ∧
      ¬ Apart (names.map pascalCase) := by
  intro m s d o
  have hvalid : d.error? = none := by decide +kernel
  obtain ⟨types, htypes⟩ : ∃ types, typesFile d = .ok types := exists_of_toOption (by decide +kernel)
  obtain ⟨file, hfile⟩ : ∃ file, serviceFile s d o = .ok file := exists_of_toOption (by decide +kernel)
  have himport : file.typeImports = [[plain "a", plain "a"]] := by
    have himports : (serviceFile s d o).toOption.map File.typeImports = some [[plain "a", plain "a"]] := by
      decide +kernel
    rw [hfile] at himports
    exact Option.some.inj himports
  obtain ⟨names, idents, hincreasing, hmem, _, hlist, _, hdistinct⟩ :=
    ((references_closed ⟨d, hvalid⟩).2.2 types htypes).1 s (List.mem_singleton.mpr rfl) o file hfile
  have hrequest : "/**/a" ∈ names := (hmem _).mpr ⟨m, List.mem_singleton.mpr rfl, by decide⟩
  have hresponse : "/***/a" ∈ names := (hmem _).mpr ⟨m, List.mem_singleton.mpr rfl, by decide⟩
  rw [if_neg (List.ne_nil_of_mem hrequest)] at hlist
  have hidents : idents = [plain "a", plain "a"] := by
    rw [himport] at hlist
    exact (List.cons.inj hlist).1.symm
  refine ⟨⟨d, hvalid⟩, types, file, names, idents, rfl, htypes, hfile, hincreasing, hrequest, hresponse, hlist, hidents,
    ?_⟩
  rw [← hdistinct, hidents, Code.Distinct]
  decide

end ServiceBindings.Generate
