import ServiceBindings.Proofs.Code.Documentation
import ServiceBindings.Proofs.Generate.Distinct
import ServiceBindings.Proofs.Generate.Extension
import ServiceBindings.Proofs.Generate.Layout
import ServiceBindings.Proofs.Schema.Descriptions

/-!
Descriptions in generated code. A description is quoted in documentation and nowhere else: no look-up, no name and no
check goes by it. So two runs that differ in descriptions alone fail alike, or give the same manifest and the same code
but for its documentation.
-/

namespace ServiceBindings

/-- A profile without its description. -/
def Profile.undescribed (p : Profile) : Profile :=
  { p with description := "" }

@[simp] theorem Profile.name_undescribed (p : Profile) : p.undescribed.name = p.name := rfl

namespace Generate

open Code

/-- Options whose profiles have no descriptions. -/
def Options.undescribed (o : Options) : Options :=
  { o with profiles := o.profiles.map Profile.undescribed }

/-- Whether items are the same but for their documentation. -/
def SameItems (items items' : List Item) : Prop :=
  items.map Item.erase = items'.map Item.erase

theorem SameItems.flatten {lists lists' : List (List Item)} (h : List.Forall₂ SameItems lists lists') :
    SameItems lists.flatten lists'.flatten := by
  induction h with
  | nil => rfl
  | cons hitems _ ih =>
    rw [SameItems, List.flatten_cons, List.flatten_cons, List.map_append, List.map_append, hitems, ih]

theorem SameItems.append {items items' others others' : List Item} (h : SameItems items items')
    (hothers : SameItems others others') : SameItems (items ++ others) (items' ++ others') := by
  rw [SameItems, List.map_append, List.map_append, h, hothers]

/-- Whether two files have the same items but for their documentation. -/
def SameFile (f f' : File) : Prop :=
  f.erase = f'.erase

variable (d : Definitions) (o : Options)

/-! ### Types -/

theorem enumCode_undescribed (e : Enumeration) : Alike SameItems (enumCode e.undescribed) (enumCode e) :=
  .bind_same _ fun _ => .bind_same _ fun _ => .pure rfl

/-- A search that meets a new name goes on with the fields behind it, if it is the name of a message. -/
theorem search_unvisited {target n : String} {visited : List String} {t : DataType} (ht : t.name? = some n)
    (hn : n ≠ target) (hvisited : n ∉ visited) (rest : List DataType) :
    search d target visited (t :: rest) =
      search d target (n :: visited) (((d.message? n).elim [] fun m => m.fields.map (·.type)) ++ rest) := by
  rw [search]
  simp only [ht, hn, hvisited, if_false, dite_false]
  split <;> simp_all

/-- A search looks at fields alone. -/
theorem search_undescribed (target : String) (visited : List String) (types : List DataType) :
    search d.undescribed target visited types = search d target visited types := by
  fun_induction search d target visited types with
  | case1 => rw [search]
  | case2 visited t rest ht ih => rw [search, ht, ih]
  | case3 visited t rest ht => simp [search, ht]
  | case4 visited t rest n ht hn hvisited ih => simp [search, ht, hn, hvisited, ih]
  | case5 visited t rest n ht hn hvisited hm ih =>
    rw [search_unvisited _ ht hn hvisited, Definitions.message?_undescribed, hm]
    exact ih
  | case6 visited t rest n ht hn hvisited m hm ih =>
    rw [search_unvisited _ ht hn hvisited, Definitions.message?_undescribed, hm]
    exact ih

theorem fieldDecl_undescribed (m : Message) (f : Field) :
    fieldDecl m.undescribed d.undescribed f = fieldDecl m d f := by
  simp only [fieldDecl, fieldType, leadsTo, search_undescribed]
  rfl

theorem messageCode_undescribed (m : Message) :
    Alike (fun item item' => item.erase = item'.erase) (messageCode m.undescribed d.undescribed) (messageCode m d) := by
  have hfields : fieldDecl m.undescribed d.undescribed = fieldDecl m d := funext (fieldDecl_undescribed d m)
  rw [messageCode, messageCode, hfields]
  exact .bind_same _ fun _ => .bind_same _ fun _ => .pure rfl

theorem typesFile_undescribed : Alike SameFile (typesFile d.undescribed) (typesFile d) := by
  refine (Alike.mapM_map enumCode_undescribed d.enums).bind fun enums enums' henums => ?_
  refine (Alike.mapM_map (messageCode_undescribed d) d.messages).bind fun messages messages' hmessages => .pure ?_
  have hitems : SameItems (enums.flatten ++ messages) (enums'.flatten ++ messages') :=
    (SameItems.flatten henums).append (map_eq_map_of_forall₂ hmessages)
  exact congrArg (File.mk []) hitems

/-! ### Services -/

theorem methodSignature_undescribed (m : Method) (unused : Bool) :
    methodSignature m.undescribed d.undescribed unused = methodSignature m d unused :=
  methodSignature_congr (m := m.undescribed) (fun t _ => d.isEnum_undescribed t) unused

theorem traitCode_undescribed (s : Service) :
    Alike (fun item item' => item.erase = item'.erase) (traitCode s.undescribed d.undescribed) (traitCode s d) := by
  have hmethod : ∀ m : Method,
      Alike (fun head head' => (undocumented head.1, head.2) = (undocumented head'.1, head'.2))
        (do return ([methodComment m.undescribed], (← methodSignature m.undescribed d.undescribed false).code))
        (do return ([methodComment m], (← methodSignature m d false).code) : Except GenerationError _) := by
    intro m
    rw [methodSignature_undescribed]
    refine .bind_same _ fun signature => .pure ?_
    cases hm : m.description <;> simp [methodComment, Method.undescribed, hm, undocumented, Attribute.isDoc]
  refine .bind_same _ fun name => (Alike.mapM_map hmethod s.methods).bind fun heads heads' hheads => .pure ?_
  have hsame : heads.map (fun head => (undocumented head.1, head.2)) =
      heads'.map fun head => (undocumented head.1, head.2) := map_eq_map_of_forall₂ hheads
  exact congrArg (Item.trait [] name _) hsame

theorem bindingCode_undescribed (s : Service) (p : Profile) :
    bindingCode s.undescribed p.undescribed d.undescribed = bindingCode s p d := by
  have hmethod : ∀ m : Method,
      methodCode s.undescribed m.undescribed p.undescribed d.undescribed = methodCode s m p d := by
    intro m
    simp only [methodCode, methodSignature_undescribed]
    rfl
  have hmethods : s.undescribed.methods.mapM (fun m => methodCode s.undescribed m p.undescribed d.undescribed) =
      s.methods.mapM (fun m => methodCode s m p d) := by
    rw [Service.undescribed, List.mapM_map]
    exact mapM_congr fun m _ => hmethod m
  rw [bindingCode, hmethods]
  rfl

theorem clientCode_undescribed (s : Service) (p : Profile) (spec : BuilderSpec) :
    Alike SameItems (clientCode s.undescribed p.undescribed spec) (clientCode s p spec) := by
  unfold clientCode
  split
  · exact .error _
  · exact .bind_same _ fun client => .bind_same _ fun builder => .bind_same _ fun setters => .pure rfl

theorem typeImports_undescribed (s : Service) : typeImports s.undescribed = typeImports s := by
  simp only [typeImports, Service.undescribed, List.flatMap_map]
  rfl

theorem clientItems_undescribed (s : Service) :
    Alike SameItems (clientItems s.undescribed d.undescribed o.undescribed) (clientItems s d o) := by
  refine (Alike.mapM_map (fun p => ?_) o.profiles).bind fun clients clients' hclients =>
    .pure (SameItems.flatten hclients)
  rw [bindingCode_undescribed]
  refine (clientCode_undescribed s p o.builder).bind fun client client' hclient => ?_
  exact .bind_same _ fun binding => .pure (hclient.append rfl)

theorem serviceFile_undescribed (s : Service) :
    Alike SameFile (serviceFile s.undescribed d.undescribed o.undescribed) (serviceFile s d o) := by
  rw [serviceFile, typeImports_undescribed]
  refine .bind_same _ fun imports => (traitCode_undescribed d s).bind fun trait trait' htrait => ?_
  refine (clientItems_undescribed d o s).bind fun clients clients' hclients => .pure ?_
  have htraits : SameItems [trait] [trait'] := congrArg ([·]) htrait
  have hitems : SameItems (imports ++ [trait] ++ clients) (imports ++ [trait'] ++ clients') :=
    (SameItems.append rfl htraits).append hclients
  exact congrArg (File.mk []) hitems

/-! ### Names -/

@[simp] theorem moduleName_undescribed (s : Service) : moduleName s.undescribed = moduleName s := rfl

theorem rootFile_undescribed : rootFile d.undescribed o.undescribed = rootFile d o := by
  simp only [rootFile, Definitions.undescribed, Options.undescribed, List.mapM_map, List.map_map, Function.comp_def,
    moduleName_undescribed, Profile.name_undescribed]

theorem exportedNames_undescribed (s : Service) :
    exportedNames s.undescribed o.undescribed = exportedNames s o := by
  simp only [exportedNames, Options.undescribed, List.mapM_map]
  rfl

theorem preludeFile_undescribed : preludeFile d.undescribed o.undescribed = preludeFile d o := by
  simp only [preludeFile, Definitions.undescribed, List.mapM_map, Function.comp_def, List.isEmpty_map,
    moduleName_undescribed, exportedNames_undescribed]

theorem checkServiceNames_undescribed (modules taken : List String) (services : List Service) :
    checkServiceNames o.undescribed modules taken (services.map Service.undescribed) =
      checkServiceNames o modules taken services := by
  induction services generalizing modules taken with
  | nil => rfl
  | cons s rest ih =>
    simp only [List.map_cons, checkServiceNames, exportedNames_undescribed, ih]
    rfl

theorem checkNames_undescribed : checkNames d.undescribed o.undescribed = checkNames d o := by
  have htypes : typeNames d.undescribed = typeNames d := by
    simp only [typeNames, Definitions.undescribed, List.mapM_map]
    rfl
  simp only [checkNames, htypes]
  exact bind_congr fun types => checkServiceNames_undescribed o takenModules (types ++ runtimeNames) d.services

theorem fault?_undescribed : o.undescribed.fault? = o.fault? := by
  have hrepeated : ∀ (profiles : List Profile) (suffixes : List String),
      Options.repeatedProfile? suffixes (profiles.map Profile.undescribed) =
        Options.repeatedProfile? suffixes profiles := by
    intro profiles
    induction profiles with
    | nil => exact fun _ => rfl
    | cons p rest ih =>
      intro suffixes
      simp only [List.map_cons, Options.repeatedProfile?, ih]
      rfl
  simp only [Options.fault?, Options.undescribed, List.isEmpty_map, hrepeated]

/-! ### The crate -/

/-- Generation fails alike without descriptions. -/
theorem generate_undescribed : Alike (fun _ _ => True) (generate d.undescribed o.undescribed) (generate d o) := by
  have hpackage : o.undescribed.packageName d.undescribed = o.packageName d := rfl
  unfold generate
  rw [fault?_undescribed, hpackage, checkNames_undescribed, rootFile_undescribed, preludeFile_undescribed]
  cases o.fault? with
  | some fault => exact .error _
  | none =>
    refine .bind_same (checkCrateName (o.packageName d)) fun _ => .bind_same (checkNames d o) fun _ => ?_
    refine .bind_same (rootFile d o) fun root => (typesFile_undescribed d).bind fun types types' _ => ?_
    refine (Alike.mapM_map (S := fun _ _ => True) (fun s => ?_) d.services).bind fun services services' _ => ?_
    · exact (serviceFile_undescribed d o s).bind fun _ _ _ => .pure trivial
    · exact .bind_same (preludeFile d o) fun prelude => .pure trivial

variable {d o}

/-- Code that is generated without descriptions is the same code but for its documentation. -/
theorem Sources.Of.same_undescribed {c c' : Sources} (h : c.Of d o) (h' : c'.Of d.undescribed o.undescribed) :
    c'.files.map File.erase = c.files.map File.erase := by
  have hroot : c'.root = c.root := by
    have hroot' := h'.root
    rw [rootFile_undescribed, h.root] at hroot'
    exact (Except.ok.inj hroot').symm
  have hprelude : c'.prelude = c.prelude := by
    have hprelude' := h'.prelude
    rw [preludeFile_undescribed, h.prelude] at hprelude'
    exact (Except.ok.inj hprelude').symm
  have htypes : c'.types.erase = c.types.erase := (typesFile_undescribed d).related h'.types h.types
  have hservices : c'.services.map File.erase = c.services.map File.erase := by
    have hboth := forall₂_common (List.forall₂_map_left_iff.mp h'.services) h.services
    refine map_eq_map_of_forall₂ (hboth.imp fun f' f hfiles => ?_)
    obtain ⟨s, hfile', hfile⟩ := hfiles
    exact (serviceFile_undescribed d o s).related hfile' hfile
  simp only [files, List.map_append, List.map_cons, List.map_nil, hroot, hprelude, htypes, hservices]

private theorem rootFile_docs {f : File} (h : rootFile d o = .ok f) : ∀ a ∈ f.docs, a.isDoc = true := by
  simp only [rootFile, bind_eq_ok, pure_eq_ok] at h
  obtain ⟨_, _, rfl⟩ := h
  simp [Attribute.isDoc]

private theorem typesFile_docs {f : File} (h : typesFile d = .ok f) : ∀ a ∈ f.docs, a.isDoc = true := by
  simp only [typesFile, bind_eq_ok, pure_eq_ok] at h
  obtain ⟨_, _, _, _, rfl⟩ := h
  simp [Attribute.isDoc]

private theorem serviceFile_docs {s : Service} {f : File} (h : serviceFile s d o = .ok f) :
    ∀ a ∈ f.docs, a.isDoc = true := by
  simp only [serviceFile, bind_eq_ok, pure_eq_ok] at h
  obtain ⟨_, _, _, _, _, _, rfl⟩ := h
  simp [Attribute.isDoc]

private theorem preludeFile_docs {f : File} (h : preludeFile d o = .ok f) : ∀ a ∈ f.docs, a.isDoc = true := by
  simp only [preludeFile, bind_eq_ok, pure_eq_ok] at h
  obtain ⟨_, _, rfl⟩ := h
  simp [comment, Attribute.isDoc]

/-- What a generated file says about itself is documentation. -/
theorem Sources.Of.docs {c : Sources} (h : c.Of d o) : ∀ f ∈ c.files, ∀ a ∈ f.docs, a.isDoc = true := by
  simp only [files, List.mem_append, List.mem_cons, List.not_mem_nil, or_false]
  rintro f (((rfl | rfl) | hf) | rfl)
  · exact rootFile_docs h.root
  · exact typesFile_docs h.types
  · obtain ⟨s, _, hfile⟩ := (exists_of_forall₂ h.services).2 f hf
    exact serviceFile_docs hfile
  · exact preludeFile_docs h.prelude

/-- The contents of a generated crate are its manifest and its code. -/
theorem contents_of_generate {files : List CrateFile} (h : generate d o = .ok files) :
    ∃ c : Sources, c.Of d o ∧
      files.map (·.content) = manifest (o.packageName d) o.runtimePath :: c.files.map formatted := by
  obtain ⟨c, hc, hfiles⟩ := sources_of_generate h
  refine ⟨c, hc, ?_⟩
  simp [hfiles, codeFile, Sources.files, List.map_zipWith, zipWith_right_of_forall₂ formatted hc.services]

/-- Definitions and options that are the same but for descriptions are accepted, or refused with the same error, and so
is generation from them. The crates that it gives have the same files: one manifest, and code whose tokens are the same
once documentation is erased. -/
theorem descriptions_only_document {d d' : Definitions} {o o' : Options} (hd : d.undescribed = d'.undescribed)
    (ho : o.undescribed = o'.undescribed) :
    (∀ e, Schema.ofDefinitions d = .error e ↔ Schema.ofDefinitions d' = .error e) ∧
      (∀ e, generate d o = .error e ↔ generate d' o' = .error e) ∧
      ∀ files, generate d o = .ok files → ∃ files', generate d' o' = .ok files' ∧
        files.map (·.path) = files'.map (·.path) ∧
        ∃ c c' : Sources, c.Of d o ∧ c'.Of d' o' ∧
          files.map (·.content) = manifest (o.packageName d) o.runtimePath :: c.files.map formatted ∧
          files'.map (·.content) = manifest (o.packageName d) o.runtimePath :: c'.files.map formatted ∧
          c.files.map (fun f => eraseTokens f.tokens) = c'.files.map fun f => eraseTokens f.tokens := by
  have herror : d.error? = d'.error? := by
    rw [← d.error?_undescribed, hd, d'.error?_undescribed]
  have hleft := generate_undescribed d o
  have hright := generate_undescribed d' o'
  rw [← hd, ← ho] at hright
  refine ⟨fun e => ?_, fun e => (hleft.error_iff e).symm.trans (hright.error_iff e), fun files hfiles => ?_⟩
  · rw [Schema.ofDefinitions_eq_error, Schema.ofDefinitions_eq_error, herror]
  · obtain ⟨plainFiles, hplain⟩ := hleft.ok_iff.mpr ⟨files, hfiles⟩
    obtain ⟨files', hfiles'⟩ := hright.ok_iff.mp ⟨plainFiles, hplain⟩
    obtain ⟨b, hb, -⟩ := contents_of_generate hplain
    obtain ⟨c, hc, hcontents⟩ := contents_of_generate hfiles
    obtain ⟨c', hc', hcontents'⟩ := contents_of_generate hfiles'
    have hmodules : d.services.map moduleName = d'.services.map moduleName := by
      have hservices := congrArg (fun d => d.services.map moduleName) hd
      simpa [Definitions.undescribed, Function.comp_def] using hservices
    have hmanifest : manifest (o'.packageName d') o'.runtimePath = manifest (o.packageName d) o.runtimePath := by
      have hname : o.undescribed.packageName d.undescribed = o'.undescribed.packageName d'.undescribed := by rw [hd, ho]
      have hpath : o.undescribed.runtimePath = o'.undescribed.runtimePath := by rw [ho]
      exact congrArg₂ manifest hname.symm hpath.symm
    have hcode : c.files.map File.erase = c'.files.map File.erase := by
      rw [← hc.same_undescribed hb, hc'.same_undescribed (by rwa [← hd, ← ho])]
    have htokens {c : Sources} (hdocs : ∀ f ∈ c.files, ∀ a ∈ f.docs, a.isDoc = true) :
        c.files.map (fun f => eraseTokens f.tokens) = (c.files.map File.erase).map fun f => eraseTokens f.tokens := by
      rw [List.map_map]
      exact List.map_congr_left fun f hf => eraseTokens_file (hdocs f hf)
    refine ⟨files', hfiles', ?_, c, c', hc, hc', hcontents, hmanifest ▸ hcontents', ?_⟩
    · rw [paths_of_generate hfiles, paths_of_generate hfiles', hmodules]
    · rw [htokens hc.docs, htokens hc'.docs, hcode]

/-- Code with a description wherever there can be one, some of them in the syntax of code, and code with others. -/
theorem described_alike :
    let d (text : Option String) : Definitions :=
      { package := "p"
        services := [{
          name := "S", description := text
          methods := [{ name := "m", pattern := .unary, request := some (.named "M"), description := text }] }]
        enums := [{ name := "E", description := text, constants := [⟨"A", "a"⟩] }]
        messages := [{ name := "M", description := text, fields := [⟨"e", .named "E", true⟩] }] }
    let o (text : String) : Options :=
      { profiles := [{ Profile.httpAsync with description := text }], runtimePath := "r" }
    let quoted := "\"] pub struct Extra; #[doc = \""
    ∃ files files' c c', generate (d none) (o "") = .ok files ∧ generate (d (some quoted)) (o quoted) = .ok files' ∧
      Sources.Of c (d none) (o "") ∧ Sources.Of c' (d (some quoted)) (o quoted) ∧
      files'.map (·.content) = manifest "p-client" "r" :: c'.files.map formatted ∧
      c.files.map (fun f => eraseTokens f.tokens) = c'.files.map fun f => eraseTokens f.tokens := by
  intro d o quoted
  have hd : (d none).undescribed = (d (some quoted)).undescribed := rfl
  have ho : (o "").undescribed = (o quoted).undescribed := rfl
  have hname : (o "").packageName (d none) = "p-client" := by decide +kernel
  obtain ⟨files, hfiles⟩ : ∃ files, generate (d none) (o "") = .ok files := exists_of_toOption (by decide +kernel)
  obtain ⟨files', hfiles', _, c, c', hc, hc', _, hcontents, htokens⟩ :=
    (descriptions_only_document hd ho).2.2 files hfiles
  rw [hname] at hcontents
  exact ⟨files, files', c, c', hfiles, hfiles', hc, hc', hcontents, htokens⟩

end Generate

end ServiceBindings
