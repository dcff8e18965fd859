import Mathlib.Data.List.Basic
import Mathlib.Logic.Relation
import ServiceBindings.Proofs.Generate.Results
import ServiceBindings.Proofs.Schema.References

/-!
Boxes in structures. A field is boxed exactly if its type leads back to the message that it belongs to, so that no
message contains itself in fields without boxes, at any depth.
-/

namespace ServiceBindings

open Relation

namespace Definitions

variable {d : Definitions}

/-- Whether a message has a field of a type of the other name. -/
def Refers (d : Definitions) (a b : String) : Prop :=
  ∃ m ∈ d.messages, m.name = a ∧ ∃ f ∈ m.fields, f.type = .named b

/-- Whether a type is a message, or one from which fields lead to it. -/
def Leads (d : Definitions) (t : DataType) (target : String) : Prop :=
  ∃ n, t = .named n ∧ (n = target ∨ TransGen d.Refers n target)

theorem refers_iff (hnames : (d.messages.map (·.name)).Nodup) {m : Message} (hm : m ∈ d.messages) {b : String} :
    d.Refers m.name b ↔ .named b ∈ m.fields.map (·.type) := by
  constructor
  · rintro ⟨other, hother, hname, f, hf, htype⟩
    obtain rfl := List.inj_on_of_nodup_map hnames hother hm hname
    exact List.mem_map.mpr ⟨f, hf, htype⟩
  · intro hmem
    obtain ⟨f, hf, htype⟩ := List.mem_map.mp hmem
    exact ⟨m, hm, rfl, f, hf, htype⟩

end Definitions

namespace Code

/-- The type that stands in a path of the given names, if it is the only one. -/
def Ty.inside? (names : List String) : Ty → Option Ty
  | .path true is [] [t] => if is = names.map plain then some t else none
  | _ => none

/-- The type of the values of a field, be they optional or not. -/
def FieldDecl.content (f : FieldDecl) : Ty :=
  (f.type.inside? ["std", "option", "Option"]).getD f.type

/-- Whether a field holds its values in a box. -/
def FieldDecl.boxed (f : FieldDecl) : Bool :=
  (f.content.inside? ["std", "boxed", "Box"]).isSome

end Code

namespace Generate

open Code Definitions

variable {d : Definitions} {target : String}

/-! ### The search -/

/-- What is known when a search has entered some messages and has some types left. -/
structure Explored (d : Definitions) (target : String) (visited : List String) (types : List DataType) : Prop where
  missed : target ∉ visited
  pending : ∀ a ∈ visited, ∀ b, d.Refers a b → b ∈ visited ∨ .named b ∈ types

/-- Entering a message: the types of its fields are left in its place. -/
theorem Explored.enter (hnames : (d.messages.map (·.name)).Nodup) {visited : List String} {rest : List DataType}
    {m : Message} (h : Explored d target visited (.named m.name :: rest)) (hm : m ∈ d.messages)
    (hne : m.name ≠ target) : Explored d target (m.name :: visited) (m.fields.map (·.type) ++ rest) := by
  refine ⟨by simpa [hne.symm] using h.missed, fun a ha b hab => ?_⟩
  rcases List.mem_cons.mp ha with rfl | ha
  · exact .inr (List.mem_append_left _ ((refers_iff hnames hm).mp hab))
  · rcases h.pending a ha b hab with hb | hb
    · exact .inl (List.mem_cons_of_mem _ hb)
    · rcases List.mem_cons.mp hb with hb | hb
      · obtain rfl := DataType.named.inj hb
        exact .inl List.mem_cons_self
      · exact .inr (List.mem_append_right _ hb)

/-- Entering a message changes nothing about whether the target is led to. -/
theorem exists_leads_enter (hnames : (d.messages.map (·.name)).Nodup) {m : Message} (hm : m ∈ d.messages)
    (visited : List String) (rest : List DataType) :
    (∃ n, (n ∈ m.name :: visited ∨ .named n ∈ m.fields.map (·.type) ++ rest) ∧ ReflTransGen d.Refers n target) ↔
      ∃ n, (n ∈ visited ∨ .named n ∈ .named m.name :: rest) ∧ ReflTransGen d.Refers n target := by
  constructor
  · rintro ⟨b, hb, hleads⟩
    rcases hb with hb | hb
    · rcases List.mem_cons.mp hb with rfl | hb
      · exact ⟨_, .inr List.mem_cons_self, hleads⟩
      · exact ⟨b, .inl hb, hleads⟩
    · rcases List.mem_append.mp hb with hfield | hb
      · exact ⟨m.name, .inr List.mem_cons_self, .head ((refers_iff hnames hm).mpr hfield) hleads⟩
      · exact ⟨b, .inr (List.mem_cons_of_mem _ hb), hleads⟩
  · rintro ⟨b, hb, hleads⟩
    rcases hb with hb | hb
    · exact ⟨b, .inl (List.mem_cons_of_mem _ hb), hleads⟩
    · rcases List.mem_cons.mp hb with hb | hb
      · obtain rfl := DataType.named.inj hb
        exact ⟨_, .inl List.mem_cons_self, hleads⟩
      · exact ⟨b, .inr (List.mem_append_right _ hb), hleads⟩

/-- A search finds the target exactly if a type that is left, or a message that was entered, leads there. -/
theorem search_eq_true_iff (hnames : (d.messages.map (·.name)).Nodup) {visited : List String}
    {types : List DataType} (h : Explored d target visited types) :
    search d target visited types = true ↔
      ∃ n, (n ∈ visited ∨ .named n ∈ types) ∧ ReflTransGen d.Refers n target := by
  fun_induction search d target visited types with
  | case1 visited =>
    -- nothing is left, so the messages that were entered lead to each other only
    have hclosed : ∀ n, ReflTransGen d.Refers n target → n ∉ visited := by
      intro n hn
      induction hn using ReflTransGen.head_induction_on with
      | refl => exact h.missed
      | head hab _ ih =>
        intro ha
        rcases h.pending _ ha _ hab with hb | hb
        · exact ih hb
        · cases hb
    simp only [Bool.false_eq_true, List.not_mem_nil, or_false, false_iff, not_exists, not_and]
    exact fun n hn hleads => hclosed n hleads hn
  | case2 visited t rest hscalar ih =>
    have hne : ∀ n, .named n ≠ t := by
      rintro n rfl
      cases hscalar
    rw [ih ⟨h.missed, fun a ha b hb => by simpa [hne] using h.pending a ha b hb⟩]
    simp [hne]
  | case3 visited t rest hname =>
    obtain rfl := DataType.name?_eq_some_iff.mp hname
    simp only [true_iff]
    exact ⟨target, .inr List.mem_cons_self, .refl⟩
  | case4 visited t rest n hname htarget hvisited ih =>
    obtain rfl := DataType.name?_eq_some_iff.mp hname
    have hwithout : ∀ b, b ∈ visited ∨ DataType.named b ∈ .named n :: rest ↔ b ∈ visited ∨ .named b ∈ rest := by
      intro b
      by_cases hb : b = n
      · simp [hb, hvisited]
      · simp [hb]
    simp only [hwithout]
    exact ih ⟨h.missed, fun a ha b hab => (hwithout b).mp (h.pending a ha b hab)⟩
  | case5 visited t rest n hname htarget hvisited hmessage ih =>
    -- an enumeration leads nowhere
    obtain rfl := DataType.name?_eq_some_iff.mp hname
    have hnone : ∀ b, ¬ d.Refers n b := by
      rintro b ⟨m, hm, rfl, _⟩
      rw [(message?_eq_some_iff hnames).mpr ⟨hm, rfl⟩] at hmessage
      cases hmessage
    have hentered : ∀ b, b ∈ visited ∨ DataType.named b ∈ .named n :: rest ↔ b ∈ n :: visited ∨ .named b ∈ rest := by
      intro b
      simp only [List.mem_cons, DataType.named.injEq]
      tauto
    simp only [hentered]
    refine ih ⟨?_, ?_⟩
    · simpa [Ne.symm htarget] using h.missed
    · intro a ha b hab
      rcases List.mem_cons.mp ha with rfl | ha
      · exact absurd hab (hnone b)
      · exact (hentered b).mp (h.pending a ha b hab)
  | case6 visited t rest n hname htarget hvisited m hmessage ih =>
    obtain rfl := DataType.name?_eq_some_iff.mp hname
    obtain ⟨hm, rfl⟩ := (message?_eq_some_iff hnames).mp hmessage
    rw [ih (h.enter hnames hm htarget)]
    exact exists_leads_enter hnames hm visited rest

/-- The search finds a way to a message exactly if there is one. -/
theorem leadsTo_eq_true_iff (hnames : (d.messages.map (·.name)).Nodup) {t : DataType} :
    leadsTo d t target = true ↔ d.Leads t target := by
  have hexplored : Explored d target [] [t] := ⟨List.not_mem_nil, by simp⟩
  rw [leadsTo, search_eq_true_iff hnames hexplored, Leads]
  simp only [List.not_mem_nil, false_or, List.mem_singleton, reflTransGen_iff_eq_or_transGen]
  refine exists_congr fun n => and_congr eq_comm (or_congr_left eq_comm)

/-! ### Structures -/

/-- The type of a value is neither optional nor boxed. -/
theorem inside?_valueType {t : DataType} {ty : Ty} (h : valueType t = .ok ty) (names : List String) :
    ty.inside? names = none := by
  cases t with
  | named n =>
    simp only [valueType, bind_eq_ok, pure_eq_ok] at h
    obtain ⟨i, _, rfl⟩ := h
    rfl
  | string | bool | i32 | i64 | u32 | u64 | f32 | f64 =>
    obtain rfl := Except.ok.inj h
    rfl

/-- The values of a field are in a box exactly if the search finds a way back. -/
theorem fieldDecl_content {m : Message} {f : Field} {decl : FieldDecl} (h : fieldDecl m d f = .ok decl) :
    ∃ owned, valueType f.type = .ok owned ∧
      decl.content = if leadsTo d f.type m.name then tyRooted ["std", "boxed", "Box"] [owned] else owned := by
  simp only [fieldDecl, fieldType, bind_eq_ok, pure_eq_ok] at h
  obtain ⟨i, _, type, ⟨owned, howned, rfl⟩, rfl⟩ := h
  refine ⟨owned, howned, ?_⟩
  have hplain := inside?_valueType howned ["std", "option", "Option"]
  have hbox : (tyRooted ["std", "boxed", "Box"] [owned]).inside? ["std", "option", "Option"] = none := rfl
  have hoption (t : Ty) : (tyRooted ["std", "option", "Option"] [t]).inside? ["std", "option", "Option"] = some t := rfl
  cases f.required <;> cases leadsTo d f.type m.name <;> simp [FieldDecl.content, hplain, hbox, hoption]

/-- A field is boxed if its type leads to the message that it belongs to, and only then. -/
theorem fieldDecl_boxed {m : Message} {f : Field} {decl : FieldDecl} (h : fieldDecl m d f = .ok decl) :
    decl.boxed = leadsTo d f.type m.name := by
  obtain ⟨owned, howned, hcontent⟩ := fieldDecl_content h
  have hplain := inside?_valueType howned ["std", "boxed", "Box"]
  have hbox : (tyRooted ["std", "boxed", "Box"] [owned]).inside? ["std", "boxed", "Box"] = some owned := rfl
  rw [FieldDecl.boxed, hcontent]
  cases leadsTo d f.type m.name <;> simp [hplain, hbox]

/-- Whether a field of a message is generated without a box. -/
def Unboxed (d : Definitions) (m : Message) (f : Field) : Prop :=
  ∃ decl, fieldDecl m d f = .ok decl ∧ decl.boxed = false

/-- Whether a message contains another one in a field without a box, required or optional. -/
def Contains (d : Definitions) (a b : Message) : Prop :=
  a ∈ d.messages ∧ b ∈ d.messages ∧ ∃ f ∈ a.fields, Unboxed d a f ∧ f.type = .named b.name

theorem Contains.refers {a b : Message} (h : Contains d a b) : d.Refers a.name b.name := by
  obtain ⟨ha, _, f, hf, _, htype⟩ := h
  exact ⟨a, ha, rfl, f, hf, htype⟩

/-- No message contains itself without a box, at any depth: the first field on the way would be boxed. -/
theorem not_contains_self (hnames : (d.messages.map (·.name)).Nodup) (m : Message) : ¬ TransGen (Contains d) m m := by
  intro hcycle
  obtain ⟨other, ⟨_, _, f, _, ⟨decl, hdecl, hunboxed⟩, htype⟩, hback⟩ := TransGen.head'_iff.mp hcycle
  have hleads : d.Leads f.type m.name := by
    refine ⟨other.name, htype, ?_⟩
    have hreach := ReflTransGen.lift Message.name (fun _ _ => Contains.refers) _ _ hback
    exact (reflTransGen_iff_eq_or_transGen.mp hreach).imp_left Eq.symm
  rw [fieldDecl_boxed hdecl, ← Bool.not_eq_true, leadsTo_eq_true_iff hnames] at hunboxed
  exact hunboxed hleads

end Generate

end ServiceBindings
