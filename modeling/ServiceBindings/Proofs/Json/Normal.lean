import Mathlib.Logic.Function.Basic
import ServiceBindings.Json.Accept
import ServiceBindings.Proofs.Lookup
import ServiceBindings.Proofs.Sequence

/-!
Normal forms of JSON values. Taking a value as one of a shape gives a normal form of the shape, and leaves a normal
form as it is.
-/

namespace ServiceBindings.Json

/-- The members of an object, for the value of each member of a record. -/
def Record.entries (members : List Member) (value : String → Json) : List (String × Json) :=
  members.flatMap fun m => place m (value m.name)

/-- The normal forms of a shape. In those of a record every member is in its place, apart from the omitted ones that are
`null`. -/
inductive Normal (records : List Record) : Shape → Json → Prop
  | text (s : String) : Normal records .text (.string s)
  | flag (b : Bool) : Normal records .flag (.bool b)
  | integer {k : IntegerKind} {n : Int} (hrange : k.contains n = true) :
      Normal records (.integer k) (.number (.integer n))
  | double (bits : Nat) : Normal records .double (.number (.double bits))
  | single (bits : Nat) : Normal records .single (.number (.single bits))
  | any (v : Json) : Normal records .any v
  | absent (item : Shape) : Normal records (.optional item) .null
  | present {item : Shape} {v : Json} (h : Normal records item v) : Normal records (.optional item) v
  | sequence {item : Shape} {items : List Json} (h : ∀ v ∈ items, Normal records item v) :
      Normal records (.sequence item) (.array items)
  | bare {variants : List Variant} {name : String} (hname : variants.find? (·.name == name) = some ⟨name, false⟩) :
      Normal records (.choice variants) (.string name)
  | tagged {variants : List Variant} {name : String} (hname : variants.find? (·.name == name) = some ⟨name, true⟩)
      (s : String) : Normal records (.choice variants) (.object [(name, .string s)])
  | wire {values : List String} {s : String} (hs : s ∈ values) : Normal records (.wire values) (.string s)
  | record {name : String} {r : Record} (hr : Record.find? records name = some r) (value : String → Json)
      (h : ∀ m ∈ r.members, Normal records m.shape (value m.name)) :
      Normal records (.record name) (.object (Record.entries r.members value))

/-- Records whose members have different names, and whose defaults are normal forms. A member is omitted only where its
absence means `null`. -/
structure WellFormed (records : List Record) : Prop where
  names : ∀ r ∈ records, (r.members.map (·.name)).Nodup
  defaults : ∀ r ∈ records, ∀ m ∈ r.members, ∀ v ∈ m.absent?, Normal records m.shape v
  omitted : ∀ r ∈ records, ∀ m ∈ r.members, m.omitted = true → m.absent? = some .null

variable {records : List Record}

theorem Record.mem_of_find? {name : String} {r : Record} (hr : find? records name = some r) : r ∈ records :=
  List.mem_of_find?_eq_some hr

theorem Normal.choice_cases {variants : List Variant} {v : Json} (h : Normal records (.choice variants) v) :
    (∃ name, ⟨name, false⟩ ∈ variants ∧ v = .string name) ∨
      ∃ name s, ⟨name, true⟩ ∈ variants ∧ v = .object [(name, .string s)] := by
  cases h with
  | bare hname => exact .inl ⟨_, List.mem_of_find?_eq_some hname, rfl⟩
  | tagged hname s => exact .inr ⟨_, s, List.mem_of_find?_eq_some hname, rfl⟩

/-! ### Members -/

namespace Record

variable {ms : List Member} {m : Member}

/-- A member is left out only where it is `null` and may be omitted. -/
theorem place_cases (m : Member) (v : Json) :
    place m v = [(m.name, v)] ∨ place m v = [] ∧ v = .null ∧ m.omitted = true := by
  unfold place
  split
  · cases hom : m.omitted <;> simp
  · simp

theorem place_of_shown (hshown : m.omitted = false) (v : Json) : place m v = [(m.name, v)] := by
  rcases place_cases m v with hplace | ⟨_, _, homitted⟩
  · exact hplace
  · simp [hshown] at homitted

theorem mem_entries {value : String → Json} {entry : String × Json} (hentry : entry ∈ entries ms value) :
    ∃ m ∈ ms, entry = (m.name, value m.name) := by
  obtain ⟨m, hm, hmem⟩ := List.mem_flatMap.mp hentry
  refine ⟨m, hm, ?_⟩
  rcases place_cases m (value m.name) with hplace | ⟨hplace, _⟩
  · simpa [hplace] using hmem
  · simp [hplace] at hmem

theorem entries_keys_sublist (ms : List Member) (value : String → Json) :
    ((entries ms value).map (·.1)).Sublist (ms.map (·.name)) := by
  induction ms with
  | nil => simp [entries]
  | cons m rest ih =>
    rw [entries, List.flatMap_cons, List.map_append, List.map_cons]
    rcases place_cases m (value m.name) with hplace | ⟨hplace, _⟩
    · rw [hplace]
      exact ih.cons_cons m.name
    · rw [hplace]
      exact ih.cons m.name

/-- What is found of a member among the entries is its value, and a member that is not found is `null`. -/
theorem lookup_entries (hnames : (ms.map (·.name)).Nodup) {value : String → Json} (hm : m ∈ ms) :
    (entries ms value).lookup m.name = some (value m.name) ∨
      (entries ms value).lookup m.name = none ∧ value m.name = .null ∧ m.omitted = true := by
  have hnodup := hnames.sublist (entries_keys_sublist ms value)
  rcases place_cases m (value m.name) with hplace | ⟨hplace, hnull, homitted⟩
  · refine .inl ((lookup_eq_some_iff hnodup).mpr (List.mem_flatMap.mpr ⟨m, hm, ?_⟩))
    rw [hplace]
    exact List.mem_singleton_self _
  · refine .inr ⟨?_, hnull, homitted⟩
    refine Option.eq_none_iff_forall_not_mem.mpr fun v hv => ?_
    obtain ⟨m', hm', hmem⟩ := List.mem_flatMap.mp (mem_of_lookup_eq_some hv)
    rcases place_cases m' (value m'.name) with hplace' | ⟨hplace', _⟩
    · rw [hplace', List.mem_singleton, Prod.mk.injEq] at hmem
      obtain rfl := List.inj_on_of_nodup_map hnames hm hm' hmem.1
      simp [hplace] at hplace'
    · simp [hplace'] at hmem

/-- Members in their places, with a value of each that has a property. -/
inductive Filled (P : Member → Json → Prop) : List Member → List (String × Json) → Prop
  | nil : Filled P [] []
  | cons {m : Member} {v : Json} (h : P m v) {rest : List Member} {others : List (String × Json)}
      (hrest : Filled P rest others) : Filled P (m :: rest) (place m v ++ others)

theorem Filled.imp {P Q : Member → Json → Prop} {es : List (String × Json)} (h : Filled P ms es)
    (hpq : ∀ m ∈ ms, ∀ v, P m v → Q m v) : Filled Q ms es := by
  induction h with
  | nil => exact .nil
  | cons hv _ ih =>
    exact .cons (hpq _ List.mem_cons_self _ hv) (ih fun m hm => hpq m (List.mem_cons_of_mem _ hm))

/-- Where names differ, the values can be told by the names. -/
theorem Filled.exists_value {P : Member → Json → Prop} {es : List (String × Json)} (h : Filled P ms es)
    (hnames : (ms.map (·.name)).Nodup) :
    ∃ value : String → Json, (∀ m ∈ ms, P m (value m.name)) ∧ es = entries ms value := by
  induction h with
  | nil => exact ⟨fun _ => .null, by simp, rfl⟩
  | @cons m v hv rest others _ ih =>
    obtain ⟨hfresh, hnodup⟩ := List.nodup_cons.mp hnames
    obtain ⟨value, hvalue, rfl⟩ := ih hnodup
    have hrest : ∀ m' ∈ rest, Function.update value m.name v m'.name = value m'.name := fun m' hm' => by
      refine Function.update_of_ne ?_ _ _
      intro heq
      exact hfresh (List.mem_map.mpr ⟨m', hm', heq⟩)
    refine ⟨Function.update value m.name v, ?_, ?_⟩
    · intro m' hm'
      rcases List.mem_cons.mp hm' with rfl | hm'
      · simpa using hv
      · rw [hrest m' hm']
        exact hvalue m' hm'
    · rw [entries, entries, List.flatMap_cons, Function.update_self]
      exact congrArg _ (List.flatMap_congr fun m' hm' => by rw [hrest m' hm'])

theorem filled_entries {P : Member → Json → Prop} {value : String → Json} (h : ∀ m ∈ ms, P m (value m.name)) :
    Filled P ms (entries ms value) := by
  induction ms with
  | nil => exact .nil
  | cons m rest ih => exact .cons (h m List.mem_cons_self) (ih fun m' hm' => h m' (List.mem_cons_of_mem m hm'))

/-- The normal form of a record has every value that was found, and the values of absence elsewhere. -/
theorem filled_of_normal {found es : List (String × Json)} (h : normal found ms = .ok es) :
    Filled (fun m v => found.lookup m.name = some v ∨ m.absent? = some v) ms es := by
  induction ms generalizing es with
  | nil =>
    obtain rfl := Except.ok.inj h
    exact .nil
  | cons m rest ih =>
    rw [normal] at h
    split at h
    · next v _ hv =>
      obtain ⟨others, hothers, h⟩ := bind_eq_ok.mp h
      obtain rfl := Except.ok.inj h
      exact .cons (.inl hv) (ih hothers)
    · next v _ hv =>
      obtain ⟨others, hothers, h⟩ := bind_eq_ok.mp h
      obtain rfl := Except.ok.inj h
      exact .cons (.inr hv) (ih hothers)
    · cases h

theorem normal_eq_ok {found : List (String × Json)} {value : String → Json}
    (h : ∀ m ∈ ms, found.lookup m.name = some (value m.name) ∨
      found.lookup m.name = none ∧ m.absent? = some (value m.name)) :
    normal found ms = .ok (entries ms value) := by
  induction ms with
  | nil => rfl
  | cons m rest ih =>
    have hrest := ih fun m' hm' => h m' (List.mem_cons_of_mem m hm')
    rw [normal]
    rcases h m List.mem_cons_self with hfound | ⟨hnone, habsent⟩
    · simp only [hfound, hrest]
      rfl
    · simp only [hnone, habsent, hrest]
      rfl

end Record

/-! ### Values that are normal forms -/

theorem core_core (s : Shape) : s.core.core = s.core := by
  induction s with
  | optional item ih => exact ih
  | _ => rfl

/-- A value other than `null` has to be of the core of the shape. -/
theorem accept_core {v : Json} (hnull : v ≠ .null) (s : Shape) : accept records s.core v = accept records s v := by
  cases v with
  | null => exact absurd rfl hnull
  | bool b => simp only [accept, core_core]
  | number n => simp only [accept, core_core]
  | string t => simp only [accept, core_core]
  | array items => simp only [accept, core_core]
  | object members => simp only [accept, core_core]

theorem variant?_eq_ok {variants : List Variant} {name : String} {v : Variant} :
    Shape.variant? variants name = .ok v ↔ variants.find? (·.name == name) = some v := by
  unfold Shape.variant?
  split
  · next found hfound => simp [hfound]
  · next hnone => simp [hnone]

private theorem acceptItems_eq_ok {item : Shape} {items : List Json} (h : ∀ v ∈ items, accept records item v = .ok v) :
    acceptItems records item items = .ok items := by
  induction items with
  | nil => rfl
  | cons v rest ih =>
    simp only [acceptItems, h v List.mem_cons_self, ih fun v hv => h v (List.mem_cons_of_mem _ hv), ok_bind]

/-- Members of different names that are all taken as they are, are collected from the last to the first. -/
private theorem acceptMembers_eq_ok {r : Record} (hnames : (r.members.map (·.name)).Nodup)
    {found es : List (String × Json)} (hnodup : ((es ++ found).map (·.1)).Nodup)
    (h : ∀ e ∈ es, ∃ m ∈ r.members, m.name = e.1 ∧ accept records m.shape e.2 = .ok e.2) :
    acceptMembers records r found es = .ok (es.reverse ++ found) := by
  induction es generalizing found with
  | nil => rfl
  | cons e rest ih =>
    obtain ⟨key, v⟩ := e
    obtain ⟨m, hm, rfl, hv⟩ := h _ List.mem_cons_self
    have hfind : r.members.find? (·.name == m.name) = some m := (find?_key_eq_some_iff hnames).mpr ⟨hm, rfl⟩
    have hnodup' : ((rest ++ (m.name, v) :: found).map (·.1)).Nodup := by
      refine (List.Perm.nodup_iff ?_).mpr hnodup
      exact (List.perm_middle (a := (m.name, v))).map _
    have hfresh : found.lookup m.name = none := lookup_eq_none_of_nodup hnodup
    have hrest := ih hnodup' fun e he => h e (List.mem_cons_of_mem _ he)
    simp only [acceptMembers, hfind, hfresh, hv, ok_bind, List.reverse_cons, List.append_assoc]
    exact hrest

/-- The members of a normal form give the normal form, although they are found from the last to the first. -/
theorem WellFormed.normal_reverse (hrecords : WellFormed records) {r : Record} (hr : r ∈ records)
    (value : String → Json) :
    Record.normal (Record.entries r.members value).reverse r.members = .ok (Record.entries r.members value) := by
  have hnames := hrecords.names r hr
  have hnodup := hnames.sublist (Record.entries_keys_sublist r.members value)
  refine Record.normal_eq_ok fun m hm => ?_
  rw [lookup_perm hnodup (List.reverse_perm _)]
  rcases Record.lookup_entries hnames hm with hfound | ⟨hnone, hnull, homitted⟩
  · exact .inl hfound
  · exact .inr ⟨hnone, hnull ▸ hrecords.omitted r hr m hm homitted⟩

/-- A normal form is taken as it is. -/
theorem accept_of_normal (hrecords : WellFormed records) {s : Shape} {v : Json} (h : Normal records s v) :
    accept records s v = .ok v := by
  induction h with
  | text | flag | double | single | absent => rfl
  | integer hrange => simp [accept, Shape.core, Shape.ofNumber, hrange]
  | any v => cases v <;> rfl
  | @present item v _ ih =>
    by_cases hnull : v = .null
    · subst hnull
      rfl
    · rw [← accept_core hnull (.optional item), Shape.core, accept_core hnull]
      exact ih
  | sequence _ ih =>
    simp only [accept, Shape.core, acceptItems_eq_ok ih, ok_bind]
  | bare hname =>
    simp [accept, Shape.core, Shape.ofBareName, variant?_eq_ok.mpr hname, ok_bind]
  | tagged hname s =>
    simp [accept, Shape.core, Shape.ofTagged, variant?_eq_ok.mpr hname, ok_bind]
  | wire hs => simp [accept, Shape.core, Shape.ofWire, hs]
  | @record name r hr value _ ih =>
    have hnames := hrecords.names r (Record.mem_of_find? hr)
    have hnodup := hnames.sublist (Record.entries_keys_sublist r.members value)
    have hmembers : acceptMembers records r [] (Record.entries r.members value) =
        .ok (Record.entries r.members value).reverse := by
      refine (acceptMembers_eq_ok hnames ?_ ?_).trans (by rw [List.append_nil])
      · rwa [List.append_nil]
      · intro e he
        obtain ⟨m, hm, rfl⟩ := Record.mem_entries he
        exact ⟨m, hm, rfl, ih m hm⟩
    have hnormal := hrecords.normal_reverse (Record.mem_of_find? hr) value
    simp only [accept, Shape.core, hr, hmembers, hnormal, ok_bind]

/-! ### Values that are taken -/

theorem Normal.of_core {s : Shape} {v : Json} (h : Normal records s.core v) : Normal records s v := by
  induction s with
  | optional item ih => exact .present (ih h)
  | _ => exact h

theorem find?_variant {variants : List Variant} {name : String} {v : Variant}
    (hfind : variants.find? (·.name == name) = some v) {carries : Bool} (hcarries : v.carriesText = carries) :
    variants.find? (·.name == name) = some ⟨name, carries⟩ := by
  have hname : v.name = name := by simpa using List.find?_some hfind
  rw [hfind, ← hname, ← hcarries]

theorem normal_of_null {s : Shape} (hnull : s.isOptional = true) : Normal records s .null := by
  cases s with
  | optional item => exact .absent item
  | any => exact .any _
  | _ => cases hnull

theorem normal_of_number {s : Shape} {n : Number} {w : Json} (h : s.ofNumber records n = .ok w) :
    Normal records s w := by
  unfold Shape.ofNumber at h
  split at h
  · split at h
    · next hrange =>
      obtain rfl := Except.ok.inj h
      exact .integer hrange
    · cases h
  all_goals cases h
  all_goals constructor

theorem normal_of_wire {values : List String} {t : String} {w : Json} (h : Shape.ofWire values t = .ok w) :
    Normal records (.wire values) w := by
  unfold Shape.ofWire at h
  split at h
  · next hmem =>
    obtain rfl := Except.ok.inj h
    exact .wire hmem
  · cases h

theorem normal_of_bareName {variants : List Variant} {name : String} {w : Json}
    (h : Shape.ofBareName variants name = .ok w) : Normal records (.choice variants) w := by
  obtain ⟨v, hv, h⟩ := bind_eq_ok.mp h
  rw [variant?_eq_ok] at hv
  split at h
  · cases h
  · next hcarries =>
    obtain rfl := Except.ok.inj h
    exact .bare (find?_variant hv (eq_false_of_ne_true hcarries))

theorem normal_of_tagged {variants : List Variant} {name : String} {value w : Json}
    (h : Shape.ofTagged variants name value = .ok w) : Normal records (.choice variants) w := by
  obtain ⟨v, hv, h⟩ := bind_eq_ok.mp h
  rw [variant?_eq_ok] at hv
  split at h
  · next hcarries =>
    split at h
    · obtain rfl := Except.ok.inj h
      exact .tagged (find?_variant hv hcarries) _
    · cases h
  · next hcarries =>
    split at h
    · obtain rfl := Except.ok.inj h
      exact .bare (find?_variant hv (eq_false_of_ne_true hcarries))
    · cases h

namespace Record

/-- The part of the normal form for members that a list leaves out has the values of absence. -/
theorem filled_of_rest {r : Record} {count : Nat} {ms : List Member} {es : List (String × Json)}
    (h : r.rest count ms = .ok es) : Filled (fun m v => m.absent? = some v) ms es := by
  induction ms generalizing count es with
  | nil =>
    obtain rfl := Except.ok.inj h
    exact .nil
  | cons m rest ih =>
    rw [Record.rest] at h
    split at h
    · next v hv =>
      obtain ⟨others, hothers, h⟩ := bind_eq_ok.mp h
      obtain rfl := Except.ok.inj h
      exact .cons (by simp [Member.absent?, hv]) (ih hothers)
    · cases h

end Record

/-- Members in their places, with normal forms as values, make a normal form of the record. -/
theorem normal_of_filled (hrecords : WellFormed records) {name : String} {r : Record}
    (hr : Record.find? records name = some r) {es : List (String × Json)}
    (h : Record.Filled (fun m v => Normal records m.shape v) r.members es) :
    Normal records (.record name) (.object es) := by
  obtain ⟨value, hvalue, rfl⟩ := h.exists_value (hrecords.names r (Record.mem_of_find? hr))
  exact .record hr value hvalue

/-- Whether what was found of the members of a record is normal forms. -/
def NormalFound (records : List Record) (r : Record) (found : List (String × Json)) : Prop :=
  ∀ m ∈ r.members, ∀ v, found.lookup m.name = some v → Normal records m.shape v

theorem NormalFound.nil {r : Record} : NormalFound records r [] := by
  intro m _ v hv
  cases hv

theorem NormalFound.cons (hrecords : WellFormed records) {r : Record} (hr : r ∈ records)
    {found : List (String × Json)} (h : NormalFound records r found) {key : String} {m : Member}
    (hm : r.members.find? (·.name == key) = some m) {v : Json} (hv : Normal records m.shape v) :
    NormalFound records r ((key, v) :: found) := by
  intro m' hm' v' hv'
  rw [List.lookup_cons] at hv'
  split at hv'
  · next heq =>
    obtain rfl := Option.some.inj hv'
    rw [find?_key_eq_some_iff (hrecords.names r hr)] at hm
    have hname : m'.name = m.name := (beq_iff_eq.mp heq).trans hm.2.symm
    rwa [List.inj_on_of_nodup_map (hrecords.names r hr) hm' hm.1 hname]
  · exact h m' hm' v' hv'

/-- Members that were found make a normal form of the record, with defaults for those that were not. -/
theorem normal_of_found (hrecords : WellFormed records) {name : String} {r : Record}
    (hr : Record.find? records name = some r) {found es : List (String × Json)} (h : NormalFound records r found)
    (hes : Record.normal found r.members = .ok es) : Normal records (.record name) (.object es) := by
  refine normal_of_filled hrecords hr ((Record.filled_of_normal hes).imp fun m hm v hv => ?_)
  rcases hv with hv | hv
  · exact h m hm v hv
  · exact hrecords.defaults r (Record.mem_of_find? hr) m hm v hv

mutual

/-- What a value is taken as is a normal form. -/
theorem normal_of_accept (hrecords : WellFormed records) :
    (v : Json) → {s : Shape} → {w : Json} → accept records s v = .ok w → Normal records s w
  | .null, s, w, h => by
    unfold accept at h
    split at h
    · next hnull =>
      obtain rfl := Except.ok.inj h
      exact normal_of_null hnull
    · split at h <;> cases h
  | .bool b, s, w, h => by
    refine .of_core ?_
    rw [accept] at h
    split at h
    · next hcore =>
      obtain rfl := Except.ok.inj h
      exact hcore ▸ .flag b
    · next hcore => exact hcore ▸ .any w
    · cases h
  | .number n, s, w, h => by
    refine .of_core ?_
    rw [accept] at h
    split at h
    · next hcore => exact hcore ▸ .any w
    · exact normal_of_number h
  | .string t, s, w, h => by
    refine .of_core ?_
    rw [accept] at h
    split at h
    · next hcore =>
      obtain rfl := Except.ok.inj h
      exact hcore ▸ .text t
    · next hcore => exact hcore ▸ .any w
    · next hcore => exact hcore ▸ normal_of_wire h
    · next hcore => exact hcore ▸ normal_of_bareName h
    · cases h
  | .array items, s, w, h => by
    refine .of_core ?_
    rw [accept] at h
    split at h
    · next hcore => exact hcore ▸ .any w
    · next item hcore =>
      obtain ⟨vs, hvs, h⟩ := bind_eq_ok.mp h
      obtain rfl := Except.ok.inj h
      exact hcore ▸ .sequence (normal_of_acceptItems hrecords items hvs)
    · next name hcore =>
      rw [hcore]
      split at h
      · cases h
      · next r hr =>
        obtain ⟨es, hes, h⟩ := bind_eq_ok.mp h
        split at h
        · cases h
        · obtain rfl := Except.ok.inj h
          exact normal_of_filled hrecords hr
            (filled_of_acceptPlaces hrecords items (Record.mem_of_find? hr) (fun _ hm => hm) hes)
    · cases h
  | .object members, s, w, h => by
    refine .of_core ?_
    rw [accept] at h
    split at h
    · next hcore => exact hcore ▸ .any w
    · next name hcore =>
      rw [hcore]
      split at h
      · cases h
      · next r hr =>
        obtain ⟨found, hfound, h⟩ := bind_eq_ok.mp h
        obtain ⟨es, hes, h⟩ := bind_eq_ok.mp h
        obtain rfl := Except.ok.inj h
        have hnormal := normal_of_acceptMembers hrecords members (Record.mem_of_find? hr) .nil hfound
        exact normal_of_found hrecords hr hnormal hes
    · next hcore =>
      split at h
      · exact hcore ▸ normal_of_tagged h
      · cases h
    · cases h

private theorem normal_of_acceptItems (hrecords : WellFormed records) :
    (items : List Json) → {s : Shape} → {vs : List Json} → acceptItems records s items = .ok vs →
      ∀ v ∈ vs, Normal records s v
  | [], s, vs, h => by
    obtain rfl := Except.ok.inj h
    simp
  | item :: rest, s, vs, h => by
    obtain ⟨v, hv, h⟩ := bind_eq_ok.mp h
    obtain ⟨others, hothers, h⟩ := bind_eq_ok.mp h
    obtain rfl := Except.ok.inj h
    exact List.forall_mem_cons.mpr
      ⟨normal_of_accept hrecords item hv, normal_of_acceptItems hrecords rest hothers⟩

private theorem filled_of_acceptPlaces (hrecords : WellFormed records) :
    (items : List Json) → {r : Record} → {ms : List Member} → {count : Nat} → {es : List (String × Json)} →
      r ∈ records → (∀ m ∈ ms, m ∈ r.members) → acceptPlaces records r ms count items = .ok es →
      Record.Filled (fun m v => Normal records m.shape v) ms es
  | items, r, [], count, es, hr, hms, h => by
    rw [acceptPlaces] at h
    obtain rfl := Except.ok.inj h
    exact .nil
  | [], r, m :: ms, count, es, hr, hms, h => by
    rw [acceptPlaces] at h
    exact (Record.filled_of_rest h).imp fun m' hm' v hv => hrecords.defaults r hr m' (hms m' hm') v hv
  | v :: rest, r, m :: ms, count, es, hr, hms, h => by
    obtain ⟨w, hw, h⟩ := bind_eq_ok.mp h
    obtain ⟨others, hothers, h⟩ := bind_eq_ok.mp h
    obtain rfl := Except.ok.inj h
    exact .cons (normal_of_accept hrecords v hw)
      (filled_of_acceptPlaces hrecords rest hr (fun m' hm' => hms m' (List.mem_cons_of_mem m hm')) hothers)

private theorem normal_of_acceptMembers (hrecords : WellFormed records) :
    (members : List (String × Json)) → {r : Record} → {found found' : List (String × Json)} → r ∈ records →
      NormalFound records r found → acceptMembers records r found members = .ok found' →
      NormalFound records r found'
  | [], r, found, found', hr, hfound, h => by
    obtain rfl := Except.ok.inj h
    exact hfound
  | (key, v) :: rest, r, found, found', hr, hfound, h => by
    rw [acceptMembers] at h
    split at h
    · next m hm =>
      split at h
      · cases h
      · obtain ⟨w, hw, h⟩ := bind_eq_ok.mp h
        have hnext := hfound.cons hrecords hr hm (normal_of_accept hrecords v hw)
        exact normal_of_acceptMembers hrecords rest hr hnext h
    · exact normal_of_acceptMembers hrecords rest hr hfound h

end

end ServiceBindings.Json
