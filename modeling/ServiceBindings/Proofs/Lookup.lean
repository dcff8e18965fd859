import Mathlib.Data.List.Nodup

/-!
Looking up in lists whose members have different keys. What is found under a key is the only member that has it, so
the order of the members does not matter.
-/

namespace ServiceBindings

variable {α β κ : Type} [BEq κ] [LawfulBEq κ]

section Find

variable {key : α → κ} {xs ys : List α}

/-- The member of a key is the only one. -/
theorem find?_key_eq_some_iff (hnodup : (xs.map key).Nodup) {k : κ} {a : α} :
    xs.find? (key · == k) = some a ↔ a ∈ xs ∧ key a = k := by
  constructor
  · intro hfound
    exact ⟨List.mem_of_find?_eq_some hfound, by simpa using List.find?_some hfound⟩
  · rintro ⟨ha, rfl⟩
    have hsome : (xs.find? (key · == key a)).isSome := List.find?_isSome.mpr ⟨a, ha, by simp⟩
    obtain ⟨found, hfound⟩ := Option.isSome_iff_exists.mp hsome
    have hkey : key found = key a := by simpa using List.find?_some hfound
    rw [hfound, List.inj_on_of_nodup_map hnodup (List.mem_of_find?_eq_some hfound) ha hkey]

theorem find?_key_perm (hnodup : (xs.map key).Nodup) (hperm : ys.Perm xs) (k : κ) :
    ys.find? (key · == k) = xs.find? (key · == k) := by
  have hnodup' : (ys.map key).Nodup := (hperm.map key).nodup_iff.mpr hnodup
  refine Option.ext fun a => ?_
  rw [find?_key_eq_some_iff hnodup', find?_key_eq_some_iff hnodup, hperm.mem_iff]

end Find

section Entries

variable {xs ys : List (κ × β)}

theorem mem_of_lookup_eq_some {k : κ} {b : β} (h : xs.lookup k = some b) : (k, b) ∈ xs := by
  obtain ⟨front, back, hsplit, _⟩ := List.lookup_eq_some_iff.mp h
  simp [hsplit]

/-- Nothing is found under the key of an entry among entries of other keys. -/
theorem lookup_eq_none_of_nodup {entry : κ × β} (hnodup : ((entry :: ys ++ xs).map (·.1)).Nodup) :
    xs.lookup entry.1 = none := by
  rw [List.cons_append, List.map_cons, List.nodup_cons, List.map_append] at hnodup
  refine Option.eq_none_iff_forall_not_mem.mpr fun b hb => hnodup.1 (List.mem_append_right _ ?_)
  exact List.mem_map_of_mem (f := (·.1)) (mem_of_lookup_eq_some hb)

/-- The entry of a key is the only one. -/
theorem lookup_eq_some_iff (hnodup : (xs.map (·.1)).Nodup) {k : κ} {b : β} : xs.lookup k = some b ↔ (k, b) ∈ xs := by
  refine ⟨mem_of_lookup_eq_some, fun hmem => ?_⟩
  obtain ⟨front, back, hsplit⟩ := List.append_of_mem hmem
  refine List.lookup_eq_some_iff.mpr ⟨front, back, hsplit, fun p hp => ?_⟩
  subst hsplit
  have hne : p.1 ≠ k := by
    intro heq
    rw [List.map_append, List.map_cons] at hnodup
    exact (List.nodup_append.mp hnodup).2.2 p.1 (List.mem_map_of_mem hp) k List.mem_cons_self heq
  simpa using Ne.symm hne

theorem lookup_perm (hnodup : (xs.map (·.1)).Nodup) (hperm : ys.Perm xs) (k : κ) : ys.lookup k = xs.lookup k := by
  have hnodup' : (ys.map (·.1)).Nodup := (hperm.map (·.1)).nodup_iff.mpr hnodup
  refine Option.ext fun b => ?_
  rw [lookup_eq_some_iff hnodup', lookup_eq_some_iff hnodup, hperm.mem_iff]

end Entries

end ServiceBindings
