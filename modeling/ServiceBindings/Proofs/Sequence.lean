import Mathlib.Data.List.Forall2

/-!
Sequences of steps that may fail: what each step gave, when the whole sequence gives something, and
lists that go pairwise together.
-/

namespace ServiceBindings

variable {ε α β γ : Type} {b : β}

theorem ok_bind {a : α} {f : α → Except ε β} : (Except.ok a >>= f) = f a := rfl

theorem bind_eq_ok {x : Except ε α} {f : α → Except ε β} : (x >>= f) = .ok b ↔ ∃ a, x = .ok a ∧ f a = .ok b := by
  cases x with
  | error e => simp [bind, Except.bind]
  | ok a => simp [bind, Except.bind]

theorem pure_eq_ok {a : β} : (pure a : Except ε β) = .ok b ↔ a = b := by
  simp [pure, Except.pure]

theorem toOption_eq_some {x : Except ε α} {a : α} : x.toOption = some a ↔ x = .ok a := by
  cases x <;> simp [Except.toOption]

theorem exists_of_toOption {x : Except ε α} (h : x.toOption.isSome = true) : ∃ a, x = .ok a := by
  cases x with
  | error e => cases h
  | ok a => exact ⟨a, rfl⟩

/-- Items that are all turned into something are turned one by one. -/
theorem forall₂_of_mapM {f : α → Except ε β} {xs : List α} {ys : List β} (h : xs.mapM f = .ok ys) :
    List.Forall₂ (fun x y => f x = .ok y) xs ys := by
  induction xs generalizing ys with
  | nil =>
    rw [List.mapM_nil, pure_eq_ok] at h
    subst h
    exact .nil
  | cons x rest ih =>
    rw [List.mapM_cons, bind_eq_ok] at h
    obtain ⟨y, hy, h⟩ := h
    obtain ⟨ys, hrest, h⟩ := bind_eq_ok.mp h
    obtain rfl := pure_eq_ok.mp h
    exact .cons hy (ih hrest)

theorem forall₂_of_mapM_some {f : α → Option β} {xs : List α} {ys : List β} (h : xs.mapM f = some ys) :
    List.Forall₂ (fun x y => f x = some y) xs ys := by
  induction xs generalizing ys with
  | nil =>
    obtain rfl : [] = ys := by simpa using h
    exact .nil
  | cons x rest ih =>
    rw [List.mapM_cons, Option.bind_eq_bind, Option.bind_eq_some_iff] at h
    obtain ⟨y, hy, h⟩ := h
    obtain ⟨others, hrest, h⟩ := Option.bind_eq_some_iff.mp h
    obtain rfl := Option.some.inj h
    exact .cons hy (ih hrest)

theorem mapM_congr {f g : α → Except ε β} {xs : List α} (h : ∀ x ∈ xs, f x = g x) : xs.mapM f = xs.mapM g := by
  induction xs with
  | nil => rfl
  | cons x rest ih =>
    rw [List.mapM_cons, List.mapM_cons, h x List.mem_cons_self, ih fun y hy => h y (List.mem_cons_of_mem x hy)]

/-- Items each of which is turned into something are turned into something together. -/
theorem exists_mapM {f : α → Except ε β} {xs : List α} (h : ∀ x ∈ xs, ∃ y, f x = .ok y) : ∃ ys, xs.mapM f = .ok ys := by
  induction xs with
  | nil => exact ⟨[], rfl⟩
  | cons x rest ih =>
    obtain ⟨y, hy⟩ := h x List.mem_cons_self
    obtain ⟨ys, hys⟩ := ih fun z hz => h z (List.mem_cons_of_mem x hz)
    exact ⟨y :: ys, by rw [List.mapM_cons, hy, hys]; rfl⟩

/-- Items that can be read back one by one are read back together. -/
theorem mapM_map_eq_some {f : β → Option α} {g : α → β} (hread : ∀ a, f (g a) = some a) (xs : List α) :
    (xs.map g).mapM f = some xs := by
  induction xs with
  | nil => rfl
  | cons a rest ih => simp [List.mapM_cons, hread, ih, -List.mapM_map]

theorem exists_of_forall₂ {R : α → β → Prop} {xs : List α} {ys : List β} (h : List.Forall₂ R xs ys) :
    (∀ x ∈ xs, ∃ y ∈ ys, R x y) ∧ ∀ y ∈ ys, ∃ x ∈ xs, R x y := by
  induction h with
  | nil => simp
  | cons hxy _ ih =>
    refine ⟨?_, ?_⟩
    · intro a ha
      rcases List.mem_cons.mp ha with rfl | ha
      · exact ⟨_, List.mem_cons_self, hxy⟩
      · obtain ⟨b, hb, hab⟩ := ih.1 a ha
        exact ⟨b, List.mem_cons_of_mem _ hb, hab⟩
    · intro b hb
      rcases List.mem_cons.mp hb with rfl | hb
      · exact ⟨_, List.mem_cons_self, hxy⟩
      · obtain ⟨a, ha, hab⟩ := ih.2 b hb
        exact ⟨a, List.mem_cons_of_mem _ ha, hab⟩

theorem zipWith_left_of_forall₂ {R : α → β → Prop} (g : α → γ) {xs : List α} {ys : List β}
    (h : List.Forall₂ R xs ys) : List.zipWith (fun x _ => g x) xs ys = xs.map g := by
  induction h with
  | nil => rfl
  | cons _ _ ih => simp [ih]

theorem zipWith_right_of_forall₂ {R : α → β → Prop} (g : β → γ) {xs : List α} {ys : List β}
    (h : List.Forall₂ R xs ys) : List.zipWith (fun _ y => g y) xs ys = ys.map g := by
  induction h with
  | nil => rfl
  | cons _ _ ih => simp [ih]

theorem map_eq_map_of_forall₂ {f : α → γ} {g : β → γ} {xs : List α} {ys : List β}
    (h : List.Forall₂ (fun x y => f x = g y) xs ys) : xs.map f = ys.map g := by
  rwa [← List.forall₂_eq_eq_eq, List.forall₂_map_left_iff, List.forall₂_map_right_iff]

/-- What goes with the same items goes together. -/
theorem forall₂_common {R : α → β → Prop} {S : α → γ → Prop} {xs : List α} {ys : List β} {zs : List γ}
    (h : List.Forall₂ R xs ys) (h' : List.Forall₂ S xs zs) :
    List.Forall₂ (fun y z => ∃ x, R x y ∧ S x z) ys zs := by
  induction h generalizing zs with
  | nil =>
    cases h'
    exact .nil
  | cons hxy _ ih =>
    cases h' with
    | cons hxz hrest => exact .cons ⟨_, hxy, hxz⟩ (ih hrest)

/-! ### Failures -/

/-- Whether a step that fails does so with an error of which something holds. -/
def FailsWith (P : ε → Prop) (x : Except ε α) : Prop :=
  ∀ e, x = .error e → P e

namespace FailsWith

variable {P Q : ε → Prop} {x : Except ε α}

theorem ok (P : ε → Prop) (a : α) : FailsWith P (.ok a : Except ε α) := by
  rintro e ⟨⟩

theorem pure (P : ε → Prop) (a : α) : FailsWith P (Pure.pure a : Except ε α) :=
  ok P a

theorem error {e : ε} (h : P e) : FailsWith P (.error e : Except ε α) := by
  rintro _ ⟨⟩
  exact h

theorem imp (h : FailsWith P x) (himp : ∀ e, P e → Q e) : FailsWith Q x :=
  fun e he => himp e (h e he)

theorem bind {f : α → Except ε β} (hx : FailsWith P x) (hf : ∀ a, x = .ok a → FailsWith P (f a)) :
    FailsWith P (x >>= f) := by
  cases x with
  | error e =>
    rintro _ ⟨⟩
    exact hx e rfl
  | ok a => exact hf a rfl

theorem mapM {f : α → Except ε β} {xs : List α} (h : ∀ a ∈ xs, FailsWith P (f a)) : FailsWith P (xs.mapM f) := by
  induction xs with
  | nil => exact ok P []
  | cons a rest ih =>
    rw [List.mapM_cons]
    apply (h a List.mem_cons_self).bind
    intro b _
    apply (ih fun c hc => h c (List.mem_cons_of_mem a hc)).bind
    intro bs _
    exact ok P (b :: bs)

end FailsWith

/-! ### Two runs -/

/-- Whether two runs fail with the same error, or both give something and a relation holds of what they give. -/
inductive Alike (R : α → β → Prop) : Except ε α → Except ε β → Prop
  | ok {a : α} {b : β} (h : R a b) : Alike R (.ok a) (.ok b)
  | error (e : ε) : Alike R (.error e) (.error e)

namespace Alike

variable {δ : Type} {R : α → β → Prop} {S : γ → δ → Prop} {x : Except ε α} {y : Except ε β}

theorem pure {a : α} {b : β} (h : R a b) : Alike R (Pure.pure a : Except ε α) (Pure.pure b) :=
  ok h

/-- Steps that are alike may be followed by steps that are alike whenever those before them were. -/
theorem bind {f : α → Except ε γ} {g : β → Except ε δ} (h : Alike R x y) (hnext : ∀ a b, R a b → Alike S (f a) (g b)) :
    Alike S (x >>= f) (y >>= g) := by
  cases h with
  | ok h => exact hnext _ _ h
  | error e => exact error e

theorem bind_same {f : α → Except ε γ} {g : α → Except ε δ} (x : Except ε α) (hnext : ∀ a, Alike S (f a) (g a)) :
    Alike S (x >>= f) (x >>= g) := by
  cases x with
  | ok a => exact hnext a
  | error e => exact error e

/-- Items may be changed before they are turned into something, if this makes no difference for any of them. -/
theorem mapM_map {f : β → Except ε γ} {g : α → Except ε δ} {u : α → β} (h : ∀ a, Alike S (f (u a)) (g a))
    (xs : List α) : Alike (List.Forall₂ S) ((xs.map u).mapM f) (xs.mapM g) := by
  induction xs with
  | nil => exact pure .nil
  | cons a rest ih =>
    rw [List.map_cons, List.mapM_cons, List.mapM_cons]
    exact (h a).bind fun c d hcd => ih.bind fun cs ds hcds => pure (.cons hcd hcds)

theorem error_iff (h : Alike R x y) (e : ε) : x = .error e ↔ y = .error e := by
  cases h with
  | ok h => simp
  | error e' => simp

theorem ok_iff (h : Alike R x y) : (∃ a, x = .ok a) ↔ ∃ b, y = .ok b := by
  cases h with
  | ok h => simp
  | error e' => simp

/-- What two runs give that are alike is related. -/
theorem related (h : Alike R x y) {a : α} {b : β} (hx : x = .ok a) (hy : y = .ok b) : R a b := by
  cases h with
  | ok h =>
    obtain rfl := Except.ok.inj hx
    obtain rfl := Except.ok.inj hy
    exact h
  | error e => cases hx

end Alike

end ServiceBindings
