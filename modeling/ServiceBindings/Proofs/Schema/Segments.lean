import ServiceBindings.Proofs.Naming
import ServiceBindings.Proofs.Schema.Validation
import ServiceBindings.Schema.Profile

/-!
Path segments of methods. Converted names agree in snake case exactly if they agree in kebab case, since no word is
empty or has a separator in it. Validation compares methods in snake case, which therefore decides for every style
whether two of them would answer under one segment.
-/

namespace ServiceBindings

open Naming Text

/-- Two names agree when their words are put together exactly if their words agree. -/
theorem lowerJoined_eq_iff {sep : Char} (hsep : isSeparator sep = true) (hsign : sep < 'a') (a b : String) :
    lowerJoined sep a.toList = lowerJoined sep b.toList ↔
      (words a.toList).map lowerWord = (words b.toList).map lowerWord := by
  constructor
  · intro h
    exact intercalate_injective (converted_words hsep hsign a) (converted_words hsep hsign b) h
  · intro h
    rw [lowerJoined, lowerJoined, h]

theorem kebabCase_eq_iff {a b : String} : kebabCase a = kebabCase b ↔ snakeCase a = snakeCase b := by
  have hkebab : isSeparator '-' = true := by decide
  have hsnake : isSeparator '_' = true := by decide
  rw [kebabCase, kebabCase, snakeCase, snakeCase, String.ofList_inj, String.ofList_inj,
    lowerJoined_eq_iff hkebab (by decide), lowerJoined_eq_iff hsnake (by decide)]

/-- Names that yield one segment, in whatever style, have one snake case. -/
theorem SegmentStyle.snakeCase_eq {style : SegmentStyle} {a b : String} (h : style.apply a = style.apply b) :
    snakeCase a = snakeCase b := by
  cases style with
  | kebab => exact kebabCase_eq_iff.mp h
  | snake => exact h
  | verbatim => exact congrArg snakeCase h

/-- Names agree in kebab case exactly if they agree in snake case. So under every profile, whatever its style, two
methods of a service have different segments, unless one has a segment of its own. -/
theorem derived_segments_differ :
    (∀ a b, kebabCase a = kebabCase b ↔ snakeCase a = snakeCase b) ∧
    ∀ schema : Schema, ∀ s ∈ schema.services, ∀ p : Profile,
      s.methods.Pairwise fun m m' =>
        m.httpSegment = none → m'.httpSegment = none → p.pathSegment m ≠ p.pathSegment m' := by
  refine ⟨fun a b => kebabCase_eq_iff, fun schema s hs p => ?_⟩
  have hvalid := Definitions.error?_eq_none_iff.mp schema.valid
  have hnames := List.pairwise_map.mp (hvalid.services s hs).names
  refine hnames.imp fun {m m'} hne hm hm' hsegment => hne ?_
  rw [Profile.pathSegment, Profile.pathSegment, hm, hm', Option.getD_none, Option.getD_none] at hsegment
  exact SegmentStyle.snakeCase_eq hsegment

/-- Methods whose names differ in case only may be cut into different words, and then answer apart. -/
theorem recased_methods_answer_apart :
    let own : Method := { name := "get", pattern := .unary, httpSegment := some "get-ids" }
    let m : Method := { name := "getIds", pattern := .unary }
    let m' : Method := { name := "getIDs", pattern := .unary }
    let s : Service := { name := "S", methods := [own, m, m'] }
    ∃ schema : Schema, schema.services = [s] ∧ m.httpSegment = none ∧ m'.httpSegment = none ∧
      Profile.httpAsync.pathSegment m ≠ Profile.httpAsync.pathSegment m' := by
  intro own m m' s
  have hvalid : ({ package := "p", services := [s] } : Definitions).error? = none := by decide +kernel
  refine ⟨⟨_, hvalid⟩, rfl, rfl, rfl, ?_⟩
  have hpairs := derived_segments_differ.2 ⟨_, hvalid⟩ s (List.mem_singleton.mpr rfl) Profile.httpAsync
  have hlast := (List.pairwise_cons.mp (List.pairwise_cons.mp hpairs).2).1
  exact hlast m' (List.mem_singleton.mpr rfl) rfl rfl

end ServiceBindings
