/-!
What the builder of a generated client asks for. The transport is not listed, since a builder cannot be had without
one.
-/

namespace ServiceBindings

/-- A setting of a client builder. -/
structure BuilderSetting where
  name : String
  required : Bool
  deriving DecidableEq, Repr

/-- The settings of a client builder, in order. -/
structure BuilderSpec where
  fields : List BuilderSetting
  deriving DecidableEq, Repr

namespace BuilderSpec

/-- The name of the base address. -/
def baseUrl : String := "baseUrl"

/-- The base address and nothing else. -/
def standard : BuilderSpec := ⟨[⟨baseUrl, true⟩]⟩

/-- The settings that must be made. -/
def required (s : BuilderSpec) : List BuilderSetting :=
  s.fields.filter (·.required)

end BuilderSpec

end ServiceBindings
