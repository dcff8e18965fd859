import Mathlib.Data.List.Nodup
import ServiceBindings.Bindings.Client
import ServiceBindings.Proofs.Generate.Scopes

/-!
What the bodies of generated methods come to. The chain of calls that builds a request is followed from its beginning,
one lemma for each kind of call.
-/

namespace ServiceBindings.Bindings

open Code Generate

variable {s : Scope}

/-! ### Names in code -/

@[simp]
theorem plain_name (name : String) : (plain name).name = name := rfl

end ServiceBindings.Bindings
