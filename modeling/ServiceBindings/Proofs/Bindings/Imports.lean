import ServiceBindings.Bindings.Client
import ServiceBindings.Proofs.Bindings.Responses

/-!
The types that the module of a service sees. A name that is imported stands for what the file of types declares under
it, and another one for a primitive type even where the file of types declares a type of this name.
-/

namespace ServiceBindings.Bindings

open Code Generate Definitions

variable {d : Definitions} {f : File}

section Visible

variable {module types : List Item}

end Visible

/-! ### Types that are not hidden -/

end ServiceBindings.Bindings
