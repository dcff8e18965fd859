import Mathlib.Data.List.Pairwise
import ServiceBindings.Bindings.Types
import ServiceBindings.Proofs.Generate.Prelude

/-!
Names that generated code uses for itself. The implementations of an enumeration have members of fixed names, and some
of them are referred to beside its constants; a client has functions of its own beside those of its trait. A name of
the schema that denotes one of these words takes its place or is hidden by it.
-/

namespace ServiceBindings

namespace Code

/-! ### Paths -/

/-- The name that a path takes from `Self`. -/
def selfName? (rooted : Bool) (names : List Ident) : Option Ident :=
  match rooted, names with
  | false, [root, name] => if root = plain "Self" then some name else none
  | _, _ => none

mutual

/-- The names that a type takes from `Self`. -/
def Ty.selfNames : Ty → List Ident
  | .path rooted names _ args => (selfName? rooted names).toList ++ selfNamesOfTypes args
  | .ref _ _ target => target.selfNames
  | .slice item => item.selfNames
  | .unit => []
  | .dyn bound => bound.selfNames

/-- The names that several types take from `Self`. -/
def selfNamesOfTypes : List Ty → List Ident
  | [] => []
  | t :: ts => t.selfNames ++ selfNamesOfTypes ts

end

mutual

/-- The names that an expression takes from `Self`. -/
def Expr.selfNames : Expr → List Ident
  | .path rooted names args => (selfName? rooted names).toList ++ selfNamesOfTypes args
  | .item type trait _ => type.selfNames ++ trait.selfNames
  | .text _ => []
  | .field base _ => base.selfNames
  | .call function args => function.selfNames ++ selfNamesOfArgs args
  | .method receiver _ args => receiver.selfNames ++ selfNamesOfArgs args
  | .ref e | .deref e | .paren e | .propagate e => e.selfNames
  | .record _ fields => selfNamesOfFields fields
  | .array items => selfNamesOfArgs items
  | .cases subject arms => subject.selfNames ++ selfNamesOfArms arms

/-- The names that several expressions take from `Self`. -/
def selfNamesOfArgs : List Expr → List Ident
  | [] => []
  | e :: es => e.selfNames ++ selfNamesOfArgs es

/-- The names that the fields of a record take from `Self`. -/
def selfNamesOfFields : List (Ident × Expr) → List Ident
  | [] => []
  | (_, e) :: rest => e.selfNames ++ selfNamesOfFields rest

/-- The names that the arms of a case distinction take from `Self`. -/
def selfNamesOfArms : List (Expr × Expr) → List Ident
  | [] => []
  | (p, e) :: rest => p.selfNames ++ e.selfNames ++ selfNamesOfArms rest

end

/-- The names that the head of a function takes from `Self`. -/
def Signature.selfNames (s : Signature) : List Ident :=
  s.generics.flatMap (·.2.selfNames) ++
    s.params.flatMap (fun
      | .typed _ type => type.selfNames
      | .receiver _ => []) ++
    s.output.selfNames

/-- The names that a block takes from `Self`. -/
def Block.selfNames (b : Block) : List Ident :=
  b.bindings.flatMap (·.2.selfNames) ++ b.result.selfNames

/-- The names that a member takes from `Self`. -/
def Member.selfNames : Member → List Ident
  | .const _ _ _ type value => type.selfNames ++ value.selfNames
  | .alias _ type => type.selfNames
  | .function _ _ signature body => signature.selfNames ++ body.selfNames

/-- The names that the implementations among items take from `Self`. -/
def Item.selfNames : Item → List Ident
  | .implementation _ _ _ members => members.flatMap Member.selfNames
  | _ => []

/-! ### Members -/

/-- The name of a member. -/
def Member.name : Member → Ident
  | .const _ _ name .. => name
  | .alias name _ => name
  | .function _ _ signature _ => signature.name

/-- The constants that an item declares for a type. -/
def Item.variants (type : Ident) : Item → List Ident
  | .enumeration _ name variants => if name = type then variants.map (·.name) else []
  | _ => []

/-- The members that an item has for a type: its own ones, or those of a trait. -/
def Item.members (ofTrait : Bool) (type : Ident) : Item → List Member
  | .implementation _ bound target members =>
    if bound.isSome = ofTrait ∧ Bindings.names? target = some [type] then members else []
  | _ => []

end Code

namespace Generate

open Code

/-! ### Enumerations -/

section Enumeration

variable (e : Enumeration) (name : Ident) (constants : List (Ident × String))

end Enumeration

section Client

variable {d : Definitions} {o : Options} {s : Service}

end Client

/-! ### Crates -/

end Generate

end ServiceBindings
