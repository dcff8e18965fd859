import ServiceBindings.Text.IdentifierTable

/-!
Characters of identifiers: the underscore and the Unicode properties XID_Start and XID_Continue.
-/

namespace ServiceBindings.Text

/-- Whether an identifier may begin with the character. -/
def startsIdentifier (c : Char) : Bool :=
  c = '_' || memRuns identifierStart c.toNat

/-- Whether an identifier may go on with the character. -/
def continuesIdentifier (c : Char) : Bool :=
  memRuns identifierContinue c.toNat

end ServiceBindings.Text
