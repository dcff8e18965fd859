import ServiceBindings.Text.Run

/-!
Blank characters: those with the Unicode property White_Space.
-/

namespace ServiceBindings.Text

/-- Code points with the property White_Space. -/
def blanks : List Run := [
  ⟨9, 13, 1⟩, ⟨32, 32, 1⟩, ⟨133, 133, 1⟩, ⟨160, 160, 1⟩, ⟨5760, 5760, 1⟩, ⟨8192, 8202, 1⟩, ⟨8232, 8233, 1⟩,
  ⟨8239, 8239, 1⟩, ⟨8287, 8287, 1⟩, ⟨12288, 12288, 1⟩]

/-- Whether a character is blank. -/
def isBlank (c : Char) : Bool :=
  memRuns blanks c.toNat

end ServiceBindings.Text
