import Mathlib.Tactic.SplitIfs
import ServiceBindings.Text.Utf8

/-!
UTF-8 is read back. The bytes of a character are read as this character whatever follows them, so the bytes of a text
are decoded to the text.
-/

namespace ServiceBindings.Text

theorem encodeChar_ne_nil (c : Char) : encodeChar c ≠ [] := by
  unfold encodeChar
  dsimp only
  split_ifs <;> simp

theorem toNat_lt (c : Char) : c.toNat < 0x110000 := by
  rcases c.valid with hv | ⟨-, hv⟩
  · exact Nat.lt_trans hv (by decide)
  · exact hv

theorem lt_of_mem_encodeChar {c : Char} {b : Nat} (h : b ∈ encodeChar c) : b < 256 := by
  have hc := toNat_lt c
  unfold encodeChar at h
  dsimp only at h
  split_ifs at h <;> simp only [List.mem_cons, List.not_mem_nil, or_false] at h <;> omega

/-- The payload of a character is valid, so the character is found from it. -/
theorem character?_toNat {c : Char} {least : Nat} (h : least ≤ c.toNat) : character? c.toNat least = some c := by
  have hvalid : c.toNat.isValidChar := c.valid
  have hself : c.toNat.toUInt32 = c.val := UInt32.ofNat_toNat
  unfold character?
  rw [dif_pos hvalid, if_pos h]
  exact congrArg some (Char.ext hself)

/-- The first byte tells how many follow, and the payloads of all of them make up the character. -/
theorem firstCharacter?_encodeChar (c : Char) (rest : List Nat) :
    ∃ n, firstCharacter? (encodeChar c ++ rest) = some (c, n) ∧ (encodeChar c).length = n + 1 := by
  have hc := toNat_lt c
  have htail (n : Nat) : isContinuation (0x80 + n % 64) = true := by
    simp only [isContinuation, Bool.and_eq_true, decide_eq_true_eq]
    omega
  unfold encodeChar
  dsimp only
  generalize hn : c.toNat = n at hc
  have hread {payload least : Nat} (hpayload : payload = n) (hleast : least ≤ n) :
      character? payload least = some c := by
    subst hpayload
    rw [← hn] at hleast ⊢
    exact character?_toNat hleast
  split_ifs with h₁ h₂ h₃
  · refine ⟨0, ?_, rfl⟩
    simp only [firstCharacter?, List.cons_append, List.nil_append]
    rw [if_pos h₁, hread rfl (Nat.zero_le n)]
    rfl
  · refine ⟨1, ?_, rfl⟩
    simp only [firstCharacter?, List.cons_append, List.nil_append]
    rw [if_neg (by omega), if_pos (by omega), if_pos (htail _), hread (by omega) (by omega)]
    rfl
  · refine ⟨2, ?_, rfl⟩
    simp only [firstCharacter?, List.cons_append, List.nil_append]
    rw [if_neg (by omega), if_neg (by omega), if_pos (by omega), htail, htail, if_pos (Bool.and_self _),
      hread (by omega) (by omega)]
    rfl
  · refine ⟨3, ?_, rfl⟩
    simp only [firstCharacter?, List.cons_append, List.nil_append]
    rw [if_neg (by omega), if_neg (by omega), if_neg (by omega), if_pos (by omega), htail, htail, htail,
      Bool.and_self, Bool.and_self, if_pos rfl, hread (by omega) (by omega)]
    rfl

theorem decodeAfter_length_append (skipped rest : List Nat) :
    decodeAfter skipped.length (skipped ++ rest) = decodeAfter 0 rest := by
  induction skipped with
  | nil => rfl
  | cons b skipped ih => exact ih

/-- One character is decoded at a time, whatever follows it. -/
theorem decodeUtf8_encodeChar_append (c : Char) (rest : List Nat) :
    decodeUtf8 (encodeChar c ++ rest) = some c :: decodeUtf8 rest := by
  obtain ⟨n, hfirst, hlength⟩ := firstCharacter?_encodeChar c rest
  obtain ⟨b, tail, hbytes⟩ := List.exists_cons_of_ne_nil (encodeChar_ne_nil c)
  rw [hbytes] at hfirst hlength ⊢
  obtain rfl : tail.length = n := Nat.succ.inj hlength
  rw [List.cons_append] at hfirst ⊢
  unfold decodeUtf8
  rw [decodeAfter, hfirst]
  exact congrArg (some c :: ·) (decodeAfter_length_append tail rest)

theorem decodeUtf8_encodeUtf8 (cs : List Char) : decodeUtf8 (encodeUtf8 cs) = Glyphs.ofChars cs := by
  induction cs with
  | nil => rfl
  | cons c cs ih =>
    rw [encodeUtf8, List.flatMap_cons, decodeUtf8_encodeChar_append]
    exact congrArg (some c :: ·) ih

end ServiceBindings.Text
