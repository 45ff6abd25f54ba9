import Mathlib.Tactic.SplitIfs
import TokenConcord.Proofs.Text.Cuts

/-!
# The bytes of a text

The UTF-8 form of a text has as many bytes as the text is wide. A byte below 128 is a character by
itself and never part of a wider one, so an ASCII character can be looked for byte by byte.
-/

namespace TokenConcord.Text

/-- The bytes of the text in UTF-8. -/
def bytes (text : Text) : List UInt8 := text.flatMap String.utf8EncodeChar

@[simp] theorem bytes_nil : bytes [] = [] := rfl

@[simp] theorem bytes_cons (c : Char) (text : Text) :
    bytes (c :: text) = String.utf8EncodeChar c ++ bytes text := List.flatMap_cons

@[simp] theorem bytes_append (text more : Text) :
    bytes (text ++ more) = bytes text ++ bytes more := List.flatMap_append

@[simp] theorem length_bytes (text : Text) : (bytes text).length = text.width := by
  induction text with
  | nil => rfl
  | cons c text ih => simp [ih]

/-- Behind the bytes of the text in front come those of the rest. -/
theorem getElem?_bytes_append (front rest : Text) (n : Nat) :
    (bytes (front ++ rest))[front.width + n]? = (bytes rest)[n]? := by
  rw [bytes_append, ← length_bytes, List.getElem?_append_right (Nat.le_add_right _ _),
    Nat.add_sub_cancel_left]

/-- All bytes of a character that is not ASCII are at least 128. -/
theorem toNat_of_mem_utf8EncodeChar {c : Char} {byte : UInt8}
    (hmem : byte ∈ String.utf8EncodeChar c) (hbyte : byte.toNat < 128) :
    c.toNat = byte.toNat := by
  have hval : c.toNat = c.val.toNat := rfl
  simp only [String.utf8EncodeChar] at hmem
  split_ifs at hmem
  · rw [List.mem_singleton] at hmem
    rw [hmem, UInt8.toNat_ofNat', hval]
    omega
  all_goals
    exfalso
    simp only [List.mem_cons, List.not_mem_nil, or_false] at hmem
    rcases hmem with rfl | rfl | rfl | rfl <;> simp only [UInt8.toNat_ofNat'] at hbyte <;> omega

end TokenConcord.Text
