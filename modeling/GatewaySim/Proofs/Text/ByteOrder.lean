import Mathlib.Data.String.Basic

/-! # The order of texts and the order of their bytes

Texts are ordered by their characters. That is also the order of their UTF-8 forms, byte by byte,
because the form of a character never comes before that of a smaller one, whatever follows either
(`utf8EncodeChar_append_lt`).
-/

namespace GatewaySim.Text

def bytes (text : String) : List UInt8 := text.toUTF8.data.toList

theorem bytes_eq_flatMap (text : String) :
    bytes text = text.toList.flatMap String.utf8EncodeChar := by
  rw [bytes, String.toUTF8_eq_toByteArray, ← String.utf8Encode_toList, List.utf8Encode,
    List.toList_data_toByteArray]

/-- Bytes are compared as the numbers that they were made from. -/
theorem ofNat_cons_lt_ofNat_cons_iff {m n : Nat} (left : m < 256) (right : n < 256)
    {rest others : List UInt8} :
    UInt8.ofNat m :: rest < UInt8.ofNat n :: others ↔ m < n ∨ m = n ∧ rest < others := by
  have small : (UInt8.ofNat m).toNat = m := UInt8.toNat_ofNat_of_lt' left
  have smallToo : (UInt8.ofNat n).toNat = n := UInt8.toNat_ofNat_of_lt' right
  rw [List.cons_lt_cons_iff, UInt8.lt_iff_toNat_lt, ← UInt8.toNat_inj, small, smallToo]

theorem toNat_val_lt (c : Char) : c.val.toNat < 1114112 := by
  have valid : c.val.toNat < 55296 ∨ 57343 < c.val.toNat ∧ c.val.toNat < 1114112 := c.valid
  omega

/-- The form of a smaller character comes first, whatever follows. -/
theorem utf8EncodeChar_append_lt {c d : Char} (lt : c < d) (rest others : List UInt8) :
    String.utf8EncodeChar c ++ rest < String.utf8EncodeChar d ++ others := by
  have less : c.val.toNat < d.val.toNat := lt
  have bound := toNat_val_lt d
  unfold String.utf8EncodeChar
  generalize c.val.toNat = m at less
  generalize d.val.toNat = n at less bound
  -- the digits of base 64 decide, the highest first
  have low : m / 64 < n / 64 ∨ m / 64 = n / 64 ∧ m % 64 < n % 64 := by omega
  have middle : m / 64 < n / 64 →
      m / 4096 < n / 4096 ∨ m / 4096 = n / 4096 ∧ m / 64 % 64 < n / 64 % 64 := by omega
  have high : m / 4096 < n / 4096 →
      m / 262144 < n / 262144 ∨
        m / 262144 = n / 262144 ∧ m / 4096 % 64 < n / 4096 % 64 := by omega
  have top : m / 262144 % 8 = m / 262144 ∧ n / 262144 % 8 = n / 262144 := by omega
  dsimp only
  split_ifs <;>
    simp (disch := omega) only [List.cons_append, List.nil_append,
      ofNat_cons_lt_ofNat_cons_iff] <;>
    omega

theorem flatMap_utf8EncodeChar_lt {text other : List Char} (lt : text < other) :
    text.flatMap String.utf8EncodeChar < other.flatMap String.utf8EncodeChar := by
  induction text generalizing other with
  | nil =>
    cases other with
    | nil => exact absurd lt (List.not_lt_nil [])
    | cons d others =>
      obtain ⟨first, behind, form⟩ :=
        List.exists_cons_of_ne_nil (String.utf8EncodeChar_ne_nil (c := d))
      rw [List.flatMap_cons, form]
      exact List.nil_lt_cons first _
  | cons c rest ih =>
    cases other with
    | nil => exact absurd lt (List.not_lt_nil _)
    | cons d others =>
      rw [List.flatMap_cons, List.flatMap_cons]
      rcases List.cons_lt_cons_iff.mp lt with less | ⟨rfl, behind⟩
      · exact utf8EncodeChar_append_lt less _ _
      · exact List.append_left_lt (ih behind)

theorem bytes_lt_bytes {text other : String} (lt : text < other) : bytes text < bytes other := by
  rw [bytes_eq_flatMap, bytes_eq_flatMap]
  exact flatMap_utf8EncodeChar_lt (String.lt_iff_toList_lt.mp lt)

end GatewaySim.Text
