import CodecBench.Document.Reader
import Mathlib.Data.List.Basic
import Mathlib.Order.Basic
/-!
Texts and their bytes in UTF-8. A text is known from its bytes (`fromUTF8?_utf8Bytes`), and texts stand in the order
of their bytes (`utf8Bytes_le_iff`), since the bytes of two characters differ in the order of the characters before
either of them ends.
-/

namespace CodecBench

def utf8Bytes (s : String) : Bytes := s.toList.flatMap String.utf8EncodeChar

theorem toByteArray_utf8Bytes (s : String) : (utf8Bytes s).toByteArray = s.toUTF8 := by
  rw [String.toUTF8_eq_toByteArray, ← String.utf8Encode_toList]
  rfl

/-- Bytes are listed from a place on behind those listed before, which stand in reverse. -/
theorem toList_loop (a : ByteArray) (i : Nat) (before : Bytes) :
    ByteArray.toList.loop a i before = before.reverse ++ a.data.toList.drop i := by
  fun_induction ByteArray.toList.loop a i before with
  | case1 i before h ih =>
    have hi : i < a.data.size := h
    have hget : a.get! i = a.data[i] := getElem!_pos a.data i hi
    rw [ih, hget, List.reverse_cons, List.append_assoc, List.singleton_append, List.drop_eq_getElem_cons (i := i) hi,
      Array.getElem_toList]
  | case2 i before h =>
    have hi : a.data.toList.length ≤ i := Nat.le_of_not_lt h
    rw [List.drop_eq_nil_of_le hi, List.append_nil]

theorem toList_toUTF8 (s : String) : s.toUTF8.toList = utf8Bytes s := by
  rw [← toByteArray_utf8Bytes, ByteArray.toList, toList_loop]
  simp

theorem fromUTF8?_utf8Bytes (s : String) : String.fromUTF8? (utf8Bytes s).toByteArray = some s := by
  rw [toByteArray_utf8Bytes, String.toUTF8_eq_toByteArray, String.fromUTF8?, dif_pos s.isValidUTF8]
  rfl

theorem Char.toNat_val_lt (c : Char) : c.val.toNat < 0x110000 := by
  have h := c.valid
  simp only [UInt32.isValidChar, Nat.isValidChar] at h
  omega

theorem utf8EncodeChar_append_lt {c d : Char} (h : c < d) (r r' : Bytes) :
    String.utf8EncodeChar c ++ r < String.utf8EncodeChar d ++ r' := by
  have hcd : c.val.toNat < d.val.toNat := h
  have hd := Char.toNat_val_lt d
  -- Each byte but the first is a digit to the base of 64.
  have h₂ : ∀ n : Nat, n / 4096 = n / 64 / 64 := fun n => (Nat.div_div_eq_div_mul n 64 64).symm
  have h₃ : ∀ n : Nat, n / 262144 = n / 64 / 64 / 64 := fun n => by
    rw [Nat.div_div_eq_div_mul, Nat.div_div_eq_div_mul]
  fun_cases String.utf8EncodeChar c <;> fun_cases String.utf8EncodeChar d <;>
    simp only [List.cons_append, List.nil_append, List.cons_lt_cons_iff, UInt8.lt_iff_toNat_lt,
      ← UInt8.toNat_inj, UInt8.toNat_ofNat', h₂, h₃] <;> omega

theorem flatMap_utf8EncodeChar_lt {cs ds : List Char} (h : cs < ds) :
    cs.flatMap String.utf8EncodeChar < ds.flatMap String.utf8EncodeChar := by
  induction cs generalizing ds with
  | nil =>
    cases ds with
    | nil => exact absurd h (List.lt_irrefl _)
    | cons d ds =>
      rw [List.flatMap_nil, List.flatMap_cons]
      cases hd : String.utf8EncodeChar d with
      | nil => exact absurd hd String.utf8EncodeChar_ne_nil
      | cons b bs => exact List.nil_lt_cons _ _
  | cons c cs ih =>
    cases ds with
    | nil => exact absurd h (List.not_lt_nil _)
    | cons d ds =>
      rw [List.flatMap_cons, List.flatMap_cons]
      obtain hcd | ⟨rfl, hds⟩ := List.cons_lt_cons_iff.1 h
      · exact utf8EncodeChar_append_lt hcd _ _
      · exact List.append_left_lt (ih hds)

theorem utf8Bytes_lt_iff {s t : String} : utf8Bytes s < utf8Bytes t ↔ s < t := by
  have hmono : ∀ {s t : String}, s < t → utf8Bytes s < utf8Bytes t := fun h =>
    flatMap_utf8EncodeChar_lt (String.lt_iff.1 h)
  constructor
  · intro h
    by_contra hst
    by_cases hts : t < s
    · exact List.lt_asymm (hmono hts) h
    · obtain rfl := String.le_antisymm (String.not_lt.1 hts) (String.not_lt.1 hst)
      exact List.lt_irrefl _ h
  · exact hmono

theorem utf8Bytes_le_iff {s t : String} : utf8Bytes s ≤ utf8Bytes t ↔ s ≤ t :=
  not_congr utf8Bytes_lt_iff

end CodecBench
