import Parley.Json.Quoted
import Parley.Url

/-!
# Reading percent-encoding

A percent-encoded text is taken apart again byte by byte: `Parley.Url.decode` gives the byte of
each escape, and the bytes of any other character in UTF-8. A percent sign of the text is escaped
itself, so that no character that stands for itself is ever taken for the beginning of an escape;
this is why one byte is read back whatever is written behind it (`Parley.Url.decode_encodeByte`).

What has been encoded is a row of characters of a fixed alphabet and of escapes
(`Parley.Url.Encoded`), and the rows of two texts are put one after the other when the texts are.
-/

namespace Parley

namespace Url

/-! ### The form of an encoded text -/

/-- The characters that may stand for themselves. -/
def alphabet : List Char :=
  "ABCDEFGHIJKLMNOPQRSTUVWXYZabcdefghijklmnopqrstuvwxyz0123456789-_.!~*'()".toList

/-- The digits of an escape. -/
def hexDigits : List Char :=
  "0123456789ABCDEF".toList

/-- A row of characters of the alphabet and of escapes. -/
inductive Encoded : List Char → Prop
  | nil : Encoded []
  /-- A character that stands for itself. -/
  | plain {c : Char} {cs : List Char} (hc : c ∈ alphabet) (hcs : Encoded cs) : Encoded (c :: cs)
  /-- A percent sign and two digits in upper case. -/
  | escape {high low : Char} {cs : List Char} (hhigh : high ∈ hexDigits) (hlow : low ∈ hexDigits)
      (hcs : Encoded cs) : Encoded ('%' :: high :: low :: cs)

/-- The characters that stand for themselves are those of the alphabet. -/
theorem mem_alphabet_of_isPlain : ∀ n < 128, isPlain (Char.ofNat n) → Char.ofNat n ∈ alphabet := by
  decide +kernel

theorem hexDigit_mem_hexDigits : ∀ n < 16, hexDigit n ∈ hexDigits := by
  decide

/-- Rows may be put one after the other. -/
theorem Encoded.append {cs ds : List Char} (hcs : Encoded cs) (hds : Encoded ds) :
    Encoded (cs ++ ds) := by
  induction hcs with
  | nil => exact hds
  | plain hc _ ih => exact ih.plain hc
  | escape hhigh hlow _ ih => exact ih.escape hhigh hlow

/-! ### Decoding -/

/-- **The bytes that a text stands for**: those of its escapes, and those of the other characters
in UTF-8. A percent sign without two hexadecimal digits behind it stands for itself. -/
def decode : List Char → List UInt8
  | '%' :: high :: low :: cs =>
    match Quoted.hexValue? high, Quoted.hexValue? low with
    | some h, some l => UInt8.ofNat (16 * h + l) :: decode cs
    | _, _ => String.utf8EncodeChar '%' ++ decode (high :: low :: cs)
  | c :: cs => String.utf8EncodeChar c ++ decode cs
  | [] => []

/-- A character that is no percent sign stands for itself. -/
theorem decode_cons_of_ne {c : Char} (h : c ≠ '%') (cs : List Char) :
    decode (c :: cs) = String.utf8EncodeChar c ++ decode cs := by
  rw [decode]
  intro _ _ _ heq
  exact absurd heq h

theorem hexValue?_hexDigit : ∀ n < 16, Quoted.hexValue? (hexDigit n) = some n := by
  decide

/-- A character of ASCII is its own byte. -/
theorem utf8EncodeChar_ofNat {b : UInt8} (h : b.toNat < 128) :
    String.utf8EncodeChar (Char.ofNat b.toNat) = [b] := by
  have hvalid : b.toNat.isValidChar := .inl (by omega)
  have hval : (Char.ofNat b.toNat).val.toNat = b.toNat := by
    rw [Char.ofNat, dif_pos hvalid]
    rfl
  have hone : String.utf8EncodeChar (Char.ofNat b.toNat) =
      [UInt8.ofNat (Char.ofNat b.toNat).val.toNat] := if_pos (by omega)
  rw [hone, hval, UInt8.ofNat_toNat]

/-! ### Bytes -/

/-- **What is written for a byte**: itself, or an escape. -/
theorem encodeByte_cases (b : UInt8) :
    (b.toNat < 128 ∧ isPlain (Char.ofNat b.toNat) ∧ encodeByte b = [Char.ofNat b.toNat]) ∨
      encodeByte b = ['%', hexDigit (b.toNat / 16), hexDigit (b.toNat % 16)] := by
  by_cases h : decide (b < 128) && isPlain (Char.ofNat b.toNat)
  · obtain ⟨hlt, hplain⟩ := Bool.and_eq_true_iff.1 h
    have hlt : b.toNat < 128 := UInt8.lt_iff_toNat_lt.1 (of_decide_eq_true hlt)
    exact .inl ⟨hlt, hplain, if_pos h⟩
  · exact .inr (if_neg h)

/-- What is written for a byte has the form of an encoded text. -/
theorem encoded_encodeByte (b : UInt8) : Encoded (encodeByte b) := by
  have hb : b.toNat < 256 := b.toNat_lt
  obtain ⟨hlt, hplain, heq⟩ | heq := encodeByte_cases b
  · rw [heq]
    exact .plain (mem_alphabet_of_isPlain _ hlt hplain) .nil
  · rw [heq]
    exact .escape (hexDigit_mem_hexDigits _ (by omega)) (hexDigit_mem_hexDigits _ (by omega)) .nil

/-- **A byte is read back**, whatever is written behind it. -/
theorem decode_encodeByte (b : UInt8) (cs : List Char) :
    decode (encodeByte b ++ cs) = b :: decode cs := by
  have hb : b.toNat < 256 := b.toNat_lt
  obtain ⟨hlt, hplain, heq⟩ | heq := encodeByte_cases b
  · have hne : Char.ofNat b.toNat ≠ '%' := fun h => absurd (h ▸ hplain) (by decide)
    rw [heq, List.singleton_append, decode_cons_of_ne hne, utf8EncodeChar_ofNat hlt,
      List.singleton_append]
  · have hhigh := hexValue?_hexDigit (b.toNat / 16) (by omega)
    have hlow := hexValue?_hexDigit (b.toNat % 16) (by omega)
    have hsum : 16 * (b.toNat / 16) + b.toNat % 16 = b.toNat := Nat.div_add_mod _ _
    simp only [heq, List.cons_append, List.nil_append, decode, hhigh, hlow, hsum,
      UInt8.ofNat_toNat]

theorem encoded_encodeBytes (bs : List UInt8) : Encoded (bs.flatMap encodeByte) := by
  induction bs with
  | nil => exact .nil
  | cons b bs ih => exact (encoded_encodeByte b).append ih

theorem decode_encodeBytes (bs : List UInt8) : decode (bs.flatMap encodeByte) = bs := by
  induction bs with
  | nil => rfl
  | cons b bs ih => rw [List.flatMap_cons, decode_encodeByte, ih]

/-! ### Texts -/

/-- The list of the bytes of an array, as its loop collects it. -/
theorem toList_loop_eq (bytes : ByteArray) (i : Nat) (before : List UInt8) :
    ByteArray.toList.loop bytes i before = before.reverse ++ bytes.data.toList.drop i := by
  induction hn : bytes.size - i generalizing i before with
  | zero =>
    have hi : ¬i < bytes.size := by omega
    have hlen : bytes.data.toList.length ≤ i := Nat.not_lt.1 hi
    rw [ByteArray.toList.loop, if_neg hi, List.drop_of_length_le hlen, List.append_nil]
  | succ n ih =>
    have hi : i < bytes.size := by omega
    have hget : bytes.get! i = bytes.data.toList[i] := getElem!_pos bytes.data i hi
    rw [ByteArray.toList.loop, if_pos hi, ih (i + 1) _ (by omega), hget, List.reverse_cons,
      List.append_assoc, List.singleton_append, List.getElem_cons_drop]

/-- The bytes of a text are those of its characters in order. -/
theorem toList_toUTF8 (s : String) : s.toUTF8.toList = s.toList.flatMap String.utf8EncodeChar := by
  rw [ByteArray.toList, toList_loop_eq, String.toUTF8_eq_toByteArray, ← String.utf8Encode_toList,
    List.utf8Encode, List.toList_data_toByteArray]
  rfl

/-- The characters of an encoded text are written byte by byte. -/
theorem toList_encode (s : String) : (encode s).toList = s.toUTF8.toList.flatMap encodeByte :=
  String.toList_ofList

end Url

open Url (Encoded decode encode toList_encode toList_toUTF8)

/-- **Encoding is reversible and safe.** An encoded text is a row of characters of the alphabet and
of escapes. Decoded, it gives the bytes of the text in UTF-8, so that no two texts are encoded
alike; and texts may be encoded one by one. -/
theorem encoding_is_reversible_and_safe (s : String) :
    Encoded (encode s).toList ∧
      decode (encode s).toList = s.toUTF8.toList ∧
      (∀ t, encode s = encode t ↔ s = t) ∧
      ∀ t, encode (s ++ t) = encode s ++ encode t := by
  have hdecode (t : String) : decode (encode t).toList = t.toUTF8.toList := by
    rw [toList_encode, Url.decode_encodeBytes]
  refine ⟨?_, hdecode s, fun t => ⟨fun h => ?_, congrArg encode⟩, fun t => ?_⟩
  · rw [toList_encode]
    exact Url.encoded_encodeBytes _
  · have hbytes : s.toUTF8.toList = t.toUTF8.toList := by rw [← hdecode s, ← hdecode t, h]
    rw [toList_toUTF8, toList_toUTF8] at hbytes
    have harrays : s.toList.utf8Encode = t.toList.utf8Encode := congrArg List.toByteArray hbytes
    rwa [String.utf8Encode_toList, String.utf8Encode_toList, String.toByteArray_inj] at harrays
  · apply String.toList_injective
    simp only [String.toList_append, toList_encode, toList_toUTF8, List.flatMap_append]

end Parley
