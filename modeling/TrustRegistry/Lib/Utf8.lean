import Mathlib.Data.List.Basic
import Mathlib.Data.List.Induction

/-!
# Texts as bytes

A text is stored as the UTF-8 bytes of its characters.  Not all bytes are a text; where
they are, they are the bytes of one text only.  A byte of an ASCII character stands for
that character and for nothing else, so that a file can be cut at such bytes before it is
decoded.

## Main definitions

* `Utf8.encode`, `Utf8.decode` — the bytes of a text, and the text of bytes.

## Main results

* `Utf8.decode_eq_some_iff` — decoding undoes encoding, and encoding decoding.
* `Utf8.mem_encode_iff`, `Utf8.getLast?_of_encode` — the bytes of an ASCII character.
-/

namespace Utf8

/-- The bytes of characters. -/
def encode (l : List Char) : List UInt8 := l.flatMap String.utf8EncodeChar

/-- The text that bytes are, if they are one. -/
def decode (b : List UInt8) : Option String := String.fromUTF8? b.toByteArray

/-- The byte of an ASCII character. -/
def byte (c : Char) : UInt8 := UInt8.ofNat c.toNat

theorem toByteArray_encode (s : String) : (encode s.toList).toByteArray = s.toByteArray := by
  conv_rhs => rw [← String.ofList_toList (s := s), String.toByteArray_ofList]
  rfl

/-- **Bytes are a text when they are its encoding.** -/
theorem decode_eq_some_iff {b : List UInt8} {s : String} :
    decode b = some s ↔ b = encode s.toList := by
  unfold decode String.fromUTF8?
  constructor
  · intro h
    split at h
    · next hvalid =>
      have hbytes : b.toByteArray = s.toByteArray := by
        rw [← Option.some.inj h]
        rfl
      rw [← toByteArray_encode] at hbytes
      have hdata := congrArg (fun a : ByteArray => a.data.toList) hbytes
      simpa using hdata
    · cases h
  · rintro rfl
    rw [toByteArray_encode, dif_pos s.isValidUTF8]
    rfl

/-- Bytes are texts, one by one, when they are their encodings. -/
theorem mapM_decode_eq_some_iff {bs : List (List UInt8)} : ∀ {ss : List String},
    bs.mapM decode = some ss ↔ bs = ss.map fun s => encode s.toList := by
  induction bs with
  | nil =>
    intro ss
    cases ss <;> simp
  | cons b bs ih =>
    intro ss
    rw [List.mapM_cons]
    simp only [Option.bind_eq_bind, Option.bind_eq_some_iff, Option.pure_def, Option.some.injEq,
      decode_eq_some_iff, ih]
    constructor
    · rintro ⟨s, rfl, rest, rfl, rfl⟩
      rfl
    · intro h
      cases ss with
      | nil => cases h
      | cons s rest =>
        obtain ⟨hs, hrest⟩ := List.cons.inj h
        exact ⟨s, hs, rest, hrest, rfl⟩

/-- A character of one byte is that byte; the bytes of all others are not ASCII. -/
theorem encodeChar_cases (c : Char) :
    (c.toNat < 128 ∧ String.utf8EncodeChar c = [byte c]) ∨
      (128 ≤ c.toNat ∧ ∀ b ∈ String.utf8EncodeChar c, 128 ≤ b.toNat) := by
  have hval : c.val.toNat = c.toNat := rfl
  unfold String.utf8EncodeChar
  simp only [hval]
  split
  · next h => exact .inl ⟨by omega, rfl⟩
  · refine .inr ⟨by omega, fun b hb => ?_⟩
    split at hb
    · simp only [List.mem_cons, List.not_mem_nil, or_false] at hb
      rcases hb with rfl | rfl <;> rw [UInt8.toNat_ofNat'] <;> omega
    · split at hb
      · simp only [List.mem_cons, List.not_mem_nil, or_false] at hb
        rcases hb with rfl | rfl | rfl <;> rw [UInt8.toNat_ofNat'] <;> omega
      · simp only [List.mem_cons, List.not_mem_nil, or_false] at hb
        rcases hb with rfl | rfl | rfl | rfl <;> rw [UInt8.toNat_ofNat'] <;> omega

theorem toNat_byte {c : Char} (hc : c.toNat < 128) : (byte c).toNat = c.toNat := by
  rw [byte, UInt8.toNat_ofNat', Nat.mod_eq_of_lt (by omega)]

/-- The byte of an ASCII character is in the encoding of that character alone. -/
theorem mem_encodeChar_iff {c d : Char} (hc : c.toNat < 128) :
    byte c ∈ String.utf8EncodeChar d ↔ d = c := by
  rcases encodeChar_cases d with ⟨hd, henc⟩ | ⟨hd, henc⟩
  · rw [henc, List.mem_singleton, ← UInt8.toNat_inj, toNat_byte hc, toNat_byte hd,
      ← Char.toNat_inj]
    exact eq_comm
  · constructor
    · intro h
      have hle := henc _ h
      rw [toNat_byte hc] at hle
      omega
    · rintro rfl
      omega

/-- **An ASCII character is in a text when its byte is in the bytes.** -/
theorem mem_encode_iff {c : Char} (hc : c.toNat < 128) {l : List Char} :
    byte c ∈ encode l ↔ c ∈ l := by
  rw [encode, List.mem_flatMap]
  constructor
  · rintro ⟨d, hd, hbyte⟩
    rwa [← (mem_encodeChar_iff hc).mp hbyte]
  · exact fun h => ⟨c, h, (mem_encodeChar_iff hc).mpr rfl⟩

/-- **A text ends with an ASCII character when its bytes end with the byte of it.** -/
theorem getLast?_of_encode {c : Char} (hc : c.toNat < 128) {l : List Char}
    (h : (encode l).getLast? = some (byte c)) : l.getLast? = some c := by
  induction l using List.reverseRecOn with
  | nil => cases h
  | append_singleton l d _ =>
    rw [encode, List.flatMap_append, List.flatMap_singleton] at h
    obtain ⟨b, bs, hbs⟩ := List.exists_cons_of_ne_nil (String.utf8EncodeChar_ne_nil (c := d))
    rw [hbs, List.getLast?_append_cons, ← hbs] at h
    have hd := (mem_encodeChar_iff hc).mp (List.mem_of_getLast? h)
    rw [List.getLast?_concat, hd]

end Utf8
