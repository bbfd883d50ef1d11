/-!
Bytes and text.  Arguments arrive as raw bytes and need not be well-formed UTF-8; a text that has
to be shown anyway is read lossily, with one replacement character for each ill-formed piece.

Decoding inverts encoding (`decode?_encode`), accepts nothing else (`encode_of_decode?`), and a
lossy reading changes nothing in well-formed text (`lossy_encode`).
-/

namespace CompilerDriver

/-- Raw bytes, as an operating system hands over arguments and takes output. -/
abbrev Bytes := List UInt8

namespace Utf8

/-- The bytes of a text. -/
def encode (text : String) : Bytes :=
  text.toByteArray.data.toList

/-- The text whose bytes these are, when they are well formed. -/
def decode? (bytes : Bytes) : Option String :=
  String.fromUTF8? bytes.toByteArray

/-- The character whose encoding the bytes begin with; no encoding is longer than four bytes. -/
def front? (bytes : Bytes) : Option Char :=
  (bytes.take 4).toByteArray.utf8DecodeChar? 0

/-- What a lead byte announces: the size of its character and the bounds of the second byte. -/
structure Lead where
  size : Nat
  low : UInt8
  high : UInt8

/-- The announcement of a byte that can begin a character of two to four bytes.  The bounds keep
out overlong forms, surrogates and everything beyond the last code point. -/
def lead? (byte : UInt8) : Option Lead :=
  if 0xC2 ≤ byte ∧ byte ≤ 0xDF then some ⟨2, 0x80, 0xBF⟩
  else if byte = 0xE0 then some ⟨3, 0xA0, 0xBF⟩
  else if byte = 0xED then some ⟨3, 0x80, 0x9F⟩
  else if 0xE1 ≤ byte ∧ byte ≤ 0xEF then some ⟨3, 0x80, 0xBF⟩
  else if byte = 0xF0 then some ⟨4, 0x90, 0xBF⟩
  else if 0xF1 ≤ byte ∧ byte ≤ 0xF3 then some ⟨4, 0x80, 0xBF⟩
  else if byte = 0xF4 then some ⟨4, 0x80, 0x8F⟩
  else none

/-- A byte that continues a character. -/
def isContinuation (byte : UInt8) : Bool :=
  0x80 ≤ byte && byte ≤ 0xBF

/-- The size of the ill-formed piece at the front: as many bytes as some character begins with,
and at least one. -/
def brokenSize : Bytes → Nat
  | first :: second :: rest =>
    match lead? first with
    | some lead =>
      if lead.low ≤ second ∧ second ≤ lead.high then
        2 + ((rest.take (lead.size - 3)).takeWhile isContinuation).length
      else 1
    | none => 1
  | _ => 1

/-- The characters of the bytes, with one U+FFFD for each ill-formed piece. -/
def lossyChars : Bytes → List Char
  | [] => []
  | byte :: rest =>
    match front? (byte :: rest) with
    | some c => c :: lossyChars (rest.drop (c.utf8Size - 1))
    | none => '\uFFFD' :: lossyChars (rest.drop (brokenSize (byte :: rest) - 1))
  termination_by bytes => bytes.length
  decreasing_by all_goals simp only [List.length_drop, List.length_cons]; omega

/-- The bytes as a text that can always be shown. -/
def lossy (bytes : Bytes) : String :=
  String.ofList (lossyChars bytes)

theorem encode_eq_flatMap (text : String) :
    encode text = text.toList.flatMap String.utf8EncodeChar := by
  rw [encode, ← String.utf8Encode_toList, List.utf8Encode, List.toList_data_toByteArray]

@[simp] theorem encode_empty : encode "" = [] := rfl

@[simp] theorem encode_append (left right : String) :
    encode (left ++ right) = encode left ++ encode right := by
  simp only [encode_eq_flatMap, String.toList_append, List.flatMap_append]

theorem encode_join (texts : List String) : encode (String.join texts) = texts.flatMap encode := by
  rw [encode_eq_flatMap, String.toList_join, List.flatMap_assoc]
  exact congrArg texts.flatMap (funext fun text => (encode_eq_flatMap text).symm)

private theorem toByteArray_encode (text : String) :
    (encode text).toByteArray = text.toByteArray := by
  apply ByteArray.ext
  apply Array.toList_inj.1
  rw [List.toList_data_toByteArray, encode]

@[simp] theorem decode?_encode (text : String) : decode? (encode text) = some text := by
  rw [decode?, toByteArray_encode, String.fromUTF8?, dif_pos text.isValidUTF8]
  rfl

theorem encode_of_decode? {bytes : Bytes} {text : String} (h : decode? bytes = some text) :
    encode text = bytes := by
  rw [decode?, String.fromUTF8?] at h
  split at h
  · cases h
    exact List.toList_data_toByteArray
  · cases h

/-- Decoding accepts exactly the encodings. -/
theorem decode?_eq_some_iff {bytes : Bytes} {text : String} :
    decode? bytes = some text ↔ bytes = encode text :=
  ⟨fun h => (encode_of_decode? h).symm, fun h => h ▸ decode?_encode text⟩

theorem encode_injective {left right : String} (h : encode left = encode right) :
    left = right := by
  simpa using congrArg decode? h

theorem front?_encode_append (c : Char) (rest : Bytes) :
    front? (String.utf8EncodeChar c ++ rest) = some c := by
  have short : (String.utf8EncodeChar c).length ≤ 4 := by
    rw [String.length_utf8EncodeChar]
    exact c.utf8Size_le_four
  rw [front?, List.take_append, List.take_of_length_le short, List.toByteArray_append,
    ByteArray.utf8DecodeChar?_utf8EncodeChar_append]

theorem lossyChars_encode_append (c : Char) (rest : Bytes) :
    lossyChars (String.utf8EncodeChar c ++ rest) = c :: lossyChars rest := by
  have size := String.length_utf8EncodeChar c
  have positive := c.utf8Size_pos
  match h : String.utf8EncodeChar c with
  | [] => simp [h] at size; omega
  | byte :: more =>
    have front := front?_encode_append c rest
    rw [h, List.length_cons] at size
    rw [h, List.cons_append] at front
    rw [List.cons_append, lossyChars, front]
    simp only [← size, Nat.add_sub_cancel, List.drop_left]

@[simp] theorem lossy_encode (text : String) : lossy (encode text) = text := by
  have chars : ∀ l : List Char, lossyChars (l.flatMap String.utf8EncodeChar) = l := by
    intro l
    induction l with
    | nil => rw [List.flatMap_nil, lossyChars]
    | cons c rest ih => rw [List.flatMap_cons, lossyChars_encode_append, ih]
  rw [lossy, encode_eq_flatMap, chars, String.ofList_toList]

end Utf8

end CompilerDriver
