import Mathlib.Data.List.Infix

namespace Foundation.Utf8

/-!
# Texts as bytes

A text is written as the bytes of its characters.  Reading bytes never fails:
what is not the bytes of a text is read with a replacement character for each
longest start of a character that does not go on as one.
-/

def encode (text : String) : List UInt8 :=
  text.toList.flatMap String.utf8EncodeChar

/-- The ranges of the bytes that follow a first byte of several. -/
def following (first : UInt8) : Option (List (UInt8 × UInt8)) :=
  if first ≤ 0x7F then
    some []
  else if first ≤ 0xC1 then
    none
  else if first ≤ 0xDF then
    some [(0x80, 0xBF)]
  else if first = 0xE0 then
    some [(0xA0, 0xBF), (0x80, 0xBF)]
  else if first = 0xED then
    some [(0x80, 0x9F), (0x80, 0xBF)]
  else if first ≤ 0xEF then
    some [(0x80, 0xBF), (0x80, 0xBF)]
  else if first = 0xF0 then
    some [(0x90, 0xBF), (0x80, 0xBF), (0x80, 0xBF)]
  else if first ≤ 0xF3 then
    some [(0x80, 0xBF), (0x80, 0xBF), (0x80, 0xBF)]
  else if first = 0xF4 then
    some [(0x80, 0x8F), (0x80, 0xBF), (0x80, 0xBF)]
  else
    none

/-- How many bytes go on as the ranges say. -/
def continued : List (UInt8 × UInt8) → List UInt8 → Nat
  | (low, high) :: ranges, byte :: rest =>
      if low ≤ byte ∧ byte ≤ high then
        continued ranges rest + 1
      else
        0
  | _, _ => 0

def replacement : Char := '\uFFFD'

/-- Read the characters, replacing what is none. -/
def replacing : Nat → List UInt8 → List Char
  | fuel + 1, first :: rest =>
      match following first with
      | none => replacement :: replacing fuel rest
      | some ranges =>
          let count := continued ranges rest
          let character :=
            if count = ranges.length then
              (first :: rest.take count).toByteArray.utf8DecodeChar? 0
            else
              none
          character.getD replacement :: replacing fuel (rest.drop count)
  | _, _ => []

/-- The text of the bytes; the bytes of a text are read as that text. -/
def decode (bytes : List UInt8) : String :=
  match bytes.toByteArray.utf8Decode? with
  | some characters => String.ofList characters.toList
  | none => String.ofList (replacing bytes.length bytes)

theorem encode_append
    (first second : String) :
    encode (first ++ second) = encode first ++ encode second := by
  simp [encode]

@[simp] theorem decode_encode
    (text : String) :
    decode (encode text) = text := by
  have isText : (encode text).toByteArray = text.toList.utf8Encode :=
    rfl
  rw [decode, isText, List.utf8Decode?_utf8Encode]
  exact String.ofList_toList

/-- A text whose bytes begin with those of another begins with the other. -/
theorem exists_of_encode_prefix
    {first whole : String}
    {rest : List UInt8}
    (begins : encode first ++ rest = encode whole) :
    ∃ last, whole = first ++ last ∧ rest = encode last := by
  have asBytes :
      first.toList.utf8Encode ++ rest.toByteArray =
        whole.toList.utf8Encode := by
    have bytes := congrArg List.toByteArray begins
    rwa [List.toByteArray_append] at bytes
  obtain ⟨last, characters⟩ :=
    List.isPrefix_of_utf8Encode_append_eq_utf8Encode _ asBytes
  have isWhole : whole = first ++ String.ofList last := by
    rw [← String.toList_inj, String.toList_append, String.toList_ofList,
      characters]
  refine ⟨String.ofList last, isWhole, ?_⟩
  rw [isWhole, encode_append] at begins
  exact List.append_cancel_left begins

/-- The rest of the bytes of a text after a text is read as the rest. -/
theorem encode_append_decode
    {first whole : String}
    {rest : List UInt8}
    (begins : encode first ++ rest = encode whole) :
    encode (first ++ decode rest) = encode whole := by
  obtain ⟨last, isWhole, isRest⟩ := exists_of_encode_prefix begins
  rw [isRest, decode_encode, isWhole]

/-- A character that has arrived only in part is replaced. -/
example : replacing 2 [0xE4, 0xBD] = ['\uFFFD'] := by
  decide

end Foundation.Utf8
