/-!
# Texts as bytes

The system names files by bytes.  As a rule these are the bytes of a text, but not always;
bytes that are not are shown with a mark for each part that belongs to no character.
-/

namespace EntityMapping.Text

/-- The bytes of a text. -/
def utf8 (text : String) : List UInt8 :=
  text.toList.flatMap String.utf8EncodeChar

/-- The text of bytes, if they are those of one. -/
def text? (bytes : List UInt8) : Option String :=
  String.fromUTF8? bytes.toByteArray

/-- The character that bytes begin with. -/
def leading? (bytes : List UInt8) : Option Char :=
  bytes.toByteArray.utf8DecodeChar? 0

/-- Whether some character goes on behind bytes, if they hold its first two at least. -/
def isUnfinished (bytes : List UInt8) : Bool :=
  (leading? (bytes ++ [0x80])).isSome || (leading? (bytes ++ [0x80, 0x80])).isSome

/-- Of bytes that begin with no character, how many are shown as one mark: as many as some
character begins with. -/
def brokenLength (bytes : List UInt8) : Nat :=
  if 3 ≤ bytes.length ∧ isUnfinished (bytes.take 3) then 3
  else if 2 ≤ bytes.length ∧ isUnfinished (bytes.take 2) then 2
  else 1

/-- The characters of bytes, without the first ones that belong to a character or a mark
already. -/
def charactersBehind : Nat → List UInt8 → List Char
  | _, [] => []
  | skipped + 1, _ :: rest => charactersBehind skipped rest
  | 0, byte :: rest =>
      match leading? (byte :: rest) with
      | some c => c :: charactersBehind (c.utf8Size - 1) rest
      | none => '\uFFFD' :: charactersBehind (brokenLength (byte :: rest) - 1) rest

/-- Bytes as they are shown. -/
def shown (bytes : List UInt8) : String :=
  match text? bytes with
  | some text => text
  | none => String.ofList (charactersBehind 0 bytes)

theorem utf8_append (left right : String) : utf8 (left ++ right) = utf8 left ++ utf8 right := by
  rw [utf8, String.toList_append, List.flatMap_append, utf8, utf8]

/-- Bytes are those of a text just if this is their text. -/
theorem text?_eq_some_iff {bytes : List UInt8} {text : String} :
    text? bytes = some text ↔ bytes = utf8 text := by
  have bytesOf : text.toByteArray = (utf8 text).toByteArray := by
    rw [utf8, ← List.utf8Encode, ← String.toByteArray_ofList, String.ofList_toList]
  rw [← List.toByteArray_inj, ← bytesOf]
  unfold text? String.fromUTF8?
  split
  · rw [Option.some.injEq, ← String.toByteArray_inj]
    exact Iff.rfl
  · rename_i invalid
    refine ⟨nofun, fun same => absurd ?_ invalid⟩
    rw [same]
    exact text.isValidUTF8

theorem text?_utf8 (text : String) : text? (utf8 text) = some text :=
  text?_eq_some_iff.mpr rfl

example : text? [0xFF] = none := by decide

example : shown [0x6D, 0xE2, 0x82, 0x41, 0xFF, 0xC3, 0xA9] = "m\uFFFDA\uFFFD\u00E9" := by decide

end EntityMapping.Text
