import EntityMapping.Json
import EntityMapping.Number.Form

/-!
# Written data values

The one-line text of a data value: no spaces, and only ASCII characters.
-/

namespace EntityMapping.Json

open EntityMapping.Number

/-- The four hexadecimal digits of a unit of sixteen bits. -/
def unitDigits (code : Nat) : List Char :=
  let digits := Nat.toDigits 16 code
  List.replicate (4 - digits.length) '0' ++ digits

/-- An escape for one unit of sixteen bits. -/
def unitEscape (code : Nat) : List Char :=
  '\\' :: 'u' :: unitDigits code

/-- How a character is written inside quotes.  One beyond the first plane takes a
pair of units. -/
def writtenChar (c : Char) : List Char :=
  if c = '"' then ['\\', '"']
  else if c = '\\' then ['\\', '\\']
  else if 0x20 ≤ c.toNat && c.toNat < 0x7f then [c]
  else if c.toNat < 0x10000 then unitEscape c.toNat
  else
    let offset := c.toNat - 0x10000
    unitEscape (0xd800 + offset / 0x400) ++ unitEscape (0xdc00 + offset % 0x400)

/-- A text between quotes. -/
def writtenText (value : String) : String :=
  "\"" ++ String.ofList (value.toList.flatMap writtenChar) ++ "\""

mutual

/-- The text of a value. -/
def written : Json → String
  | null => "null"
  | boolean true => "true"
  | boolean false => "false"
  | integer value => toString value
  | number value => if value.isFinite then Form.data.text value else "null"
  | text value => writtenText value
  | array items => "[" ++ ",".intercalate (writtenItems items) ++ "]"
  | object entries => "\x7b" ++ ",".intercalate (writtenEntries entries) ++ "\x7d"

/-- The texts of the items of an array. -/
def writtenItems : List Json → List String
  | [] => []
  | item :: rest => written item :: writtenItems rest

/-- The texts of the entries of an object. -/
def writtenEntries : List (String × Json) → List String
  | [] => []
  | (key, value) :: rest =>
      (writtenText key ++ ":" ++ written value) :: writtenEntries rest

end

end EntityMapping.Json
