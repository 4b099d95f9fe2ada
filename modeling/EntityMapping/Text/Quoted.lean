import EntityMapping.Text.Ranges
import EntityMapping.Text.Quoted.Hidden

/-!
# Quoted texts

A text between double quotes in which quotes, backslashes and characters
without a visible form are written as escapes.
-/

namespace EntityMapping.Text

/-- The lower case hexadecimal digits of a number. -/
def hexDigits (number : Nat) : String :=
  String.ofList (Nat.toDigits 16 number)

/-- How one character is written inside quotes. -/
def quoteChar (c : Char) : String :=
  match c with
  | '\x00' => "\\0"
  | '\t' => "\\t"
  | '\r' => "\\r"
  | '\n' => "\\n"
  | '"' => "\\\""
  | '\\' => "\\\\"
  | _ =>
      if inRanges hiddenRanges c.toNat then
        "\\u\x7b" ++ hexDigits c.toNat ++ "\x7d"
      else c.toString

/-- The text between double quotes. -/
def quote (text : String) : String :=
  "\"" ++ String.join (text.toList.map quoteChar) ++ "\""

end EntityMapping.Text
