import EntityMapping.Number.Form
import EntityMapping.Text.Quoted

/-!
# Tokens

The units that mapping files are made of.  Keywords are ordinary names; which
name is a keyword depends on where it stands.
-/

namespace EntityMapping.Document

open EntityMapping.Number
open EntityMapping.Text

/-- The punctuation of mapping files. -/
inductive Punctuator where
  | bang
  | dollar
  | ampersand
  | parenOpen
  | parenClose
  | spread
  | colon
  | equals
  | atSign
  | bracketOpen
  | bracketClose
  | braceOpen
  | pipe
  | braceClose
deriving DecidableEq, Repr

namespace Punctuator

/-- The characters of a punctuator. -/
def text : Punctuator → String
  | bang => "!"
  | dollar => "$"
  | ampersand => "&"
  | parenOpen => "("
  | parenClose => ")"
  | spread => "..."
  | colon => ":"
  | equals => "="
  | atSign => "@"
  | bracketOpen => "["
  | bracketClose => "]"
  | braceOpen => "\x7b"
  | pipe => "|"
  | braceClose => "\x7d"

/-- The punctuator of a single character. -/
def ofChar? : Char → Option Punctuator
  | '!' => some bang
  | '$' => some dollar
  | '&' => some ampersand
  | '(' => some parenOpen
  | ')' => some parenClose
  | ':' => some colon
  | '=' => some equals
  | '@' => some atSign
  | '[' => some bracketOpen
  | ']' => some bracketClose
  | '{' => some braceOpen
  | '|' => some pipe
  | '}' => some braceClose
  | _ => none

theorem ofChar?_eq_some {c : Char} {punctuator : Punctuator}
    (found : ofChar? c = some punctuator) : punctuator.text = c.toString := by
  unfold ofChar? at found
  split at found <;> first | (cases found; rfl) | cases found

end Punctuator

/-- A token with its value: a string token holds the text that was written, not
its escapes. -/
inductive Token where
  | punct (punctuator : Punctuator)
  | name (value : String)
  | int (value : Int64)
  | float (value : Binary64)
  | string (value : String)
  | blockString (value : String)
deriving DecidableEq

namespace Token

/-- The token as it is shown to a reader. -/
def text : Token → String
  | punct punctuator => punctuator.text
  | name value => value
  | int value => toString value.toInt
  | float value => Form.plain.text value
  | string value => quote value
  | blockString value => quote value

/-- What a complaint calls the token. -/
def description : Token → String
  | punct punctuator => "'" ++ punctuator.text ++ "'"
  | name value => "name `" ++ value ++ "`"
  | int value => "integer " ++ toString value.toInt
  | float value => "float " ++ Form.plain.text value
  | string _ => "string"
  | blockString _ => "string"

/-- The text of a string token of either kind. -/
def stringValue? : Token → Option String
  | string value => some value
  | blockString value => some value
  | _ => none

end Token

end EntityMapping.Document
