import EntityMapping.Json

/-!
# Constant values

The values of directive arguments and defaults.  An object keeps its fields as
written, repeated keys included; looking one up finds the first.
-/

namespace EntityMapping.Document

open EntityMapping.Number

/-- A constant value. -/
inductive Value where
  | null
  | boolean (value : Bool)
  | int (value : Int64)
  | float (value : Binary64)
  | string (value : String)
  /-- A bare word. -/
  | enum (value : String)
  | list (items : List Value)
  | object (fields : List (String × Value))

/-- The kinds of values. -/
inductive ValueKind where
  | null
  | boolean
  | int
  | float
  | string
  | enum
  | list
  | object
deriving DecidableEq, Repr

namespace ValueKind

/-- The name of a kind in messages. -/
def text : ValueKind → String
  | null => "null"
  | boolean => "boolean"
  | int => "int"
  | float => "float"
  | string => "string"
  | enum => "enum"
  | list => "list"
  | object => "object"

end ValueKind

namespace Value

/-- The kind of a value. -/
def kind : Value → ValueKind
  | null => .null
  | boolean _ => .boolean
  | int _ => .int
  | float _ => .float
  | string _ => .string
  | enum _ => .enum
  | list _ => .list
  | object _ => .object

/-- The text of a string or a bare word. -/
def asText? : Value → Option String
  | string value => some value
  | enum value => some value
  | _ => none

/-- The truth value of a boolean. -/
def asBool? : Value → Option Bool
  | boolean value => some value
  | _ => none

/-- The number of an integer. -/
def asInt? : Value → Option Int64
  | int value => some value
  | _ => none

/-- The items of a list. -/
def asList? : Value → Option (List Value)
  | list items => some items
  | _ => none

/-- The fields of an object. -/
def asObject? : Value → Option (List (String × Value))
  | object fields => some fields
  | _ => none

/-- The first field of a key. -/
def field? (key : String) (value : Value) : Option Value :=
  value.asObject?.bind (List.lookup key)

/-- An item of a list by its index. -/
def item? (index : Nat) (value : Value) : Option Value :=
  value.asList?.bind (·[index]?)

/-- Whether a value is the null value. -/
def isNull : Value → Bool
  | null => true
  | _ => false

mutual

/-- The value as data.  Bare words become texts, and infinite numbers null. -/
def toJson : Value → Json
  | null => .null
  | boolean value => .boolean value
  | int value => .integer value.toInt
  | float value => if value.isFinite then .number value else .null
  | string value => .text value
  | enum value => .text value
  | list items => .array (itemsToJson items)
  | object fields => .ofEntries (fieldsToJson fields)

/-- The items of a list as data. -/
def itemsToJson : List Value → List Json
  | [] => []
  | item :: rest => toJson item :: itemsToJson rest

/-- The fields of an object as data, in the order written. -/
def fieldsToJson : List (String × Value) → List (String × Json)
  | [] => []
  | (key, value) :: rest => (key, toJson value) :: fieldsToJson rest

end

theorem itemsToJson_eq_map (items : List Value) : itemsToJson items = items.map toJson := by
  induction items with
  | nil => rfl
  | cons item rest ih => simp [itemsToJson, ih]

theorem fieldsToJson_eq_map (fields : List (String × Value)) :
    fieldsToJson fields = fields.map fun field => (field.1, toJson field.2) := by
  induction fields with
  | nil => rfl
  | cons field rest ih =>
      obtain ⟨key, value⟩ := field
      simp [fieldsToJson, ih]

theorem isNull_eq_true_iff (value : Value) : value.isNull = true ↔ value = .null := by
  cases value <;> simp [isNull]

end Value

end EntityMapping.Document
