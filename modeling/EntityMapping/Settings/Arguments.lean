import EntityMapping.Record.Table
import EntityMapping.Settings.Marker
import EntityMapping.Settings.Fault

/-!
# Arguments of annotations

Typed access to the arguments of a directive, or to the fields of an object
inside them.  Null stands for an absent argument, and of several with one name
the first counts.
-/

namespace EntityMapping.Settings

open EntityMapping.Document
open EntityMapping.Record

/-- The result of reading settings. -/
abbrev Checked (α : Type) : Type := Except Fault α

/-- The named values of a directive, or of an object at a place inside it. -/
structure Arguments where
  directive : String
  place : ArgumentPath
  entries : List (String × Value)

namespace Arguments

/-- The arguments of a directive. -/
def ofDirective (directive : Directive) : Arguments :=
  ⟨directive.name, [], directive.arguments.map fun argument => (argument.name, argument.value)⟩

/-- An argument that is given and not null. -/
def get? (name : String) (arguments : Arguments) : Option Value :=
  (arguments.entries.lookup name).filter fun value => !value.isNull

/-- Whether an argument is given and not null. -/
def has (name : String) (arguments : Arguments) : Bool :=
  (arguments.get? name).isSome

/-- The place of an argument. -/
def path (name : String) (arguments : Arguments) : ArgumentPath :=
  arguments.place ++ [.key name]

/-- The fault that an argument is not given. -/
def missing (name : String) (arguments : Arguments) : Fault :=
  .missingArgument arguments.directive (arguments.path name)

/-- The fault that the value at a place is not what is demanded. -/
def wrongAt (path : ArgumentPath) (demand : Demand) (found : Value) (arguments : Arguments) :
    Fault :=
  .wrongKind arguments.directive path demand found.kind

/-- The value of an argument that has to be of some form. -/
def demanded {α : Type} (demand : Demand) (form : Value → Option α) (name : String)
    (arguments : Arguments) : Checked (Option α) :=
  match arguments.get? name with
  | none => .ok none
  | some value =>
      match form value with
      | some content => .ok (some content)
      | none => .error (arguments.wrongAt (arguments.path name) demand value)

/-- A text, if one is given. -/
def text? (name : String) (arguments : Arguments) : Checked (Option String) :=
  arguments.demanded .text Value.asText? name

/-- A text that has to be given. -/
def text (name : String) (arguments : Arguments) : Checked String := do
  match ← arguments.text? name with
  | some value => return value
  | none => .error (arguments.missing name)

/-- A truth value, if one is given. -/
def boolean? (name : String) (arguments : Arguments) : Checked (Option Bool) :=
  arguments.demanded .boolean Value.asBool? name

/-- A truth value, false unless given. -/
def flag (name : String) (arguments : Arguments) : Checked Bool :=
  (arguments.boolean? name).map (·.getD false)

/-- The number of an integer from zero up to the largest of thirty-two bits. -/
def naturalOf? (value : Value) : Option Nat :=
  match value.asInt? with
  | none => none
  | some number =>
      if 0 ≤ number.toInt ∧ number.toInt < UInt32.size then some number.toInt.toNat else none

/-- A natural number, if one is given. -/
def natural? (name : String) (arguments : Arguments) : Checked (Option Nat) :=
  arguments.demanded .natural naturalOf? name

/-- A list of texts.  A single text stands for the list of itself. -/
def texts (name : String) (arguments : Arguments) : Checked (List String) :=
  let wrong := arguments.wrongAt (arguments.path name) .texts
  match arguments.get? name with
  | none => .ok []
  | some (.list items) => items.mapM fun item =>
      match item.asText? with
      | some content => .ok content
      | none => .error (wrong item)
  | some value =>
      match value.asText? with
      | some content => .ok [content]
      | none => .error (wrong value)

/-- The fields of an object at a place. -/
def nested (path : ArgumentPath) (value : Value) (arguments : Arguments) : Checked Arguments :=
  match value.asObject? with
  | some fields => .ok ⟨arguments.directive, path, fields⟩
  | none => .error (arguments.wrongAt path .object value)

/-- The items of a list, each with its place. -/
def placed (name : String) (items : List Value) (arguments : Arguments) :
    List (ArgumentPath × Value) :=
  items.zipIdx.map fun (item, index) => (arguments.path name ++ [.index index], item)

/-- A list of objects. -/
def objects (name : String) (arguments : Arguments) : Checked (List Arguments) :=
  match arguments.get? name with
  | none => .ok []
  | some (.list items) =>
      (arguments.placed name items).mapM fun (path, item) => arguments.nested path item
  | some value => .error (arguments.wrongAt (arguments.path name) .objects value)

/-- All entries as data; of several with one name the last stays. -/
def attributes (arguments : Arguments) : Attributes :=
  Keyed.ofEntries (arguments.entries.map fun (name, value) => (name, value.toJson))

/-- The fields of an object argument as data. -/
def objectAttributes (name : String) (arguments : Arguments) : Checked Attributes :=
  match arguments.get? name with
  | none => .ok []
  | some value => (arguments.nested (arguments.path name) value).map attributes

/-- The items of a list as data. -/
def dataList (name : String) (arguments : Arguments) : Checked (List Json) :=
  match arguments.get? name with
  | none => .ok []
  | some (.list items) => .ok (items.map Value.toJson)
  | some value => .error (arguments.wrongAt (arguments.path name) .list value)

/-- A text as a value of a vocabulary. -/
def vocabulary {α : Type} [Vocabulary α] (fault : String → Fault) (text : String) :
    Checked α :=
  match Vocabulary.read? text with
  | some value => .ok value
  | none => .error (fault text)

/-- A value of a vocabulary, if a text is given. -/
def vocabulary? {α : Type} [Vocabulary α] (fault : String → Fault) (name : String)
    (arguments : Arguments) : Checked (Option α) := do
  match ← arguments.text? name with
  | none => return none
  | some text => (vocabulary fault text).map some

end Arguments

/-- What a cache annotation says; the rest is taken over from the surroundings. -/
structure CacheOverride where
  usage : Option CacheUsage
  region : Option String
deriving DecidableEq

namespace CacheOverride

/-- What the cache annotation among the directives says, if there is one. -/
def ofDirectives (directives : List Directive) : Checked (Option CacheOverride) :=
  match Marker.cache.among directives with
  | none => .ok none
  | some directive => do
      let arguments := Arguments.ofDirective directive
      let usage ← arguments.vocabulary? .unknownCacheUsage "usage"
      let region ← arguments.text? "region"
      return some ⟨usage, region⟩

/-- The given settings, where the annotation does not say otherwise. -/
def withDefaults (defaults : CacheSettings) (override : CacheOverride) : CacheSettings :=
  ⟨override.usage.getD defaults.usage, override.region.getD defaults.region⟩

end CacheOverride

end EntityMapping.Settings
