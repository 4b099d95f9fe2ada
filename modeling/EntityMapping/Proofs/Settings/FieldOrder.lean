import EntityMapping.Proofs.Settings.Decisive
import EntityMapping.Proofs.Settings.Independence
import EntityMapping.Proofs.Settings.KeyGeneration

/-!
# The order of fields

Fields with different names map themselves independently of each other, so their order only
shows in the order of what the record lists.  Keys and versions are all that they share, and
there the order does not matter either as long as no two fields say the same thing.  Main
statement: types whose fields are rearranged are evaluated alike up to the order of the lists.
-/

namespace EntityMapping.Record

/-- Two records that are equal up to the order in which fields are listed. -/
structure ClassMapping.SameUpToOrder (left right : ClassMapping) : Prop
    extends left.SameClass right where
  columns : left.columns.Perm right.columns
  associations : left.associations.Perm right.associations
  embedded : left.embedded.Perm right.embedded
  identifier : left.identifier.Perm right.identifier
  idGenerator : left.idGenerator = right.idGenerator
  sequenceDefinition : left.sequenceDefinition = right.sequenceDefinition
  customGenerator : left.customGenerator = right.customGenerator
  versionField : left.versionField = right.versionField

end EntityMapping.Record

namespace EntityMapping.Settings

open EntityMapping.Document
open EntityMapping.Record

/-- Whether a field is a column that carries an annotation. -/
def isColumnWith (marker : Marker) (field : Field) : Bool :=
  Marker.column.isAmong field.directives && marker.isAmong field.directives

/-- No two columns say the same thing about keys and versions, and none asks for no strategy
at all. -/
structure SaysOnce (fields : List Field) : Prop where
  version : fields.countP (isColumnWith .version) ≤ 1
  strategy : fields.countP (isColumnWith .generatedValue) ≤ 1
  source : fields.countP (fun field =>
    isColumnWith .sequenceGenerator field || isColumnWith .customGenerator field) ≤ 1
  someStrategy : ∀ field ∈ fields, isColumnWith .generatedValue field = true →
    FieldSettings.readGenerator field ≠ .ok (some .none)

/-- Of two different items at most one is of a kind that the list has at most one item of. -/
theorem eq_false_or_of_countP_le_one {α : Type} {holds : α → Bool} {items : List α}
    (once : items.countP holds ≤ 1) {left right : α} (leftAmong : left ∈ items)
    (rightAmong : right ∈ items) (different : left ≠ right) :
    holds left = false ∨ holds right = false := by
  by_cases isLeft : holds left = true
  · refine Or.inr (Bool.eq_false_iff.mpr fun isRight => different ?_)
    have leftKept := List.mem_filter.mpr ⟨leftAmong, isLeft⟩
    have rightKept := List.mem_filter.mpr ⟨rightAmong, isRight⟩
    rw [List.countP_eq_length_filter] at once
    rcases kept : items.filter holds with _ | ⟨only, _ | ⟨second, others⟩⟩
    · rw [kept] at leftKept
      cases leftKept
    · rw [kept, List.mem_singleton] at leftKept rightKept
      exact leftKept.trans rightKept.symm
    · rw [kept] at once
      exact absurd once (by simp)
  · exact Or.inl (Bool.eq_false_iff.mpr isLeft)

/-! ## Two fields -/

/-- A field is a column with the given settings of keys and versions. -/
structure KeysRead (field : Field) (column : ColumnSettings) : Prop where
  isColumn : Marker.column.isAmong field.directives = true
  generator : FieldSettings.readGenerator field = .ok column.generator
  keySource : FieldSettings.readKeySource field = .ok column.keySource
  isVersion : column.isVersion = Marker.version.isAmong field.directives

namespace KeysRead

variable {field : Field} {column : ColumnSettings}

theorem of_ofField {settings : FieldSettings} (read : FieldSettings.ofField field = .ok settings)
    (isColumn : settings.kind = .column column) : KeysRead field column := by
  obtain ⟨directive, found, readColumn⟩ := FieldSettings.exists_column_of_ofField read isColumn
  obtain ⟨columnName, typeName, -, -, generator, keySource, isVersion, -⟩ :=
    FieldSettings.exists_of_readColumn readColumn
  exact ⟨by rw [Marker.isAmong, found, Option.isSome_some], generator, keySource, isVersion⟩

theorem isColumnWith_eq (keys : KeysRead field column) (marker : Marker) :
    isColumnWith marker field = marker.isAmong field.directives := by
  rw [isColumnWith, keys.isColumn, Bool.true_and]

theorem generator_eq_none (keys : KeysRead field column)
    (absent : isColumnWith .generatedValue field = false) : column.generator = none := by
  rw [keys.isColumnWith_eq] at absent
  exact Except.ok.inj (keys.generator.symm.trans (FieldSettings.readGenerator_of_absent absent))

theorem generator_ne_none (keys : KeysRead field column)
    (someStrategy : isColumnWith .generatedValue field = true →
      FieldSettings.readGenerator field ≠ .ok (some .none)) :
    column.generator ≠ some .none := by
  intro named
  cases carries : isColumnWith .generatedValue field with
  | true => exact someStrategy carries (named ▸ keys.generator)
  | false => cases (keys.generator_eq_none carries).symm.trans named

theorem keySource_eq_unspecified (keys : KeysRead field column)
    (absent : (isColumnWith .sequenceGenerator field ||
      isColumnWith .customGenerator field) = false) : column.keySource = .unspecified := by
  rw [keys.isColumnWith_eq, keys.isColumnWith_eq, Bool.or_eq_false_iff] at absent
  exact Except.ok.inj
    (keys.keySource.symm.trans (FieldSettings.readKeySource_of_absent absent.1 absent.2))

theorem isVersion_eq_false (keys : KeysRead field column)
    (absent : isColumnWith .version field = false) : column.isVersion = false := by
  rw [keys.isVersion, ← keys.isColumnWith_eq, absent]

end KeysRead

/-- Different columns of a type that says everything once do not get into each other's way. -/
theorem SaysOnce.apart {fields : List Field} (once : SaysOnce fields) {left right : Field}
    (leftAmong : left ∈ fields) (rightAmong : right ∈ fields) (different : left ≠ right)
    {leftColumn rightColumn : ColumnSettings} (ofLeft : KeysRead left leftColumn)
    (ofRight : KeysRead right rightColumn) : leftColumn.Apart rightColumn where
  strategy := (eq_false_or_of_countP_le_one once.strategy leftAmong rightAmong different).imp
    ofLeft.generator_eq_none ofRight.generator_eq_none
  source := (eq_false_or_of_countP_le_one once.source leftAmong rightAmong different).imp
    ofLeft.keySource_eq_unspecified ofRight.keySource_eq_unspecified
  version := (eq_false_or_of_countP_le_one once.version leftAmong rightAmong different).imp
    ofLeft.isVersion_eq_false ofRight.isVersion_eq_false
  left := ofLeft.generator_ne_none (once.someStrategy left leftAmong)
  right := ofRight.generator_ne_none (once.someStrategy right rightAmong)

/-- Different fields of a type that says everything once make the same of keys and versions in
either order. -/
theorem SaysOnce.generate_comm {fields : List Field} (once : SaysOnce fields) {left right : Field}
    (leftAmong : left ∈ fields) (rightAmong : right ∈ fields) (before : KeyGeneration) :
    generate (generate before left) right = generate (generate before right) left := by
  by_cases same : left = right
  · rw [same]
  unfold generate
  cases readLeft : FieldSettings.ofField left with
  | error fault => rfl
  | ok leftSettings =>
      cases readRight : FieldSettings.ofField right with
      | error fault => rfl
      | ok rightSettings =>
          dsimp only
          unfold FieldSettings.generate
          cases isLeft : leftSettings.kind with
          | column leftColumn =>
              cases isRight : rightSettings.kind with
              | column rightColumn =>
                  have apart := once.apart leftAmong rightAmong same
                    (.of_ofField readLeft isLeft) (.of_ofField readRight isRight)
                  exact (apart.generate_comm before).symm
              | _ => rfl
          | _ => rfl

/-! ## Rearranged types -/

section Rearranged

variable {className : String} {type : ObjectType} {fields : List Field}

/-- Whether a type can be evaluated does not depend on the order of its fields. -/
theorem evaluates_rearranged_iff (rearranged : type.fields.Perm fields) :
    Evaluates className type ↔ Evaluates className (type.withFields fields) := by
  rw [evaluates_iff, @evaluates_iff className (type.withFields fields)]
  exact and_congr Iff.rfl (forall_congr' fun field => imp_congr_left rearranged.mem_iff)

/-- What the record of a type lists is what its fields contribute in the record of the class. -/
theorem exists_listing {record : ClassMapping} (distinct : (type.fields.map Field.name).Nodup)
    (evaluated : evaluateNew className type = .ok record) :
    ∃ base, evaluateNew className (type.withFields []) = .ok base ∧ record.SameClass base ∧
      record.SameFields (.listing className (type.fields.filterMap (contribution? base))) := by
  obtain ⟨base, evaluatedBase, sameClass, contributed⟩ := evaluateNew_contributions evaluated
  exact ⟨base, evaluatedBase, sameClass, contributed.trans
    (ClassMapping.mapAll_sameFields_listing className (nodup_contributions base distinct))⟩

theorem sameUpToOrder_of_rearranged (rearranged : type.fields.Perm fields)
    (distinct : (type.fields.map Field.name).Nodup) (once : SaysOnce type.fields)
    {record other : ClassMapping} (evaluated : evaluateNew className type = .ok record)
    (evaluatedOther : evaluateNew className (type.withFields fields) = .ok other) :
    record.SameUpToOrder other := by
  have distinctOther : ((type.withFields fields).fields.map Field.name).Nodup :=
    (rearranged.map Field.name).nodup_iff.mp distinct
  obtain ⟨base, evaluatedBase, sameClass, listed⟩ := exists_listing distinct evaluated
  obtain ⟨_, evaluatedAgain, otherClass, otherListed⟩ := exists_listing distinctOther evaluatedOther
  cases evaluatedBase.symm.trans evaluatedAgain
  have steps : (type.fields.filterMap (contribution? base)).Perm
      (fields.filterMap (contribution? base)) := rearranged.filterMap _
  have keys : record.keyGeneration = other.keyGeneration := by
    rw [evaluateNew_keyGeneration evaluated, evaluateNew_keyGeneration evaluatedOther]
    exact rearranged.foldl_eq' (fun left leftAmong right rightAmong before =>
      once.generate_comm leftAmong rightAmong before) _
  exact
    { sameClass.trans otherClass.symm with
      columns := by
        rw [listed.columns, otherListed.columns]
        exact steps.filterMap _
      associations := by
        rw [listed.associations, otherListed.associations]
        exact steps.filterMap _
      embedded := by
        rw [listed.embedded, otherListed.embedded]
        exact steps.filterMap _
      identifier := by
        rw [listed.identifier, otherListed.identifier]
        exact steps.filterMap _
      idGenerator := congrArg KeyGeneration.strategy keys
      sequenceDefinition := congrArg KeyGeneration.sequence keys
      customGenerator := congrArg KeyGeneration.custom keys
      versionField := congrArg KeyGeneration.versionField keys }

/-- The order of fields only shows in the order of lists.  A type whose fields have different
names, and say everything about keys and versions once, is evaluated just if it is with its
fields rearranged, and the two records are equal up to the order of the columns, associations,
embedded values and names of the identifier. -/
theorem field_order_irrelevant (rearranged : type.fields.Perm fields)
    (distinct : (type.fields.map Field.name).Nodup) (once : SaysOnce type.fields) :
    (Evaluates className type ↔ Evaluates className (type.withFields fields)) ∧
    ∀ record other, evaluateNew className type = .ok record →
      evaluateNew className (type.withFields fields) = .ok other → record.SameUpToOrder other :=
  ⟨evaluates_rearranged_iff rearranged, fun _ _ evaluated evaluatedOther =>
    sameUpToOrder_of_rearranged rearranged distinct once evaluated evaluatedOther⟩

end Rearranged

/-- A type whose key has a strategy, while a sequence and the version belong to other fields. -/
def shipmentType : ObjectType :=
  ⟨none, "Shipment", [], [⟨"Entity", [], ⟨0, 0⟩⟩],
    [⟨none, "key", [], .named "ID",
        [⟨"Column", [], ⟨0, 0⟩⟩, ⟨"Id", [], ⟨0, 0⟩⟩,
          ⟨"GeneratedValue", [⟨"strategy", .string "identity", ⟨0, 0⟩⟩], ⟨0, 0⟩⟩], ⟨0, 0⟩⟩,
      ⟨none, "number", [], .named "Int",
        [⟨"Column", [], ⟨0, 0⟩⟩,
          ⟨"SequenceGenerator", [⟨"name", .string "numbers", ⟨0, 0⟩⟩], ⟨0, 0⟩⟩], ⟨0, 0⟩⟩,
      ⟨none, "revision", [], .named "Int",
        [⟨"Column", [], ⟨0, 0⟩⟩, ⟨"Version", [], ⟨0, 0⟩⟩], ⟨0, 0⟩⟩,
      ⟨none, "buyer", [], .named "ID",
        [⟨"ManyToOne", [⟨"targetEntity", .string "Buyer", ⟨0, 0⟩⟩], ⟨0, 0⟩⟩], ⟨0, 0⟩⟩], ⟨0, 0⟩⟩

theorem shipmentType_saysOnce : SaysOnce shipmentType.fields where
  version := by decide
  strategy := by decide
  source := by decide
  someStrategy := by
    have others : ∀ field ∈ shipmentType.fields.tail,
        isColumnWith .generatedValue field = false := by decide
    intro field among carries
    rcases List.mem_cons.mp among with rfl | among
    · intro isNone
      cases isNone
    · exact absurd carries (Bool.eq_false_iff.mp (others field among))

/-- The strategy stays whether the sequence comes behind it or before it. -/
theorem shipmentType_rearranged : ∃ record other,
    evaluateNew "Shipment" shipmentType = .ok record ∧
      evaluateNew "Shipment" (shipmentType.withFields shipmentType.fields.reverse) = .ok other ∧
      record.SameUpToOrder other ∧ record.idGenerator = .identity ∧
      record.columns.map Column.fieldName = ["key", "number", "revision"] ∧
      other.columns.map Column.fieldName = ["revision", "number", "key"] := by
  have outcome : (evaluateNew "Shipment" shipmentType).map (fun record =>
      (record.idGenerator, record.columns.map Column.fieldName)) =
      .ok (.identity, ["key", "number", "revision"]) := by
    rfl
  have rearranged : (evaluateNew "Shipment"
      (shipmentType.withFields shipmentType.fields.reverse)).map
        (·.columns.map Column.fieldName) = .ok ["revision", "number", "key"] := by
    rfl
  obtain ⟨record, evaluated, parts⟩ := map_eq_ok_iff.mp outcome
  obtain ⟨other, evaluatedOther, names⟩ := map_eq_ok_iff.mp rearranged
  rw [Prod.mk.injEq] at parts
  have same := (field_order_irrelevant (List.reverse_perm shipmentType.fields).symm (by decide)
    shipmentType_saysOnce).2 record other evaluated evaluatedOther
  exact ⟨record, other, evaluated, evaluatedOther, same, parts.1, parts.2, names⟩

end EntityMapping.Settings
