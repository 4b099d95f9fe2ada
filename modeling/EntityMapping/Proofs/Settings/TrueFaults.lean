import EntityMapping.Proofs.Settings.Decisive
import EntityMapping.Proofs.Settings.Faults

/-!
# Evaluation reports true faults

Each reader of settings fails only with faults that are true of the directive, the class or the
field that it reads.  Main statement: so does evaluation.
-/

namespace EntityMapping.Settings

open EntityMapping.Document
open EntityMapping.Record

/-! ## Where a fault is true -/

variable {directive : Directive} {fault : Fault}

theorem TrueOfDirective.ofClass {directives : List Directive} {marker : Marker}
    (found : marker.among directives = some directive)
    (isTrue : TrueOfDirective directive fault) : TrueOfClass directives fault := by
  have among : TrueAmong directives fault := ⟨marker.text, directive, found, isTrue⟩
  cases fault with
  | noKind => exact isTrue.elim
  | noDiscriminator strategy => exact isTrue.elim
  | _ => exact among

theorem TrueOfDirective.ofField {field : Field} {marker : Marker}
    (found : marker.among field.directives = some directive)
    (isTrue : TrueOfDirective directive fault) : TrueOfField field fault := by
  have among : TrueAmong field.directives fault := ⟨marker.text, directive, found, isTrue⟩
  cases fault with
  | tableGenerator name => exact isTrue.elim
  | noJoinColumn name => exact isTrue.elim
  | bothSides name => exact isTrue.elim
  | _ => exact among

theorem FailsOnly.ofClass {α : Type} {result : Checked α} {directives : List Directive}
    {marker : Marker} (found : marker.among directives = some directive)
    (fails : FailsOnly (TrueOfDirective directive) result) :
    FailsOnly (TrueOfClass directives) result :=
  fails.mono fun _ isTrue => isTrue.ofClass found

theorem FailsOnly.ofField {α : Type} {result : Checked α} {field : Field}
    {marker : Marker} (found : marker.among field.directives = some directive)
    (fails : FailsOnly (TrueOfDirective directive) result) :
    FailsOnly (TrueOfField field) result :=
  fails.mono fun _ isTrue => isTrue.ofField found

/-! ## Settings of a class -/

namespace ClassSettings

variable {arguments : Arguments} {directives : List Directive}

theorem readIndex_failsOnly (stands : StandsIn directive arguments)
    (isTable : directive.name = Marker.table.text)
    (place : ∃ list ∈ ["indexes", "uniqueConstraints"], ∃ index,
      arguments.place = [.key list, .index index]) :
    FailsOnly (TrueOfDirective directive) (readIndex arguments) := by
  refine .bind (stands.text? "name") fun name _ => ?_
  refine .bind (stands.texts "columns") fun columns isColumns => ?_
  refine .bind (stands.texts "fields") fun fields _ => ?_
  refine .bind (stands.texts "flags") fun flags _ => ?_
  refine .bind (stands.objectAttributes "options") fun options _ => ?_
  split
  · rename_i nothing
    rw [Bool.and_eq_true, List.isEmpty_iff, List.isEmpty_iff] at nothing
    rw [nothing.1] at isColumns
    refine .error ?_
    rcases get?_of_texts_eq_nil isColumns with absent | empty
    · exact stands.missing absent
    · exact ⟨stands.name, arguments.place, "columns", arguments.entries, rfl, stands.reached,
        Or.inr ⟨⟨isTable, rfl, place⟩, (Option.filter_eq_some_iff.mp empty).1⟩⟩
  · exact .ok _

theorem readIndexes_failsOnly (isTable : directive.name = Marker.table.text) {name : String}
    (isList : name ∈ ["indexes", "uniqueConstraints"]) :
    FailsOnly (TrueOfDirective directive) (readIndexes name (.ofDirective directive)) := by
  have stands := standsIn_ofDirective directive
  refine .bind (stands.objects name) fun objects made => .mapM fun inner among => ?_
  obtain ⟨standsInner, index, place⟩ := stands.of_objects made inner among
  exact readIndex_failsOnly standsInner isTable ⟨name, isList, index, place⟩

theorem readTable_failsOnly (isTable : directive.name = Marker.table.text) :
    FailsOnly (TrueOfDirective directive) (readTable (.ofDirective directive)) := by
  have stands := standsIn_ofDirective directive
  refine .bind (stands.text? "name") fun name _ => ?_
  refine .bind (stands.text? "schema") fun schema _ => ?_
  refine .bind (readIndexes_failsOnly isTable (by decide)) fun indexes _ => ?_
  refine .bind (readIndexes_failsOnly isTable (by decide)) fun uniqueConstraints _ => ?_
  exact .bind (stands.objectAttributes "options") fun options _ => .ok _

theorem readNativeQuery_failsOnly (stands : StandsIn directive arguments) :
    FailsOnly (TrueOfDirective directive) (readNativeQuery arguments) := by
  refine .bind (stands.text "name") fun name _ => ?_
  refine .bind (stands.text "query") fun query _ => ?_
  refine .bind (stands.text? "resultClass") fun resultClass _ => ?_
  exact .bind (stands.text? "resultSetMapping") fun resultSetMapping _ => .ok _

theorem readResultSetMapping_failsOnly (stands : StandsIn directive arguments) :
    FailsOnly (TrueOfDirective directive) (readResultSetMapping arguments) := by
  refine .bind (stands.text "name") fun name _ => ?_
  refine .bind (stands.dataList "entities") fun entities _ => ?_
  exact .bind (stands.dataList "columns") fun columns _ => .ok _

theorem readNamedQuery_failsOnly (stands : StandsIn directive arguments) :
    FailsOnly (TrueOfDirective directive) (readNamedQuery arguments) := by
  refine .bind (stands.text "name") fun name _ => ?_
  exact .bind (stands.text "query") fun query _ => .ok _

theorem readDiscriminator_failsOnly (stands : StandsIn directive arguments) :
    FailsOnly (TrueOfDirective directive) (readDiscriminator arguments) := by
  refine .bind (stands.text "column") fun column _ => ?_
  refine .bind (stands.text? "type") fun type _ => ?_
  exact .bind (stands.natural? "length") fun length _ => .ok _

theorem readAlias_failsOnly (stands : StandsIn directive arguments) :
    FailsOnly (TrueOfDirective directive) (readAlias arguments) := by
  refine .bind (stands.text "alias") fun value _ => ?_
  exact .bind (stands.text "class") fun className _ => .ok _

theorem readClasses_failsOnly (stands : StandsIn directive arguments) :
    FailsOnly (TrueOfDirective directive) (readClasses arguments) := by
  unfold readClasses
  split
  · refine .bind (stands.objects "map") fun objects made => ?_
    refine .bind (.mapM fun inner among => ?_) fun aliases _ => .ok _
    exact readAlias_failsOnly (stands.of_objects made inner among).1
  · rename_i absent
    exact .error (stands.missing (Option.not_isSome_iff_eq_none.mp absent))

theorem readEach_failsOnly {α : Type} {marker : Marker} {name : String}
    {read : Arguments → Checked α}
    (each : ∀ directive inner, StandsIn directive inner →
      FailsOnly (TrueOfDirective directive) (read inner)) :
    FailsOnly (TrueOfClass directives) (readEach marker name read directives) := by
  unfold readEach
  split
  · exact .ok []
  · rename_i directive found
    refine .ofClass found ?_
    have stands := standsIn_ofDirective directive
    refine .bind (stands.objects name) fun objects made => .mapM fun inner among => ?_
    exact each directive inner (stands.of_objects made inner among).1

theorem readKind_failsOnly : FailsOnly (TrueOfClass directives) (readKind directives) := by
  unfold readKind
  split
  · rename_i directive found
    have stands := standsIn_ofDirective directive
    refine .ofClass found ?_
    refine .bind (stands.text? "repositoryClass") fun repositoryClass _ => ?_
    exact .bind (stands.flag "readOnly") fun readOnly _ => .ok _
  · rename_i noEntity
    split
    · rename_i directive found
      refine .ofClass found ?_
      exact .bind ((standsIn_ofDirective directive).text? "repositoryClass")
        fun repositoryClass _ => .ok _
    · rename_i noSuperclass
      split
      · exact .ok _
      · rename_i notEmbeddable
        refine .error ?_
        simp [TrueOfClass, Marker.isAmong, noEntity, noSuperclass]
        simpa [Marker.isAmong] using notEmbeddable

theorem readInheritance_failsOnly :
    FailsOnly (TrueOfClass directives) (readInheritance directives) := by
  unfold readInheritance
  split
  · exact .ok none
  · rename_i directive found
    refine .bind ?_ fun written isWritten => .bind ?_ fun strategy isStrategy => ?_
    · exact .ofClass found ((standsIn_ofDirective directive).text "type")
    · exact .vocabulary ⟨_, directive, found, writes_of_text isWritten⟩
    · split
      · exact .ok _
      · rename_i isHierarchy
        split
        · rename_i noDiscriminator
          refine .error ⟨isHierarchy, ?_, ?_⟩
          · simp [Marker.isAmong, found]
          · simp [Marker.isAmong, noDiscriminator]
        · rename_i discriminator found
          refine .ofClass found ?_
          have stands := standsIn_ofDirective discriminator
          refine .bind (readDiscriminator_failsOnly stands) fun _ _ => ?_
          exact .bind (readClasses_failsOnly stands) fun _ _ => .ok _

theorem readChangeTracking_failsOnly :
    FailsOnly (TrueOfClass directives) (readChangeTracking directives) := by
  unfold readChangeTracking
  split
  · exact .ok none
  · rename_i directive found
    refine .ofClass found ?_
    refine .bind ((standsIn_ofDirective directive).text "policy") fun written isWritten => ?_
    exact .bind (.vocabulary (writes_of_text isWritten)) fun policy _ => .ok _

theorem ofDirectives_failsOnly :
    FailsOnly (TrueOfClass directives) (ofDirectives directives) := by
  refine .bind readKind_failsOnly fun kind _ => ?_
  split
  on_goal 1 => refine .bind (.ok none) fun table _ => ?_
  on_goal 2 =>
    rename_i directive found
    refine .bind (.ofClass found (.map ?_ _)) fun table _ => ?_
    · exact readTable_failsOnly (Marker.name_of_among found)
  all_goals
    refine .bind (cacheOverride_failsOnly.mono ?_) fun cache _ => ?_
    · rintro fault ⟨directive, found, isTrue⟩
      exact isTrue.ofClass found
    refine .bind (readEach_failsOnly fun _ _ => readNativeQuery_failsOnly) fun _ _ => ?_
    refine .bind (readEach_failsOnly fun _ _ => readResultSetMapping_failsOnly) fun _ _ => ?_
    refine .bind (readEach_failsOnly fun _ _ => readNamedQuery_failsOnly) fun _ _ => ?_
    refine .bind readInheritance_failsOnly fun inheritance _ => ?_
    exact .bind readChangeTracking_failsOnly fun changeTracking _ => .ok _

end ClassSettings

/-! ## Settings of a field -/

namespace FieldSettings

variable {arguments : Arguments} {field : Field}

theorem readJoinColumn_failsOnly (stands : StandsIn directive arguments) {path : ArgumentPath}
    {value : Value} (reached : reached? directive path = some value) :
    FailsOnly (TrueOfDirective directive) (readJoinColumn arguments path value) := by
  unfold readJoinColumn
  split
  · exact .ok _
  · rename_i fields
    have inner : StandsIn directive { arguments with place := path, entries := fields } :=
      ⟨stands.name, reached⟩
    refine .bind (inner.text "name") fun name _ => ?_
    refine .bind (inner.text? "referencedColumnName") fun referencedColumn _ => ?_
    refine .bind (inner.flag "unique") fun isUnique _ => ?_
    refine .bind (inner.boolean? "nullable") fun isNullable _ => ?_
    refine .bind (inner.text? "onDelete") fun onDelete _ => ?_
    exact .bind (inner.text? "columnDefinition") fun columnDefinition _ => .ok _
  · exact .error (stands.wrong reached .joinColumn)

theorem readJoinColumns_failsOnly (stands : StandsIn directive arguments) (name : String) :
    FailsOnly (TrueOfDirective directive) (readJoinColumns name arguments) := by
  unfold readJoinColumns
  split
  · exact .ok []
  · rename_i items given
    exact .mapM fun placed among =>
      readJoinColumn_failsOnly stands (stands.reached?_placed given among).1
  · rename_i single _ given
    exact .map (readJoinColumn_failsOnly stands (stands.reached?_of_get? given)) _

theorem readJoin_failsOnly : FailsOnly (TrueOfField field) (readJoin field) := by
  unfold readJoin
  split
  · exact .ok []
  · rename_i directive found
    have stands := standsIn_ofDirective directive
    dsimp only
    split
    · refine .ofField found ?_
      split
      on_goal 1 => refine .bind (.ok []) fun single _ => ?_
      on_goal 2 =>
        rename_i value given
        refine .bind (.map ?_ _) fun single _ => ?_
        · exact readJoinColumn_failsOnly stands (stands.reached?_of_get? given)
      all_goals
        exact .bind (readJoinColumns_failsOnly stands "columns") fun several _ => .ok _
    · rename_i nothing
      rw [Bool.or_eq_true, not_or] at nothing
      exact .error ⟨rfl, directive, found, isGiven_iff.not.mpr nothing.1,
        isGiven_iff.not.mpr nothing.2⟩

theorem readJoinTable_failsOnly : FailsOnly (TrueOfField field) (readJoinTable field) := by
  unfold readJoinTable
  split
  · exact .ok none
  · rename_i directive found
    have stands := standsIn_ofDirective directive
    refine .ofField found ?_
    refine .bind (stands.text? "name") fun name _ => ?_
    refine .bind (stands.text? "schema") fun schema _ => ?_
    refine .bind (readJoinColumns_failsOnly stands "joinColumns") fun joinColumns _ => ?_
    exact .bind (readJoinColumns_failsOnly stands "inverseJoinColumns") fun _ _ => .ok _

theorem readOrderBy_failsOnly : FailsOnly (TrueOfField field) (readOrderBy field) := by
  unfold readOrderBy
  split
  · exact .ok []
  · rename_i directive found
    refine .ofField found (.mapM fun entry _ => ?_)
    refine .bind ((standsIn_ofDirective directive).text entry.1) fun written isWritten => ?_
    exact .bind (.vocabulary (writes_of_text isWritten)) fun direction _ => .ok _

/-! ### Associations -/

variable {marker : Marker}

theorem readSides_failsOnly (found : marker.among field.directives = some directive)
    (twoSided : marker ∈ [Marker.oneToOne, Marker.manyToMany]) :
    FailsOnly (TrueOfField field) (readSides field.name (.ofDirective directive)) := by
  have stands := standsIn_ofDirective directive
  refine .bind (.ofField found (stands.text? "mappedBy"))
    fun mappedBy isMappedBy => ?_
  refine .bind (.ofField found (stands.text? "inversedBy"))
    fun inversedBy isInversedBy => ?_
  split
  · rename_i both
    rw [Bool.and_eq_true] at both
    exact .error ⟨rfl, marker, twoSided, directive, found, isGiven_of_text? isMappedBy both.1,
      isGiven_of_text? isInversedBy both.2⟩
  · exact .ok _

theorem readAssociation_failsOnly (cardinality : Cardinality) (fieldName : String) :
    FailsOnly (TrueOfDirective directive)
      (readAssociation cardinality fieldName (.ofDirective directive)) := by
  have stands := standsIn_ofDirective directive
  refine .bind (stands.text "targetEntity") fun target _ => ?_
  refine .bind (stands.texts "cascade") fun cascade _ => ?_
  exact .bind (vocabulary?_failsOnly "fetch" fun _ writes => writes) fun fetch _ => .ok _

theorem readOneToOne_failsOnly (found : Marker.oneToOne.among field.directives = some directive)
    (joinColumns : List JoinColumn) :
    FailsOnly (TrueOfField field) (readOneToOne field joinColumns (.ofDirective directive)) := by
  have stands := standsIn_ofDirective directive
  refine .bind (.ofField found (readAssociation_failsOnly _ _))
    fun association _ => ?_
  refine .bind (readSides_failsOnly found (by decide)) fun sides _ => ?_
  exact .bind (.ofField found (stands.flag "orphanRemoval"))
    fun orphanRemoval _ => .ok _

theorem readOneToMany_failsOnly (found : Marker.oneToMany.among field.directives = some directive) :
    FailsOnly (TrueOfField field) (readOneToMany field (.ofDirective directive)) := by
  have stands := standsIn_ofDirective directive
  refine .bind (.ofField found (readAssociation_failsOnly _ _))
    fun association _ => ?_
  refine .bind (.ofField found (stands.text "mappedBy"))
    fun mappedBy _ => ?_
  refine .bind (.ofField found (stands.text? "indexBy"))
    fun indexBy _ => ?_
  refine .bind (.ofField found (stands.flag "orphanRemoval"))
    fun orphanRemoval _ => ?_
  exact .bind readOrderBy_failsOnly fun orderBy _ => .ok _

theorem readManyToOne_failsOnly (found : Marker.manyToOne.among field.directives = some directive)
    (joinColumns : List JoinColumn) :
    FailsOnly (TrueOfField field) (readManyToOne field joinColumns (.ofDirective directive)) := by
  refine .ofField found ?_
  refine .bind (readAssociation_failsOnly _ _) fun association _ => ?_
  exact .bind ((standsIn_ofDirective directive).text? "inversedBy") fun inversedBy _ => .ok _

theorem readManyToMany_failsOnly
    (found : Marker.manyToMany.among field.directives = some directive) :
    FailsOnly (TrueOfField field) (readManyToMany field (.ofDirective directive)) := by
  have stands := standsIn_ofDirective directive
  refine .bind (.ofField found (readAssociation_failsOnly _ _))
    fun association _ => ?_
  refine .bind (readSides_failsOnly found (by decide)) fun sides _ => ?_
  refine .bind (.ofField found (stands.text? "indexBy"))
    fun indexBy _ => ?_
  refine .bind (.ofField found (stands.flag "orphanRemoval"))
    fun orphanRemoval _ => ?_
  refine .bind readOrderBy_failsOnly fun orderBy _ => ?_
  exact .bind readJoinTable_failsOnly fun joinTable _ => .ok _

/-! ### Columns and embedded objects -/

theorem readEmbedded_failsOnly (stands : StandsIn directive arguments) (fieldName : String) :
    FailsOnly (TrueOfDirective directive) (readEmbedded fieldName arguments) := by
  refine .bind (stands.text "class") fun className _ => .bind ?_ fun columnPrefix _ => .ok _
  unfold readColumnPrefix
  split
  · exact .ok _
  · exact .ok _
  · exact .ok _
  · exact .ok _
  · rename_i other _ _ _ given
    exact .error (stands.wrong (stands.reached?_of_get? given) .columnPrefix)

theorem readGenerator_failsOnly : FailsOnly (TrueOfField field) (readGenerator field) := by
  unfold readGenerator
  split
  · exact .ok none
  · rename_i directive found
    refine .ofField found ?_
    refine .bind ((standsIn_ofDirective directive).text? "strategy") fun written isWritten => ?_
    refine .bind ?_ fun strategy _ => .ok _
    cases written with
    | some text => exact .vocabulary (writes_of_text? isWritten)
    | none =>
        -- the strategy that is taken by default is always known
        have known : (Arguments.vocabulary (.unknownValue .generator)
            (Vocabulary.text IdGenerator.auto) : Checked IdGenerator) = .ok .auto := by decide
        exact known ▸ .ok _

theorem readKeySource_failsOnly : FailsOnly (TrueOfField field) (readKeySource field) := by
  unfold readKeySource
  split
  · exact .ok _
  · split
    · exact .ok _
    · rename_i directive found
      refine .ofField found ?_
      exact .bind ((standsIn_ofDirective directive).text "class") fun className _ => .ok _

theorem readColumn_failsOnly (found : marker.among field.directives = some directive) :
    FailsOnly (TrueOfField field) (readColumn field (.ofDirective directive)) := by
  have stands := standsIn_ofDirective directive
  refine .bind (.ofField found (stands.text? "name"))
    fun columnName _ => ?_
  refine .bind (.ofField found (stands.text? "type"))
    fun typeName _ => ?_
  refine .bind readGenerator_failsOnly fun generator _ => ?_
  exact .bind readKeySource_failsOnly fun keySource _ => .ok _

/-! ### Fields -/

theorem readKind_failsOnly (joinColumns : List JoinColumn) :
    FailsOnly (TrueOfField field) (readKind field joinColumns) := by
  unfold readKind
  split
  · exact .ok _
  · rename_i marker directive decides
    have found := among_of_decisive? decides
    cases marker with
    | column => exact .map (readColumn_failsOnly found) _
    | oneToOne => exact .map (readOneToOne_failsOnly found joinColumns) _
    | oneToMany => exact .map (readOneToMany_failsOnly found) _
    | manyToOne => exact .map (readManyToOne_failsOnly found joinColumns) _
    | manyToMany => exact .map (readManyToMany_failsOnly found) _
    | embedded =>
        have stands := standsIn_ofDirective directive
        exact .map (.ofField found (readEmbedded_failsOnly stands field.name)) _
    | _ => exact .ok _

theorem ofField_failsOnly (field : Field) : FailsOnly (TrueOfField field) (ofField field) := by
  unfold ofField
  split
  · rename_i isGenerated
    exact .error ⟨rfl, isGenerated⟩
  · refine .bind (cacheOverride_failsOnly.mono ?_) fun cache _ => ?_
    · rintro fault ⟨directive, found, isTrue⟩
      exact isTrue.ofField found
    refine .bind readJoin_failsOnly fun joinColumns _ => ?_
    exact .bind (readKind_failsOnly joinColumns) fun kind _ => .ok _

end FieldSettings

/-! ## Types -/

/-- When a type cannot be evaluated, the error names the class that was asked for, and its
fault is true of the type or of one of its fields: a missing argument is missing where the path
says, a value of the wrong kind is there, and what else a fault names is found in the type. -/
theorem evaluate_error_true {className : String} {type : ObjectType} {record : ClassMapping}
    {error : EvaluationError} (failed : evaluate className type record = .error error) :
    error.className = className ∧ (TrueOfClass type.directives error.fault ∨
      ∃ field ∈ type.fields, TrueOfField field error.fault) := by
  refine ⟨className_of_evaluate_error failed, ?_⟩
  have ofType : FailsOnly (fun fault => TrueOfClass type.directives fault ∨
      ∃ field ∈ type.fields, TrueOfField field fault) (TypeSettings.ofType type) := by
    refine .bind (ClassSettings.ofDirectives_failsOnly.mono fun _ => Or.inl) fun ofClass _ => ?_
    refine .bind (.mapM fun field isField => ?_) fun ofFields _ => .ok _
    exact (FieldSettings.ofField_failsOnly field).mono
      fun _ isTrue => Or.inr ⟨field, isField, isTrue⟩
  unfold evaluate at failed
  split at failed
  · cases failed
  · rename_i fault isFault
    cases failed
    exact ofType fault isFault

/-- A type whose second index has a number for its options, and whose field is a join without
any column. -/
def misindexedType : ObjectType :=
  ⟨none, "User", [], [⟨"Entity", [], ⟨0, 0⟩⟩, ⟨"Table", [⟨"indexes", .list [
      .object [("columns", .string "name")],
      .object [("columns", .string "mail"), ("options", .int 3), ("options", .null)]], ⟨0, 0⟩⟩],
    ⟨0, 0⟩⟩],
    [⟨none, "group", [], .named "ID", [⟨"Join", [], ⟨0, 0⟩⟩], ⟨0, 0⟩⟩], ⟨0, 0⟩⟩

theorem misindexedType_error :
    let error : EvaluationError := ⟨"User",
      .wrongKind "Table" [.key "indexes", .index 1, .key "options"] .object .int⟩
    evaluate "User" misindexedType (.empty "User") = .error error ∧
      (TrueOfClass misindexedType.directives error.fault ∨
        ∃ field ∈ misindexedType.fields, TrueOfField field error.fault) := by
  have failed : evaluate "User" misindexedType (.empty "User") = .error ⟨"User",
      .wrongKind "Table" [.key "indexes", .index 1, .key "options"] .object .int⟩ := by
    rfl
  exact ⟨failed, (evaluate_error_true failed).2⟩

end EntityMapping.Settings
