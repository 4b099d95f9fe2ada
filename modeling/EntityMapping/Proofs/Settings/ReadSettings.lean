import EntityMapping.Proofs.Outcome
import EntityMapping.Proofs.Record.WellFormed
import EntityMapping.Settings.ClassSettings
import EntityMapping.Settings.FieldSettings

/-!
# What is read from annotations

Settings that are read without a fault are well formed: indexes have columns or
fields, and associations have what goes with their cardinality.
-/

namespace EntityMapping.Settings

open EntityMapping.Document
open EntityMapping.Record

/-! ## Tables -/

namespace ClassSettings

theorem readIndex_wellFormed {arguments : Arguments} {index : Index}
    (read : readIndex arguments = .ok index) : index.WellFormed := by
  obtain ⟨name, -, read⟩ := bind_eq_ok_iff.mp read
  obtain ⟨columns, -, read⟩ := bind_eq_ok_iff.mp read
  obtain ⟨fields, -, read⟩ := bind_eq_ok_iff.mp read
  obtain ⟨flags, -, read⟩ := bind_eq_ok_iff.mp read
  obtain ⟨options, -, read⟩ := bind_eq_ok_iff.mp read
  split at read
  · cases read
  · rename_i covered
    cases read
    rw [Bool.and_eq_true, List.isEmpty_iff, List.isEmpty_iff] at covered
    by_cases noColumn : columns = []
    · exact Or.inr fun noField => covered ⟨noColumn, noField⟩
    · exact Or.inl noColumn

theorem readIndexes_wellFormed {name : String} {arguments : Arguments} {indexes : List Index}
    (read : readIndexes name arguments = .ok indexes) :
    ∀ index ∈ indexes, index.WellFormed := by
  obtain ⟨objects, -, read⟩ := bind_eq_ok_iff.mp read
  intro index member
  obtain ⟨inner, -, readInner⟩ := exists_of_mapM_eq_ok read index member
  exact readIndex_wellFormed readInner

theorem readTable_wellFormed {arguments : Arguments} {table : Table}
    (read : readTable arguments = .ok table) : table.WellFormed := by
  obtain ⟨name, -, read⟩ := bind_eq_ok_iff.mp read
  obtain ⟨schema, -, read⟩ := bind_eq_ok_iff.mp read
  obtain ⟨indexes, readIndexes, read⟩ := bind_eq_ok_iff.mp read
  obtain ⟨uniqueConstraints, readConstraints, read⟩ := bind_eq_ok_iff.mp read
  obtain ⟨options, -, read⟩ := bind_eq_ok_iff.mp read
  cases read
  exact
    { indexes := readIndexes_wellFormed readIndexes
      uniqueConstraints := readIndexes_wellFormed readConstraints }

/-- The settings of a class are what its annotations say, part by part. -/
structure ReadFrom (settings : ClassSettings) (directives : List Directive) : Prop where
  kind : readKind directives = .ok settings.kind
  table : ∀ table ∈ settings.table, ∃ directive, Marker.table.among directives = some directive ∧
    readTable (.ofDirective directive) = .ok table
  cache : CacheOverride.ofDirectives directives = .ok settings.cache
  nativeQueries : readEach .nativeQueries "queries" readNativeQuery directives =
    .ok settings.nativeQueries
  resultSetMappings : readEach .resultSetMappings "mappings" readResultSetMapping directives =
    .ok settings.resultSetMappings
  namedQueries : readEach .namedQueries "queries" readNamedQuery directives =
    .ok settings.namedQueries
  inheritance : readInheritance directives = .ok settings.inheritance
  changeTracking : readChangeTracking directives = .ok settings.changeTracking

theorem readFrom_of_ofDirectives {directives : List Directive} {settings : ClassSettings}
    (read : ofDirectives directives = .ok settings) : settings.ReadFrom directives := by
  obtain ⟨kind, readKind, read⟩ := bind_eq_ok_iff.mp read
  split at read
  on_goal 2 => rename_i directive found
  all_goals
    obtain ⟨table, readTable, read⟩ := bind_eq_ok_iff.mp read
    obtain ⟨cache, readCache, read⟩ := bind_eq_ok_iff.mp read
    obtain ⟨nativeQueries, readNative, read⟩ := bind_eq_ok_iff.mp read
    obtain ⟨resultSetMappings, readMappings, read⟩ := bind_eq_ok_iff.mp read
    obtain ⟨namedQueries, readNamed, read⟩ := bind_eq_ok_iff.mp read
    obtain ⟨inheritance, readInheritance, read⟩ := bind_eq_ok_iff.mp read
    obtain ⟨changeTracking, readTracking, read⟩ := bind_eq_ok_iff.mp read
    cases read
    refine ⟨readKind, ?_, readCache, readNative, readMappings, readNamed, readInheritance,
      readTracking⟩
  · cases readTable
    exact nofun
  · obtain ⟨written, readWritten, rfl⟩ := map_eq_ok_iff.mp readTable
    rintro table same
    cases same
    exact ⟨directive, found, readWritten⟩

theorem ofDirectives_table {directives : List Directive} {settings : ClassSettings}
    (read : ofDirectives directives = .ok settings) :
    ∀ table ∈ settings.table, table.WellFormed := by
  intro table member
  obtain ⟨directive, -, readTable⟩ := (readFrom_of_ofDirectives read).table table member
  exact readTable_wellFormed readTable

end ClassSettings

/-! ## Associations -/

namespace FieldSettings

theorem readAssociation_eq_plain {cardinality : Cardinality} {fieldName : String}
    {arguments : Arguments} {association : Association}
    (read : readAssociation cardinality fieldName arguments = .ok association) :
    ∃ target cascade fetch, association =
      { Association.plain fieldName cardinality target with cascade := cascade, fetch := fetch } := by
  obtain ⟨target, -, read⟩ := bind_eq_ok_iff.mp read
  obtain ⟨cascade, -, read⟩ := bind_eq_ok_iff.mp read
  obtain ⟨fetch, -, read⟩ := bind_eq_ok_iff.mp read
  cases read
  exact ⟨target, _, _, rfl⟩

theorem readSides_one {fieldName : String} {arguments : Arguments}
    {sides : Option String × Option String}
    (read : readSides fieldName arguments = .ok sides) : sides.1 = none ∨ sides.2 = none := by
  obtain ⟨mappedBy, -, read⟩ := bind_eq_ok_iff.mp read
  obtain ⟨inversedBy, -, read⟩ := bind_eq_ok_iff.mp read
  split at read
  · cases read
  · rename_i single
    cases read
    cases mappedBy with
    | none => exact Or.inl rfl
    | some owner =>
        cases inversedBy with
        | none => exact Or.inr rfl
        | some inverse => exact absurd rfl single

theorem readOneToOne_wellFormed {field : Field} {joinColumns : List JoinColumn}
    {arguments : Arguments} {association : Association}
    (read : readOneToOne field joinColumns arguments = .ok association) :
    association.WellFormed := by
  obtain ⟨plain, readPlain, read⟩ := bind_eq_ok_iff.mp read
  obtain ⟨sides, readBoth, read⟩ := bind_eq_ok_iff.mp read
  obtain ⟨orphanRemoval, -, read⟩ := bind_eq_ok_iff.mp read
  obtain ⟨target, cascade, fetch, rfl⟩ := readAssociation_eq_plain readPlain
  cases read
  exact
    { oneSide := readSides_one readBoth
      oneToOne := fun _ => ⟨rfl, rfl, rfl⟩
      oneToMany := nofun
      manyToOne := nofun
      manyToMany := nofun }

theorem readOneToMany_wellFormed {field : Field} {arguments : Arguments}
    {association : Association} (read : readOneToMany field arguments = .ok association) :
    association.WellFormed := by
  obtain ⟨plain, readPlain, read⟩ := bind_eq_ok_iff.mp read
  obtain ⟨mappedBy, -, read⟩ := bind_eq_ok_iff.mp read
  obtain ⟨indexBy, -, read⟩ := bind_eq_ok_iff.mp read
  obtain ⟨orphanRemoval, -, read⟩ := bind_eq_ok_iff.mp read
  obtain ⟨orderBy, -, read⟩ := bind_eq_ok_iff.mp read
  obtain ⟨target, cascade, fetch, rfl⟩ := readAssociation_eq_plain readPlain
  cases read
  exact
    { oneSide := Or.inr rfl
      oneToOne := nofun
      oneToMany := fun _ => ⟨Option.some_ne_none mappedBy, rfl, rfl, rfl⟩
      manyToOne := nofun
      manyToMany := nofun }

theorem readManyToOne_wellFormed {field : Field} {joinColumns : List JoinColumn}
    {arguments : Arguments} {association : Association}
    (read : readManyToOne field joinColumns arguments = .ok association) :
    association.WellFormed := by
  obtain ⟨plain, readPlain, read⟩ := bind_eq_ok_iff.mp read
  obtain ⟨inversedBy, -, read⟩ := bind_eq_ok_iff.mp read
  obtain ⟨target, cascade, fetch, rfl⟩ := readAssociation_eq_plain readPlain
  cases read
  exact
    { oneSide := Or.inl rfl
      oneToOne := nofun
      oneToMany := nofun
      manyToOne := fun _ => ⟨rfl, rfl, rfl, rfl⟩
      manyToMany := nofun }

theorem readManyToMany_wellFormed {field : Field} {arguments : Arguments}
    {association : Association} (read : readManyToMany field arguments = .ok association) :
    association.WellFormed := by
  obtain ⟨plain, readPlain, read⟩ := bind_eq_ok_iff.mp read
  obtain ⟨sides, readBoth, read⟩ := bind_eq_ok_iff.mp read
  obtain ⟨indexBy, -, read⟩ := bind_eq_ok_iff.mp read
  obtain ⟨orphanRemoval, -, read⟩ := bind_eq_ok_iff.mp read
  obtain ⟨orderBy, -, read⟩ := bind_eq_ok_iff.mp read
  obtain ⟨joinTable, -, read⟩ := bind_eq_ok_iff.mp read
  obtain ⟨target, cascade, fetch, rfl⟩ := readAssociation_eq_plain readPlain
  cases read
  exact
    { oneSide := readSides_one readBoth
      oneToOne := nofun
      oneToMany := nofun
      manyToOne := nofun
      manyToMany := fun _ => ⟨rfl, rfl⟩ }

theorem readKind_association {field : Field} {joinColumns : List JoinColumn}
    {association : Association}
    (read : readKind field joinColumns = .ok (.association association)) :
    association.WellFormed := by
  unfold readKind at read
  split at read
  · cases read
  · split at read
    · obtain ⟨settings, -, same⟩ := map_eq_ok_iff.mp read
      cases same
    · obtain ⟨inner, readInner, same⟩ := map_eq_ok_iff.mp read
      cases same
      exact readOneToOne_wellFormed readInner
    · obtain ⟨inner, readInner, same⟩ := map_eq_ok_iff.mp read
      cases same
      exact readOneToMany_wellFormed readInner
    · obtain ⟨inner, readInner, same⟩ := map_eq_ok_iff.mp read
      cases same
      exact readManyToOne_wellFormed readInner
    · obtain ⟨inner, readInner, same⟩ := map_eq_ok_iff.mp read
      cases same
      exact readManyToMany_wellFormed readInner
    · obtain ⟨embedded, -, same⟩ := map_eq_ok_iff.mp read
      cases same
    · cases read

theorem ofField_association {field : Field} {settings : FieldSettings}
    (read : ofField field = .ok settings) {association : Association}
    (isAssociation : settings.kind = .association association) : association.WellFormed := by
  unfold ofField at read
  split at read
  · cases read
  · obtain ⟨cache, -, read⟩ := bind_eq_ok_iff.mp read
    obtain ⟨joinColumns, -, read⟩ := bind_eq_ok_iff.mp read
    obtain ⟨kind, readKind, read⟩ := bind_eq_ok_iff.mp read
    cases read
    cases isAssociation
    exact readKind_association readKind

end FieldSettings

end EntityMapping.Settings
