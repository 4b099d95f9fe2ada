import Mathlib
import EntityMapping.Proofs.Catalog.Availability
import EntityMapping.Proofs.Catalog.Freshness
import EntityMapping.Proofs.Files.Listing

/-!
# Classes that are found are listed

A catalog finds a class by the name of its file, and lists classes by going through the
directories of its search paths.  Main statement: on the same files, a class that is found in
a file below one of these directories is among those that are listed.
-/

namespace EntityMapping

open EntityMapping.Document
open EntityMapping.Files
open EntityMapping.Settings
open EntityMapping.Text

/-! ## Files that are looked up -/

namespace Files.Search

variable {search : Search} {tree : Tree} {path : Path} {className : String}

theorem exists_join_of_find? (found : search.find? tree className = some path) :
    tree.isFile path = true ∧
      ∃ directory ∈ search.paths, path = directory.join (utf8 (search.fileName className)) := by
  obtain ⟨directory, member, same⟩ := List.mem_map.mp (List.mem_of_find?_eq_some found)
  exact ⟨List.find?_some found, directory, member, same.symm⟩

/-- The name of a file that is looked up has the extension, which is all behind the last
slash. -/
theorem accepts_of_find? (noSlash : '/' ∉ search.extension.toList)
    (found : search.find? tree className = some path) :
    ∀ piece ∈ path.pieces.getLast?, search.accepts piece = true := by
  obtain ⟨-, directory, -, rfl⟩ := exists_join_of_find? found
  intro piece isLast
  obtain ⟨front, isEnd⟩ := exists_getLast?_splitSlashes
    (className.map fun c => if c = '\\' then '.' else c) noSlash
  rw [Path.getLast?_pieces_join, Path.pieces, fileName, isEnd] at isLast
  cases isLast
  exact search.accepts_utf8_append front

end Files.Search

/-! ## Classes that are kept -/

namespace Catalog

variable {tree : Tree} {catalog final : Catalog} {path : Path}

/-- Merging keeps the classes of all files that are merged, and lists them. -/
theorem mergeFrom_keeps {paths : List Path} {merged result : Files.Classes}
    (merges : (mergeFrom tree paths merged catalog).1 = .ok result) :
    (∀ name ∈ merged.keys, name ∈ result.keys) ∧
      ∀ path ∈ paths, ∃ classes : Files.Classes,
        (mergeFrom tree paths merged catalog).2.loaded? path = some classes ∧
        ∀ name ∈ classes.keys, name ∈ result.keys := by
  induction paths generalizing merged catalog with
  | nil =>
      cases merges
      exact ⟨fun name member => member, List.forall_mem_nil _⟩
  | cons path paths ih =>
      cases used : (catalog.classes tree path).1 with
      | error error =>
          rw [mergeFrom_cons_of_error used] at merges
          cases merges
      | ok classes =>
          rw [mergeFrom_cons_of_ok used] at merges ⊢
          obtain ⟨fromMerged, fromOthers⟩ := ih merges
          obtain ⟨compiled, compiles⟩ :=
            compiles_mergeFrom tree paths (Keyed.override merged classes)
              (catalog.classes tree path).2
          refine ⟨fun name member => ?_, List.forall_mem_cons.mpr ⟨?_, fromOthers⟩⟩
          · exact fromMerged name
              ((Keyed.mem_keys_override merged classes name).mpr (Or.inl member))
          · refine ⟨classes, loaded?_of_prefix compiles.loaded_prefix (loaded?_classes used),
              fun name member => ?_⟩
            exact fromMerged name
              ((Keyed.mem_keys_override merged classes name).mpr (Or.inr member))

/-- A class that is found is declared in the file that is named after it. -/
theorem Honest.exists_of_definition (honest : catalog.Honest tree) {className : String}
    {type : ObjectType} (defined : (catalog.definition tree className).1 = .ok type) :
    ∃ path classes, catalog.search.find? tree className = some path ∧
      readClasses tree path = .ok classes ∧ classes.lookup className = some type := by
  cases found : catalog.search.find? tree className with
  | none =>
      rw [definition, found] at defined
      cases defined
  | some path =>
      rw [definition_eq_of_find? found, honest.classes_eq (List.find?_some found)] at defined
      cases read : readClasses tree path with
      | error error =>
          rw [read] at defined
          cases defined
      | ok classes =>
          rw [read] at defined
          exact ⟨path, classes, rfl, read, typeIn_eq_ok_iff.mp defined⟩

/-- Classes of a file at a place that is listed are among the names. -/
theorem Honest.mem_names (honest : catalog.Honest tree) {names : List String}
    (listed : (catalog.names tree).1 = .ok names) {classes : Files.Classes}
    (among : ∀ files, catalog.search.files tree = .ok files →
      ∃ other ∈ files, tree.names other = tree.names path)
    (read : readClasses tree path = .ok classes) : ∀ name ∈ classes.keys, name ∈ names := by
  obtain ⟨result, defined, rfl⟩ := map_eq_ok_iff.mp listed
  obtain ⟨files, areFiles, merges⟩ := definitions_eq_ok_iff.mp defined
  obtain ⟨other, isListed, same⟩ := among files areFiles
  obtain ⟨found, kept, areNames⟩ := (mergeFrom_keeps merges).2 other isListed
  obtain ⟨paths, compiles⟩ := compiles_mergeFrom tree files [] catalog
  have isFile := isFile_of_readClasses read
  have readFound := (honest.compiles compiles).readClasses_eq kept same isFile
  rw [read] at readFound
  cases readFound
  exact areNames

end Catalog

/-- However a catalog has been used on files, a class that it finds there is among the names
that it lists there, if the extension is free of slashes and the file of the class stands below
one of the search paths.  It does if it was found through a path that is not empty, by a name
that neither starts at the root nor has steps up. -/
theorem class_listed_of_found (search : Search) (tree : Tree) (first second : List Question)
    {className : String} {type : ObjectType} {names : List String}
    (noSlash : '/' ∉ search.extension.toList)
    (defined : (((World.start search tree).run (first.map .ask)).catalog.definition
      tree className).1 = .ok type)
    (listed : (((World.start search tree).run (second.map .ask)).catalog.names tree).1 =
      .ok names) :
    ∃ path, search.find? tree className = some path ∧
      ((∃ directory ∈ search.paths, tree.StandsBelow directory path) → className ∈ names) ∧
      ((∃ directory ∈ search.paths, directory.bytes ≠ [] ∧
          directory.join (utf8 (search.fileName className)) = path) →
        (Path.ofText (search.fileName className)).isAbsolute = false →
        twoDots ∉ (Path.ofText (search.fileName className)).pieces → className ∈ names) := by
  have firstHonest := @World.honest_run (World.start search tree)
    (Catalog.honest_new tree search) first
  have secondHonest := @World.honest_run (World.start search tree)
    (Catalog.honest_new tree search) second
  have firstSearch := World.search_run (World.start search tree) (first.map .ask)
  have secondSearch := World.search_run (World.start search tree) (second.map .ask)
  obtain ⟨path, classes, found, read, isType⟩ := firstHonest.exists_of_definition defined
  rw [firstSearch] at found
  have isFile := isFile_of_readClasses read
  have ofBelow : (∃ directory ∈ search.paths, tree.StandsBelow directory path) →
      className ∈ names := by
    rintro ⟨directory, member, stands⟩
    have accepted := Search.accepts_of_find? noSlash found
    have among : ∀ files, ((World.start search tree).run
        (second.map .ask)).catalog.search.files tree = .ok files →
          ∃ other ∈ files, tree.names other = tree.names path := by
      rw [secondSearch]
      exact fun files areFiles =>
        Search.exists_mem_files_of_standsBelow isFile accepted member stands areFiles
    exact secondHonest.mem_names listed among read className (Keyed.mem_keys_of_lookup isType)
  refine ⟨path, found, ofBelow, ?_⟩
  rintro ⟨directory, member, nonempty, rfl⟩ relative neverUp
  exact ofBelow ⟨directory, member, Tree.standsBelow_join nonempty relative isFile neverUp⟩

/-! ## Ways to one file -/

/-- A mapping file of four classes. -/
def waysText : String :=
  "type A@Class(name:\"m/A\")type B@Class(name:\"../m/A\")type C@Class(name:\"m\")" ++
    "type D@Class(name:\"/m/A\")"

/-- A directory with this file, and an empty one. -/
def waysTree : Tree :=
  ⟨.directory .free
    [(utf8 "m", .directory .free [(utf8 "A.dcm.graphqls", .file (.ok waysText))]),
      (utf8 "s", .directory .free [])], []⟩

/-- The classes of the file. -/
def waysClasses : Files.Classes :=
  [("../m/A", boundType "B" "../m/A" 24), ("/m/A", boundType "D" "/m/A" 73),
    ("m", boundType "C" "m" 51), ("m/A", boundType "A" "m/A" 0)]

theorem readClasses_waysTree {path : Path} (isText : waysTree.readText path = .ok waysText) :
    readClasses waysTree path = .ok waysClasses := by
  have read : Document.read waysText = .ok [.object (boundType "A" "m/A" 0),
      .object (boundType "B" "../m/A" 24), .object (boundType "C" "m" 51),
      .object (boundType "D" "/m/A" 73)] := by
    cbv
  exact readClasses_of_text isText read

namespace Catalog

variable {search : Search} {path : Path}

theorem classes_waysTree (isText : waysTree.readText path = .ok waysText) :
    (Catalog.new search).classes waysTree path =
      (.ok waysClasses, ⟨search, [(path, waysClasses)], [path]⟩) := by
  rw [Catalog.classes, Catalog.loaded?, Catalog.new, List.find?_nil, Option.map_none,
    readClasses_waysTree isText]
  rfl

theorem definition_waysTree {className : String} {type : ObjectType}
    (found : search.find? waysTree className = some path)
    (isText : waysTree.readText path = .ok waysText)
    (isType : waysClasses.lookup className = some type) :
    ((Catalog.new search).definition waysTree className).1 = .ok type := by
  have isFound : (Catalog.new search).search.find? waysTree className = some path := found
  simp only [Catalog.definition, isFound, classes_waysTree isText, isType]

theorem names_of_no_files {tree : Tree} (noFiles : search.files tree = .ok []) :
    ((Catalog.new search).names tree).1 = .ok [] := by
  have nothing : (Catalog.new search).search.files tree = .ok [] := noFiles
  rw [Catalog.names, definitions_of_files nothing]
  rfl

theorem names_waysTree (oneFile : search.files waysTree = .ok [path])
    (isText : waysTree.readText path = .ok waysText) :
    ((Catalog.new search).names waysTree).1 = .ok ["../m/A", "/m/A", "m", "m/A"] := by
  have listed : (Catalog.new search).search.files waysTree = .ok [path] := oneFile
  have used : ((Catalog.new search).classes waysTree path).1 = .ok waysClasses := by
    rw [classes_waysTree isText]
  rw [Catalog.names, definitions_of_files listed, mergeFrom_cons_of_ok used]
  rfl

end Catalog

theorem find?_plainSearch_waysTree :
    plainSearch.find? waysTree "../m/A" = some (.ofText "m/../m/A.dcm.graphqls") := by
  have isName : plainSearch.fileName "../m/A" = "../m/A.dcm.graphqls" := by
    cbv
  exact find?_of_join isName (by decide)

theorem found_class_listed :
    '/' ∉ plainSearch.extension.toList ∧
    ((Catalog.new plainSearch).definition waysTree "../m/A").1 =
      .ok (boundType "B" "../m/A" 24) ∧
    ((Catalog.new plainSearch).names waysTree).1 = .ok ["../m/A", "/m/A", "m", "m/A"] ∧
    waysTree.StandsBelow (.ofText "m") (.ofText "m/../m/A.dcm.graphqls") ∧
    "../m/A" ∈ ["../m/A", "/m/A", "m", "m/A"] := by
  have noSlash : '/' ∉ plainSearch.extension.toList := by decide
  have defined : ((Catalog.new plainSearch).definition waysTree "../m/A").1 =
      .ok (boundType "B" "../m/A" 24) :=
    Catalog.definition_waysTree find?_plainSearch_waysTree rfl rfl
  have listed := Catalog.names_waysTree (files_plainSearch_of_folder rfl) rfl
  have below : waysTree.StandsBelow (.ofText "m") (.ofText "m/../m/A.dcm.graphqls") :=
    { nonempty := by decide
      opened := ⟨utf8 "A.dcm.graphqls", by decide, by decide, rfl⟩
      below := ⟨[utf8 "A.dcm.graphqls"], rfl⟩ }
  obtain ⟨path, found, ofBelow, -⟩ :=
    class_listed_of_found plainSearch waysTree [] [] noSlash defined listed
  rw [find?_plainSearch_waysTree] at found
  cases found
  exact ⟨noSlash, defined, listed, below, ofBelow ⟨.ofText "m", List.mem_cons_self, below⟩⟩

/-- A class is found, and all classes can be listed, but it is not among them. -/
def FoundNotListed (search : Search) (tree : Tree) (className : String) : Prop :=
  ∃ type names, ((Catalog.new search).definition tree className).1 = .ok type ∧
    ((Catalog.new search).names tree).1 = .ok names ∧ className ∉ names

theorem foundNotListed_waysTree {search : Search} {path : Path} {className : String}
    {type : ObjectType} (found : search.find? waysTree className = some path)
    (isText : waysTree.readText path = .ok waysText)
    (isType : waysClasses.lookup className = some type)
    (noFiles : search.files waysTree = .ok []) : FoundNotListed search waysTree className :=
  ⟨type, [], Catalog.definition_waysTree found isText isType, Catalog.names_of_no_files noFiles,
    List.not_mem_nil⟩

/-- A class is not listed if it is found through an empty path, above the search path, from the
root, or by an extension that goes on behind a slash. -/
theorem strays_not_listed :
    FoundNotListed ⟨[.ofText ""], ".dcm.graphqls"⟩ waysTree "m/A" ∧
      FoundNotListed ⟨[.ofText "s"], ".dcm.graphqls"⟩ waysTree "../m/A" ∧
      FoundNotListed ⟨[.ofText "s"], ".dcm.graphqls"⟩ waysTree "/m/A" ∧
      FoundNotListed ⟨[.ofText "."], "/A.dcm.graphqls"⟩ waysTree "m" := by
  have emptyPath : (Search.mk [.ofText ""] ".dcm.graphqls").fileName "m/A" =
      "m/A.dcm.graphqls" := by
    cbv
  have above : (Search.mk [.ofText "s"] ".dcm.graphqls").fileName "../m/A" =
      "../m/A.dcm.graphqls" := by
    cbv
  have absolute : (Search.mk [.ofText "s"] ".dcm.graphqls").fileName "/m/A" =
      "/m/A.dcm.graphqls" := by
    cbv
  have slashed : (Search.mk [.ofText "."] "/A.dcm.graphqls").fileName "m" =
      "m/A.dcm.graphqls" := by
    cbv
  have nothing : (Search.mk [.ofText "."] "/A.dcm.graphqls").files waysTree = .ok [] := by
    have below : (Search.mk [.ofText "."] "/A.dcm.graphqls").filesBelow waysTree (.ofText ".") =
        .ok [] := by
      decide
    rw [Search.files_of_filesBelow below, Path.sort, List.mergeSort_nil]
    rfl
  refine ⟨?_, ?_, ?_, ?_⟩
  · exact foundNotListed_waysTree (find?_of_join emptyPath (by decide)) rfl rfl (by cbv)
  · exact foundNotListed_waysTree (find?_of_join above (by decide)) rfl rfl (by cbv)
  · exact foundNotListed_waysTree (find?_of_join absolute (by decide)) rfl rfl (by cbv)
  · exact foundNotListed_waysTree (find?_of_join slashed (by decide)) rfl rfl nothing

end EntityMapping
