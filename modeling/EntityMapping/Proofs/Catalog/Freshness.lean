import EntityMapping.Proofs.Catalog.Coherence
import EntityMapping.Proofs.Files.Location
import EntityMapping.Proofs.Files.Listing
import EntityMapping.Proofs.Files.LongPaths

/-!
# A used catalog and a new one

As long as the files do not change, what a catalog keeps of a file is what the file
declares, so a catalog replies as a new one would.  Main statement: a run of questions and
changes leaves a coherent catalog, and a run of questions alone leaves one that replies like
a new one.
-/

namespace EntityMapping

open EntityMapping.Document
open EntityMapping.Files
open EntityMapping.Record
open EntityMapping.Settings
open EntityMapping.Text

namespace Catalog

variable {tree : Tree} {catalog left right final : Catalog}

/-! ## Catalogs that keep what the files declare -/

/-- What is kept of a file is what it declares. -/
def Honest (tree : Tree) (catalog : Catalog) : Prop :=
  ∀ entry ∈ catalog.loaded, readClasses tree entry.1 = .ok entry.2

theorem honest_new (tree : Tree) (search : Search) : (new search).Honest tree :=
  List.forall_mem_nil _

theorem Honest.compiles {paths : List Path} (compiles : Compiles tree catalog paths final)
    (honest : catalog.Honest tree) : final.Honest tree := by
  induction compiles with
  | nil catalog => exact honest
  | cons absent behind ih =>
      refine ih (List.forall_mem_append.mpr ⟨honest, fun entry member => ?_⟩)
      obtain ⟨rfl, outcome⟩ := Compilation.kept?_eq_some_iff.mp (Option.mem_toList.mp member)
      exact outcome

theorem Honest.classes (honest : catalog.Honest tree) (path : Path) :
    (catalog.classes tree path).2.Honest tree := by
  obtain ⟨paths, compiles⟩ := compiles_classes tree path catalog
  exact honest.compiles compiles

theorem isSome_loaded?_iff {path : Path} :
    (catalog.loaded? path).isSome = true ↔
      ∃ entry ∈ catalog.loaded, entry.1.same path = true := by
  rw [loaded?, Option.isSome_map, List.find?_isSome]

/-- What is kept under a path is what the file declares under any path to its place. -/
theorem Honest.readClasses_eq (honest : catalog.Honest tree) {path other : Path}
    {classes : Files.Classes} (kept : catalog.loaded? path = some classes)
    (same : tree.names path = tree.names other) (isFile : tree.isFile other = true) :
    readClasses tree other = .ok classes := by
  obtain ⟨entry, found, rfl⟩ := Option.map_eq_some_iff.mp kept
  have underPath : entry.1.same path = true := by simpa using List.find?_some found
  have read := honest entry (List.mem_of_find?_eq_some found)
  exact readClasses_of_names ((Tree.names_of_same underPath).trans same) read isFile

/-- A file that can be opened has the classes that it declares, kept or not. -/
theorem Honest.classes_eq (honest : catalog.Honest tree) {path : Path}
    (isFile : tree.isFile path = true) :
    (catalog.classes tree path).1 = (readClasses tree path).mapError .file := by
  rcases classes_cases tree path catalog with ⟨classes, kept, result⟩ | ⟨-, result⟩
  · rw [result, honest.readClasses_eq kept rfl isFile]
    rfl
  · rw [result]

/-- What is kept was read from a file under an equal path. -/
theorem Honest.exists_isFile (honest : catalog.Honest tree) {path : Path}
    (kept : (catalog.loaded? path).isSome = true) :
    ∃ other, other.same path = true ∧ tree.isFile other = true := by
  obtain ⟨entry, member, same⟩ := isSome_loaded?_iff.mp kept
  exact ⟨entry.1, same, isFile_of_readClasses (honest entry member)⟩

/-- After a file has been used, its path and those equal to it are kept, and all that were
before. -/
theorem isSome_loaded?_classes {path : Path} {classes : Files.Classes}
    (used : (catalog.classes tree path).1 = .ok classes) (other : Path) :
    ((catalog.classes tree path).2.loaded? other).isSome = true ↔
      (catalog.loaded? other).isSome = true ∨ path.same other = true := by
  rcases classes_cases tree path catalog with ⟨found, kept, result⟩ | ⟨absent, result⟩
  · rw [result]
    constructor
    · exact Or.inl
    · rintro (isKept | same)
      · exact isKept
      · have isKept : (catalog.loaded? path).isSome = true := by rw [kept, Option.isSome_some]
        obtain ⟨entry, member, underPath⟩ := isSome_loaded?_iff.mp isKept
        exact isSome_loaded?_iff.mpr ⟨entry, member, Path.same_trans underPath same⟩
  · rw [result] at used ⊢
    have read : readClasses tree path = .ok classes := mapError_eq_ok_iff.mp used
    rw [loaded?_afterCompiling, read]
    cases path.same other <;> simp [Except.toOption]

/-! ## Replies of two catalogs -/

/-- Two catalogs can use a path alike: it leads to a file, or both or neither keep it. -/
def UseAlike (tree : Tree) (left right : Catalog) (path : Path) : Prop :=
  tree.isFile path = true ∨ (left.loaded? path).isSome = (right.loaded? path).isSome

/-- Two catalogs that can use all paths alike can do so after both have used a file. -/
theorem useAlike_classes {path other : Path} {leftClasses rightClasses : Files.Classes}
    (leftUsed : (left.classes tree path).1 = .ok leftClasses)
    (rightUsed : (right.classes tree path).1 = .ok rightClasses)
    (alike : UseAlike tree left right other) :
    UseAlike tree (left.classes tree path).2 (right.classes tree path).2 other := by
  refine alike.imp_right fun sameKept => ?_
  rw [Bool.eq_iff_iff] at sameKept ⊢
  rw [isSome_loaded?_classes leftUsed, isSome_loaded?_classes rightUsed, sameKept]

section Replies

variable (leftHonest : left.Honest tree) (rightHonest : right.Honest tree)
include leftHonest rightHonest

theorem classes_eq_of_honest {path : Path} (alike : UseAlike tree left right path) :
    (left.classes tree path).1 = (right.classes tree path).1 := by
  rcases alike with isFile | sameKept
  · rw [leftHonest.classes_eq isFile, rightHonest.classes_eq isFile]
  · rcases classes_cases tree path left with ⟨leftClasses, leftKept, leftResult⟩ |
      ⟨leftAbsent, leftResult⟩
    · rw [leftKept, Option.isSome_some, eq_comm] at sameKept
      obtain ⟨rightClasses, rightKept⟩ := Option.isSome_iff_exists.mp sameKept
      obtain ⟨other, same, isFile⟩ := rightHonest.exists_isFile sameKept
      have read := leftHonest.readClasses_eq leftKept (Tree.names_of_same same).symm isFile
      rw [rightHonest.readClasses_eq rightKept (Tree.names_of_same same).symm isFile] at read
      cases read
      rw [leftResult, classes, rightKept]
    · rw [leftAbsent, Option.isSome_none, eq_comm, Option.isSome_eq_false_iff] at sameKept
      rcases classes_cases tree path right with ⟨rightClasses, rightKept, -⟩ | ⟨-, rightResult⟩
      · rw [rightKept] at sameKept
        cases sameKept
      · rw [leftResult, rightResult]

theorem definition_eq_of_honest (sameSearch : left.search = right.search) (className : String) :
    (left.definition tree className).1 = (right.definition tree className).1 := by
  cases found : right.search.find? tree className with
  | none => rw [definition, definition, sameSearch, found]
  | some path =>
      have same := classes_eq_of_honest leftHonest rightHonest (Or.inl (List.find?_some found))
      rw [definition_eq_of_find? (sameSearch ▸ found), definition_eq_of_find? found, same]

theorem load_eq_of_honest (sameSearch : left.search = right.search) (className : String)
    (record : ClassMapping) :
    (left.load tree className record).1 = (right.load tree className record).1 := by
  rw [load_eq, load_eq, definition_eq_of_honest leftHonest rightHonest sameSearch]

theorem isTransient_eq_of_honest (sameSearch : left.search = right.search)
    (className : String) :
    (left.isTransient tree className).1 = (right.isTransient tree className).1 := by
  rw [isTransient_eq, isTransient_eq, definition_eq_of_honest leftHonest rightHonest sameSearch]

theorem mergeFrom_eq_of_honest {paths : List Path}
    (alike : ∀ path ∈ paths, UseAlike tree left right path) (merged : Files.Classes) :
    (mergeFrom tree paths merged left).1 = (mergeFrom tree paths merged right).1 := by
  induction paths generalizing left right merged with
  | nil => rfl
  | cons path paths ih =>
      obtain ⟨first, others⟩ := List.forall_mem_cons.mp alike
      have same := classes_eq_of_honest leftHonest rightHonest first
      cases used : (right.classes tree path).1 with
      | error error =>
          rw [mergeFrom_cons_of_error used, mergeFrom_cons_of_error (same.trans used)]
      | ok classes =>
          rw [mergeFrom_cons_of_ok used, mergeFrom_cons_of_ok (same.trans used)]
          refine ih (leftHonest.classes path) (rightHonest.classes path) ?_ _
          exact fun other member =>
            useAlike_classes (same.trans used) used (others other member)

theorem definitions_eq_of_honest (sameSearch : left.search = right.search)
    (alike : ∀ files, left.search.files tree = .ok files →
      ∀ path ∈ files, UseAlike tree left right path) :
    (left.definitions tree).1 = (right.definitions tree).1 := by
  cases listed : left.search.files tree with
  | error error =>
      rw [definitions_of_scan_error listed, definitions_of_scan_error (sameSearch ▸ listed)]
  | ok files =>
      rw [definitions_of_files listed, definitions_of_files (sameSearch ▸ listed)]
      exact mergeFrom_eq_of_honest leftHonest rightHonest (alike files listed) []

end Replies

end Catalog

/-- A question that goes through all mapping files. -/
def Question.ListsFiles : Question → Prop
  | definitions => True
  | names => True
  | _ => False

/-- Two catalogs that keep what the files declare give the same reply, to a question that
lists files if they can use these alike. -/
theorem Question.ask_eq_of_honest {tree : Tree} {left right : Catalog}
    (leftHonest : left.Honest tree) (rightHonest : right.Honest tree)
    (sameSearch : left.search = right.search) (question : Question)
    (alike : question.ListsFiles → ∀ files, left.search.files tree = .ok files →
      ∀ path ∈ files, Catalog.UseAlike tree left right path) :
    (question.ask tree left).1 = (question.ask tree right).1 := by
  cases question with
  | definition className =>
      exact congrArg Reply.type
        (Catalog.definition_eq_of_honest leftHonest rightHonest sameSearch className)
  | load className record =>
      exact congrArg Reply.record
        (Catalog.load_eq_of_honest leftHonest rightHonest sameSearch className record)
  | isTransient className =>
      exact congrArg Reply.truth
        (Catalog.isTransient_eq_of_honest leftHonest rightHonest sameSearch className)
  | definitions =>
      exact congrArg Reply.classes
        (Catalog.definitions_eq_of_honest leftHonest rightHonest sameSearch (alike trivial))
  | names =>
      exact congrArg (fun result => Reply.names (result.map Keyed.keys))
        (Catalog.definitions_eq_of_honest leftHonest rightHonest sameSearch (alike trivial))

/-! ## One mapping file -/

/-- A directory with an empty mapping file of the class `A`. -/
def emptyFileTree : Tree :=
  ⟨.directory .free
    [(utf8 "m", .directory .free [(utf8 "A.dcm.graphqls", .file (.ok ""))])], []⟩

/-- The search in this directory. -/
def plainSearch : Search := ⟨[.ofText "m"], ".dcm.graphqls"⟩

theorem accepts_emptyFile (paths : List Path) :
    (Search.mk paths ".dcm.graphqls").accepts (utf8 "A.dcm.graphqls") = true :=
  (Search.mk paths ".dcm.graphqls").accepts_utf8_append "A"

theorem fileName_emptyFile (paths : List Path) :
    (Search.mk paths ".dcm.graphqls").fileName "A" = "A.dcm.graphqls" := by
  change (Search.mk [] ".dcm.graphqls").fileName "A" = "A.dcm.graphqls"
  cbv

theorem find?_of_join {tree : Tree} {directory : Path} {extension className name : String}
    (isName : (Search.mk [directory] extension).fileName className = name)
    (isFile : tree.isFile (directory.join (utf8 name)) = true) :
    (Search.mk [directory] extension).find? tree className =
      some (directory.join (utf8 name)) := by
  simp [Search.find?, isName, isFile]

theorem isFile_emptyFile : emptyFileTree.isFile (.ofText "m/A.dcm.graphqls") = true := by
  decide

theorem find?_plainSearch :
    plainSearch.find? emptyFileTree "A" = some (.ofText "m/A.dcm.graphqls") :=
  find?_of_join (fileName_emptyFile _) isFile_emptyFile

theorem filesBelow_of_folder {tree : Tree} {directory : Path}
    {content : Except ReadFailure String} (paths : List Path)
    (opened : tree.folder? directory =
      some ⟨directory, .free, [(utf8 "A.dcm.graphqls", .file content)]⟩) :
    (Search.mk paths ".dcm.graphqls").filesBelow tree directory =
      .ok [directory.join (utf8 "A.dcm.graphqls")] := by
  rw [Search.filesBelow, opened]
  simp only [Search.filesIn, Access.free, Search.filesAmong, Search.filesAt_file, Search.asFile,
    if_pos (accepts_emptyFile paths)]
  rfl

theorem files_plainSearch_of_folder {tree : Tree} {content : Except ReadFailure String}
    (opened : tree.folder? (.ofText "m") =
      some ⟨.ofText "m", .free, [(utf8 "A.dcm.graphqls", .file content)]⟩) :
    plainSearch.files tree = .ok [.ofText "m/A.dcm.graphqls"] := by
  rw [plainSearch, Search.files_of_filesBelow (filesBelow_of_folder _ opened), Path.sort,
    List.mergeSort_singleton]
  rfl

theorem files_plainSearch : plainSearch.files emptyFileTree = .ok [.ofText "m/A.dcm.graphqls"] :=
  files_plainSearch_of_folder rfl

/-- A type of a name at an offset, bound to a class. -/
def boundType (name className : String) (start : Nat) : ObjectType :=
  ⟨none, name, [], [⟨"Class", [⟨"name", .string className,
    ⟨start + 13, start + 20 + className.length⟩⟩], ⟨start + 6, start + 21 + className.length⟩⟩], [],
    ⟨start, start + 21 + className.length⟩⟩

/-- Looking up the class keeps its file. -/
theorem loaded_of_find? {search : Search}
    (found : search.find? emptyFileTree "A" = some (.ofText "m/A.dcm.graphqls")) :
    ((Catalog.new search).definition emptyFileTree "A").2.loaded =
      [(.ofText "m/A.dcm.graphqls", [])] := by
  have readText : emptyFileTree.readText (.ofText "m/A.dcm.graphqls") = .ok "" := by
    rfl
  have readNothing : Document.read "" = .ok [] := by
    cbv
  have read : readClasses emptyFileTree (.ofText "m/A.dcm.graphqls") = .ok [] :=
    readClasses_of_text readText readNothing
  have answer : (Catalog.new search).classes emptyFileTree (.ofText "m/A.dcm.graphqls") =
      (.ok [], ⟨search, [(.ofText "m/A.dcm.graphqls", [])], [.ofText "m/A.dcm.graphqls"]⟩) := by
    rw [Catalog.classes, Catalog.loaded?, Catalog.new, List.find?_nil, Option.map_none, read]
    rfl
  have isFound : (Catalog.new search).search.find? emptyFileTree "A" =
      some (.ofText "m/A.dcm.graphqls") := found
  simp only [Catalog.definition, isFound, answer, List.lookup_nil]

/-! ## Runs -/

namespace World

theorem search_run (world : World) (events : List Event) :
    (world.run events).catalog.search = world.catalog.search := by
  induction events generalizing world with
  | nil => rfl
  | cons event events ih => exact (ih (world.step event)).trans (search_step world event)

/-- Questions alone leave a catalog that keeps what the files declare. -/
theorem honest_run {world : World} (honest : world.catalog.Honest world.tree)
    (questions : List Question) :
    (world.run (questions.map .ask)).catalog.Honest world.tree := by
  obtain ⟨-, paths, compiles⟩ := world.compiles_run questions
  exact honest.compiles compiles

end World

/-- After any run of questions and changes, a catalog keeps exactly the paths on which the
compiler has succeeded, each with what it made of the file then, for ever; the compiler is
only asked for paths that are not kept, and nothing is kept of a file on which it fails.
After questions alone, the catalog replies to a question like a new one; if the question
lists files, those among them that are kept have to be files that can be opened. -/
theorem run_coherent (search : Search) (tree : Tree) :
    (∀ events : List Event, ((World.start search tree).run events).Coherent ∧
      (∀ path, (((World.start search tree).run events).catalog.loaded? path).isSome ↔
        ∃ compilation ∈ ((World.start search tree).run events).compiled,
          compilation.Succeeds ∧ compilation.path.same path = true) ∧
      (∀ path classes,
        ((World.start search tree).run events).catalog.loaded? path = some classes →
        (∃ front compilation behind,
          ((World.start search tree).run events).compiled = front ++ compilation :: behind ∧
          compilation.path.same path = true ∧ compilation.outcome = .ok classes ∧
          ∀ earlier ∈ front, earlier.Succeeds → earlier.path.same path = false) ∧
        ∀ later, (((World.start search tree).run events).run later).catalog.loaded? path =
          some classes)) ∧
    ∀ (questions : List Question) (question : Question),
      (question.ListsFiles → ∀ files, search.files tree = .ok files → ∀ path ∈ files,
        (((World.start search tree).run (questions.map .ask)).catalog.loaded? path).isSome →
          tree.isFile path = true) →
      (question.ask tree ((World.start search tree).run (questions.map .ask)).catalog).1 =
        (question.ask tree (.new search)).1 := by
  constructor
  · intro events
    have coherent := (World.coherent_start search tree).run events
    refine ⟨coherent, fun path => ?_, fun path classes kept => ?_⟩
    · rw [Option.isSome_iff_ne_none, ne_eq, coherent.loaded?_eq_none_iff]
      simp
    · exact ⟨coherent.loaded?_eq_some_iff.mp kept, World.loaded?_run kept⟩
  · intro questions question opened
    have sameSearch := World.search_run (World.start search tree) (questions.map .ask)
    have honest := @World.honest_run (World.start search tree) (Catalog.honest_new tree search)
      questions
    refine question.ask_eq_of_honest honest (Catalog.honest_new tree search) sameSearch ?_
    rw [sameSearch]
    intro lists files listed path member
    by_cases isFile : tree.isFile path = true
    · exact Or.inl isFile
    · have notKept := mt (opened lists files listed path member) isFile
      exact Or.inr (Bool.eq_false_iff.mpr notKept)

theorem plainSearch_coherent :
    (∀ later, (((World.start plainSearch emptyFileTree).run [.ask (.definition "A")]).run
      later).catalog.loaded? (.ofText "m/A.dcm.graphqls") = some []) ∧
    (Question.definitions.ask emptyFileTree
      ((World.start plainSearch emptyFileTree).run [.ask (.definition "A")]).catalog).1 =
        (Question.definitions.ask emptyFileTree (.new plainSearch)).1 := by
  have loaded : ((World.start plainSearch emptyFileTree).run
      [.ask (.definition "A")]).catalog.loaded = _ := loaded_of_find? find?_plainSearch
  have kept : ((World.start plainSearch emptyFileTree).run
      [.ask (.definition "A")]).catalog.loaded? (.ofText "m/A.dcm.graphqls") = some [] := by
    rw [Catalog.loaded?, loaded]
    simp [Path.same_refl]
  have areFiles : ∀ files, plainSearch.files emptyFileTree = .ok files →
      ∀ path ∈ files, emptyFileTree.isFile path = true := by
    rw [files_plainSearch]
    rintro files ⟨⟩
    exact List.forall_mem_singleton.mpr isFile_emptyFile
  exact ⟨(((run_coherent plainSearch emptyFileTree).1 _).2.2 _ _ kept).2,
    (run_coherent plainSearch emptyFileTree).2 [.definition "A"] .definitions
      fun _ files listed path member _ => areFiles files listed path member⟩

/-! ## Paths that are too long -/

/-- Search paths that name a directory twice, first with further slashes. -/
def slashedSearch (more : Nat) : Search :=
  ⟨[slashed more [], .ofText "m"], ".dcm.graphqls"⟩

section Slashed

variable {more : Nat}

theorem join_slashedFile (more : Nat) :
    (slashed more []).join (utf8 "A.dcm.graphqls") = slashed more (utf8 "A.dcm.graphqls") :=
  join_slashed more (by decide)

/-- With too many slashes the file in the directory cannot be opened. -/
theorem find_slashedFile (long : pathLimit < 16 + more) :
    emptyFileTree.find (slashed more (utf8 "A.dcm.graphqls")) = .error .tooLong := by
  have ofName : (utf8 "A.dcm.graphqls").length = 14 := by decide
  refine find_slashed emptyFileTree (by decide) ?_
  rw [ofName]
  omega

theorem components_slashedFile (more : Nat) :
    (slashed more (utf8 "A.dcm.graphqls")).components =
      (Path.ofText "m/A.dcm.graphqls").components :=
  components_slashed more (utf8 "A.dcm.graphqls")

/-- Of the two spellings of the file the first is listed. -/
theorem files_slashedSearch (short : 2 + more ≤ pathLimit) :
    (slashedSearch more).files emptyFileTree =
      .ok [slashed more (utf8 "A.dcm.graphqls")] := by
  have opened : emptyFileTree.folder? (slashed more []) = _ := folder?_slashed rfl short
  have belowSlashed := filesBelow_of_folder [slashed more [], .ofText "m"] opened
  have belowPlain : (Search.mk [slashed more [], .ofText "m"] ".dcm.graphqls").filesBelow
      emptyFileTree (.ofText "m") = .ok [.ofText "m/A.dcm.graphqls"] :=
    filesBelow_of_folder _ rfl
  have inOrder : Path.compare (slashed more (utf8 "A.dcm.graphqls"))
      (.ofText "m/A.dcm.graphqls") = .eq := by
    rw [Path.compare, components_slashedFile]
    rfl
  rw [join_slashedFile] at belowSlashed
  rw [Search.files, slashedSearch, List.mapM_cons, belowSlashed, List.mapM_cons, belowPlain]
  change Except.ok (Path.dropRepeats (Path.sort [_, _])) = _
  rw [Path.sort, List.mergeSort_of_pairwise (by simp [inOrder])]
  simp only [Path.dropRepeats, Path.dropRepeatsOf, Path.same, components_slashedFile,
    beq_self_eq_true, if_true]

theorem readClasses_slashed (long : pathLimit < 16 + more) :
    readClasses emptyFileTree (slashed more (utf8 "A.dcm.graphqls")) =
      .error (.unreadable (slashed more (utf8 "A.dcm.graphqls")) .tooLong) := by
  rw [readClasses, readFile, Tree.readText, find_slashedFile long]
  rfl

theorem find?_slashedSearch (long : pathLimit < 16 + more) :
    (slashedSearch more).find? emptyFileTree "A" = some (.ofText "m/A.dcm.graphqls") := by
  have notOpened : emptyFileTree.isFile (slashed more (utf8 "A.dcm.graphqls")) = false := by
    rw [Tree.isFile, find_slashedFile long]
  rw [Search.find?, slashedSearch, fileName_emptyFile]
  change [(slashed more []).join (utf8 "A.dcm.graphqls"), .ofText "m/A.dcm.graphqls"].find?
    emptyFileTree.isFile = _
  rw [join_slashedFile, List.find?_cons, notOpened, List.find?_cons, isFile_emptyFile]

/-- After a look-up the listing of all classes succeeds, while a new catalog cannot open the
file that is listed. -/
theorem definitions_slashedSearch (short : 2 + more ≤ pathLimit)
    (long : pathLimit < 16 + more) :
    (Question.definitions.ask emptyFileTree
        ((World.start (slashedSearch more) emptyFileTree).run
          ([.definition "A"].map .ask)).catalog).1 = .classes (.ok []) ∧
      (Question.definitions.ask emptyFileTree (.new (slashedSearch more))).1 =
        .classes (.error (.file
          (.unreadable (slashed more (utf8 "A.dcm.graphqls")) .tooLong))) := by
  have files := files_slashedSearch short
  constructor
  · have search := World.search_run (World.start (slashedSearch more) emptyFileTree)
      ([.definition "A"].map .ask)
    have loaded : ((World.start (slashedSearch more) emptyFileTree).run
        ([.definition "A"].map .ask)).catalog.loaded = _ :=
      loaded_of_find? (find?_slashedSearch long)
    generalize ((World.start (slashedSearch more) emptyFileTree).run
      ([.definition "A"].map .ask)).catalog = catalog at search loaded ⊢
    have kept : catalog.loaded? (slashed more (utf8 "A.dcm.graphqls")) = some [] := by
      simp only [Catalog.loaded?, loaded, List.find?_cons, Path.same, components_slashedFile,
        beq_self_eq_true, Option.map_some]
    have answer : (catalog.classes emptyFileTree
        (slashed more (utf8 "A.dcm.graphqls"))).1 = .ok [] := by
      simp only [Catalog.classes, kept]
    have listed : catalog.search.files emptyFileTree =
        .ok [slashed more (utf8 "A.dcm.graphqls")] := by
      rw [search]
      exact files
    rw [Question.ask, Catalog.definitions_of_files listed, Catalog.mergeFrom_cons_of_ok answer]
    rfl
  · have listed : (Catalog.new (slashedSearch more)).search.files emptyFileTree =
        .ok [slashed more (utf8 "A.dcm.graphqls")] := files
    have answer : ((Catalog.new (slashedSearch more)).classes emptyFileTree
        (slashed more (utf8 "A.dcm.graphqls"))).1 =
        .error (.file (.unreadable (slashed more (utf8 "A.dcm.graphqls")) .tooLong)) := by
      simp only [Catalog.classes, Catalog.new, Catalog.loaded?, List.find?_nil, Option.map_none,
        readClasses_slashed long]
    rw [Question.ask, Catalog.definitions_of_files listed, Catalog.mergeFrom_cons_of_error answer]
    rfl

end Slashed

/-- With 4091 bytes for the directory and 4105 for the file, a used catalog does not reply
like a new one. -/
theorem stale_definitions :
    ∃ (search : Search) (tree : Tree) (questions : List Question) (question : Question),
      (question.ask tree ((World.start search tree).run (questions.map .ask)).catalog).1 ≠
        (question.ask tree (.new search)).1 := by
  refine ⟨slashedSearch 4089, emptyFileTree, [.definition "A"], .definitions, ?_⟩
  obtain ⟨used, new⟩ := @definitions_slashedSearch 4089 (by decide) (by decide)
  rw [used, new]
  nofun

end EntityMapping
