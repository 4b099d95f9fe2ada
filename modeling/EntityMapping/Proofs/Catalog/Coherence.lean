import EntityMapping.Catalog

/-!
# Runs of a catalog

A catalog is asked questions while the files change.  Main statements: what a catalog keeps
is what the compiler has made of the files it succeeded on, in the order in which it was
asked; it is never asked again for a path that it has succeeded on; and what is kept once is
kept for ever.
-/

namespace EntityMapping

open EntityMapping.Document
open EntityMapping.Files
open EntityMapping.Record
open EntityMapping.Settings

/-! ## Calls -/

/-- A call on a catalog. -/
inductive Question where
  | definition (className : String)
  | load (className : String) (record : ClassMapping)
  | isTransient (className : String)
  | definitions
  | names

/-- The result of a call on a catalog. -/
inductive Reply where
  | type (result : Except CatalogError ObjectType)
  | record (result : Except CatalogError ClassMapping)
  | truth (result : Except CatalogError Bool)
  | classes (result : Except CatalogError Files.Classes)
  | names (result : Except CatalogError (List String))

/-- The reply of a catalog to a question, and the catalog afterwards. -/
def Question.ask (tree : Tree) (catalog : Catalog) : Question → Reply × Catalog
  | definition className => (catalog.definition tree className).map Reply.type id
  | load className record => (catalog.load tree className record).map Reply.record id
  | isTransient className => (catalog.isTransient tree className).map Reply.truth id
  | definitions => (catalog.definitions tree).map Reply.classes id
  | names => (catalog.names tree).map Reply.names id

/-- A file that the compiler is asked for, with the files as they are at the time. -/
structure Compilation where
  tree : Tree
  path : Path

namespace Compilation

/-- What the compiler answers. -/
def outcome (compilation : Compilation) : Except FileError Files.Classes :=
  readClasses compilation.tree compilation.path

/-- The compiler makes classes of the file. -/
def Succeeds (compilation : Compilation) : Prop :=
  ∃ classes, compilation.outcome = .ok classes

/-- What a compilation leaves behind: nothing if it fails. -/
def kept? (compilation : Compilation) : Option (Path × Files.Classes) :=
  compilation.outcome.toOption.map (compilation.path, ·)

theorem kept?_eq_some_iff {compilation : Compilation} {entry : Path × Files.Classes} :
    compilation.kept? = some entry ↔
      compilation.path = entry.1 ∧ compilation.outcome = .ok entry.2 := by
  obtain ⟨path, classes⟩ := entry
  unfold kept?
  cases compilation.outcome with
  | error error => simp [Except.toOption]
  | ok found => simp [Except.toOption]

theorem any_kept?_eq_true_iff {compilation : Compilation} {path : Path} :
    (compilation.kept?.any fun entry => entry.1.same path) = true ↔
      compilation.Succeeds ∧ compilation.path.same path = true := by
  rw [Option.any_eq_true]
  constructor
  · rintro ⟨entry, kept, same⟩
    obtain ⟨isPath, outcome⟩ := kept?_eq_some_iff.mp kept
    exact ⟨⟨entry.2, outcome⟩, isPath ▸ same⟩
  · rintro ⟨⟨classes, outcome⟩, same⟩
    exact ⟨(compilation.path, classes), kept?_eq_some_iff.mpr ⟨rfl, outcome⟩, same⟩

end Compilation

namespace Catalog

/-! ## What one call does -/

/-- The catalog after the compiler has been asked for a file. -/
def afterCompiling (tree : Tree) (path : Path) (catalog : Catalog) : Catalog :=
  { catalog with
    requests := catalog.requests ++ [path]
    loaded := catalog.loaded ++ (Compilation.mk tree path).kept?.toList }

/-- What is kept for a path after the compiler has been asked for a file: what was kept before,
or else what the compiler has made of the file, if the paths are equal. -/
theorem loaded?_afterCompiling (tree : Tree) (path other : Path) (catalog : Catalog) :
    (catalog.afterCompiling tree path).loaded? other =
      (catalog.loaded? other).or
        (if path.same other then (readClasses tree path).toOption else none) := by
  rw [loaded?, afterCompiling, List.find?_append, Option.map_or]
  refine congrArg _ ?_
  cases outcome : readClasses tree path with
  | error error => simp [Compilation.kept?, Compilation.outcome, outcome, Except.toOption]
  | ok classes =>
      have kept : (Compilation.mk tree path).kept? = some (path, classes) :=
        Compilation.kept?_eq_some_iff.mpr ⟨rfl, outcome⟩
      rw [kept]
      cases same : path.same other <;> simp [same, Except.toOption]

/-- The classes of a file are kept ones, or else the compiler is asked for them. -/
theorem classes_cases (tree : Tree) (path : Path) (catalog : Catalog) :
    (∃ classes, catalog.loaded? path = some classes ∧
      catalog.classes tree path = (.ok classes, catalog)) ∨
    (catalog.loaded? path = none ∧ catalog.classes tree path =
      ((readClasses tree path).mapError .file, catalog.afterCompiling tree path)) := by
  unfold classes
  cases kept : catalog.loaded? path with
  | some classes => exact Or.inl ⟨classes, rfl, rfl⟩
  | none =>
      refine Or.inr ⟨rfl, ?_⟩
      cases outcome : readClasses tree path with
      | error error =>
          have nothing : (Compilation.mk tree path).kept? = none := by
            rw [Compilation.kept?, Compilation.outcome, outcome]
            rfl
          rw [afterCompiling, nothing, Option.toList_none, List.append_nil]
          rfl
      | ok classes =>
          have kept : (Compilation.mk tree path).kept? = some (path, classes) :=
            Compilation.kept?_eq_some_iff.mpr ⟨rfl, outcome⟩
          rw [afterCompiling, kept]
          rfl

/-- The type of a class among the classes of its file. -/
def typeIn (className : String) (path : Path) (classes : Files.Classes) :
    Except CatalogError ObjectType :=
  match classes.lookup className with
  | some type => .ok type
  | none => .error (.noClass className path)

theorem typeIn_eq_ok_iff {className : String} {path : Path} {classes : Files.Classes}
    {type : ObjectType} :
    typeIn className path classes = .ok type ↔ classes.lookup className = some type := by
  unfold typeIn
  cases classes.lookup className <;> simp

/-- A look-up takes the type of the class from the classes of the file that is found. -/
theorem definition_eq_of_find? {tree : Tree} {className : String} {path : Path}
    {catalog : Catalog} (found : catalog.search.find? tree className = some path) :
    catalog.definition tree className =
      ((catalog.classes tree path).1.bind (typeIn className path),
      (catalog.classes tree path).2) := by
  rw [definition, found]
  dsimp only
  generalize catalog.classes tree path = answer
  obtain ⟨result, next⟩ := answer
  cases result with
  | error error => rfl
  | ok classes =>
      dsimp only [Except.bind, typeIn]
      cases classes.lookup className <;> rfl

/-- Loading evaluates what a look-up answers. -/
theorem load_eq (tree : Tree) (className : String) (record : ClassMapping) (catalog : Catalog) :
    catalog.load tree className record =
      ((catalog.definition tree className).1.bind fun type =>
        (evaluate className type record).mapError .evaluation,
      (catalog.definition tree className).2) := by
  unfold load
  split
  all_goals
    rename_i found
    rw [found]
    rfl

/-- What follows from the answer of a look-up for whether objects of the class are never stored
on their own. -/
def transience : Except CatalogError ObjectType → Except CatalogError Bool
  | .error (.noFile _ _) => .ok true
  | .error (.noClass _ _) => .ok true
  | .error error => .error error
  | .ok type =>
      .ok (!Marker.entity.isAmong type.directives &&
        !Marker.mappedSuperclass.isAmong type.directives)

theorem isTransient_eq (tree : Tree) (className : String) (catalog : Catalog) :
    catalog.isTransient tree className =
      (transience (catalog.definition tree className).1,
      (catalog.definition tree className).2) := by
  unfold isTransient transience
  generalize catalog.definition tree className = answer
  obtain ⟨result, next⟩ := answer
  cases result with
  | error error => cases error <;> rfl
  | ok type => rfl

section Merging

variable {tree : Tree} {path : Path} {catalog : Catalog}

theorem mergeFrom_cons_of_ok {classes : Files.Classes}
    (used : (catalog.classes tree path).1 = .ok classes) (paths : List Path)
    (merged : Files.Classes) :
    mergeFrom tree (path :: paths) merged catalog =
      mergeFrom tree paths (Keyed.override merged classes) (catalog.classes tree path).2 := by
  rw [mergeFrom]
  split
  · rename_i failed
    rw [failed] at used
    cases used
  · rename_i found
    rw [found] at used ⊢
    cases used
    rfl

theorem mergeFrom_cons_of_error {error : CatalogError}
    (failed : (catalog.classes tree path).1 = .error error) (paths : List Path)
    (merged : Files.Classes) :
    mergeFrom tree (path :: paths) merged catalog =
      (.error error, (catalog.classes tree path).2) := by
  rw [mergeFrom]
  split
  · rename_i failure
    rw [failure] at failed ⊢
    cases failed
    rfl
  · rename_i found
    rw [found] at failed
    cases failed

end Merging

section Listed

variable {tree : Tree} {catalog : Catalog}

/-- The files are those that can be found at the time. -/
theorem definitions_of_files {paths : List Path}
    (listed : catalog.search.files tree = .ok paths) :
    catalog.definitions tree = mergeFrom tree paths [] catalog := by
  rw [definitions, listed]

theorem definitions_of_scan_error {error : ScanError}
    (failed : catalog.search.files tree = .error error) :
    catalog.definitions tree = (.error (.scan error), catalog) := by
  rw [definitions, failed]

/-- There are classes just if all files can be found and merged. -/
theorem definitions_eq_ok_iff {result : Files.Classes} :
    (catalog.definitions tree).1 = .ok result ↔ ∃ paths,
      catalog.search.files tree = .ok paths ∧ (mergeFrom tree paths [] catalog).1 = .ok result := by
  cases listed : catalog.search.files tree with
  | error error => simp [definitions_of_scan_error listed]
  | ok paths => simp [definitions_of_files listed]

end Listed

/-- One catalog arises from another while the compiler is asked for the given paths, none
of which is kept when it is its turn. -/
inductive Compiles (tree : Tree) : Catalog → List Path → Catalog → Prop
  | nil (catalog : Catalog) : Compiles tree catalog [] catalog
  | cons {catalog final : Catalog} {path : Path} {paths : List Path}
      (absent : catalog.loaded? path = none)
      (behind : Compiles tree (catalog.afterCompiling tree path) paths final) :
      Compiles tree catalog (path :: paths) final

variable {tree : Tree} {catalog middle final : Catalog}

theorem Compiles.append {first second : List Path} (front : Compiles tree catalog first middle)
    (back : Compiles tree middle second final) :
    Compiles tree catalog (first ++ second) final := by
  induction front with
  | nil catalog => exact back
  | cons absent behind ih => exact .cons absent (ih back)

theorem Compiles.search_eq {paths : List Path} (compiles : Compiles tree catalog paths final) :
    final.search = catalog.search := by
  induction compiles with
  | nil catalog => rfl
  | cons absent behind ih => exact ih

theorem Compiles.requests_eq {paths : List Path} (compiles : Compiles tree catalog paths final) :
    final.requests = catalog.requests ++ paths := by
  induction compiles with
  | nil catalog => exact (List.append_nil _).symm
  | cons absent behind ih =>
      rw [ih, afterCompiling, List.append_assoc]
      rfl

theorem Compiles.loaded_prefix {paths : List Path}
    (compiles : Compiles tree catalog paths final) : catalog.loaded <+: final.loaded := by
  induction compiles with
  | nil catalog => exact List.prefix_refl _
  | cons absent behind ih => exact (List.prefix_append _ _).trans ih

/-- What is kept for a path stays with everything that is kept later. -/
theorem loaded?_of_prefix {path : Path} {classes : Files.Classes}
    (earlier : catalog.loaded <+: final.loaded) (kept : catalog.loaded? path = some classes) :
    final.loaded? path = some classes := by
  obtain ⟨entry, found, rfl⟩ := Option.map_eq_some_iff.mp kept
  exact Option.map_eq_some_iff.mpr ⟨entry, earlier.find?_eq_some found, rfl⟩

theorem compiles_classes (tree : Tree) (path : Path) (catalog : Catalog) :
    ∃ paths, Compiles tree catalog paths (catalog.classes tree path).2 := by
  rcases classes_cases tree path catalog with ⟨classes, -, result⟩ | ⟨absent, result⟩
  · rw [result]
    exact ⟨[], .nil catalog⟩
  · rw [result]
    exact ⟨[path], .cons absent (.nil _)⟩

theorem compiles_definition (tree : Tree) (className : String) (catalog : Catalog) :
    ∃ paths, Compiles tree catalog paths (catalog.definition tree className).2 := by
  cases found : catalog.search.find? tree className with
  | none =>
      rw [definition, found]
      exact ⟨[], .nil catalog⟩
  | some path =>
      rw [definition_eq_of_find? found]
      exact compiles_classes tree path catalog

theorem compiles_load (tree : Tree) (className : String) (record : ClassMapping)
    (catalog : Catalog) :
    ∃ paths, Compiles tree catalog paths (catalog.load tree className record).2 := by
  rw [load_eq]
  exact compiles_definition tree className catalog

theorem compiles_isTransient (tree : Tree) (className : String) (catalog : Catalog) :
    ∃ paths, Compiles tree catalog paths (catalog.isTransient tree className).2 := by
  rw [isTransient_eq]
  exact compiles_definition tree className catalog

theorem compiles_mergeFrom (tree : Tree) (paths : List Path) (merged : Files.Classes)
    (catalog : Catalog) :
    ∃ compiled, Compiles tree catalog compiled (mergeFrom tree paths merged catalog).2 := by
  induction paths generalizing merged catalog with
  | nil => exact ⟨[], .nil catalog⟩
  | cons path paths ih =>
      obtain ⟨first, compiles⟩ := compiles_classes tree path catalog
      cases used : (catalog.classes tree path).1 with
      | error error =>
          rw [mergeFrom_cons_of_error used]
          exact ⟨first, compiles⟩
      | ok classes =>
          rw [mergeFrom_cons_of_ok used]
          obtain ⟨others, behind⟩ := ih (Keyed.override merged classes) _
          exact ⟨first ++ others, compiles.append behind⟩

theorem compiles_definitions (tree : Tree) (catalog : Catalog) :
    ∃ paths, Compiles tree catalog paths (catalog.definitions tree).2 := by
  cases listed : catalog.search.files tree with
  | error error =>
      rw [definitions_of_scan_error listed]
      exact ⟨[], .nil catalog⟩
  | ok paths =>
      rw [definitions_of_files listed]
      exact compiles_mergeFrom tree paths [] catalog

theorem compiles_ask (tree : Tree) (catalog : Catalog) (question : Question) :
    ∃ paths, Compiles tree catalog paths (question.ask tree catalog).2 := by
  cases question with
  | definition className => exact compiles_definition tree className catalog
  | load className record => exact compiles_load tree className record catalog
  | isTransient className => exact compiles_isTransient tree className catalog
  | definitions => exact compiles_definitions tree catalog
  | names => exact compiles_definitions tree catalog

end Catalog

/-! ## Runs -/

/-- What happens in a run: the files change in whatever way, or the catalog is asked. -/
inductive Event where
  | change (tree : Tree)
  | ask (question : Question)

/-- The files, the catalog, and all compilations so far, in order. -/
structure World where
  tree : Tree
  catalog : Catalog
  compiled : List Compilation

namespace World

/-- The world of a new catalog. -/
def start (search : Search) (tree : Tree) : World :=
  ⟨tree, .new search, []⟩

/-- The world after an event.  A question may have files compiled; they are those that the
catalog has asked for in addition. -/
def step (world : World) : Event → World
  | .change tree => { world with tree := tree }
  | .ask question =>
      let next := (question.ask world.tree world.catalog).2
      let asked := next.requests.drop world.catalog.requests.length
      { world with
        catalog := next
        compiled := world.compiled ++ asked.map (Compilation.mk world.tree) }

/-- The world after a run. -/
def run (events : List Event) (world : World) : World :=
  events.foldl step world

/-- The catalog keeps what the compiler has made of the files it succeeded on, and has
never asked again for a path of which it kept something. -/
structure Coherent (world : World) : Prop where
  requests : world.catalog.requests = world.compiled.map Compilation.path
  loaded : world.catalog.loaded = world.compiled.filterMap Compilation.kept?
  once : world.compiled.Pairwise fun earlier later =>
    earlier.Succeeds → earlier.path.same later.path = false

variable {world : World}

/-- What is kept for a path is what came out of the first compilation of the path that
succeeded. -/
theorem Coherent.loaded?_eq_some_iff (coherent : world.Coherent) {path : Path}
    {classes : Files.Classes} :
    world.catalog.loaded? path = some classes ↔
      ∃ front compilation behind, world.compiled = front ++ compilation :: behind ∧
        compilation.path.same path = true ∧ compilation.outcome = .ok classes ∧
        ∀ earlier ∈ front, earlier.Succeeds → earlier.path.same path = false := by
  rw [Catalog.loaded?, coherent.loaded, List.find?_filterMap, Option.map_eq_some_iff]
  constructor
  · rintro ⟨entry, found, rfl⟩
    obtain ⟨compilation, first, kept⟩ := Option.bind_eq_some_iff.mp found
    obtain ⟨isPath, outcome⟩ := Compilation.kept?_eq_some_iff.mp kept
    obtain ⟨fits, front, behind, split, skipped⟩ := List.find?_eq_some_iff_append.mp first
    refine ⟨front, compilation, behind, split,
      (Compilation.any_kept?_eq_true_iff.mp fits).2, outcome, ?_⟩
    intro earlier member succeeds
    rw [Bool.eq_false_iff]
    intro same
    have notFits := skipped earlier member
    rw [Compilation.any_kept?_eq_true_iff.mpr ⟨succeeds, same⟩] at notFits
    cases notFits
  · rintro ⟨front, compilation, behind, split, same, outcome, skipped⟩
    refine ⟨(compilation.path, classes), Option.bind_eq_some_iff.mpr ⟨compilation, ?_, ?_⟩, rfl⟩
    · refine List.find?_eq_some_iff_append.mpr ⟨?_, front, behind, split, ?_⟩
      · exact Compilation.any_kept?_eq_true_iff.mpr ⟨⟨classes, outcome⟩, same⟩
      · intro earlier member
        rw [Bool.not_eq_true', Bool.eq_false_iff]
        intro fits
        obtain ⟨succeeds, alsoSame⟩ := Compilation.any_kept?_eq_true_iff.mp fits
        rw [skipped earlier member succeeds] at alsoSame
        cases alsoSame
    · exact Compilation.kept?_eq_some_iff.mpr ⟨rfl, outcome⟩

theorem Coherent.loaded?_eq_none_iff (coherent : world.Coherent) {path : Path} :
    world.catalog.loaded? path = none ↔
      ∀ compilation ∈ world.compiled, compilation.Succeeds →
        compilation.path.same path = false := by
  rw [Catalog.loaded?, Option.map_eq_none_iff, List.find?_eq_none, coherent.loaded]
  constructor
  · rintro absent compilation member ⟨classes, outcome⟩
    have kept : compilation.kept? = some (compilation.path, classes) :=
      Compilation.kept?_eq_some_iff.mpr ⟨rfl, outcome⟩
    simpa using absent _ (List.mem_filterMap.mpr ⟨compilation, member, kept⟩)
  · intro absent entry member
    obtain ⟨compilation, among, kept⟩ := List.mem_filterMap.mp member
    obtain ⟨isPath, outcome⟩ := Compilation.kept?_eq_some_iff.mp kept
    have different := absent compilation among ⟨entry.2, outcome⟩
    rw [isPath] at different
    simp [different]

/-- Asking the compiler for files that are not kept keeps a catalog coherent. -/
theorem Coherent.compiles {catalog final : Catalog} {tree : Tree} {compiled : List Compilation}
    {paths : List Path} (compiles : Catalog.Compiles tree catalog paths final)
    (coherent : Coherent ⟨tree, catalog, compiled⟩) :
    Coherent ⟨tree, final, compiled ++ paths.map (Compilation.mk tree)⟩ := by
  induction compiles generalizing compiled with
  | nil catalog => simpa using coherent
  | @cons catalog final path paths absent behind ih =>
      have next : Coherent ⟨tree, catalog.afterCompiling tree path,
          compiled ++ [Compilation.mk tree path]⟩ :=
        { requests := by
            simp only [Catalog.afterCompiling, List.map_append, List.map_cons, List.map_nil]
            rw [coherent.requests]
          loaded := by
            rw [List.filterMap_append, Catalog.afterCompiling, coherent.loaded]
            cases kept : (Compilation.mk tree path).kept? <;> simp [kept]
          once := by
            refine List.pairwise_append.mpr ⟨coherent.once, List.pairwise_singleton _ _, ?_⟩
            intro earlier member later isLast
            rw [List.mem_singleton.mp isLast]
            exact coherent.loaded?_eq_none_iff.mp absent earlier member }
      simpa using ih next

theorem coherent_start (search : Search) (tree : Tree) : (start search tree).Coherent where
  requests := rfl
  loaded := rfl
  once := .nil

theorem Coherent.step (coherent : world.Coherent) (event : Event) :
    (world.step event).Coherent := by
  cases event with
  | change tree => exact { coherent with }
  | ask question =>
      obtain ⟨paths, compiles⟩ := Catalog.compiles_ask world.tree world.catalog question
      have isAsked : (question.ask world.tree world.catalog).2.requests.drop
          world.catalog.requests.length = paths := by
        rw [compiles.requests_eq, List.drop_left]
      simp only [World.step, isAsked]
      exact Coherent.compiles compiles coherent

theorem Coherent.run (coherent : world.Coherent) (events : List Event) :
    (world.run events).Coherent := by
  induction events generalizing world with
  | nil => exact coherent
  | cons event events ih => exact ih (coherent.step event)

theorem search_step (world : World) (event : Event) :
    (world.step event).catalog.search = world.catalog.search := by
  cases event with
  | change tree => rfl
  | ask question =>
      obtain ⟨paths, compiles⟩ := Catalog.compiles_ask world.tree world.catalog question
      exact compiles.search_eq

/-- Questions change no files, and all that they do to a catalog is to have files compiled. -/
theorem compiles_run (world : World) (questions : List Question) :
    (world.run (questions.map .ask)).tree = world.tree ∧
      ∃ paths, Catalog.Compiles world.tree world.catalog paths
        (world.run (questions.map .ask)).catalog := by
  induction questions generalizing world with
  | nil => exact ⟨rfl, [], .nil _⟩
  | cons question questions ih =>
      obtain ⟨first, front⟩ := Catalog.compiles_ask world.tree world.catalog question
      obtain ⟨sameTree, others, back⟩ := ih (world.step (.ask question))
      exact ⟨sameTree, first ++ others, front.append back⟩

theorem loaded_prefix_run (world : World) (events : List Event) :
    world.catalog.loaded <+: (world.run events).catalog.loaded := by
  induction events generalizing world with
  | nil => exact List.prefix_refl _
  | cons event events ih =>
      refine .trans ?_ (ih (world.step event))
      cases event with
      | change tree => exact List.prefix_refl _
      | ask question =>
          obtain ⟨paths, compiles⟩ := Catalog.compiles_ask world.tree world.catalog question
          exact compiles.loaded_prefix

/-- What a catalog keeps it keeps for ever. -/
theorem loaded?_run {path : Path} {classes : Files.Classes}
    (kept : world.catalog.loaded? path = some classes) (events : List Event) :
    (world.run events).catalog.loaded? path = some classes :=
  Catalog.loaded?_of_prefix (loaded_prefix_run world events) kept

end World

end EntityMapping
