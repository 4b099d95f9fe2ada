import EntityMapping.Proofs.Document.DocumentContext

/-!
# Spans follow the nesting of a document

The parts of a document that know their span form a tree: a definition holds its
directives and fields, these hold theirs, down to the arguments of directives.  Main
statement: the span of every part runs from its first token to its last, parts stand
inside the part that holds them, and parts beside each other stand one behind the other.
-/

namespace EntityMapping.Document

open EntityMapping.Source

/-! ## The tree of a document -/

/-- A part of a document that knows its span. -/
inductive Node where
  | definition (part : Definition)
  | field (part : Field)
  | input (part : InputValue)
  | enumValue (part : EnumValue)
  | directive (part : Directive)
  | argument (part : Argument)

namespace Node

/-- Where the part stands. -/
def span : Node → Span
  | .definition part => part.span
  | .field part => part.span
  | .input part => part.span
  | .enumValue part => part.span
  | .directive part => part.span
  | .argument part => part.span

/-- The spellings of the part. -/
def spelling : Node → Language Lexeme
  | .definition part => part.spelling
  | .field part => part.spelling
  | .input part => part.spelling
  | .enumValue part => part.spelling
  | .directive part => part.spelling
  | .argument part => part.spelling

/-- The parts inside an object type, in the order in which they are written. -/
def insideObject (type : ObjectType) : List Node :=
  type.directives.map directive ++ type.fields.map field

/-- The parts inside a definition, in the order in which they are written. -/
def insideDefinition : Definition → List Node
  | .object type => insideObject type
  | .extension type => insideObject type
  | .interface type => insideObject type
  | .input type => type.directives.map directive ++ type.fields.map input
  | .enum type => type.directives.map directive ++ type.values.map enumValue
  | .scalar type => type.directives.map directive
  | .union type => type.directives.map directive
  | .directive type => type.arguments.map input
  | .schema roots => roots.directives.map directive

/-- The parts directly inside a part, in the order in which they are written. -/
def children : Node → List Node
  | .definition part => insideDefinition part
  | .field part => part.arguments.map input ++ part.directives.map directive
  | .input part => part.directives.map directive
  | .enumValue part => part.directives.map directive
  | .directive part => part.arguments.map argument
  | .argument _ => []

end Node

/-- The parts of a document: its definitions, and what is inside of a part. -/
inductive NodeOf (definitions : List Definition) : Node → Prop where
  | definition {definition : Definition} (among : definition ∈ definitions) :
      NodeOf definitions (.definition definition)
  | child {parent child : Node} (outer : NodeOf definitions parent)
      (inside : child ∈ parent.children) : NodeOf definitions child

/-! ## Parts inside of spellings -/

/-- Parts are spelled one behind the other, with whatever lexemes between them. -/
inductive Scattered : List Node → List Lexeme → Prop where
  | nil (used : List Lexeme) : Scattered [] used
  | cons {node : Node} {nodes : List Node} {before own behind : List Lexeme}
      (spelled : own ∈ node.spelling) (others : Scattered nodes behind) :
      Scattered (node :: nodes) (before ++ (own ++ behind))

theorem Scattered.behind {nodes : List Node} {used : List Lexeme}
    (scattered : Scattered nodes used) (more : List Lexeme) : Scattered nodes (more ++ used) := by
  cases scattered with
  | nil => exact .nil _
  | cons spelled others =>
      rw [← List.append_assoc]
      exact .cons spelled others

theorem Scattered.append {first second : List Node} {front back : List Lexeme}
    (inFront : Scattered first front) (inBack : Scattered second back) :
    Scattered (first ++ second) (front ++ back) := by
  induction inFront with
  | nil used => exact inBack.behind used
  | cons spelled others ih =>
      rw [List.append_assoc, List.append_assoc]
      exact .cons spelled ih

/-- Every sequence of a language holds the parts one behind the other. -/
def Scatters (nodes : List Node) (language : Language Lexeme) : Prop :=
  ∀ used ∈ language, Scattered nodes used

section Scattering

variable {nodes more : List Node} {left right : Language Lexeme}

theorem scatters_nil (language : Language Lexeme) : Scatters [] language :=
  fun used _ => .nil used

theorem Scatters.mul (first : Scatters nodes left) (second : Scatters more right) :
    Scatters (nodes ++ more) (left * right) := by
  intro used member
  obtain ⟨front, inLeft, back, inRight, rfl⟩ := Language.mem_mul.mp member
  exact (first front inLeft).append (second back inRight)

theorem Scatters.mul_left (scatters : Scatters nodes right) (left : Language Lexeme) :
    Scatters nodes (left * right) :=
  (scatters_nil left).mul scatters

theorem Scatters.mul_right (scatters : Scatters nodes left) (right : Language Lexeme) :
    Scatters nodes (left * right) := by
  have whole := scatters.mul (scatters_nil right)
  rwa [List.append_nil] at whole

theorem Scatters.covering (scatters : Scatters nodes left) (span : Span) :
    Scatters nodes (covering span left) :=
  fun used member => scatters used member.1

theorem scatters_sequenced {α : Type} {spelling : α → Language Lexeme} (node : α → Node)
    (spelled : ∀ item, (node item).spelling = spelling item) (items : List α) :
    Scatters (items.map node) (sequenced spelling items) := by
  induction items with
  | nil => exact scatters_nil _
  | cons item items ih =>
      rw [sequenced_cons]
      intro used member
      obtain ⟨own, isOwn, behind, inRest, rfl⟩ := Language.mem_mul.mp member
      exact @Scattered.cons (node item) (items.map node) [] own behind (by rwa [spelled])
        (ih behind inRest)

theorem scatters_annotations (directives : List Directive) :
    Scatters (directives.map .directive) (annotations directives) :=
  scatters_sequenced Node.directive (fun _ => rfl) directives

theorem scatters_bracketed {α : Type} {spelling : α → Language Lexeme} (node : α → Node)
    (spelled : ∀ item, (node item).spelling = spelling item) (opening close : Punctuator)
    (items : List α) : Scatters (items.map node) (bracketed opening close spelling items) := by
  intro used member
  rcases (Language.mem_add _ _ used).mp member with leftOut | written
  · cases items with
    | nil => exact .nil used
    | cons item items => exact absurd leftOut (Language.notMem_zero used)
  · exact ((scatters_sequenced node spelled items).mul_right _).mul_left _ used written

end Scattering

theorem ObjectType.scatters (type : ObjectType) :
    Scatters (Node.insideObject type) type.body := by
  have directives := scatters_annotations type.directives
  have fields := scatters_bracketed Node.field (fun _ => rfl) .braceOpen .braceClose
    type.fields
  exact ((directives.mul fields).mul_left _).mul_left _

theorem Definition.scatters (definition : Definition) :
    Scatters (Node.insideDefinition definition) definition.body := by
  cases definition with
  | object type => exact type.scatters
  | extension type => exact type.scatters.mul_left _
  | interface type => exact type.scatters
  | input type =>
      have fields := scatters_bracketed Node.input (fun _ => rfl) .braceOpen .braceClose
        type.fields
      exact ((scatters_annotations type.directives).mul fields).mul_left _
  | enum type =>
      have values := scatters_bracketed Node.enumValue (fun _ => rfl) .braceOpen
        .braceClose type.values
      exact ((scatters_annotations type.directives).mul values).mul_left _
  | scalar type => exact (scatters_annotations type.directives).mul_left _
  | union type => exact ((scatters_annotations type.directives).mul_right _).mul_left _
  | directive type =>
      have arguments := scatters_bracketed Node.input (fun _ => rfl) .parenOpen
        .parenClose type.arguments
      exact ((arguments.mul_right _).mul_left _).mul_left _
  | schema roots => exact (scatters_annotations roots.directives).mul_right _

/-- A spelling of a part holds the parts inside it one behind the other. -/
theorem Node.scatters (node : Node) : Scatters node.children node.spelling := by
  cases node with
  | definition definition => exact ((definition.scatters.mul_left _).mul_left _).covering _
  | field field =>
      have arguments := scatters_bracketed Node.input (fun _ => rfl) .parenOpen
        .parenClose field.arguments
      have directives := scatters_annotations field.directives
      exact (((arguments.mul
        ((directives.mul_left _).mul_left _)).mul_left _).mul_left _).covering _
  | input input =>
      have directives := scatters_annotations input.directives
      exact (((((directives.mul_left _).mul_left _).mul_left _).mul_left _).mul_left _).covering _
  | enumValue value =>
      exact (((scatters_annotations value.directives).mul_left _).mul_left _).covering _
  | directive directive =>
      have arguments := scatters_bracketed Node.argument (fun _ => rfl) .parenOpen
        .parenClose directive.arguments
      exact ((arguments.mul_left _).mul_left _).covering _
  | argument argument => exact scatters_nil _

theorem Node.ne_nil_of_mem_spelling {node : Node} {used : List Lexeme}
    (spelled : used ∈ node.spelling) : used ≠ [] := by
  cases node with
  | definition definition => exact (Cursor.begins_definition definition used spelled).1
  | field field => exact (@Cursor.begins_field [] (by simp) (by simp) field used spelled).1
  | input input =>
      exact (@Cursor.begins_inputValue [] (by simp) (by simp) input used spelled).1
  | enumValue value =>
      exact (@Cursor.begins_enumValue [] (by simp) (by simp) value used spelled).1
  | directive directive => exact (Cursor.begins_directive [] (by simp) directive used spelled).1
  | argument argument => exact (Cursor.begins_argument [] (by simp) argument used spelled).1

theorem Node.coverage_eq {node : Node} {used : List Lexeme} (spelled : used ∈ node.spelling) :
    coverage used = node.span := by
  cases node <;> exact spelled.2

/-! ## Lexemes in order -/

/-- Lexemes as a text has them: each covers something and ends before the next starts. -/
structure InOrder (used : List Lexeme) : Prop where
  nonempty : ∀ lexeme ∈ used, lexeme.span.start < lexeme.span.stop
  apart : used.Pairwise fun earlier later => earlier.span.stop ≤ later.span.start

theorem Cuts.inOrder {offset : Nat} {text : List Char} {used : List Lexeme}
    (cuts : Cuts offset text used) : InOrder used :=
  ⟨cuts.start_lt_stop, cuts.ordered⟩

theorem InOrder.of_sublist {used part : List Lexeme} (inOrder : InOrder used)
    (sublist : part.Sublist used) : InOrder part :=
  ⟨fun lexeme member => inOrder.nonempty lexeme (sublist.subset member),
    inOrder.apart.sublist sublist⟩

theorem lastSpan_eq_getLast (first : Lexeme) (rest : List Lexeme) :
    ∃ last, (first :: rest).getLast? = some last ∧ lastSpan first.span rest = last.span := by
  induction rest generalizing first with
  | nil => exact ⟨first, rfl, rfl⟩
  | cons second rest ih =>
      obtain ⟨last, isLast, same⟩ := ih second
      exact ⟨last, by rw [List.getLast?_cons_cons, isLast], same⟩

/-- A span runs from the start of the first lexeme to the end of the last. -/
def Runs (used : List Lexeme) (span : Span) : Prop :=
  ∃ first last, used.head? = some first ∧ used.getLast? = some last ∧
    span = ⟨first.span.start, last.span.stop⟩

theorem InOrder.runs_coverage {used : List Lexeme} (inOrder : InOrder used)
    (nonempty : used ≠ []) : Runs used (coverage used) := by
  obtain ⟨first, rest, rfl⟩ := List.exists_cons_of_ne_nil nonempty
  obtain ⟨last, isLast, same⟩ := lastSpan_eq_getLast first rest
  refine ⟨first, last, rfl, isLast, ?_⟩
  have firstCovers := inOrder.nonempty first List.mem_cons_self
  have lastCovers := inOrder.nonempty last (List.mem_of_getLast? isLast)
  have behind : last = first ∨ first.span.stop ≤ last.span.start := by
    rcases List.mem_cons.mp (List.mem_of_getLast? isLast) with isFirst | later
    · exact Or.inl isFirst
    · exact Or.inr ((List.pairwise_cons.mp inOrder.apart).1 last later)
  rw [coverage, same, Span.merge, Span.mk.injEq]
  rcases behind with rfl | behind
  · simp
  · omega

/-- A span that lexemes run over starts and ends with two of them. -/
theorem Runs.exists_ends {used : List Lexeme} {span : Span} (runs : Runs used span) :
    (∃ lexeme ∈ used, lexeme.span.start = span.start) ∧
      ∃ lexeme ∈ used, lexeme.span.stop = span.stop := by
  obtain ⟨first, last, isFirst, isLast, rfl⟩ := runs
  exact ⟨⟨first, List.mem_of_head? isFirst, rfl⟩, ⟨last, List.mem_of_getLast? isLast, rfl⟩⟩

/-- All lexemes stand inside of a span that they run over. -/
theorem Runs.within {used : List Lexeme} {span : Span} (runs : Runs used span)
    (inOrder : InOrder used) :
    ∀ lexeme ∈ used, span.start ≤ lexeme.span.start ∧ lexeme.span.stop ≤ span.stop := by
  obtain ⟨first, last, isFirst, isLast, rfl⟩ := runs
  intro lexeme member
  constructor
  · obtain ⟨rest, rfl⟩ := List.head?_eq_some_iff.mp isFirst
    rcases List.mem_cons.mp member with rfl | later
    · exact Nat.le_refl _
    · have covers := inOrder.nonempty first List.mem_cons_self
      have apart := (List.pairwise_cons.mp inOrder.apart).1 lexeme later
      exact Nat.le_trans (Nat.le_of_lt covers) apart
  · obtain ⟨front, rfl⟩ := List.getLast?_eq_some_iff.mp isLast
    rcases List.mem_append.mp member with earlier | isLastOne
    · have covers := inOrder.nonempty last (List.mem_append_right _ List.mem_cons_self)
      have apart := (List.pairwise_append.mp inOrder.apart).2.2 lexeme earlier last
        List.mem_cons_self
      exact Nat.le_trans apart (Nat.le_of_lt covers)
    · rw [List.mem_singleton.mp isLastOne]

theorem Node.runs {node : Node} {own : List Lexeme} (spelled : own ∈ node.spelling)
    (inOrder : InOrder own) : Runs own node.span :=
  Node.coverage_eq spelled ▸ inOrder.runs_coverage (Node.ne_nil_of_mem_spelling spelled)

/-- A node is spelled by lexemes that follow each other among the given ones. -/
def SpelledIn (used : List Lexeme) (node : Node) : Prop :=
  ∃ own, own <:+: used ∧ own ∈ node.spelling

section Placed

variable {nodes : List Node} {used : List Lexeme}

theorem Scattered.spelledIn (scattered : Scattered nodes used) :
    ∀ node ∈ nodes, SpelledIn used node := by
  induction scattered with
  | nil used => exact List.forall_mem_nil _
  | @cons node nodes before own behind spelled others ih =>
      refine List.forall_mem_cons.mpr ⟨⟨own, ⟨before, behind, by simp⟩, spelled⟩, ?_⟩
      intro later member
      obtain ⟨inner, part, innerSpelled⟩ := ih later member
      exact ⟨inner, part.trans ⟨before ++ own, [], by simp⟩, innerSpelled⟩

theorem SpelledIn.exists_ends {node : Node} (spelledIn : SpelledIn used node)
    (inOrder : InOrder used) :
    (∃ lexeme ∈ used, lexeme.span.start = node.span.start) ∧
      ∃ lexeme ∈ used, lexeme.span.stop = node.span.stop := by
  obtain ⟨own, part, spelled⟩ := spelledIn
  obtain ⟨⟨first, isFirst, starts⟩, last, isLast, stops⟩ :=
    (Node.runs spelled (inOrder.of_sublist part.sublist)).exists_ends
  exact ⟨⟨first, part.subset isFirst, starts⟩, last, part.subset isLast, stops⟩

/-- Parts that are spelled one behind the other stand one behind the other. -/
theorem Scattered.ordered (scattered : Scattered nodes used) (inOrder : InOrder used) :
    nodes.Pairwise fun earlier later => earlier.span.stop ≤ later.span.start := by
  induction scattered with
  | nil used => exact .nil
  | @cons node nodes before own behind spelled others ih =>
      have tail := inOrder.of_sublist (List.sublist_append_right before (own ++ behind))
      have ownInOrder := tail.of_sublist (List.sublist_append_left own behind)
      have behindInOrder := tail.of_sublist (List.sublist_append_right own behind)
      refine List.pairwise_cons.mpr ⟨fun later member => ?_, ih behindInOrder⟩
      obtain ⟨-, last, isLast, stops⟩ := (Node.runs spelled ownInOrder).exists_ends
      obtain ⟨⟨first, isFirst, starts⟩, -⟩ :=
        (others.spelledIn later member).exists_ends behindInOrder
      rw [← stops, ← starts]
      exact (List.pairwise_append.mp tail.apart).2.2 last isLast first isFirst

end Placed

/-! ## Documents -/

/-- What the span of a part has to do with its tokens and with the parts inside it: it runs
over the tokens that spell the part, and covers at least one byte; the parts inside stand
within it, one behind the other. -/
structure Nested (used : List Lexeme) (node : Node) : Prop where
  runs : ∃ own, own <:+: used ∧ own ∈ node.spelling ∧ Runs own node.span
  nonempty : node.span.start < node.span.stop
  within : ∀ child ∈ node.children,
    node.span.start ≤ child.span.start ∧ child.span.stop ≤ node.span.stop
  ordered : node.children.Pairwise fun earlier later => earlier.span.stop ≤ later.span.start

theorem SpelledIn.child {used : List Lexeme} {parent child : Node}
    (spelledIn : SpelledIn used parent) (inside : child ∈ parent.children) :
    SpelledIn used child := by
  obtain ⟨own, part, spelled⟩ := spelledIn
  obtain ⟨inner, innerPart, innerSpelled⟩ :=
    (parent.scatters own spelled).spelledIn child inside
  exact ⟨inner, innerPart.trans part, innerSpelled⟩

theorem SpelledIn.nested {used : List Lexeme} {node : Node} (spelledIn : SpelledIn used node)
    (inOrder : InOrder used) : Nested used node := by
  obtain ⟨own, part, spelled⟩ := spelledIn
  have ownInOrder := inOrder.of_sublist part.sublist
  have runs := Node.runs spelled ownInOrder
  have scattered := node.scatters own spelled
  refine ⟨⟨own, part, spelled, runs⟩, ?_, ?_, scattered.ordered ownInOrder⟩
  · obtain ⟨⟨first, isFirst, starts⟩, -⟩ := runs.exists_ends
    have covers := ownInOrder.nonempty first isFirst
    have stops := (runs.within ownInOrder first isFirst).2
    omega
  · intro child inside
    obtain ⟨⟨first, isFirst, starts⟩, last, isLast, stops⟩ :=
      (scattered.spelledIn child inside).exists_ends ownInOrder
    rw [← starts, ← stops]
    exact ⟨(runs.within ownInOrder first isFirst).1, (runs.within ownInOrder last isLast).2⟩

theorem NodeOf.spelledIn {definitions : List Definition} {used : List Lexeme} {node : Node}
    (isNode : NodeOf definitions node) (spelled : used ∈ documentSpelling definitions) :
    SpelledIn used node := by
  have scattered := scatters_sequenced Node.definition (fun _ => rfl) definitions used spelled
  induction isNode with
  | definition among => exact scattered.spelledIn _ (List.mem_map_of_mem among)
  | child outer inside ih => exact ih.child inside

/-- The spans of a document that is read form a tree that follows its tokens.  The definitions
stand one behind the other.  The span of every part inside them, however deep, covers at
least one byte and runs from the first to the last of the tokens that spell the part; the
parts directly inside it stand within it, one behind the other. -/
theorem spans_nested {source : String} {definitions : List Definition}
    (readSource : read source = .ok definitions) :
    ∃ used, lexemes source = .ok used ∧
      (definitions.Pairwise fun earlier later => earlier.span.stop ≤ later.span.start) ∧
      ∀ node, NodeOf definitions node → Nested used node := by
  obtain ⟨used, cuts, spelled⟩ := read_eq_ok_iff.mp readSource
  have scattered := scatters_sequenced Node.definition (fun _ => rfl) definitions used
    spelled
  refine ⟨used, lexemes_eq_ok_iff.mpr cuts, ?_, fun node isNode => ?_⟩
  · exact List.pairwise_map.mp (scattered.ordered cuts.inOrder)
  · exact (isNode.spelledIn spelled).nested cuts.inOrder

/-- A field with a description, an argument that has a default value and a directive of its
own, and a directive with arguments. -/
def nestedField : Field :=
  ⟨some "f", "f", [⟨none, "x", .named "Int", some (.int 2), [⟨"E", [], ⟨28, 30⟩⟩], ⟨17, 30⟩⟩],
    .list (.nonNull (.named "B")), [⟨"F", [⟨"a", .list [.int 1], ⟨41, 47⟩⟩,
      ⟨"b", .enum "C", ⟨49, 53⟩⟩], ⟨38, 54⟩⟩], ⟨11, 54⟩⟩

/-- The text of a type with this field and another one. -/
def nestedSource : String :=
  "type A @D \x7b\"f\" f(x: Int = 2 @E): [B!] @F(a: [1], b: C) g: B\x7d"

/-- The definitions in this text. -/
def nestedDefinitions : List Definition :=
  [.object ⟨none, "A", [], [⟨"D", [], ⟨7, 9⟩⟩],
    [nestedField, ⟨none, "g", [], .named "B", [], ⟨55, 59⟩⟩], ⟨0, 60⟩⟩]

theorem nestedField_nested : ∃ used, lexemes nestedSource = .ok used ∧
    Nested used (.field nestedField) ∧ (⟨17, 30⟩ : Span).stop ≤ (⟨38, 54⟩ : Span).start := by
  have readSource : read nestedSource = .ok nestedDefinitions := by
    cbv
  obtain ⟨used, cut, -, nested⟩ := spans_nested readSource
  have ofType : NodeOf nestedDefinitions (.definition _) := .definition List.mem_cons_self
  have isChild : NodeOf nestedDefinitions (.field nestedField) :=
    .child ofType (List.mem_cons_of_mem _ List.mem_cons_self)
  have ofField := nested (.field nestedField) isChild
  exact ⟨used, cut, ofField, (List.pairwise_cons.mp ofField.ordered).1 _ List.mem_cons_self⟩

end EntityMapping.Document
