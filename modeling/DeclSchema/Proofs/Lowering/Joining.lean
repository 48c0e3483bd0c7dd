import DeclSchema.Proofs.Lowering.Decoding
import DeclSchema.Proofs.Schema.JoinedDocuments

/-!
Texts of declarations side by side. Each text ends with a line, so none of them can change how the
next one is read: the schema text is read as the definitions of the single texts, one after
another.
-/

namespace DeclSchema

open Schema

/-! The text of one declaration. -/

theorem lined_append (front : Points) {text : Points} (lined : Lined text) :
    Lined (front ++ text) := by
  rw [Lined, List.getLast?_append, lined]
  rfl

theorem lined_of (front : String) {ending : String} (lined : Lined (Points.of ending)) :
    Lined (Points.of (front ++ ending)) := by
  rw [Points.of_append]
  exact lined_append _ lined

theorem lowering_lined {text : Points} {names : List String} {definitions : List Definition}
    (lowered : Lowering text names definitions) (present : text ≠ []) : Lined text := by
  have braces (front : String) : Lined (Points.of (front ++ "\n\x7d\n")) := lined_of front rfl
  cases lowered with
  | nothing => exact absurd rfl present
  | scalars =>
    induction names with
    | nil => exact absurd rfl present
    | cons name others ih =>
      rw [List.map_cons, String.join_cons]
      by_cases last : String.join (others.map fun name => "scalar " ++ name ++ "\n") = ""
      · rw [last, String.append_empty]
        exact lined_of _ rfl
      · exact lined_of _ (ih (by simpa using last))
  | object => exact braces _
  | enumeration => exact braces _

theorem fragment_lined {declaration : Declaration} (present : declaration.fragment ≠ []) :
    Lined declaration.fragment := by
  cases declaration with
  | embedded tag text =>
    rw [(embedded_fragment present).1]
    exact lined_append _ rfl
  | typeAlias => exact lowering_lined (lowering rfl) present
  | enumeration => exact lowering_lined (lowering rfl) present

-- The text can be read alone, and it defines types or extends them.
def Declaration.Complete (declaration : Declaration) : Prop :=
  ∃ document, readSchema declaration.fragment = .ok document ∧
    ∀ definition ∈ document.definitions, definition.isTypeSystem = true

def Declaration.isComplete (declaration : Declaration) : Bool :=
  match readSchema declaration.fragment with
  | .ok document => document.definitions.all Definition.isTypeSystem
  | .error _ => false

theorem isComplete_iff (declaration : Declaration) :
    declaration.isComplete = true ↔ declaration.Complete := by
  unfold Declaration.isComplete Declaration.Complete
  cases readSchema declaration.fragment with
  | ok document => simp
  | error failure => simp

instance (declaration : Declaration) : Decidable declaration.Complete :=
  decidable_of_iff _ (isComplete_iff declaration)

-- What the text says when it is read alone.
def Declaration.ownDefinitions (declaration : Declaration) : List Definition :=
  match readSchema declaration.fragment with
  | .ok document => document.definitions
  | .error _ => []

theorem readSchema_ok {text : Points} {document : Document} :
    readSchema text = .ok document ↔ Document.parse text = .ok document := by
  unfold readSchema
  cases Document.parse text with
  | ok read => constructor <;> intro same <;> cases same <;> rfl
  | error fault => constructor <;> intro wrong <;> cases wrong

theorem complete_defines {declaration : Declaration} (complete : declaration.Complete) :
    Reading.Defines (tokens declaration.fragment) declaration.ownDefinitions ∧
      declaration.ownDefinitions ≠ [] := by
  obtain ⟨document, read, kinds⟩ := complete
  have own : declaration.ownDefinitions = document.definitions := by
    rw [Declaration.ownDefinitions, read]
  rw [own]
  have parsed := readSchema_ok.mp read
  exact ⟨parse_defines parsed kinds, parse_present parsed⟩

/-! The texts of all declarations. -/

-- A declaration without a text says nothing.
theorem absent_definitions {declaration : Declaration} (absent : declaration.fragment = []) :
    declaration.ownDefinitions = [] := by
  rw [Declaration.ownDefinitions, absent]
  rfl

section Complete

variable {declarations : List Declaration}

theorem schemaText_defines
    (complete : ∀ declaration ∈ declarations, declaration.fragment ≠ [] → declaration.Complete) :
    Reading.Defines (tokens (schemaText declarations))
      (declarations.flatMap Declaration.ownDefinitions) := by
  induction declarations with
  | nil => exact .nil
  | cons declaration rest ih =>
    obtain ⟨first, later⟩ := List.forall_mem_cons.mp complete
    have tail := ih later
    have text : schemaText (declaration :: rest) = declaration.fragment ++ schemaText rest :=
      schemaText_cons declaration rest
    rw [text, List.flatMap_cons]
    by_cases absent : declaration.fragment = []
    · rw [absent_definitions absent, absent]
      exact tail
    · obtain ⟨own, _⟩ := complete_defines (first absent)
      rw [tokens_joined (fragment_lined absent) (Reading.defines_unbroken own)]
      exact Reading.defines_append own tail

theorem fragments_read_apart
    (complete : ∀ declaration ∈ declarations, declaration.fragment ≠ [] → declaration.Complete)
    (shown : Shown declarations) :
    ∃ extraction, (extract declarations).outcome = .ok extraction ∧
      readSchema extraction.schemaText = .ok ⟨declarations.flatMap Declaration.ownDefinitions⟩ := by
  obtain ⟨extraction, extracted, text⟩ := extract_shown shown
  obtain ⟨declaration, listed, present⟩ := shown
  have some := (complete_defines (complete declaration listed present)).2
  obtain ⟨definition, member⟩ := List.exists_mem_of_ne_nil _ some
  have defined : declarations.flatMap Declaration.ownDefinitions ≠ [] :=
    List.ne_nil_of_mem (List.mem_flatMap.mpr ⟨declaration, listed, member⟩)
  have defines := schemaText_defines complete
  refine ⟨extraction, extracted, ?_⟩
  rw [text]
  exact readSchema_ok.mpr (defines_parse (Reading.defines_present defines defined) defines)

end Complete

-- A description at the start, a comment at the end, definitions without a body, and a blank text.
def ownerDeclarations : List Declaration :=
  [.embedded .gql "\"Who may look.\" directive @auth on OBJECT | FIELD_DEFINITION",
    .typeAlias "Query" (.object [.typed (some "users") (.reference "User" []) false]) [],
    .embedded .graphql "union Owner # who has a pet",
    .enumeration "Role" ["admin"],
    .embedded .gql " \n",
    .embedded .gql "\n  \"\"\"A user.\"\"\"\n  type User @auth",
    .embedded .gql "extend interface Node implements Entity"]

theorem fragments_read_apart_owners :
    (∀ declaration ∈ ownerDeclarations, declaration.fragment ≠ [] → declaration.Complete) ∧
    Shown ownerDeclarations ∧
    ∃ extraction document, (extract ownerDeclarations).outcome = .ok extraction ∧
      readSchema extraction.schemaText = .ok document ∧
      document.print = Points.of ("\"Who may look.\"\ndirective @auth on OBJECT | FIELD_DEFINITION\n\n" ++
        "type Query \x7b\n  users: User!\n\x7d\n\nunion Owner\n\nenum Role \x7b\n  ADMIN\n\x7d\n\n" ++
        "\"\"\"A user.\"\"\"\ntype User @auth\n\nextend interface Node implements Entity") := by
  have complete :
      ∀ declaration ∈ ownerDeclarations, declaration.fragment ≠ [] → declaration.Complete := by
    decide +kernel
  have shown : Shown ownerDeclarations :=
    ⟨.enumeration "Role" ["admin"], by simp [ownerDeclarations], by decide +kernel⟩
  obtain ⟨extraction, outcome, read⟩ := fragments_read_apart complete shown
  refine ⟨complete, shown, extraction, _, outcome, read, ?_⟩
  -- The kernel takes long to find the characters of a text.
  simp only [Points.of, String.toList_append, String.reduceToList]
  decide +kernel

end DeclSchema
