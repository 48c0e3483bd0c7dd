import DeclSchema.Proofs.Assembly.Stages

/-!
What a run makes of a document. The fields of an operation type that is still an object type have
the arguments of their earliest declarations and are otherwise as merged, and a definition becomes
an input type exactly when a mention of its name in a bound argument is left for it.
-/

namespace DeclSchema.Assembly

open Schema

-- The earliest declaration in a document for a field of an operation type.
def declaration? (operation : String) (document : Document) (field : Field) : Option ObjectType :=
  (document.definitions.filterMap argsType?).find? fun type =>
    Text.toLower type.name = Text.toLower (operation ++ field.name ++ "Args")

def withDeclared (operation : String) (document : Document) (field : Field) : Field :=
  match declaration? operation document field with
  | some declaration => { field with arguments := declaration.fields.map Field.toInput }
  | none => field

-- The fields of the merged operation type that have a declaration, in their order.
def declaredLabels (operation : String) (document : Document) : List String :=
  (objectsNamed operation (mergeNamed operation document.definitions)).flatMap fun type =>
    (type.fields.filter fun field => (declaration? operation document field).isSome).map fun field =>
      operation ++ "." ++ field.name

theorem argsIndex_lookup (operation : String) (document : Document) (field : Field) :
    (argsIndex document).lookup (operationArgsKey operation field.name) =
      declaration? operation document field :=
  argsIndex_earliest document (operationArgsKey operation field.name)

theorem bindField_declared (operation : String) (document : Document) (field : Field) :
    bindField operation (argsIndex document) field = withDeclared operation document field := by
  unfold bindField bound? withDeclared
  rw [argsIndex_lookup]
  cases declaration? operation document field <;> rfl

theorem boundFields_labels (operation : String) (document : Document) (fields : List Field) :
    (boundFields operation (argsIndex document) fields).map (·.label operation) =
      (fields.filter fun field => (declaration? operation document field).isSome).map fun field =>
        operation ++ "." ++ field.name := by
  induction fields with
  | nil => rfl
  | cons field rest ih =>
    have found := argsIndex_lookup operation document field
    cases declared : declaration? operation document field with
    | none =>
      rw [declared] at found
      simpa [boundFields, bound?, found, declared] using ih
    | some declaration =>
      rw [declared] at found
      simpa [boundFields, bound?, found, declared, Bound.label] using ih

theorem boundIn_labels {operation : String} {document : Document} {definitions : List Definition}
    (same : objectsNamed operation definitions =
      objectsNamed operation (mergeNamed operation document.definitions)) :
    (boundIn operation (argsIndex document) definitions).map (·.label operation) =
      declaredLabels operation document := by
  unfold boundIn declaredLabels
  rw [same, merge_objects]
  cases merged? operation document.definitions with
  | none => rfl
  | some type => simpa using boundFields_labels operation document type.fields

theorem sole_member {α : Type} {items : List α} {item : α} (sole : items.length ≤ 1)
    (member : item ∈ items) : items = [item] := by
  cases items with
  | nil => cases member
  | cons head rest =>
    have noRest := sole_first sole
    subst noRest
    rw [List.mem_singleton.mp member]

theorem bindDefinition_object {operation : String} {index : ArgsIndex} {definition : Definition}
    {type : ObjectType} (bound : bindDefinition operation index definition = .object type) :
    ∃ before, definition = .object before ∧ bindType operation index before = type := by
  cases definition with
  | object before => exact ⟨before, rfl, Definition.object.inj bound⟩
  | _ => cases bound

theorem bindType_other (operation : String) (index : ArgsIndex) {type : ObjectType}
    (different : type.name ≠ operation) : bindType operation index type = type := if_neg different

-- `Query` is bound in the second stage as it was merged, or it is no object type any more.
theorem mutationBound_queries (document : Document) :
    objectsNamed "Query" (mutationBound document).definitions = [] ∨
      objectsNamed "Query" (mutationBound document).definitions =
        objectsNamed "Query" (mergeNamed "Query" document.definitions) := by
  cases objects : objectsNamed "Query" (mutationBound document).definitions with
  | nil => exact .inl rfl
  | cons type others =>
    have member : type ∈ objectsNamed "Query" (mutationBound document).definitions := by
      simp [objects]
    obtain ⟨present, named⟩ := objects_exact.mp member
    rw [(mutationBound_mentioned document).definitions] at present
    obtain ⟨definition, prior, bound⟩ := List.mem_map.mp (settle_object present)
    obtain ⟨before, rfl, rfl⟩ := bindDefinition_object bound
    rw [bindType_name] at named
    have unbound : bindType "Mutation" (argsIndex document) before = before :=
      bindType_other _ _ (by rw [named]; decide)
    have merged := objects_exact.mpr ⟨prior, named⟩
    rw [prepared_queries] at merged
    rw [← objects, sole_member (mutationBound_sole document) member, unbound]
    exact .inr (sole_member (merge_sole "Query" document.definitions) merged).symm

-- Each of the two stages binds its own operation type.
theorem bindType_both {operation : String} (known : operation = "Query" ∨ operation = "Mutation")
    {type : ObjectType} (named : type.name = operation) (index : ArgsIndex) :
    bindType "Query" index (bindType "Mutation" index type) =
      { type with fields := type.fields.map (bindField operation index) } := by
  rcases known with rfl | rfl
  · rw [bindType_other "Mutation" index (by rw [named]; decide)]
    exact if_pos named
  · rw [bindType_other "Query" index (by rw [bindType_name, named]; decide)]
    exact if_pos named

theorem prepared_operation {operation : String} (known : operation = "Query" ∨ operation = "Mutation")
    (document : Document) :
    objectsNamed operation (prepared document).definitions =
      objectsNamed operation (mergeNamed operation document.definitions) := by
  rcases known with rfl | rfl
  · exact prepared_queries document
  · exact prepared_mutations document

theorem queryBound_operation {operation : String} (known : operation = "Query" ∨ operation = "Mutation")
    {document : Document} {type : ObjectType} (named : type.name = operation)
    (present : .object type ∈ (queryBound document).definitions) :
    ∃ merged, objectsNamed operation (mergeNamed operation document.definitions) = [merged] ∧
      type = { merged with fields := merged.fields.map (withDeclared operation document) } := by
  rw [(queryBound_mentioned document).definitions] at present
  obtain ⟨_, inner, outerBound⟩ := List.mem_map.mp (settle_object present)
  obtain ⟨_, rfl, rfl⟩ := bindDefinition_object outerBound
  obtain ⟨_, prior, innerBound⟩ := List.mem_map.mp inner
  obtain ⟨merged, rfl, rfl⟩ := bindDefinition_object innerBound
  rw [bindType_name, bindType_name] at named
  have member := objects_exact.mpr ⟨prior, named⟩
  rw [prepared_operation known] at member
  refine ⟨merged, sole_member (merge_sole operation document.definitions) member, ?_⟩
  have declared := funext (bindField_declared operation document)
  rw [bindType_both known named, declared]

-- An object type that is left in the end was there when its fields were to be bound.
theorem queryBound_queries {document : Document} {type : ObjectType} (named : type.name = "Query")
    (present : .object type ∈ (queryBound document).definitions) :
    objectsNamed "Query" (mutationBound document).definitions ≠ [] := by
  rw [(queryBound_step document).definitions] at present
  obtain ⟨_, prior, bound⟩ := List.mem_map.mp (settle_object present)
  obtain ⟨before, rfl, rfl⟩ := bindDefinition_object bound
  rw [bindType_name] at named
  exact List.ne_nil_of_mem (objects_exact.mpr ⟨prior, named⟩)

theorem operation_fields_exact (document : Document) {operation : String}
    (known : operation = "Query" ∨ operation = "Mutation") {type : ObjectType}
    (present : .object type ∈ (run document).value.definitions) (named : type.name = operation) :
    (∃ merged, objectsNamed operation (mergeNamed operation document.definitions) = [merged] ∧
      type = { merged with fields := merged.fields.map (withDeclared operation document) }) ∧
    ∃ queries, (run document).value.bound = declaredLabels "Mutation" document ++ queries ∧
      (queries = [] ∨ queries = declaredLabels "Query" document) ∧
      (operation = "Query" → queries = declaredLabels "Query" document) := by
  rw [run_definitions] at present
  have member := (List.mem_filter.mp present).1
  refine ⟨queryBound_operation known named member,
    (boundQueries document).map (·.label "Query"), ?_, ?_, ?_⟩
  · rw [run_bound, (queryBound_mentioned document).bound, boundMutations,
      boundIn_labels (prepared_mutations document)]
  · rcases mutationBound_queries document with gone | same
    · rw [boundQueries, boundIn, gone]
      exact .inl rfl
    · exact .inr (boundIn_labels same)
  · rintro rfl
    rcases mutationBound_queries document with gone | same
    · exact absurd gone (queryBound_queries named member)
    · exact boundIn_labels same

-- The first of two declarations that differ in letter case counts.
def usersDocument : Document :=
  ⟨[.object ⟨none, "Query", [], [],
      [⟨none, "user", [], .named "User", []⟩, ⟨none, "users", [], .list (.named "User"), []⟩]⟩,
    .object ⟨none, "queryUSERargs", [], [], [⟨none, "id", [], .nonNull (.named "ID"), []⟩]⟩,
    .object ⟨none, "QueryUserArgs", [], [], [⟨none, "name", [], .named "String", []⟩]⟩]⟩

theorem operation_fields_exact_users :
    ∃ type, .object type ∈ (run usersDocument).value.definitions ∧ type.name = "Query" ∧
      type.fields.map (fun field => (field.name, field.arguments.map (·.name))) =
        [("user", ["id"]), ("users", [])] ∧
      (run usersDocument).value.bound = ["Query.user"] := by
  have names : (objectsNamed "Query" (run usersDocument).value.definitions).map (·.name) = ["Query"] := by
    decide +kernel
  obtain ⟨type, member, -⟩ := List.mem_map.mp (names ▸ List.mem_singleton_self "Query")
  obtain ⟨present, named⟩ := objects_exact.mp member
  obtain ⟨⟨merged, sole, rfl⟩, queries, bound, -, declared⟩ :=
    operation_fields_exact usersDocument (.inl rfl) present named
  cases sole
  refine ⟨_, present, named, by decide +kernel, ?_⟩
  rw [bound, declared rfl]
  decide +kernel

theorem queryBound_get (document : Document) (i : Nat) :
    (queryBound document).definitions[i]? = (prepared document).definitions[i]?.map fun definition =>
      bindDefinition "Query" (argsIndex document) (bindDefinition "Mutation" (argsIndex document)
        (settled (mentions document) ((prepared document).definitions.take i) definition)) := by
  have mutations := settle_bind "Mutation" (argsIndex document) (mentions document) []
    (prepared document).definitions
  have queries := settle_bind "Query" (argsIndex document) (mentions document) []
    ((prepared document).definitions.map (bindDefinition "Mutation" (argsIndex document)))
  rw [List.map_nil] at mutations queries
  rw [(queryBound_mentioned document).definitions, boundDefinitions, queries, mutations,
    List.getElem?_map, List.getElem?_map, settle_get, Option.map_map, Option.map_map]
  rfl

end DeclSchema.Assembly
