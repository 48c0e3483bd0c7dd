import DeclSchema.Proofs.Assembly.Stages

/-!
The definitions of a document that are no argument declarations. Every stage treats them as if the
declarations were not there; all that a run takes from a declaration is which key it has first and
which fields. So two documents that agree in this have the same schema.
-/

namespace DeclSchema.Assembly

open Schema

variable {α β : Type}

def plainPart (document : Document) : Document :=
  ⟨document.definitions.filter (!State.hasArgsName ·)⟩

theorem hasArgsName_of_name {definition other : Definition} (same : definition.name? = other.name?) :
    State.hasArgsName definition = State.hasArgsName other := by
  unfold State.hasArgsName
  rw [same]

theorem named_plain {name : String} (plain : isArgsName name = false) {definition : Definition}
    (named : definition.isObjectNamed name = true) : State.hasArgsName definition = false := by
  obtain ⟨type, rfl, rfl⟩ := isObjectNamed_exact.mp named
  exact plain

theorem objects_plain {name : String} (plain : isArgsName name = false)
    (definitions : List Definition) :
    objectsNamed name (definitions.filter (!State.hasArgsName ·)) = objectsNamed name definitions := by
  refine filterMap_unseen ?_ definitions
  intro definition args
  rw [← Option.not_isSome_iff_eq_none, objectNamed_isSome]
  intro named
  rw [named_plain plain named] at args
  cases args

/-! Merging and moving. -/

theorem filter_changed {p : α → Bool} {change : α → α} (same : ∀ a, p (change a) = p a)
    (items : List α) : (items.map change).filter p = (items.filter p).map change := by
  rw [List.filter_map]
  congr 2
  funext item
  exact same item

theorem erase_filter {p q : α → Bool} (kept : ∀ a, p a = true → q a = true) (items : List α) :
    (items.eraseP p).filter q = (items.filter q).eraseP p := by
  induction items with
  | nil => rfl
  | cons head rest ih =>
    cases hit : p head with
    | true => simp [hit, kept head hit]
    | false => cases stays : q head <;> simp [hit, stays, ih]

theorem merge_plain {name : String} (plain : isArgsName name = false) (definitions : List Definition) :
    (mergeNamed name definitions).filter (!State.hasArgsName ·) =
      mergeNamed name (definitions.filter (!State.hasArgsName ·)) := by
  unfold mergeNamed
  rw [objects_plain plain]
  cases objects : objectsNamed name definitions with
  | nil => rfl
  | cons first others =>
    cases others with
    | nil => rfl
    | cons second more =>
      refine replaceAll_filter ?_ ?_ definitions
      · intro definition named
        simp [named_plain plain named]
      · have named : ((second :: more).foldl absorb first).name = name := by
          rw [absorb_name, first_named objects]
        rw [Bool.not_eq_true', State.hasArgsName, Definition.name?, named]
        exact plain

theorem move_plain {name : String} (plain : isArgsName name = false) (definitions : List Definition) :
    (moveLast name definitions).filter (!State.hasArgsName ·) =
      moveLast name (definitions.filter (!State.hasArgsName ·)) := by
  unfold moveLast
  rw [find_object, find_object, objects_plain plain]
  cases objects : objectsNamed name definitions with
  | nil => rfl
  | cons first others =>
    have stays : State.hasArgsName (.object first) = false := by
      simp [State.hasArgsName, Definition.name?, first_named objects, plain]
    have erased := erase_filter (q := (!State.hasArgsName ·))
      (fun _ named => by simp [named_plain plain named]) definitions (p := (·.isObjectNamed name))
    simp [erased, stays]

theorem prepared_plain (document : Document) :
    (prepared document).definitions.filter (!State.hasArgsName ·) =
      (prepared (plainPart document)).definitions := by
  have query : isArgsName "Query" = false := by decide
  have mutation : isArgsName "Mutation" = false := by decide
  rw [prepared_definitions, prepared_definitions, move_plain query, merge_plain mutation,
    merge_plain query, plainPart]

/-! Binding and reclassification. -/

theorem bind_plain (operation : String) (index : ArgsIndex) (definitions : List Definition) :
    (definitions.map (bindDefinition operation index)).filter (!State.hasArgsName ·) =
      (definitions.filter (!State.hasArgsName ·)).map (bindDefinition operation index) := by
  refine filter_changed ?_ definitions
  intro definition
  rw [hasArgsName_of_name (bindDefinition_name operation index definition)]

-- Object types of one name are all argument declarations or none of them is, so those before a
-- plain one can be counted among the plain ones.
theorem settled_plain {definition : Definition} (plain : State.hasArgsName definition = false)
    (types : List String) (earlier : List Definition) :
    settled types earlier definition =
      settled types (earlier.filter (!State.hasArgsName ·)) definition := by
  cases definition with
  | object type =>
    have counted : (earlier.filter (!State.hasArgsName ·)).countP (·.isObjectNamed type.name) =
        earlier.countP (·.isObjectNamed type.name) := by
      rw [← objects_count, ← objects_count, objects_plain plain]
    by_cases due : Due types earlier type
    · have later : Due types (earlier.filter (!State.hasArgsName ·)) type := by rwa [Due, counted]
      rw [settled_due due, settled_due later]
    · have later : ¬ Due types (earlier.filter (!State.hasArgsName ·)) type := by rwa [Due, counted]
      rw [settled_kept due, settled_kept later]
  | _ => rfl

theorem settle_plain (types : List String) (earlier definitions : List Definition) :
    (settle types earlier definitions).filter (!State.hasArgsName ·) =
      settle types (earlier.filter (!State.hasArgsName ·))
        (definitions.filter (!State.hasArgsName ·)) := by
  induction definitions generalizing earlier with
  | nil => rfl
  | cons definition rest ih =>
    have named := hasArgsName_of_name (settled_name types earlier definition)
    cases args : State.hasArgsName definition with
    | true =>
      rw [args] at named
      simp [settle, named, args, ih]
    | false =>
      rw [args] at named
      simp [settle, args, named, ih, ← settled_plain args]

theorem mutationBound_plain (document : Document) :
    (mutationBound document).definitions.filter (!State.hasArgsName ·) =
      settle ((boundMutations document).flatMap Bound.argumentTypes) []
        ((prepared (plainPart document)).definitions.map
          (bindDefinition "Mutation" (argsIndex document))) := by
  rw [(mutationBound_mentioned document).definitions, settle_plain, bind_plain, prepared_plain]
  rfl

theorem run_plain (document : Document) :
    (run document).value.definitions =
      settle (mentions document) []
        (((prepared (plainPart document)).definitions.map
          (bindDefinition "Mutation" (argsIndex document))).map
          (bindDefinition "Query" (argsIndex document))) := by
  rw [run_definitions, (queryBound_mentioned document).definitions, settle_plain, boundDefinitions,
    bind_plain, bind_plain, prepared_plain]
  rfl

/-! Two documents. -/

-- Two indexes that hold the same arguments.
def Agree (first second : ArgsIndex) : Prop :=
  ∀ key, (first.lookup key).map (·.fields) = (second.lookup key).map (·.fields)

theorem bound_agree {first second : ArgsIndex} (agree : Agree first second) (view : Bound → β)
    (sees : ∀ field declaration other, declaration.fields = other.fields →
      view ⟨field, declaration⟩ = view ⟨field, other⟩) (operation : String) (field : Field) :
    (bound? operation first field).map view = (bound? operation second field).map view := by
  have same := agree (operationArgsKey operation field.name)
  unfold bound?
  cases left : first.lookup (operationArgsKey operation field.name) with
  | none =>
    rw [left, Option.map_none] at same
    rw [Option.map_eq_none_iff.mp same.symm]
  | some declaration =>
    rw [left, Option.map_some] at same
    obtain ⟨other, right, fields⟩ := Option.map_eq_some_iff.mp same.symm
    rw [right]
    exact congrArg some (sees field declaration other fields.symm)

theorem boundIn_agree {first second : ArgsIndex} (agree : Agree first second) (view : Bound → β)
    (sees : ∀ field declaration other, declaration.fields = other.fields →
      view ⟨field, declaration⟩ = view ⟨field, other⟩) {operation : String}
    {definitions others : List Definition}
    (objects : objectsNamed operation definitions = objectsNamed operation others) :
    (boundIn operation first definitions).map view = (boundIn operation second others).map view := by
  unfold boundIn
  rw [objects]
  cases objectsNamed operation others with
  | nil => rfl
  | cons type _ =>
    simp only [boundFields, List.map_filterMap]
    congr 1
    funext field
    exact bound_agree agree view sees operation field

theorem bindDefinition_agree {first second : ArgsIndex} (agree : Agree first second)
    (operation : String) : bindDefinition operation first = bindDefinition operation second := by
  have fields : bindField operation first = bindField operation second := by
    funext field
    have results := bound_agree agree Bound.result
      (fun _ _ _ same => by simp [Bound.result, Bound.arguments, same]) operation field
    unfold bindField
    cases left : bound? operation first field with
    | none =>
      rw [left, Option.map_none] at results
      rw [Option.map_eq_none_iff.mp results.symm]
    | some bound =>
      rw [left, Option.map_some] at results
      obtain ⟨other, right, same⟩ := Option.map_eq_some_iff.mp results.symm
      simp only [right, same]
  funext definition
  cases definition with
  | object type => simp only [bindDefinition, bindType, fields]
  | _ => rfl

-- Two documents that differ in their argument declarations only, and not in what counts of them.
structure Alike (first second : Document) : Prop where
  plain : plainPart first = plainPart second
  declared : ∀ key, (earliest? key first).map (·.fields) = (earliest? key second).map (·.fields)

theorem alike_agree {first second : Document} (alike : Alike first second) :
    Agree (argsIndex first) (argsIndex second) := by
  intro key
  rw [argsIndex_earliest, argsIndex_earliest, alike.declared]

theorem argumentTypes_sees (field : Field) (declaration other : ObjectType)
    (same : declaration.fields = other.fields) :
    Bound.argumentTypes ⟨field, declaration⟩ = Bound.argumentTypes ⟨field, other⟩ := by
  simp [Bound.argumentTypes, Bound.arguments, same]

theorem alike_mutations {first second : Document} (alike : Alike first second) :
    objectsNamed "Mutation" (prepared first).definitions =
      objectsNamed "Mutation" (prepared second).definitions := by
  have plain : isArgsName "Mutation" = false := by decide
  rw [← objects_plain plain, prepared_plain, alike.plain, ← prepared_plain, objects_plain plain]

theorem alike_mutationTypes {first second : Document} (alike : Alike first second) :
    (boundMutations first).flatMap Bound.argumentTypes =
      (boundMutations second).flatMap Bound.argumentTypes := by
  have same := boundIn_agree (alike_agree alike) Bound.argumentTypes argumentTypes_sees (alike_mutations alike)
  rw [List.flatMap_def, boundMutations, same, ← boundMutations, ← List.flatMap_def]

-- Whether `Query` is still an object type when its fields are bound shows in the plain part.
theorem alike_queries {first second : Document} (alike : Alike first second) :
    objectsNamed "Query" (mutationBound first).definitions =
      objectsNamed "Query" (mutationBound second).definitions := by
  have plain : isArgsName "Query" = false := by decide
  rw [← objects_plain plain, mutationBound_plain, alike.plain, alike_mutationTypes alike,
    bindDefinition_agree (alike_agree alike), ← mutationBound_plain, objects_plain plain]

theorem alike_mentions {first second : Document} (alike : Alike first second) :
    mentions first = mentions second := by
  have same := boundIn_agree (alike_agree alike) Bound.argumentTypes argumentTypes_sees (alike_queries alike)
  have queries : (boundQueries first).flatMap Bound.argumentTypes =
      (boundQueries second).flatMap Bound.argumentTypes := by
    rw [List.flatMap_def, boundQueries, same, ← boundQueries, ← List.flatMap_def]
  rw [mentions, mentions, List.flatMap_append, List.flatMap_append, alike_mutationTypes alike, queries]

theorem run_alike {first second : Document}
    (plain : first.definitions.filter (!State.hasArgsName ·) =
      second.definitions.filter (!State.hasArgsName ·))
    (declared : ∀ key,
      (earliest? key first).map (·.fields) = (earliest? key second).map (·.fields)) :
    (run first).value.definitions = (run second).value.definitions ∧
    (run first).value.bound = (run second).value.bound := by
  have alike : Alike first second := ⟨congrArg Document.mk plain, declared⟩
  have agree := alike_agree alike
  constructor
  · rw [run_plain, run_plain, alike.plain, alike_mentions alike, bindDefinition_agree agree,
      bindDefinition_agree agree]
  · have mutations := boundIn_agree agree (·.label "Mutation") (fun _ _ _ _ => rfl)
      (alike_mutations alike)
    have queries := boundIn_agree agree (·.label "Query") (fun _ _ _ _ => rfl)
      (alike_queries alike)
    rw [run_bound, run_bound, (queryBound_mentioned first).bound, (queryBound_mentioned second).bound]
    simp only [boundMutations, boundQueries, mutations, queries]

-- One declaration in front of `Query`, or two of its key behind it in other spellings.
def searchTypes : List Definition :=
  [.object ⟨none, "Filter", [], [], [⟨none, "term", [], .named "String", []⟩]⟩,
    .object ⟨none, "Query", [], [], [⟨none, "search", [], .list (.named "User"), []⟩]⟩]

def searchArguments (name field : String) : Definition :=
  .object ⟨none, name, [], [], [⟨none, field, [], .nonNull (.named "Filter"), []⟩]⟩

def declaredBefore : Document := ⟨searchArguments "QuerySearchArgs" "filter" :: searchTypes⟩

def declaredBehind : Document :=
  ⟨searchTypes ++ [searchArguments "querySEARCHargs" "filter", searchArguments "QuerysearchArgs" "other"]⟩

theorem search_earliest (key : String) :
    (earliest? key declaredBefore).map (·.fields) = (earliest? key declaredBehind).map (·.fields) := by
  have before : declaredBefore.definitions.filterMap argsType? =
      [⟨none, "QuerySearchArgs", [], [], [⟨none, "filter", [], .nonNull (.named "Filter"), []⟩]⟩] := by
    rfl
  have behind : declaredBehind.definitions.filterMap argsType? =
      [⟨none, "querySEARCHargs", [], [], [⟨none, "filter", [], .nonNull (.named "Filter"), []⟩]⟩,
        ⟨none, "QuerysearchArgs", [], [], [⟨none, "other", [], .nonNull (.named "Filter"), []⟩]⟩] := by
    rfl
  have first : argsKey "QuerySearchArgs" = "querysearchargs" := by decide +kernel
  have second : argsKey "querySEARCHargs" = "querysearchargs" := by decide +kernel
  have third : argsKey "QuerysearchArgs" = "querysearchargs" := by decide +kernel
  by_cases hit : "querysearchargs" = key <;>
    simp [earliest?, before, behind, first, second, third, hit]

theorem run_alike_search :
    (run declaredBefore).value.definitions = (run declaredBehind).value.definitions ∧
    (run declaredBefore).value.bound = ["Query.search"] ∧
    (run declaredBehind).value.bound = ["Query.search"] := by
  obtain ⟨definitions, bound⟩ := @run_alike declaredBefore declaredBehind rfl search_earliest
  have bindings : (run declaredBefore).value.bound = ["Query.search"] := by decide +kernel
  exact ⟨definitions, bindings, bound ▸ bindings⟩

end DeclSchema.Assembly
