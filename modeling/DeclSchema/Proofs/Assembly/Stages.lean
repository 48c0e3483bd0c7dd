import DeclSchema.Proofs.Assembly.ArgumentBinding

/-!
A run, one stage after the other: the operation types are merged and `Query` is moved, the fields
of `Mutation` and then those of `Query` are bound, and the argument declarations go. What the
definitions are before the last stage is said in one equation.
-/

namespace DeclSchema.Assembly

open Schema

-- After the merges and the move. All later stages keep the places of the definitions.
def prepared (document : Document) : State :=
  (((State.start document).merge "Query").value.merge "Mutation").value.reposition

def argsIndex (document : Document) : ArgsIndex :=
  (ArgsIndex.of (prepared document).definitions).value

def mutationBound (document : Document) : State :=
  ((prepared document).bind "Mutation" (argsIndex document)).value

def queryBound (document : Document) : State :=
  ((mutationBound document).bind "Query" (argsIndex document)).value

theorem run_value (document : Document) : (run document).value = (queryBound document).prune := by
  simp only [run, Logged.bind_value, Logged.pure_value, queryBound, mutationBound, argsIndex, prepared]

theorem run_definitions (document : Document) :
    (run document).value.definitions = (queryBound document).definitions.filter (!State.hasArgsName ·) := by
  rw [run_value, State.prune]

theorem run_bound (document : Document) : (run document).value.bound = (queryBound document).bound := by
  rw [run_value, State.prune]

-- The fields that are bound in a run. `Query` may have become an input type by the time it is its
-- turn, and then none of its fields is bound.
def boundMutations (document : Document) : List Bound :=
  boundIn "Mutation" (argsIndex document) (prepared document).definitions

def boundQueries (document : Document) : List Bound :=
  boundIn "Query" (argsIndex document) (mutationBound document).definitions

-- The types of all arguments of these fields, without their list and non-null marks.
def mentions (document : Document) : List String :=
  (boundMutations document ++ boundQueries document).flatMap Bound.argumentTypes

theorem prepared_definitions (document : Document) :
    (prepared document).definitions =
      moveLast "Query" (mergeNamed "Mutation" (mergeNamed "Query" document.definitions)) := by
  simp only [prepared, merge_value]
  rfl

theorem prepared_empty (document : Document) :
    (prepared document).bound = [] ∧ (prepared document).reclassified = [] ∧
      (prepared document).pruned = [] := by
  simp only [prepared, merge_value]
  exact ⟨rfl, rfl, rfl⟩

theorem prepared_unseen {β : Type} {view : Definition → Option β} (query : Blind "Query" view)
    (mutation : Blind "Mutation" view) (document : Document) :
    (prepared document).definitions.filterMap view = document.definitions.filterMap view := by
  rw [prepared_definitions, move_unseen query, merge_unseen mutation, merge_unseen query]

-- The earliest argument declaration of a key.
def earliest? (key : String) (document : Document) : Option ObjectType :=
  (document.definitions.filterMap argsType?).find? fun type => argsKey type.name = key

theorem argsIndex_earliest (document : Document) (key : String) :
    (argsIndex document).lookup key = earliest? key document := by
  have same := prepared_unseen (argsType_blind (by decide : isArgsName "Query" = false))
    (argsType_blind (by decide : isArgsName "Mutation" = false)) document
  rw [argsIndex, index_lookup, same, earliest?]

theorem merged_queries (definitions : List Definition) :
    objectsNamed "Query" (mergeNamed "Mutation" (mergeNamed "Query" definitions)) =
      objectsNamed "Query" (mergeNamed "Query" definitions) :=
  merge_others (by decide) (mergeNamed "Query" definitions)

theorem prepared_queries (document : Document) :
    objectsNamed "Query" (prepared document).definitions =
      objectsNamed "Query" (mergeNamed "Query" document.definitions) := by
  rw [prepared_definitions, move_objects, merged_queries, merge_objects]
  cases merged? "Query" document.definitions <;> rfl

theorem prepared_mutations (document : Document) :
    objectsNamed "Mutation" (prepared document).definitions =
      objectsNamed "Mutation" (mergeNamed "Mutation" document.definitions) := by
  rw [prepared_definitions, move_others (by decide), merge_objects, merge_objects, merged?, merged?,
    merge_others (by decide)]

theorem prepared_ends (document : Document) : Ends "Query" (prepared document).definitions := by
  rw [prepared_definitions]
  apply move_ends
  rw [merged_queries]
  exact merge_sole "Query" document.definitions

theorem mutationBound_mentioned (document : Document) :
    Mentioned
      { prepared document with
        definitions := (prepared document).definitions.map (bindDefinition "Mutation" (argsIndex document))
        bound := (prepared document).bound ++ (boundMutations document).map (·.label "Mutation") }
      ((boundMutations document).flatMap Bound.argumentTypes) (mutationBound document) := by
  refine bind_mentioned ?_ (argsIndex document)
  rw [prepared_mutations]
  exact merge_sole "Mutation" document.definitions

-- The prepared definitions with all arguments, were no type an input type.
def boundDefinitions (document : Document) : List Definition :=
  ((prepared document).definitions.map (bindDefinition "Mutation" (argsIndex document))).map
    (bindDefinition "Query" (argsIndex document))

theorem boundDefinitions_count (document : Document) (name : String) :
    (boundDefinitions document).countP (·.isObjectNamed name) =
      (prepared document).definitions.countP (·.isObjectNamed name) := by
  rw [boundDefinitions, bind_count, bind_count]

theorem mutationBound_count (document : Document) (name : String) :
    (mutationBound document).definitions.countP (·.isObjectNamed name) =
      (prepared document).definitions.countP (·.isObjectNamed name) -
        ((boundMutations document).flatMap Bound.argumentTypes).count name := by
  rw [mentioned_count (mutationBound_mentioned document), bind_count]

theorem mutationBound_sole (document : Document) :
    (objectsNamed "Query" (mutationBound document).definitions).length ≤ 1 := by
  have sole := merge_sole "Query" document.definitions
  rw [← prepared_queries, objects_count] at sole
  rw [objects_count, mutationBound_count]
  exact Nat.le_trans (Nat.sub_le _ _) sole

theorem queryBound_step (document : Document) :
    Mentioned
      { mutationBound document with
        definitions := (mutationBound document).definitions.map (bindDefinition "Query" (argsIndex document))
        bound := (mutationBound document).bound ++ (boundQueries document).map (·.label "Query") }
      ((boundQueries document).flatMap Bound.argumentTypes) (queryBound document) :=
  bind_mentioned (mutationBound_sole document) (argsIndex document)

theorem queryBound_mentioned (document : Document) :
    Mentioned
      { prepared document with
        definitions := boundDefinitions document
        bound := (boundMutations document).map (·.label "Mutation") ++
          (boundQueries document).map (·.label "Query") }
      (mentions document) (queryBound document) := by
  have sole := merge_sole "Query" document.definitions
  rw [← prepared_queries, objects_count, ← bind_count "Mutation" "Query" (argsIndex document),
    ← objects_count] at sole
  have both := bind_after (mutationBound_mentioned document) sole (argsIndex document)
  rw [(prepared_empty document).1, List.nil_append] at both
  rw [mentions, List.flatMap_append]
  exact both

end DeclSchema.Assembly
