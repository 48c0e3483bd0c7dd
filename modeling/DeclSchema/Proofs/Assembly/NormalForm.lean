import DeclSchema.Finish
import DeclSchema.Proofs.Assembly.Outcome

/-!
The form of an assembled schema: operation types are single, `Query` comes last and no argument
declaration is left. Filters keep the form, and a document that has it is assembled already.
-/

namespace DeclSchema.Assembly

open Schema

structure Assembled (definitions : List Definition) : Prop where
  query : Ends "Query" definitions
  mutation : (objectsNamed "Mutation" definitions).length ≤ 1
  plain : ∀ definition ∈ definitions, State.hasArgsName definition = false

theorem objects_sublist {definitions chosen : List Definition} (part : chosen.Sublist definitions)
    (name : String) : (objectsNamed name chosen).length ≤ (objectsNamed name definitions).length :=
  (part.filterMap (objectNamed? name)).length_le

theorem assembled_sublist {definitions chosen : List Definition} (assembled : Assembled definitions)
    (part : chosen.Sublist definitions) : Assembled chosen := by
  refine ⟨assembled.query.sublist part, ?_, ?_⟩
  · exact Nat.le_trans (objects_sublist part "Mutation") assembled.mutation
  · exact fun definition member => assembled.plain definition (part.subset member)

theorem document_definitions (state : State) : state.document.definitions = state.definitions := rfl

theorem run_assembled (document : Document) :
    Assembled (run document).value.document.definitions := by
  have outcome := queryBound_mentioned document
  have part : ((queryBound document).definitions.filter (!State.hasArgsName ·)).Sublist
      (queryBound document).definitions := List.filter_sublist
  rw [document_definitions, run_definitions]
  refine ⟨?_, ?_, ?_⟩
  · have ends : Ends "Query" (queryBound document).definitions := by
      rw [outcome.definitions]
      exact settle_ends (bind_ends (bind_ends (prepared_ends document)))
    exact ends.sublist part
  · refine Nat.le_trans (objects_sublist part "Mutation") ?_
    have sole := merge_sole "Mutation" document.definitions
    rw [← prepared_mutations, objects_count] at sole
    rw [objects_count, outcome.definitions, settle_count, boundDefinitions_count]
    exact Nat.le_trans (Nat.sub_le _ _) sole
  · intro definition member
    simpa using (List.mem_filter.mp member).2

theorem filters_assembled (filters : List Filter) {document : Document}
    (assembled : Assembled document.definitions) :
    Assembled (filters.foldl (fun document filter => filter.apply document) document).definitions := by
  induction filters generalizing document with
  | nil => exact assembled
  | cons filter rest ih => exact ih (assembled_sublist assembled List.filter_sublist)

theorem ends_count {name : String} {definitions : List Definition} (ends : Ends name definitions) :
    definitions.countP (·.isObjectNamed name) ≤ 1 := by
  induction definitions with
  | nil => exact Nat.zero_le 1
  | cons definition rest ih =>
    obtain ⟨before, tail⟩ := List.pairwise_cons.mp ends
    cases rest with
    | nil =>
      rw [List.countP_singleton]
      split <;> omega
    | cons next others =>
      have miss : definition.isObjectNamed name = false := before next List.mem_cons_self
      simpa [List.countP_cons, miss] using ih tail

theorem plain_name {definition : Definition} (plain : State.hasArgsName definition = false)
    {name : String} (named : definition.name? = some name) : isArgsName name = false := by
  unfold State.hasArgsName at plain
  rwa [named] at plain

theorem finished_invariants (finish : Finish) (document : Document) :
    let definitions := (finish.onDocument (run document).value.document).definitions
    definitions.countP (·.isObjectNamed "Query") ≤ 1 ∧
    definitions.countP (·.isObjectNamed "Mutation") ≤ 1 ∧
    (∀ definition ∈ definitions, definition.isObjectNamed "Query" = true →
      definitions.getLast? = some definition) ∧
    ∀ definition ∈ definitions, ∀ name, definition.name? = some name → isArgsName name = false := by
  intro definitions
  have assembled : Assembled definitions :=
    filters_assembled finish.filters (run_assembled document)
  refine ⟨ends_count assembled.query, ?_, ?_, ?_⟩
  · rw [← objects_count]
    exact assembled.mutation
  · exact fun definition member named => ends_last assembled.query member named
  · exact fun definition member name named => plain_name (assembled.plain definition member) named

-- Every stage leaves an assembled document as it is and has nothing to report.
theorem merge_of_sole {name : String} {state : State}
    (sole : (objectsNamed name state.definitions).length ≤ 1) : state.merge name = pure state := by
  unfold State.merge
  exact if_pos (Nat.lt_succ_of_le sole)

theorem move_of_ends {name : String} {definitions : List Definition} (ends : Ends name definitions) :
    moveLast name definitions = definitions := by
  unfold moveLast
  cases found : definitions.find? (·.isObjectNamed name) with
  | none => rfl
  | some definition =>
    have named : definition.isObjectNamed name = true := List.find?_some found
    have last := ends_last ends (List.mem_of_find?_eq_some found) named
    obtain ⟨front, rfl⟩ := List.getLast?_eq_some_iff.mp last
    have miss : ∀ earlier ∈ front, earlier.isObjectNamed name = false := fun earlier member =>
      (List.pairwise_append.mp ends).2.2 earlier member definition List.mem_cons_self
    have erased : (front ++ [definition]).eraseP (·.isObjectNamed name) = front := by
      rw [List.eraseP_append_right _ fun earlier member => by simp [miss earlier member]]
      simp [named]
    simp only [erased]

theorem index_of_plain {definitions : List Definition}
    (plain : ∀ definition ∈ definitions, State.hasArgsName definition = false) :
    ArgsIndex.of definitions = pure [] := by
  have none : definitions.filterMap argsType? = [] := by
    rw [List.filterMap_eq_nil_iff]
    intro definition member
    have named := plain definition member
    cases definition with
    | object type => simpa [argsType?] using plain_name named rfl
    | _ => rfl
  unfold ArgsIndex.of
  rw [none]
  rfl

theorem replaceFirst_found {α : Type} {p : α → Bool} {items : List α} {item : α}
    (found : items.find? p = some item) : replaceFirst p item items = items := by
  induction items with
  | nil => rfl
  | cons head rest ih =>
    cases hit : p head with
    | true =>
      rw [List.find?_cons_of_pos hit] at found
      cases Option.some.inj found
      simp [replaceFirst, hit]
    | false =>
      rw [List.find?_cons_of_neg (by simp [hit])] at found
      simp [replaceFirst, hit, ih found]

theorem bind_without_index (operation : String) (state : State) :
    state.bind operation [] = pure state := by
  have nothing : ∀ fields, boundFields operation [] fields = [] := by
    intro fields
    exact List.filterMap_eq_nil_iff.mpr fun _ _ => rfl
  have unchanged : ∀ fields : List Field, fields.map (bindField operation []) = fields := List.map_id
  unfold State.bind
  rw [find_object]
  cases objects : objectsNamed operation state.definitions with
  | nil => rfl
  | cons type others =>
    have found := find_object operation state.definitions
    rw [objects] at found
    have same := replaceFirst_found found
    simp only [List.head?_cons, Option.map_some, nothing, unchanged, same, List.map_nil,
      List.append_nil, List.flatMap_nil]
    rfl

theorem prune_of_plain {state : State}
    (plain : ∀ definition ∈ state.definitions, State.hasArgsName definition = false) :
    state.prune = state := by
  have kept : state.definitions.filter (!State.hasArgsName ·) = state.definitions := by
    rw [List.filter_eq_self]
    intro definition member
    simp [plain definition member]
  have gone : state.definitions.filter State.hasArgsName = [] := by
    rw [List.filter_eq_nil_iff]
    intro definition member
    simp [plain definition member]
  rw [State.prune, kept, gone, List.filterMap_nil, List.append_nil]

theorem run_of_assembled {document : Document} (assembled : Assembled document.definitions) :
    run document = pure (State.start document) := by
  have queries : (objectsNamed "Query" document.definitions).length ≤ 1 := by
    rw [objects_count]
    exact ends_count assembled.query
  have first : (State.start document).merge "Query" = pure (State.start document) :=
    merge_of_sole queries
  have second : (State.start document).merge "Mutation" = pure (State.start document) :=
    merge_of_sole assembled.mutation
  have moved : (State.start document).reposition = State.start document := by
    rw [State.reposition, State.start, move_of_ends assembled.query]
  have index : ArgsIndex.of (State.start document).definitions = pure [] :=
    index_of_plain assembled.plain
  have pruned : (State.start document).prune = State.start document := prune_of_plain assembled.plain
  simp only [run, first, second, pure_bind, moved, index, bind_without_index, pruned]

theorem run_idempotent (document : Document) :
    let again := run (run document).value.document
    again.value.definitions = (run document).value.definitions ∧
    again.value.bound = [] ∧ again.value.reclassified = [] ∧ again.value.pruned = [] ∧
    again.records = [] := by
  intro again
  have fixed : again = pure (State.start (run document).value.document) :=
    run_of_assembled (run_assembled document)
  rw [fixed]
  simp only [Logged.pure_value, Logged.pure_records, State.start, State.document, and_self]

end DeclSchema.Assembly
