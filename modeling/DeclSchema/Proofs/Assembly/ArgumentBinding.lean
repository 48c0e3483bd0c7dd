import DeclSchema.Proofs.Assembly.Reclassification
import DeclSchema.Schema.Kind

/-!
The index of argument declarations, and what binding does with it. A look-up gives the earliest
declaration of its key. Where an operation type stands for one object type, binding is a map over
the definitions, followed by the mentions of all types of the new arguments.
-/

namespace DeclSchema.Assembly

open Schema

theorem add_lookup (index : ArgsIndex) (type : ObjectType) (key : String) :
    (index.add type).value.lookup key =
      (index.lookup key).or (if argsKey type.name = key then some type else none) := by
  unfold ArgsIndex.add
  cases found : index.lookup (argsKey type.name) with
  | some earlier =>
    by_cases same : argsKey type.name = key
    · subst same
      simp [Logged.bind_value, pure, found]
    · simp [Logged.bind_value, pure, same]
  | none =>
    change (index ++ [(argsKey type.name, type)]).lookup key = _
    rw [List.lookup_append]
    by_cases same : argsKey type.name = key
    · simp [same]
    · have miss : (key == argsKey type.name) = false := by simpa using fun h => same h.symm
      simp [List.lookup_cons, same, miss]

theorem addAll_lookup (types : List ObjectType) (index : ArgsIndex) (key : String) :
    (types.foldlM ArgsIndex.add index).value.lookup key =
      (index.lookup key).or (types.find? fun type => argsKey type.name = key) := by
  induction types generalizing index with
  | nil => simp [pure]
  | cons type rest ih =>
    rw [List.foldlM_cons, Logged.bind_value, ih, add_lookup, Option.or_assoc]
    by_cases same : argsKey type.name = key <;> simp [same]

-- The earliest declaration of a key counts.
theorem index_lookup (definitions : List Definition) (key : String) :
    (ArgsIndex.of definitions).value.lookup key =
      (definitions.filterMap argsType?).find? fun type => argsKey type.name = key := by
  unfold ArgsIndex.of
  rw [addAll_lookup]
  simp

-- Binding as it concerns one object type.
def bindType (operation : String) (index : ArgsIndex) (type : ObjectType) : ObjectType :=
  if type.name = operation then { type with fields := type.fields.map (bindField operation index) }
  else type

def bindDefinition (operation : String) (index : ArgsIndex) : Definition → Definition
  | .object type => .object (bindType operation index type)
  | definition => definition

-- The fields that binding finds declarations for.
def boundIn (operation : String) (index : ArgsIndex) (definitions : List Definition) : List Bound :=
  match objectsNamed operation definitions with
  | [] => []
  | type :: _ => boundFields operation index type.fields

theorem bindType_name (operation : String) (index : ArgsIndex) (type : ObjectType) :
    (bindType operation index type).name = type.name := by
  unfold bindType
  split <;> rfl

theorem bindField_toInput (operation : String) (index : ArgsIndex) (field : Field) :
    (bindField operation index field).toInput = field.toInput := by
  unfold bindField bound?
  cases index.lookup (operationArgsKey operation field.name) <;> rfl

-- Input types have no arguments, so binding does not show in them.
theorem bindType_toInput (operation : String) (index : ArgsIndex) (type : ObjectType) :
    (bindType operation index type).toInput = type.toInput := by
  unfold bindType
  split
  · simp [ObjectType.toInput, bindField_toInput]
  · rfl

theorem bindDefinition_of_miss {operation : String} {definition : Definition}
    (miss : definition.isObjectNamed operation = false) (index : ArgsIndex) :
    bindDefinition operation index definition = definition := by
  cases definition with
  | object type =>
    have different : type.name ≠ operation := by simpa [Definition.isObjectNamed] using miss
    rw [bindDefinition, bindType, if_neg different]
  | _ => rfl

theorem bindDefinition_name (operation : String) (index : ArgsIndex) (definition : Definition) :
    (bindDefinition operation index definition).name? = definition.name? := by
  cases definition with
  | object type => exact congrArg some (bindType_name operation index type)
  | _ => rfl

theorem bindDefinition_named (operation name : String) (index : ArgsIndex) (definition : Definition) :
    (bindDefinition operation index definition).isObjectNamed name =
      definition.isObjectNamed name := by
  cases definition with
  | object type => simp only [bindDefinition, Definition.isObjectNamed, bindType_name]
  | _ => rfl

theorem bind_count (operation name : String) (index : ArgsIndex) (definitions : List Definition) :
    (definitions.map (bindDefinition operation index)).countP (·.isObjectNamed name) =
      definitions.countP (·.isObjectNamed name) := by
  rw [List.countP_map]
  congr 1
  funext definition
  exact bindDefinition_named operation name index definition

theorem bind_ends {operation name : String} {index : ArgsIndex} {definitions : List Definition}
    (ends : Ends name definitions) : Ends name (definitions.map (bindDefinition operation index)) := by
  refine List.pairwise_map.mpr (List.Pairwise.imp ?_ ends)
  intro definition _ miss
  rw [bindDefinition_named, miss]

theorem due_bind (operation : String) (index : ArgsIndex) (types : List String)
    (earlier : List Definition) (type : ObjectType) :
    Due types (earlier.map (bindDefinition operation index)) (bindType operation index type) ↔
      Due types earlier type := by
  unfold Due
  rw [bindType_name, bind_count]

theorem settled_bind (operation : String) (index : ArgsIndex) (types : List String)
    (earlier : List Definition) (definition : Definition) :
    settled types (earlier.map (bindDefinition operation index))
        (bindDefinition operation index definition) =
      bindDefinition operation index (settled types earlier definition) := by
  cases definition with
  | object type =>
    have same := due_bind operation index types earlier type
    by_cases due : Due types earlier type
    · rw [bindDefinition, settled_due (same.mpr due), settled_due due, bindType_toInput]
      rfl
    · rw [bindDefinition, settled_kept (fun bound => due (same.mp bound)), settled_kept due]
      rfl
  | _ => rfl

theorem settle_bind (operation : String) (index : ArgsIndex) (types : List String)
    (earlier definitions : List Definition) :
    settle types (earlier.map (bindDefinition operation index))
        (definitions.map (bindDefinition operation index)) =
      (settle types earlier definitions).map (bindDefinition operation index) := by
  induction definitions generalizing earlier with
  | nil => rfl
  | cons definition rest ih =>
    have tail := ih (earlier ++ [definition])
    rw [List.map_append, List.map_singleton] at tail
    simp only [List.map_cons, settle, settled_bind, tail]

theorem bind_absent {operation : String} {definitions : List Definition}
    (absent : objectsNamed operation definitions = []) (index : ArgsIndex) :
    definitions.map (bindDefinition operation index) = definitions := by
  have unchanged : ∀ definition ∈ definitions,
      bindDefinition operation index definition = id definition :=
    fun definition member => bindDefinition_of_miss (objects_absent absent definition member) index
  rw [List.map_congr_left unchanged, List.map_id]

theorem replaceFirst_bind {operation : String} {definitions : List Definition} {type : ObjectType}
    (objects : objectsNamed operation definitions = [type]) (index : ArgsIndex) :
    replaceFirst (·.isObjectNamed operation)
        (.object { type with fields := type.fields.map (bindField operation index) }) definitions =
      definitions.map (bindDefinition operation index) := by
  induction definitions with
  | nil => cases objects
  | cons definition rest ih =>
    cases found : objectNamed? operation definition with
    | none =>
      have miss := objectNamed_none found
      have tail : objectsNamed operation rest = [type] := by
        simpa [objectsNamed, found] using objects
      simp [replaceFirst, miss, bindDefinition_of_miss, ih tail]
    | some other =>
      simp only [objectsNamed, List.filterMap_cons, found, List.cons.injEq] at objects
      obtain ⟨rfl, rest_none⟩ := objects
      obtain ⟨rfl, named⟩ := objectNamed_exact.mp found
      simp [replaceFirst, Definition.isObjectNamed, named, bindDefinition, bindType, bind_absent rest_none]

-- Binding of an operation type that stands for at most one object type.
theorem bind_mentioned {operation : String} {state : State}
    (sole : (objectsNamed operation state.definitions).length ≤ 1) (index : ArgsIndex) :
    Mentioned
      { state with
        definitions := state.definitions.map (bindDefinition operation index)
        bound := state.bound ++ (boundIn operation index state.definitions).map (·.label operation) }
      ((boundIn operation index state.definitions).flatMap Bound.argumentTypes)
      (state.bind operation index).value := by
  unfold State.bind boundIn
  rw [find_object]
  cases objects : objectsNamed operation state.definitions with
  | nil =>
    simp only [bind_absent objects, List.map_nil, List.append_nil, List.flatMap_nil]
    exact mentioned_none state
  | cons type others =>
    have noOthers : others = [] := sole_first (objects ▸ sole)
    rw [noOthers] at objects
    rw [← replaceFirst_bind objects]
    exact reclassifyAll_mentioned (mentioned_none _) _

theorem mentioned_count {start state : State} {types : List String}
    (mentioned : Mentioned start types state) (name : String) :
    state.definitions.countP (·.isObjectNamed name) =
      start.definitions.countP (·.isObjectNamed name) - types.count name := by
  rw [mentioned.definitions, settle_count, List.countP_nil, Nat.sub_zero]

-- Binding after some mentions is the same as binding before them, as an input type shows no
-- arguments; so all mentions can be taken as one row.
theorem bind_after {operation : String} {start state : State} {types : List String}
    (mentioned : Mentioned start types state)
    (sole : (objectsNamed operation start.definitions).length ≤ 1) (index : ArgsIndex) :
    Mentioned
      { start with
        definitions := start.definitions.map (bindDefinition operation index)
        bound := start.bound ++ (boundIn operation index state.definitions).map (·.label operation) }
      (types ++ (boundIn operation index state.definitions).flatMap Bound.argumentTypes)
      (state.bind operation index).value := by
  have later : (objectsNamed operation state.definitions).length ≤ 1 := by
    rw [objects_count] at sole ⊢
    rw [mentioned_count mentioned]
    exact Nat.le_trans (Nat.sub_le _ _) sole
  have second := bind_mentioned later index
  refine ⟨?_, ?_, ?_, second.pruned.trans mentioned.pruned⟩
  · have commuted := settle_bind operation index types [] start.definitions
    rw [List.map_nil, ← mentioned.definitions] at commuted
    rw [second.definitions, ← commuted, settle_settle]
  · intro name
    have before := mentioned.reclassified name
    have after := second.reclassified name
    simp only [bind_count, mentioned_count mentioned] at after
    simp only [bind_count, List.count_append]
    omega
  · rw [second.bound, mentioned.bound]

end DeclSchema.Assembly
