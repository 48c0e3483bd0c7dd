import DeclSchema.Proofs.Assembly.ArgumentBinding

/-!
The order in which the operation types are bound. A binding shows in its own operation type and in
the types that its arguments mention. As long as no argument mentions an operation type, the binding
that comes second finds the fields that it would have found first; and which types become input
types depends on nothing but how often each one is mentioned.
-/

namespace DeclSchema.Assembly

open Schema

def operationTypes : List String := ["Query", "Mutation"]

-- No field of an operation type has a declaration with an argument that is an operation type.
def Apart (index : ArgsIndex) (definitions : List Definition) : Prop :=
  ∀ operation ∈ operationTypes, ∀ type ∈ objectsNamed operation definitions,
    ∀ field ∈ type.fields, ∀ declaration ∈ index.lookup (operationArgsKey operation field.name),
      ∀ argument ∈ declaration.fields, argument.type.baseName ∉ operationTypes

instance (index : ArgsIndex) (definitions : List Definition) : Decidable (Apart index definitions) :=
  inferInstanceAs (Decidable (∀ _ ∈ _, _))

/-! What a binding leaves alone. -/

theorem bindDefinition_unseen {operation other : String} (different : other ≠ operation)
    (index : ArgsIndex) (definition : Definition) :
    objectNamed? other (bindDefinition operation index definition) = objectNamed? other definition := by
  cases named : definition.isObjectNamed operation with
  | false => rw [bindDefinition_of_miss named]
  | true =>
    have bound : (bindDefinition operation index definition).isObjectNamed operation = true := by
      rw [bindDefinition_named, named]
    rw [blind_named (objectNamed_blind different) _ bound,
      blind_named (objectNamed_blind different) _ named]

theorem bind_others {operation other : String} (different : other ≠ operation) (index : ArgsIndex)
    (definitions : List Definition) :
    objectsNamed other (definitions.map (bindDefinition operation index)) =
      objectsNamed other definitions := by
  unfold objectsNamed
  rw [List.filterMap_map]
  congr 1
  funext definition
  exact bindDefinition_unseen different index definition

theorem bindDefinition_swapped {first second : String} (different : first ≠ second)
    (index : ArgsIndex) (definition : Definition) :
    bindDefinition second index (bindDefinition first index definition) =
      bindDefinition first index (bindDefinition second index definition) := by
  cases named : definition.isObjectNamed first with
  | false =>
    have still : (bindDefinition second index definition).isObjectNamed first = false := by
      rw [bindDefinition_named, named]
    rw [bindDefinition_of_miss named, bindDefinition_of_miss still]
  | true =>
    obtain ⟨type, rfl, same⟩ := isObjectNamed_exact.mp named
    have miss : (Definition.object type).isObjectNamed second = false := by
      simpa [Definition.isObjectNamed, same] using different
    have still : (bindDefinition first index (.object type)).isObjectNamed second = false := by
      rw [bindDefinition_named, miss]
    rw [bindDefinition_of_miss miss, bindDefinition_of_miss still]

theorem settled_unseen {types : List String} {name : String} (unmentioned : name ∉ types)
    (earlier : List Definition) (definition : Definition) :
    objectNamed? name (settled types earlier definition) = objectNamed? name definition := by
  cases definition with
  | object type =>
    by_cases due : Due types earlier type
    · have mentioned : type.name ∈ types := by
        apply List.count_pos_iff.mp
        unfold Due at due
        omega
      have other : type.name ≠ name := by
        rintro rfl
        exact unmentioned mentioned
      rw [settled_due due]
      simp [objectNamed?, other]
    · rw [settled_kept due]
  | _ => rfl

theorem settle_others {types : List String} {name : String} (unmentioned : name ∉ types)
    (earlier definitions : List Definition) :
    objectsNamed name (settle types earlier definitions) = objectsNamed name definitions := by
  induction definitions generalizing earlier with
  | nil => rfl
  | cons definition rest ih =>
    have tail := ih (earlier ++ [definition])
    unfold objectsNamed at tail ⊢
    rw [settle, List.filterMap_cons, List.filterMap_cons, settled_unseen unmentioned, tail]

/-! The order of mentions. -/

theorem settled_perm {types others : List String} (same : types.Perm others)
    (earlier : List Definition) (definition : Definition) :
    settled types earlier definition = settled others earlier definition := by
  cases definition with
  | object type =>
    have due : Due types earlier type ↔ Due others earlier type := by
      unfold Due
      rw [same.count_eq type.name]
    simp only [settled, due]
  | _ => rfl

theorem settle_perm {types others : List String} (same : types.Perm others)
    (earlier definitions : List Definition) :
    settle types earlier definitions = settle others earlier definitions := by
  induction definitions generalizing earlier with
  | nil => rfl
  | cons definition rest ih => rw [settle, settle, settled_perm same, ih]

theorem mentioned_perm {start other state after : State} {types others : List String}
    (first : Mentioned start types state) (second : Mentioned other others after)
    (definitions : start.definitions = other.definitions)
    (reclassified : start.reclassified = other.reclassified) (same : types.Perm others) :
    state.definitions = after.definitions ∧ state.reclassified.Perm after.reclassified := by
  refine ⟨?_, ?_⟩
  · rw [first.definitions, second.definitions, definitions, settle_perm same]
  · apply List.perm_iff_count.mpr
    intro name
    rw [first.reclassified, second.reclassified, definitions, reclassified, same.count_eq name]

/-! Two bindings. -/

theorem apart_unmentioned {index : ArgsIndex} {definitions : List Definition}
    (apart : Apart index definitions) {operation other : String} (known : operation ∈ operationTypes)
    (type : other ∈ operationTypes) :
    other ∉ (boundIn operation index definitions).flatMap Bound.argumentTypes := by
  intro mentioned
  obtain ⟨bound, member, argued⟩ := List.mem_flatMap.mp mentioned
  unfold boundIn at member
  split at member
  · cases member
  · rename_i operationType others objects
    obtain ⟨field, listed, found⟩ := List.mem_filterMap.mp member
    obtain ⟨declaration, declared, rfl⟩ := Option.map_eq_some_iff.mp found
    simp only [Bound.argumentTypes, Bound.arguments, List.map_map, List.mem_map] at argued
    obtain ⟨argument, among, rfl⟩ := argued
    have first : operationType ∈ objectsNamed operation definitions := by simp [objects]
    exact apart operation known operationType first field listed declaration declared argument among type

-- The second binding finds what it would have found without the first one.
theorem binds_mentioned {first second : String} (different : second ≠ first) {state : State}
    {index : ArgsIndex} (sole : (objectsNamed first state.definitions).length ≤ 1)
    (soleSecond : (objectsNamed second state.definitions).length ≤ 1)
    (unmentioned : second ∉ (boundIn first index state.definitions).flatMap Bound.argumentTypes) :
    Mentioned
      { state with
        definitions := (state.definitions.map (bindDefinition first index)).map
          (bindDefinition second index)
        bound := state.bound ++ (boundIn first index state.definitions).map (·.label first) ++
          (boundIn second index state.definitions).map (·.label second) }
      ((boundIn first index state.definitions).flatMap Bound.argumentTypes ++
        (boundIn second index state.definitions).flatMap Bound.argumentTypes)
      ((state.bind first index).value.bind second index).value := by
  have once := bind_mentioned sole index
  have others : objectsNamed second (state.bind first index).value.definitions =
      objectsNamed second state.definitions := by
    rw [once.definitions, settle_others unmentioned, bind_others different]
  have found : boundIn second index (state.bind first index).value.definitions =
      boundIn second index state.definitions := by
    unfold boundIn
    rw [others]
  have twice := bind_after once (by rw [bind_others different]; exact soleSecond) index
  rwa [found] at twice

theorem bindings_commute (state : State) (index : ArgsIndex)
    (queries : (objectsNamed "Query" state.definitions).length ≤ 1)
    (mutations : (objectsNamed "Mutation" state.definitions).length ≤ 1)
    (apart : Apart index state.definitions) :
    let mutationsFirst := ((state.bind "Mutation" index).value.bind "Query" index).value
    let queriesFirst := ((state.bind "Query" index).value.bind "Mutation" index).value
    mutationsFirst.definitions = queriesFirst.definitions ∧
      mutationsFirst.bound.Perm queriesFirst.bound ∧
      mutationsFirst.reclassified.Perm queriesFirst.reclassified ∧
      mutationsFirst.pruned = queriesFirst.pruned := by
  intro mutationsFirst queriesFirst
  have query : "Query" ∈ operationTypes := by decide
  have mutation : "Mutation" ∈ operationTypes := by decide
  have one := binds_mentioned (by decide : "Query" ≠ "Mutation") mutations queries
    (apart_unmentioned apart mutation query)
  have other := binds_mentioned (by decide : "Mutation" ≠ "Query") queries mutations
    (apart_unmentioned apart query mutation)
  have swapped : (state.definitions.map (bindDefinition "Mutation" index)).map
      (bindDefinition "Query" index) =
      (state.definitions.map (bindDefinition "Query" index)).map (bindDefinition "Mutation" index) := by
    rw [List.map_map, List.map_map]
    apply List.map_congr_left
    intro definition _
    exact bindDefinition_swapped (by decide : "Mutation" ≠ "Query") index definition
  obtain ⟨definitions, reclassified⟩ := mentioned_perm one other swapped rfl List.perm_append_comm
  refine ⟨definitions, ?_, reclassified, one.pruned.trans other.pruned.symm⟩
  rw [one.bound, other.bound, List.append_assoc, List.append_assoc]
  exact List.perm_append_comm.append_left state.bound

-- A type that arguments of both operation types mention, and that is defined twice.
def sharedTypes : State :=
  let object (name : String) (fields : List Field) : Definition := .object ⟨none, name, [], [], fields⟩
  let field (name type : String) : Field := ⟨none, name, [], .named type, []⟩
  ⟨[object "Query" [field "find" "Int", field "all" "Int"], object "Page" [field "size" "Int"],
    object "Mutation" [field "drop" "Int"], object "Page" [field "from" "Page"]], [], [], []⟩

def sharedIndex : ArgsIndex :=
  let field (name type : String) : Field := ⟨none, name, [], .named type, []⟩
  [("queryotherargs", ⟨none, "QueryOtherArgs", [], [], [field "page" "Query"]⟩),
    ("queryfindargs", ⟨none, "QueryFindArgs", [], [], [field "page" "Page", field "on" "Day"]⟩),
    ("mutationdropargs", ⟨none, "MutationDropArgs", [], [], [field "page" "Page"]⟩)]

theorem bindings_commute_shared :
    (objectsNamed "Query" sharedTypes.definitions).length ≤ 1 ∧
    (objectsNamed "Mutation" sharedTypes.definitions).length ≤ 1 ∧
    Apart sharedIndex sharedTypes.definitions ∧
    let mutationsFirst :=
      ((sharedTypes.bind "Mutation" sharedIndex).value.bind "Query" sharedIndex).value
    let queriesFirst :=
      ((sharedTypes.bind "Query" sharedIndex).value.bind "Mutation" sharedIndex).value
    mutationsFirst.definitions = queriesFirst.definitions ∧
      mutationsFirst.bound = ["Mutation.drop", "Query.find"] ∧
      queriesFirst.bound = ["Query.find", "Mutation.drop"] ∧
      mutationsFirst.reclassified = ["Page", "Page"] := by
  have queries : (objectsNamed "Query" sharedTypes.definitions).length ≤ 1 := by decide
  have mutations : (objectsNamed "Mutation" sharedTypes.definitions).length ≤ 1 := by decide
  have apart : Apart sharedIndex sharedTypes.definitions := by decide +kernel
  refine ⟨queries, mutations, apart,
    (bindings_commute sharedTypes sharedIndex queries mutations apart).1, ?_⟩
  decide +kernel

end DeclSchema.Assembly
