import DeclSchema.Proofs.Assembly.Outcome
import DeclSchema.Proofs.Assembly.PlainPart

/-!
Where the definitions of a document are after a run. Of the repeated operation types the first ones
stay, argument declarations go and `Query` goes to the end; apart from that every definition keeps
its place and its name, and is what it was or its input type.
-/

namespace DeclSchema.Assembly

open Schema

variable {α : Type}

-- Of the items that have the property only the first one stays.
def keepFirst (p : α → Bool) : List α → List α
  | [] => []
  | head :: rest => if p head then head :: rest.filter (!p ·) else head :: keepFirst p rest

-- The definitions that a run leaves, as they were and in the order it leaves them.
def arranged (definitions : List Definition) : List Definition :=
  let kept := (keepFirst (·.isObjectNamed "Mutation")
    (keepFirst (·.isObjectNamed "Query") definitions)).filter (!State.hasArgsName ·)
  kept.filter (!·.isObjectNamed "Query") ++ kept.filter (·.isObjectNamed "Query")

theorem filter_absent {p : α → Bool} {items : List α} (absent : items.countP p = 0) :
    items.filter (!p ·) = items := by
  rw [List.filter_eq_self]
  intro item member
  simpa using List.countP_eq_zero.mp absent item member

theorem keepFirst_sole {p : α → Bool} {items : List α} (sole : items.countP p ≤ 1) :
    keepFirst p items = items := by
  induction items with
  | nil => rfl
  | cons head rest ih =>
    cases hit : p head with
    | true =>
      have absent : rest.countP p = 0 := by simpa [hit] using sole
      simp [keepFirst, hit, filter_absent absent]
    | false => simp [keepFirst, hit, ih (by simpa [hit] using sole)]

theorem keepFirst_filter {p q : α → Bool} (kept : ∀ a, p a = true → q a = true) (items : List α) :
    (keepFirst p items).filter q = keepFirst p (items.filter q) := by
  induction items with
  | nil => rfl
  | cons head rest ih =>
    cases hit : p head with
    | true => simp [keepFirst, hit, kept head hit, filter_swapped (!p ·) q]
    | false => cases stays : q head <;> simp [keepFirst, hit, stays, ih]

theorem keepFirst_map {p : α → Bool} {change : α → α} (same : ∀ a, p (change a) = p a)
    (items : List α) : keepFirst p (items.map change) = (keepFirst p items).map change := by
  induction items with
  | nil => rfl
  | cons head rest ih =>
    have filtered : (rest.map change).filter (!p ·) = (rest.filter (!p ·)).map change :=
      filter_changed (fun item => by rw [same item]) rest
    cases hit : p head <;> simp [keepFirst, same, hit, filtered, ih]

theorem replaceAll_keepFirst (p : α → Bool) (item : α) (items : List α) :
    replaceAll p item items = (keepFirst p items).map fun a => if p a then item else a := by
  induction items with
  | nil => rfl
  | cons head rest ih =>
    cases hit : p head with
    | true =>
      have others : (rest.filter (!p ·)).map (fun a => if p a then item else a) =
          rest.filter (!p ·) := by
        have same : ∀ a ∈ rest.filter (!p ·), (if p a then item else a) = id a := by
          intro a member
          have miss : p a = false := by simpa using (List.mem_filter.mp member).2
          simp [miss]
        rw [List.map_congr_left same, List.map_id]
      simp [replaceAll, keepFirst, hit, others]
    | false => simp [replaceAll, keepFirst, hit, ih]

theorem erase_sole {p : α → Bool} {items : List α} (sole : items.countP p ≤ 1) :
    items.eraseP p = items.filter (!p ·) := by
  induction items with
  | nil => rfl
  | cons head rest ih =>
    cases hit : p head with
    | true =>
      have absent : rest.countP p = 0 := by simpa [hit] using sole
      simp [hit, filter_absent absent]
    | false => simp [hit, ih (by simpa [hit] using sole)]

theorem filter_sole {p : α → Bool} {items : List α} (sole : items.countP p ≤ 1) :
    items.filter p = (items.find? p).toList := by
  induction items with
  | nil => rfl
  | cons head rest ih =>
    cases hit : p head with
    | true =>
      have absent : rest.countP p = 0 := by simpa [hit] using sole
      simpa [hit] using List.countP_eq_zero.mp absent
    | false => simp [hit, ih (by simpa [hit] using sole)]

theorem move_split {name : String} {definitions : List Definition}
    (sole : definitions.countP (·.isObjectNamed name) ≤ 1) :
    moveLast name definitions = definitions.filter (!·.isObjectNamed name) ++
      definitions.filter (·.isObjectNamed name) := by
  unfold moveLast
  rw [filter_sole sole]
  cases found : definitions.find? (·.isObjectNamed name) with
  | none =>
    have absent : definitions.countP (·.isObjectNamed name) = 0 :=
      List.countP_eq_zero.mpr (List.find?_eq_none.mp found)
    simp [filter_absent absent]
  | some definition => simp [erase_sole sole]

-- A change of definitions that leaves names alone and shows in the operation types only.
structure Confined (change : Definition → Definition) : Prop where
  name : ∀ definition, (change definition).name? = definition.name?
  object : ∀ definition name, (change definition).isObjectNamed name = definition.isObjectNamed name
  other : ∀ definition, definition.isObjectNamed "Query" = false →
    definition.isObjectNamed "Mutation" = false → change definition = definition

theorem confined_id : Confined id := ⟨fun _ => rfl, fun _ _ => rfl, fun _ _ _ => rfl⟩

theorem confined_comp {first second : Definition → Definition} (outer : Confined second)
    (inner : Confined first) : Confined (second ∘ first) := by
  refine ⟨?_, ?_, ?_⟩
  · intro definition
    exact (outer.name _).trans (inner.name definition)
  · intro definition name
    exact (outer.object _ name).trans (inner.object definition name)
  · intro definition query mutation
    have same := inner.other definition query mutation
    rw [Function.comp, same, outer.other definition query mutation]

theorem bind_confined {operation : String} (known : operation = "Query" ∨ operation = "Mutation")
    (index : ArgsIndex) : Confined (bindDefinition operation index) := by
  refine ⟨bindDefinition_name operation index, ?_, ?_⟩
  · exact fun definition name => bindDefinition_named operation name index definition
  · intro definition query mutation
    rcases known with rfl | rfl
    · exact bindDefinition_of_miss query index
    · exact bindDefinition_of_miss mutation index

theorem replacement_confined {operation : String} (known : operation = "Query" ∨ operation = "Mutation")
    {type : ObjectType} (named : type.name = operation) :
    Confined fun definition =>
      if definition.isObjectNamed operation then .object type else definition := by
  refine ⟨?_, ?_, ?_⟩
  · intro definition
    cases hit : definition.isObjectNamed operation with
    | true =>
      obtain ⟨before, rfl, rfl⟩ := isObjectNamed_exact.mp hit
      simp [Definition.name?, named]
    | false => simp
  · intro definition name
    cases hit : definition.isObjectNamed operation with
    | true =>
      obtain ⟨before, rfl, rfl⟩ := isObjectNamed_exact.mp hit
      simp [Definition.isObjectNamed, named]
    | false => simp
  · intro definition query mutation
    rcases known with rfl | rfl
    · simp [query]
    · simp [mutation]

theorem merge_confined {operation : String} (known : operation = "Query" ∨ operation = "Mutation")
    (definitions : List Definition) :
    ∃ change, Confined change ∧
      mergeNamed operation definitions =
        (keepFirst (·.isObjectNamed operation) definitions).map change := by
  have counted := objects_count operation definitions
  unfold mergeNamed
  cases objects : objectsNamed operation definitions with
  | nil =>
    rw [objects] at counted
    exact ⟨id, confined_id, by rw [keepFirst_sole (by simp [← counted]), List.map_id]⟩
  | cons first others =>
    cases others with
    | nil =>
      rw [objects] at counted
      exact ⟨id, confined_id, by rw [keepFirst_sole (by simp [← counted]), List.map_id]⟩
    | cons second more =>
      have named : ((second :: more).foldl absorb first).name = operation := by
        rw [absorb_name, first_named objects]
      exact ⟨_, replacement_confined known named, replaceAll_keepFirst _ _ definitions⟩

theorem prepared_arranged (document : Document) :
    ∃ change, Confined change ∧
      (prepared (plainPart document)).definitions = (arranged document.definitions).map change := by
  have query : ∀ definition : Definition, definition.isObjectNamed "Query" = true →
      (!State.hasArgsName definition) = true :=
    fun _ named => by simp [named_plain (by decide : isArgsName "Query" = false) named]
  have mutation : ∀ definition : Definition, definition.isObjectNamed "Mutation" = true →
      (!State.hasArgsName definition) = true :=
    fun _ named => by simp [named_plain (by decide : isArgsName "Mutation" = false) named]
  obtain ⟨queries, confinedQueries, mergedQueries⟩ :=
    merge_confined (.inl rfl) (plainPart document).definitions
  obtain ⟨mutations, confinedMutations, mergedMutations⟩ :=
    merge_confined (.inr rfl) (mergeNamed "Query" (plainPart document).definitions)
  have confined := confined_comp confinedMutations confinedQueries
  refine ⟨mutations ∘ queries, confined, ?_⟩
  have sole : (mergeNamed "Mutation"
      (mergeNamed "Query" (plainPart document).definitions)).countP (·.isObjectNamed "Query") ≤ 1 := by
    rw [← objects_count, merged_queries]
    exact merge_sole "Query" _
  have merged : mergeNamed "Mutation" (mergeNamed "Query" (plainPart document).definitions) =
      ((keepFirst (·.isObjectNamed "Mutation") (keepFirst (·.isObjectNamed "Query")
        document.definitions)).filter (!State.hasArgsName ·)).map (mutations ∘ queries) := by
    rw [mergedMutations, mergedQueries, keepFirst_map (fun _ => confinedQueries.object _ _),
      List.map_map, keepFirst_filter mutation, keepFirst_filter query]
    rfl
  rw [prepared_definitions, move_split sole, merged,
    filter_changed (fun definition => by rw [confined.object]),
    filter_changed (fun definition => confined.object definition "Query"), ← List.map_append]
  rfl

theorem run_arranged (document : Document) :
    ∃ change, Confined change ∧
      (run document).value.definitions =
        settle (mentions document) [] ((arranged document.definitions).map change) := by
  obtain ⟨change, confined, prepared⟩ := prepared_arranged document
  have mutation := confined_comp (bind_confined (.inr rfl) (argsIndex document)) confined
  have query := confined_comp (bind_confined (.inl rfl) (argsIndex document)) mutation
  refine ⟨_, query, ?_⟩
  rw [run_plain, prepared, List.map_map, List.map_map]
  rfl

-- Argument declarations by their names.
def argsName? (definition : Definition) : Option String := definition.name?.filter isArgsName

theorem argsNames (definitions : List Definition) :
    (definitions.filter State.hasArgsName).filterMap Definition.name? =
      definitions.filterMap argsName? := by
  rw [List.filterMap_filter]
  congr 1
  funext definition
  unfold State.hasArgsName argsName?
  cases definition.name? with
  | none => rfl
  | some name => simp [Option.filter]

theorem argsName_blind {name : String} (plain : isArgsName name = false) : Blind name argsName? := by
  intro type named
  simp [argsName?, Definition.name?, named, plain]

theorem queryBound_names (document : Document) :
    (queryBound document).definitions.filterMap argsName? =
      (prepared document).definitions.filterMap argsName? := by
  have names : (queryBound document).definitions.map Definition.name? =
      (prepared document).definitions.map Definition.name? := by
    apply List.ext_getElem?
    intro i
    rw [List.getElem?_map, queryBound_get, List.getElem?_map, Option.map_map]
    congr 1
    funext definition
    simp [bindDefinition_name, settled_name]
  have through : ∀ definitions : List Definition, definitions.filterMap argsName? =
      (definitions.map Definition.name?).filterMap (·.filter isArgsName) := by
    intro definitions
    rw [List.filterMap_map]
    rfl
  rw [through, names, ← through]

theorem run_pruned (document : Document) :
    (run document).value.pruned =
      (document.definitions.filter State.hasArgsName).filterMap Definition.name? := by
  have empty : (queryBound document).pruned = [] := by
    rw [(queryBound_mentioned document).pruned]
    exact (prepared_empty document).2.2
  rw [run_value, State.prune, empty, List.nil_append, argsNames, argsNames, queryBound_names,
    prepared_unseen (argsName_blind (by decide)) (argsName_blind (by decide))]

theorem settled_form (types : List String) (earlier : List Definition) (definition : Definition) :
    settled types earlier definition = definition ∨
      ∃ type, definition = .object type ∧
        settled types earlier definition = .input type.toInput := by
  cases definition with
  | object type =>
    by_cases due : Due types earlier type
    · exact .inr ⟨type, rfl, settled_due due⟩
    · exact .inl (settled_kept due)
  | _ => exact .inl rfl

theorem run_places (document : Document) :
    (run document).value.definitions.length = (arranged document.definitions).length ∧
    (∀ (i : Nat) (before after : Definition), (arranged document.definitions)[i]? = some before →
      (run document).value.definitions[i]? = some after →
      after.name? = before.name? ∧
      (before.isObjectNamed "Query" = false → before.isObjectNamed "Mutation" = false →
        after = before ∨ ∃ type, before = .object type ∧ after = .input type.toInput)) ∧
    (run document).value.pruned =
      (document.definitions.filter State.hasArgsName).filterMap Definition.name? := by
  obtain ⟨change, confined, outcome⟩ := run_arranged document
  refine ⟨?_, ?_, run_pruned document⟩
  · rw [outcome, settle_length, List.length_map]
  · intro i before after at_before at_after
    rw [outcome, settle_get, List.getElem?_map, at_before, Option.map_some, Option.map_some,
      Option.some.injEq] at at_after
    subst at_after
    refine ⟨by rw [settled_name, confined.name], ?_⟩
    intro query mutation
    rw [confined.other before query mutation]
    exact settled_form _ _ before

end DeclSchema.Assembly
