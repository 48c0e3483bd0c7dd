import DeclSchema.Proofs.Assembly.OperationTypes

/-!
What is left of repeated object types. A merge keeps what comes first: the first definition at its
place, all its fields and interfaces, and behind them those of the later definitions that nothing
with their name came before. Merges of different names do not touch one another.
-/

namespace DeclSchema.Assembly

open Schema

variable {α : Type}

-- Of more items, in their order, the first of every key that the kept items lack.
def newcomers (key : α → String) (kept more : List α) : List α :=
  (more.filter fun item => !kept.any (key · = key item)).eraseDupsBy fun a b => key a = key b

theorem addMissing_newcomers (key : α → String) (kept more : List α) :
    addMissing key kept more = kept ++ newcomers key kept more := by
  induction more generalizing kept with
  | nil => simp [addMissing, newcomers]
  | cons item rest ih =>
    cases known : kept.any (key · = key item) with
    | true =>
      have passed : addMissing key kept (item :: rest) = addMissing key kept rest := by
        rw [addMissing, List.foldl_cons, if_pos known]
        rfl
      rw [passed, ih]
      simp [newcomers, known]
    | false =>
      have added : addMissing key kept (item :: rest) = addMissing key (kept ++ [item]) rest := by
        rw [addMissing, List.foldl_cons, if_neg (by simp [known])]
        rfl
      have others : (rest.filter fun other => !(kept ++ [item]).any (key · = key other)) =
          (rest.filter fun other => !kept.any (key · = key other)).filter fun other =>
            decide (key other = key item) = false := by
        rw [List.filter_filter]
        congr 1
        funext other
        simp [List.any_append, Bool.and_comm, eq_comm]
      rw [added, ih, newcomers, others, newcomers, List.filter_cons_of_pos (by simp [known]),
        List.eraseDupsBy_cons, List.append_assoc, List.singleton_append]

-- The first of several definitions, with what it lacks of the others.
def joined (first : ObjectType) (others : List ObjectType) : ObjectType :=
  { first with
    fields := first.fields ++ newcomers Field.name first.fields (others.flatMap ObjectType.fields)
    interfaces := first.interfaces ++
      newcomers id first.interfaces (others.flatMap ObjectType.interfaces) }

theorem absorbAll_joined (others : List ObjectType) (first : ObjectType) :
    others.foldl absorb first = joined first others := by
  have gathered : others.foldl absorb first =
      { first with
        fields := addMissing Field.name first.fields (others.flatMap ObjectType.fields)
        interfaces := addMissing id first.interfaces (others.flatMap ObjectType.interfaces) } := by
    induction others generalizing first with
    | nil => rfl
    | cons other rest ih =>
      rw [List.foldl_cons, ih]
      simp only [absorb, addMissing, List.flatMap_cons, List.foldl_append]
  rw [gathered, addMissing_newcomers, addMissing_newcomers, joined]

theorem replaceAll_split {p : α → Bool} {front : List α} (before : ∀ a ∈ front, p a = false)
    {first : α} (hit : p first = true) (item : α) (back : List α) :
    replaceAll p item (front ++ first :: back) = front ++ item :: back.filter (!p ·) := by
  induction front with
  | nil => simp [replaceAll, hit]
  | cons head rest ih =>
    obtain ⟨miss, others⟩ := List.forall_mem_cons.mp before
    simp [replaceAll, miss, ih others]

theorem merge_few {name : String} {definitions : List Definition}
    (few : (objectsNamed name definitions).length < 2) : mergeNamed name definitions = definitions := by
  unfold mergeNamed
  split
  · rename_i several
    rw [several] at few
    simp only [List.length_cons] at few
    omega
  · rfl

theorem merge_several {name : String} {definitions : List Definition} {first second : ObjectType}
    {more : List ObjectType} (several : objectsNamed name definitions = first :: second :: more) :
    mergeNamed name definitions =
      replaceAll (·.isObjectNamed name) (.object (joined first (second :: more))) definitions := by
  unfold mergeNamed
  rw [several]
  dsimp only
  rw [absorbAll_joined]

-- The list is cut at the first definition of the name.
theorem merge_split {name : String} {definitions : List Definition} {first second : ObjectType}
    {more : List ObjectType} (several : objectsNamed name definitions = first :: second :: more) :
    ∃ front back, definitions = front ++ .object first :: back ∧
      (∀ definition ∈ front, definition.isObjectNamed name = false) ∧
      mergeNamed name definitions = front ++ .object (joined first (second :: more)) ::
        back.filter (!·.isObjectNamed name) := by
  have found := find_object name definitions
  rw [several, List.head?_cons, Option.map_some] at found
  obtain ⟨hit, front, back, split, before⟩ := List.find?_eq_some_iff_append.mp found
  have misses : ∀ definition ∈ front, definition.isObjectNamed name = false := by
    intro definition member
    simpa using before definition member
  refine ⟨front, back, split, misses, ?_⟩
  rw [merge_several several, split, replaceAll_split misses hit]

/-! Merges of two names. -/

theorem replaceAll_swapped {p q : α → Bool} {one other : α} (apart : ∀ a, p a = true → q a = false)
    (oneHit : p one = true) (otherHit : q other = true) (items : List α) :
    replaceAll p one (replaceAll q other items) = replaceAll q other (replaceAll p one items) := by
  have apart' : ∀ a, q a = true → p a = false := by
    intro a hit
    cases both : p a with
    | false => rfl
    | true =>
      rw [apart a both] at hit
      cases hit
  have oneMiss := apart one oneHit
  have otherMiss := apart' other otherHit
  induction items with
  | nil => rfl
  | cons head rest ih =>
    cases hit : p head with
    | true =>
      have kept := replaceAll_filter (p := q) (q := (!p ·)) (fun a found => by simp [apart' a found])
        (by simp [otherMiss] : (!p other) = true) rest
      simp [replaceAll, hit, apart head hit, oneMiss, kept]
    | false =>
      cases otherwise : q head with
      | true =>
        have kept := replaceAll_filter (p := p) (q := (!q ·)) (fun a found => by simp [apart a found])
          (by simp [oneMiss] : (!q one) = true) rest
        simp [replaceAll, hit, otherwise, otherMiss, kept]
      | false => simp [replaceAll, hit, otherwise, ih]

theorem joined_named {name : String} {definitions : List Definition} {first : ObjectType}
    {others : List ObjectType} (objects : objectsNamed name definitions = first :: others)
    (more : List ObjectType) : (Definition.object (joined first more)).isObjectNamed name = true := by
  simp [Definition.isObjectNamed, joined, first_named objects]

theorem two_or_more {items : List α} (several : ¬ items.length < 2) :
    ∃ first second more, items = first :: second :: more := by
  match items, several with
  | [], short => exact absurd (Nat.zero_lt_succ 1) short
  | [_], short => exact absurd (Nat.lt_succ_self 1) short
  | first :: second :: more, _ => exact ⟨first, second, more, rfl⟩

theorem merges_commute (one other : String) (definitions : List Definition) :
    mergeNamed one (mergeNamed other definitions) = mergeNamed other (mergeNamed one definitions) := by
  by_cases same : one = other
  · rw [same]
  have oneKept := merge_others same definitions
  have otherKept := merge_others (Ne.symm same) definitions
  by_cases oneFew : (objectsNamed one definitions).length < 2
  · have still : (objectsNamed one (mergeNamed other definitions)).length < 2 := by rwa [oneKept]
    rw [merge_few still, merge_few oneFew]
  by_cases otherFew : (objectsNamed other definitions).length < 2
  · have still : (objectsNamed other (mergeNamed one definitions)).length < 2 := by rwa [otherKept]
    rw [merge_few still, merge_few otherFew]
  obtain ⟨first, second, more, oneObjects⟩ := two_or_more oneFew
  obtain ⟨third, fourth, rest, otherObjects⟩ := two_or_more otherFew
  rw [merge_several (oneKept.trans oneObjects), merge_several otherObjects,
    merge_several (otherKept.trans otherObjects), merge_several oneObjects]
  refine replaceAll_swapped ?_ (joined_named oneObjects _) (joined_named otherObjects _) definitions
  intro definition named
  obtain ⟨type, rfl, rfl⟩ := isObjectNamed_exact.mp named
  simpa [Definition.isObjectNamed] using same

-- A merge by the state of the assembly: nothing but the definitions changes.
theorem merge_keeps_first (name : String) (state : State) :
    let merged := (state.merge name).value
    ((objectsNamed name state.definitions).length < 2 → merged = state) ∧
    (∀ first second more, objectsNamed name state.definitions = first :: second :: more →
      objectsNamed name merged.definitions = [joined first (second :: more)] ∧
      ∃ front back, state.definitions = front ++ .object first :: back ∧
        (∀ definition ∈ front, definition.isObjectNamed name = false) ∧
        merged = { state with
          definitions := front ++ .object (joined first (second :: more)) ::
            back.filter (!·.isObjectNamed name) }) ∧
    ∀ other, ((state.merge name).value.merge other).value =
      ((state.merge other).value.merge name).value := by
  intro merged
  have value : merged = { state with definitions := mergeNamed name state.definitions } :=
    merge_value name state
  refine ⟨?_, ?_, ?_⟩
  · intro few
    rw [value, merge_few few]
  · intro first second more several
    obtain ⟨front, back, split, before, after⟩ := merge_split several
    refine ⟨?_, front, back, split, before, by rw [value, after]⟩
    have sole := merge_objects name state.definitions
    rw [merged?, several] at sole
    rw [value, sole]
    change [(second :: more).foldl absorb first] = _
    rw [absorbAll_joined]
  · intro other
    simp only [merge_value, merges_commute name other]

-- Three definitions among others, with repeated fields and interfaces.
def scatteredQueries : State :=
  let field (name type : String) : Field := ⟨none, name, [], .named type, []⟩
  ⟨[.object ⟨none, "Page", [], [], [field "a" "Int"]⟩,
    .object ⟨some ⟨"first", false⟩, "Query", ["Node"], [], [field "a" "Int", field "a" "Day"]⟩,
    .object ⟨none, "Mutation", [], [], []⟩,
    .object ⟨some ⟨"second", false⟩, "Query", ["Root", "Node"], [⟨"d", []⟩], [field "b" "Int"]⟩,
    .scalar none "Query" [],
    .object ⟨none, "Query", ["Root", "Top"], [], [field "a" "Id", field "b" "Id", field "c" "Id"]⟩],
    [], [], []⟩

theorem merge_keeps_first_scattered :
    let field (name type : String) : Field := ⟨none, name, [], .named type, []⟩
    ∃ first second third,
      objectsNamed "Query" scatteredQueries.definitions = [first, second, third] ∧
      joined first [second, third] =
        ⟨some ⟨"first", false⟩, "Query", ["Node", "Root", "Top"], [],
          [field "a" "Int", field "a" "Day", field "b" "Int", field "c" "Id"]⟩ ∧
      objectsNamed "Query" (scatteredQueries.merge "Query").value.definitions =
        [joined first [second, third]] ∧
      ((scatteredQueries.merge "Query").value.merge "Mutation").value =
        ((scatteredQueries.merge "Mutation").value.merge "Query").value := by
  obtain ⟨-, several, commute⟩ := merge_keeps_first "Query" scatteredQueries
  exact ⟨_, _, _, rfl, rfl, (several _ _ _ rfl).1, commute "Mutation"⟩

end DeclSchema.Assembly
