import DeclSchema.Assembly

/-!
The object types of one name in a list of definitions, and what merging and moving do to them. A
merge leaves one object type of its name; whatever does not look at that name sees the same
definitions before and after.
-/

namespace DeclSchema.Assembly

open Schema

variable {α β : Type}

theorem isObjectNamed_exact {name : String} {definition : Definition} :
    definition.isObjectNamed name = true ↔ ∃ type, definition = .object type ∧ type.name = name := by
  cases definition <;> simp [Definition.isObjectNamed]

theorem objectNamed_exact {name : String} {definition : Definition} {type : ObjectType} :
    objectNamed? name definition = some type ↔ definition = .object type ∧ type.name = name := by
  cases definition with
  | object other =>
    by_cases named : other.name = name
    · simp only [objectNamed?, if_pos named, Option.some.injEq, Definition.object.injEq]
      constructor
      · intro same
        exact ⟨same, same ▸ named⟩
      · exact And.left
    · simp only [objectNamed?, if_neg named, Definition.object.injEq, reduceCtorEq, false_iff]
      rintro ⟨rfl, named'⟩
      exact named named'
  | _ => simp [objectNamed?]

theorem objectNamed_isSome (name : String) (definition : Definition) :
    (objectNamed? name definition).isSome = definition.isObjectNamed name := by
  cases definition with
  | object type =>
    by_cases named : type.name = name <;> simp [objectNamed?, Definition.isObjectNamed, named]
  | _ => rfl

theorem objectNamed_none {name : String} {definition : Definition}
    (unseen : objectNamed? name definition = none) : definition.isObjectNamed name = false := by
  rw [← objectNamed_isSome, unseen]
  rfl

theorem objects_exact {name : String} {definitions : List Definition} {type : ObjectType} :
    type ∈ objectsNamed name definitions ↔ .object type ∈ definitions ∧ type.name = name := by
  unfold objectsNamed
  rw [List.mem_filterMap]
  constructor
  · rintro ⟨definition, member, found⟩
    obtain ⟨rfl, named⟩ := objectNamed_exact.mp found
    exact ⟨member, named⟩
  · rintro ⟨member, named⟩
    exact ⟨_, member, objectNamed_exact.mpr ⟨rfl, named⟩⟩

theorem first_named {name : String} {definitions : List Definition} {first : ObjectType}
    {others : List ObjectType} (objects : objectsNamed name definitions = first :: others) :
    first.name = name := by
  have member : first ∈ objectsNamed name definitions := by simp [objects]
  exact (objects_exact.mp member).2

theorem objects_count (name : String) (definitions : List Definition) :
    (objectsNamed name definitions).length = definitions.countP (·.isObjectNamed name) := by
  unfold objectsNamed
  rw [List.length_filterMap_eq_countP]
  simp only [objectNamed_isSome]

theorem find_object (name : String) (definitions : List Definition) :
    definitions.find? (·.isObjectNamed name) = (objectsNamed name definitions).head?.map .object := by
  induction definitions with
  | nil => rfl
  | cons definition rest ih =>
    cases found : objectNamed? name definition with
    | none =>
      simpa [objectsNamed, found, objectNamed_none found] using ih
    | some type =>
      obtain ⟨rfl, named⟩ := objectNamed_exact.mp found
      simp [objectsNamed, found, Definition.isObjectNamed, named]

-- What does not look at the object types of a name.
def Blind (name : String) (view : Definition → Option β) : Prop :=
  ∀ type : ObjectType, type.name = name → view (.object type) = none

theorem blind_named {name : String} {view : Definition → Option β} (blind : Blind name view)
    (definition : Definition) (named : definition.isObjectNamed name = true) :
    view definition = none := by
  obtain ⟨type, rfl, same⟩ := isObjectNamed_exact.mp named
  exact blind type same

theorem objectNamed_blind {name other : String} (different : other ≠ name) :
    Blind name (objectNamed? other) := by
  intro type named
  have miss : type.name ≠ other := fun same => different (same.symm.trans named)
  simp [objectNamed?, miss]

theorem argsType_blind {name : String} (plain : isArgsName name = false) : Blind name argsType? := by
  intro type named
  simp [argsType?, named, plain]

-- Nothing of a list is lost by leaving out items that a view does not see.
theorem filterMap_unseen {p : α → Bool} {view : α → Option β} (unseen : ∀ a, p a = true → view a = none)
    (items : List α) : (items.filter (!p ·)).filterMap view = items.filterMap view := by
  rw [List.filterMap_filter]
  congr 1
  funext item
  cases hit : p item with
  | true => simp [unseen item hit]
  | false => simp

theorem replaceAll_unseen {p : α → Bool} {view : α → Option β} {item : α}
    (unseen : ∀ a, p a = true → view a = none) (itemUnseen : view item = none) (items : List α) :
    (replaceAll p item items).filterMap view = items.filterMap view := by
  induction items with
  | nil => rfl
  | cons head rest ih =>
    cases hit : p head with
    | true => simp [replaceAll, hit, itemUnseen, unseen head hit, filterMap_unseen unseen]
    | false => simp [replaceAll, hit, List.filterMap_cons, ih]

-- Seen through a view of just the replaced items, only the new one is left.
theorem replaceAll_seen {p : α → Bool} {view : α → Option β} {item : α} {seen : β}
    (agrees : ∀ a, (view a).isSome = p a) (itemSeen : view item = some seen) {items : List α}
    (present : items.filterMap view ≠ []) :
    (replaceAll p item items).filterMap view = [seen] := by
  induction items with
  | nil => exact absurd rfl present
  | cons head rest ih =>
    cases hit : p head with
    | true =>
      have gone : (rest.filter (!p ·)).filterMap view = [] := by
        rw [List.filterMap_eq_nil_iff]
        intro other member
        have miss : p other = false := by simpa using (List.mem_filter.mp member).2
        exact Option.isNone_iff_eq_none.mp (by simp [← Option.not_isSome, agrees, miss])
      simp [replaceAll, hit, itemSeen, gone]
    | false =>
      have unseen : view head = none :=
        Option.isNone_iff_eq_none.mp (by simp [← Option.not_isSome, agrees, hit])
      rw [List.filterMap_cons_none unseen] at present
      simp [replaceAll, hit, unseen, ih present]

theorem filter_swapped (p q : α → Bool) (items : List α) :
    (items.filter p).filter q = (items.filter q).filter p := by
  rw [List.filter_filter, List.filter_filter]
  simp only [Bool.and_comm]

theorem replaceAll_filter {p q : α → Bool} {item : α} (kept : ∀ a, p a = true → q a = true)
    (itemKept : q item = true) (items : List α) :
    (replaceAll p item items).filter q = replaceAll p item (items.filter q) := by
  induction items with
  | nil => rfl
  | cons head rest ih =>
    cases hit : p head with
    | true => simp [replaceAll, hit, kept head hit, itemKept, filter_swapped (!p ·) q]
    | false =>
      cases stays : q head with
      | true => simp [replaceAll, hit, stays, ih]
      | false => simp [replaceAll, hit, stays, ih]

-- The object type that all definitions of a name make together.
def merged? (name : String) (definitions : List Definition) : Option ObjectType :=
  match objectsNamed name definitions with
  | [] => none
  | first :: others => some (others.foldl absorb first)

theorem absorb_name (others : List ObjectType) (first : ObjectType) :
    (others.foldl absorb first).name = first.name := by
  induction others generalizing first with
  | nil => rfl
  | cons other rest ih => exact ih (absorb first other)

theorem merge_objects (name : String) (definitions : List Definition) :
    objectsNamed name (mergeNamed name definitions) = (merged? name definitions).toList := by
  unfold merged? mergeNamed
  cases objects : objectsNamed name definitions with
  | nil => simpa using objects
  | cons first others =>
    cases others with
    | nil => simpa using objects
    | cons second more =>
      have named := first_named objects
      have seen : objectNamed? name (.object ((second :: more).foldl absorb first)) =
          some ((second :: more).foldl absorb first) :=
        objectNamed_exact.mpr ⟨rfl, by rw [absorb_name, named]⟩
      have present : definitions.filterMap (objectNamed? name) ≠ [] := by
        change objectsNamed name definitions ≠ []
        simp [objects]
      exact replaceAll_seen (objectNamed_isSome name) seen present

theorem merge_unseen {name : String} {view : Definition → Option β} (blind : Blind name view)
    (definitions : List Definition) :
    (mergeNamed name definitions).filterMap view = definitions.filterMap view := by
  unfold mergeNamed
  cases objects : objectsNamed name definitions with
  | nil => rfl
  | cons first others =>
    cases others with
    | nil => rfl
    | cons second more =>
      have named := first_named objects
      have unseen : view (.object ((second :: more).foldl absorb first)) = none :=
        blind _ (by rw [absorb_name, named])
      exact replaceAll_unseen (blind_named blind) unseen definitions

theorem merge_others {name other : String} (different : other ≠ name) (definitions : List Definition) :
    objectsNamed other (mergeNamed name definitions) = objectsNamed other definitions :=
  merge_unseen (objectNamed_blind different) definitions

theorem merge_sole (name : String) (definitions : List Definition) :
    (objectsNamed name (mergeNamed name definitions)).length ≤ 1 := by
  rw [merge_objects]
  cases merged? name definitions <;> simp

theorem merge_value (name : String) (state : State) :
    (state.merge name).value = { state with definitions := mergeNamed name state.definitions } := by
  unfold State.merge mergeNamed
  cases objects : objectsNamed name state.definitions with
  | nil => rfl
  | cons first others =>
    cases others with
    | nil => rfl
    | cons second more =>
      have several : ¬ (first :: second :: more).length < 2 := by simp
      simp only [if_neg several]
      rfl

theorem erase_unseen {p : α → Bool} {view : α → Option β}
    (unseen : ∀ a, p a = true → view a = none) (items : List α) :
    (items.eraseP p).filterMap view = items.filterMap view := by
  induction items with
  | nil => rfl
  | cons head rest ih =>
    cases hit : p head with
    | true => simp [hit, unseen head hit]
    | false => simp [hit, List.filterMap_cons, ih]

theorem erase_seen {p : α → Bool} {view : α → Option β} (agrees : ∀ a, (view a).isSome = p a)
    (items : List α) : (items.eraseP p).filterMap view = (items.filterMap view).tail := by
  induction items with
  | nil => rfl
  | cons head rest ih =>
    cases seen : view head with
    | none =>
      have miss : p head = false := by simp [← agrees, seen]
      simp [miss, seen, ih]
    | some value =>
      have hit : p head = true := by simp [← agrees, seen]
      simp [hit, seen]

theorem erase_objects (name : String) (definitions : List Definition) :
    objectsNamed name (definitions.eraseP (·.isObjectNamed name)) = (objectsNamed name definitions).tail :=
  erase_seen (objectNamed_isSome name) definitions

theorem move_unseen {name : String} {view : Definition → Option β} (blind : Blind name view)
    (definitions : List Definition) :
    (moveLast name definitions).filterMap view = definitions.filterMap view := by
  unfold moveLast
  cases found : definitions.find? (·.isObjectNamed name) with
  | none => rfl
  | some definition =>
    have named : definition.isObjectNamed name = true := List.find?_some found
    simp [blind_named blind definition named, erase_unseen (blind_named blind)]

theorem move_others {name other : String} (different : other ≠ name) (definitions : List Definition) :
    objectsNamed other (moveLast name definitions) = objectsNamed other definitions :=
  move_unseen (objectNamed_blind different) definitions

-- The first object type of the name becomes the last one of that name.
theorem move_objects (name : String) (definitions : List Definition) :
    objectsNamed name (moveLast name definitions) =
      (objectsNamed name definitions).tail ++ (objectsNamed name definitions).head?.toList := by
  unfold moveLast
  rw [find_object]
  cases objects : objectsNamed name definitions with
  | nil => simpa using objects
  | cons first others =>
    have moved : objectNamed? name (.object first) = some first :=
      objectNamed_exact.mpr ⟨rfl, first_named objects⟩
    have front := erase_objects name definitions
    rw [objects] at front
    simp only [List.head?_cons, Option.map_some]
    rw [objectsNamed, List.filterMap_append, ← objectsNamed, front]
    simp [moved]

-- Nothing comes after an object type of the name.
def Ends (name : String) (definitions : List Definition) : Prop :=
  definitions.Pairwise fun definition _ => definition.isObjectNamed name = false

theorem objects_absent {name : String} {definitions : List Definition}
    (absent : objectsNamed name definitions = []) (definition : Definition)
    (member : definition ∈ definitions) : definition.isObjectNamed name = false :=
  objectNamed_none (List.filterMap_eq_nil_iff.mp absent definition member)

theorem ends_of_absent {name : String} {definitions : List Definition}
    (absent : objectsNamed name definitions = []) : Ends name definitions :=
  List.pairwise_of_forall_mem_list fun definition member _ _ => objects_absent absent definition member

theorem sole_first {first : α} {others : List α} (sole : (first :: others).length ≤ 1) :
    others = [] :=
  List.eq_nil_of_length_eq_zero (by simpa using sole)

theorem move_ends {name : String} {definitions : List Definition}
    (sole : (objectsNamed name definitions).length ≤ 1) : Ends name (moveLast name definitions) := by
  unfold moveLast
  rw [find_object]
  cases objects : objectsNamed name definitions with
  | nil => exact ends_of_absent objects
  | cons first others =>
    have noOthers : others = [] := sole_first (objects ▸ sole)
    have front : objectsNamed name (definitions.eraseP (·.isObjectNamed name)) = [] := by
      rw [erase_objects, objects, noOthers]
      rfl
    refine List.pairwise_append.mpr ⟨ends_of_absent front, List.pairwise_singleton _ _, ?_⟩
    intro definition member _ _
    exact objects_absent front definition member

theorem ends_last {name : String} {definitions : List Definition} (ends : Ends name definitions)
    {definition : Definition} (member : definition ∈ definitions)
    (named : definition.isObjectNamed name = true) : definitions.getLast? = some definition := by
  obtain ⟨front, back, rfl⟩ := List.append_of_mem member
  cases back with
  | nil => simp
  | cons next rest =>
    have before := (List.pairwise_cons.mp (List.pairwise_append.mp ends).2.1).1 next (by simp)
    rw [named] at before
    cases before

end DeclSchema.Assembly
