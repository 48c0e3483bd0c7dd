import DeclSchema.Proofs.Assembly.Stages
import DeclSchema.Proofs.Schema.PlainDefinitions

/-!
Plain definitions stay plain, whatever their types are to be like: a run takes names and types
only from the definitions it was given, and adds nothing of its own.
-/

namespace DeclSchema.Assembly

open Schema

variable {α : Type} {good : TypeRef → Prop}

def Plain (good : TypeRef → Prop) (definitions : List Definition) : Prop :=
  ∀ definition ∈ definitions, definition.Plain good

theorem object_plain {definitions : List Definition} (plain : Plain good definitions)
    {type : ObjectType} (member : .object type ∈ definitions) : type.Plain good := by
  cases plain _ member with
  | object plain => exact plain

/-! Merging. -/

theorem addMissing_member (key : α → String) {kept more : List α} {item : α}
    (member : item ∈ addMissing key kept more) : item ∈ kept ∨ item ∈ more := by
  induction more generalizing kept with
  | nil => exact .inl member
  | cons next rest ih =>
    rw [addMissing, List.foldl_cons] at member
    rcases ih member with earlier | later
    · split at earlier
      · exact .inl earlier
      · rcases List.mem_append.mp earlier with before | last
        · exact .inl before
        · exact .inr (List.mem_singleton.mp last ▸ List.mem_cons_self)
    · exact .inr (List.mem_cons_of_mem next later)

theorem absorb_preserves {first other : ObjectType} (plain : first.Plain good)
    (more : other.Plain good) : (absorb first other).Plain good := by
  cases plain with
  | mk named plain =>
    cases more with
    | mk _ more =>
      refine .mk named ?_
      intro field member
      rcases addMissing_member Field.name member with own | taken
      · exact plain field own
      · exact more field taken

theorem absorbAll_preserves {first : ObjectType} {others : List ObjectType}
    (plain : first.Plain good) (more : ∀ other ∈ others, other.Plain good) :
    (others.foldl absorb first).Plain good := by
  induction others generalizing first with
  | nil => exact plain
  | cons other rest ih =>
    obtain ⟨next, later⟩ := List.forall_mem_cons.mp more
    exact ih (absorb_preserves plain next) later

theorem replaceAll_member {p : α → Bool} {item other : α} {items : List α}
    (member : other ∈ replaceAll p item items) : other = item ∨ other ∈ items := by
  induction items with
  | nil => cases member
  | cons head rest ih =>
    rw [replaceAll] at member
    split at member
    · rcases List.mem_cons.mp member with same | kept
      · exact .inl same
      · exact .inr (List.mem_cons_of_mem head (List.mem_filter.mp kept).1)
    · rcases List.mem_cons.mp member with same | later
      · exact .inr (same ▸ List.mem_cons_self)
      · exact (ih later).imp_right (List.mem_cons_of_mem head)

theorem merge_preserves {definitions : List Definition} (plain : Plain good definitions)
    (name : String) : Plain good (mergeNamed name definitions) := by
  have objects : ∀ type ∈ objectsNamed name definitions, type.Plain good :=
    fun type member => object_plain plain (objects_exact.mp member).1
  unfold mergeNamed
  split
  · rename_i first second more shape
    rw [shape] at objects
    obtain ⟨own, others⟩ := List.forall_mem_cons.mp objects
    intro definition member
    rcases replaceAll_member member with rfl | kept
    · exact .object (absorbAll_preserves own others)
    · exact plain definition kept
  · exact plain

theorem move_preserves {definitions : List Definition} (plain : Plain good definitions)
    (name : String) : Plain good (moveLast name definitions) := by
  unfold moveLast
  split
  · rename_i moved found
    intro definition member
    rcases List.mem_append.mp member with kept | last
    · exact plain definition (List.mem_of_mem_eraseP kept)
    · rw [List.mem_singleton.mp last]
      exact plain moved (List.mem_of_find?_eq_some found)
  · exact plain

theorem prepared_preserves {document : Document} (plain : Plain good document.definitions) :
    Plain good (prepared document).definitions := by
  rw [prepared_definitions]
  exact move_preserves (merge_preserves (merge_preserves plain "Query") "Mutation") "Query"

/-! Binding. -/

theorem toInput_plain {field : Field} (plain : field.Plain good) : field.toInput.Plain good := by
  cases plain with
  | mk named _ typed => exact .mk named typed

theorem argsIndex_plain {document : Document} (plain : Plain good document.definitions)
    {key : String} {declaration : ObjectType}
    (found : (argsIndex document).lookup key = some declaration) : declaration.Plain good := by
  rw [argsIndex_earliest, earliest?] at found
  obtain ⟨definition, member, shape⟩ := List.mem_filterMap.mp (List.mem_of_find?_eq_some found)
  cases definition with
  | object type =>
    rw [argsType?] at shape
    split at shape
    · cases shape
      exact object_plain plain member
    · cases shape
  | _ => cases shape

section Binding

variable {index : ArgsIndex}
  (declared : ∀ key declaration, index.lookup key = some declaration → declaration.Plain good)

include declared

theorem bindField_preserves (operation : String) {field : Field} (plain : field.Plain good) :
    (bindField operation index field).Plain good := by
  unfold bindField bound?
  cases found : index.lookup (operationArgsKey operation field.name) with
  | none => exact plain
  | some declaration =>
    have source := declared _ declaration found
    cases plain with
    | mk named _ typed =>
      cases source with
      | mk _ fields =>
        refine .mk named ?_ typed
        intro argument member
        obtain ⟨field, listed, rfl⟩ := List.mem_map.mp member
        exact toInput_plain (fields field listed)

theorem bindDefinition_preserves (operation : String) {definition : Definition}
    (plain : definition.Plain good) : (bindDefinition operation index definition).Plain good := by
  cases plain with
  | @object type plain =>
    rw [bindDefinition, bindType]
    split
    · cases plain with
      | mk named fields =>
        refine .object (.mk named ?_)
        intro field member
        obtain ⟨source, listed, rfl⟩ := List.mem_map.mp member
        exact bindField_preserves declared operation (fields source listed)
    · exact .object plain
  | scalar named => exact .scalar named
  | enumeration named values => exact .enumeration named values
  | input plain => exact .input plain

theorem bind_preserves (operation : String) {definitions : List Definition}
    (plain : Plain good definitions) :
    Plain good (definitions.map (bindDefinition operation index)) := by
  intro definition member
  obtain ⟨source, listed, rfl⟩ := List.mem_map.mp member
  exact bindDefinition_preserves declared operation (plain source listed)

end Binding

/-! Reclassification. -/

theorem settled_preserves (types : List String) (earlier : List Definition)
    {definition : Definition} (plain : definition.Plain good) :
    (settled types earlier definition).Plain good := by
  cases plain with
  | @object type plain =>
    rw [settled]
    split
    · cases plain with
      | mk named fields =>
        refine .input (.mk named ?_)
        intro field member
        obtain ⟨source, listed, rfl⟩ := List.mem_map.mp member
        exact toInput_plain (fields source listed)
    · exact .object plain
  | scalar named => exact .scalar named
  | enumeration named values => exact .enumeration named values
  | input plain => exact .input plain

theorem settle_preserves (types : List String) (earlier : List Definition)
    {definitions : List Definition} (plain : Plain good definitions) :
    Plain good (settle types earlier definitions) := by
  induction definitions generalizing earlier with
  | nil => exact plain
  | cons definition rest ih =>
    obtain ⟨first, later⟩ := List.forall_mem_cons.mp plain
    rw [settle]
    exact List.forall_mem_cons.mpr ⟨settled_preserves types earlier first, ih _ later⟩

theorem run_preserves {document : Document} (plain : Plain good document.definitions) :
    Plain good (run document).value.definitions := by
  have declared : ∀ key declaration,
      (argsIndex document).lookup key = some declaration → declaration.Plain good :=
    fun _ _ found => argsIndex_plain plain found
  have bound : Plain good (boundDefinitions document) :=
    bind_preserves declared "Query" (bind_preserves declared "Mutation" (prepared_preserves plain))
  intro definition member
  rw [run_definitions, (queryBound_mentioned document).definitions] at member
  exact settle_preserves _ _ bound definition (List.mem_filter.mp member).1

end DeclSchema.Assembly
