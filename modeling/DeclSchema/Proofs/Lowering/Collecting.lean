import DeclSchema.Proofs.Conversion.Endings
import DeclSchema.Proofs.Lowering.Decoding

/-!
What is collected from declarations. The schema text consists of their texts, each of which counts
unless it is empty, and the table lists every argument declaration where its name first comes, with
the arguments that come last under that name.
-/

namespace DeclSchema

/-! Declarations of arguments. -/

-- A member with a name and a type.
def Member.Listed (member : Member) : Prop :=
  ∃ name shape optional, member = .typed (some name) shape optional ∧ name ≠ ""

-- An object offers its members, and an intersection those of its first object.
inductive Shape.Offers : Shape → List Member → Prop
  | object (members : List Member) : Offers (.object members) members
  | intersection {before : List Shape} (members : List Member) (after : List Shape)
      (first : ∀ part ∈ before, ∀ others, part ≠ .object others) :
      Offers (.intersection (before ++ .object members :: after)) members

def DeclaresArguments (name : String) (shape : Shape) : Prop :=
  name ≠ "Scalars" ∧ isArgsName name = true ∧
    ∃ members, shape.Offers members ∧ ∃ member ∈ members, member.Listed

theorem field_listed (member : Member) : member.field?.isSome = true ↔ member.Listed := by
  cases member with
  | bare name optional => simp [Member.field?, Member.Listed]
  | typed name shape optional =>
    cases name with
    | none => simp [Member.field?, Member.Listed]
    | some name => by_cases empty : name = "" <;> simp [Member.field?, Member.Listed, empty]

def Shape.isObject : Shape → Bool
  | .object _ => true
  | _ => false

theorem intersection_members (parts : List Shape) :
    (Shape.intersection parts).members =
      match parts.find? Shape.isObject with
      | some (.object members) => members
      | _ => [] := rfl

theorem offers_members {shape : Shape} {members : List Member} (offers : shape.Offers members) :
    shape.members = members := by
  cases offers with
  | object => rfl
  | @intersection before members after first =>
    have found : (before ++ .object members :: after).find? Shape.isObject = some (.object members) := by
      rw [List.find?_eq_some_iff_append]
      refine ⟨rfl, before, after, rfl, ?_⟩
      intro part member
      cases part with
      | object others => exact absurd rfl (first _ member others)
      | _ => rfl
    rw [intersection_members, found]

theorem members_offered {shape : Shape} (present : shape.members ≠ []) : shape.Offers shape.members := by
  cases shape with
  | object members => exact .object members
  | intersection parts =>
    rw [intersection_members] at present ⊢
    split at present
    · rename_i members found
      obtain ⟨-, before, after, rfl, others⟩ := List.find?_eq_some_iff_append.mp found
      refine .intersection members after ?_
      rintro part member others' rfl
      cases others _ member
    · exact absurd rfl present
  | _ => exact absurd rfl present

theorem offers_listed (shape : Shape) :
    shape.fields ≠ [] ↔ ∃ members, shape.Offers members ∧ ∃ member ∈ members, member.Listed := by
  constructor
  · intro present
    obtain ⟨field, inside⟩ := List.exists_mem_of_ne_nil _ present
    obtain ⟨member, listed, found⟩ := List.mem_filterMap.mp inside
    have offers := members_offered (List.ne_nil_of_mem listed)
    exact ⟨shape.members, offers, member, listed, (field_listed member).mp (by rw [found]; rfl)⟩
  · rintro ⟨members, offers, member, inside, listed⟩
    obtain ⟨field, found⟩ := Option.isSome_iff_exists.mp ((field_listed member).mpr listed)
    rw [← offers_members offers] at inside
    exact List.ne_nil_of_mem (List.mem_filterMap.mpr ⟨member, inside, found⟩)

theorem args_other {name : String} (args : isArgsName name = true) : name ≠ "Scalars" := by
  rintro rfl
  cases args

theorem declares_fields {name : String} {shape : Shape} :
    DeclaresArguments name shape ↔ isArgsName name = true ∧ shape.fields.isEmpty = false := by
  rw [DeclaresArguments, ← offers_listed, List.isEmpty_eq_false_iff]
  constructor
  · rintro ⟨-, args, present⟩
    exact ⟨args, present⟩
  · rintro ⟨args, present⟩
    exact ⟨args_other args, args, present⟩

instance (name : String) (shape : Shape) : Decidable (DeclaresArguments name shape) :=
  decidable_of_iff _ declares_fields.symm

/-! Rows of the table. -/

-- What a declaration puts into the table, and under which name.
def Declaration.argumentRow? : Declaration → Option (String × String)
  | .typeAlias name shape parameters =>
    if DeclaresArguments name shape then
      some (name, (Declaration.typeAlias name shape parameters).lower.value.argsFragment)
    else none
  | _ => none

-- An entry that the table refuses is told.
def Lowered.enter (lowered : Lowered) (table : ArgsTable) : Except String ArgsTable :=
  match lowered.argsName with
  | some name =>
    if name.isEmpty || lowered.argsFragment.isEmpty then .ok table
    else table.add name lowered.argsFragment
  | none => .ok table

theorem argumentList_value (shape : Shape) :
    (argumentList shape).value =
      if shape.fields.isEmpty then ""
      else "(" ++ ", ".intercalate ((shape.fields.map fieldLine).map trimmed) ++ ")" := by
  rw [argumentList, Logged.bind_value, lines_fields, Shape.fields]
  cases shape.members.filterMap Member.field? <;> rfl

theorem argumentList_empty (shape : Shape) :
    (argumentList shape).value.isEmpty = shape.fields.isEmpty := by
  rw [argumentList_value]
  cases shape.fields.isEmpty <;> simp

theorem alias_lowered {name : String} (other : name ≠ "Scalars") (shape : Shape)
    (parameters : List String) :
    (Declaration.typeAlias name shape parameters).lower.value =
      if isArgsName name then ⟨(typeFragment name shape).value, some name, (argumentList shape).value⟩
      else .plain (typeFragment name shape).value := by
  simp only [Declaration.lower, other, if_false, Logged.bind_value]
  split <;> rfl

theorem alias_record {name : String} (args : isArgsName name = true) (shape : Shape)
    (parameters : List String) (table : ArgsTable) :
    (Declaration.typeAlias name shape parameters).lower.value.record table =
      if shape.fields.isEmpty then table
      else ⟨Association.put name (argumentList shape).value table.entries⟩ := by
  have present : name.isEmpty = false := by
    rw [Bool.eq_false_iff]
    intro empty
    rw [String.isEmpty_iff.mp empty] at args
    cases args
  rw [alias_lowered (args_other args), if_pos args]
  simp only [Lowered.record, present, argumentList_empty, Bool.false_or, ArgsTable.add, args, if_true]

-- No name that lowering hands over is refused.
theorem enter_record (declaration : Declaration) (table : ArgsTable) :
    declaration.lower.value.enter table = .ok (declaration.lower.value.record table) := by
  unfold Lowered.enter Lowered.record
  cases handed : declaration.lower.value.argsName with
  | none => rfl
  | some name =>
    obtain ⟨next, added⟩ := args_accepted handed table declaration.lower.value.argsFragment
    dsimp only
    split
    · rfl
    · rw [added]

theorem other_row {name : String} {shape : Shape} (other : ¬ DeclaresArguments name shape)
    (parameters : List String) : (Declaration.typeAlias name shape parameters).argumentRow? = none :=
  if_neg other

theorem declared_row {name : String} {shape : Shape} (declares : DeclaresArguments name shape)
    (parameters : List String) :
    (Declaration.typeAlias name shape parameters).argumentRow? =
      some (name, (argumentList shape).value) := by
  obtain ⟨args, -⟩ := declares_fields.mp declares
  rw [Declaration.argumentRow?, if_pos declares, alias_lowered (args_other args), if_pos args]

theorem record_row (declaration : Declaration) (table : ArgsTable) :
    declaration.lower.value.record table =
      ⟨Association.putAll declaration.argumentRow?.toList table.entries⟩ := by
  cases declaration with
  | embedded tag text =>
    simp only [Declaration.lower]
    split <;> rfl
  | enumeration name members => rfl
  | typeAlias name shape parameters =>
    by_cases args : isArgsName name = true
    · rw [alias_record args]
      by_cases empty : shape.fields.isEmpty = true
      · rw [if_pos empty, other_row]
        · rfl
        · intro declares
          rw [(declares_fields.mp declares).2] at empty
          cases empty
      · rw [if_neg empty, declared_row (declares_fields.mpr ⟨args, Bool.eq_false_iff.mpr empty⟩)]
        rfl
    · rw [other_row fun declares => args (declares_fields.mp declares).1]
      by_cases scalars : name = "Scalars"
      · subst scalars
        rfl
      · rw [alias_lowered scalars, if_neg args]
        rfl

/-! The whole list. -/

def argumentRows (declarations : List Declaration) : List (String × String) :=
  declarations.filterMap Declaration.argumentRow?

theorem argumentRows_cons (declaration : Declaration) (rest : List Declaration) :
    argumentRows (declaration :: rest) = declaration.argumentRow?.toList ++ argumentRows rest := by
  rw [argumentRows, List.filterMap_cons]
  cases declaration.argumentRow? <;> rfl

theorem enterAll_rows (declarations : List Declaration) (table : ArgsTable) :
    declarations.foldlM (fun table declaration => declaration.lower.value.enter table) table =
      .ok ⟨Association.putAll (argumentRows declarations) table.entries⟩ := by
  induction declarations generalizing table with
  | nil => rfl
  | cons declaration rest ih =>
    rw [List.foldlM_cons, enter_record, record_row, argumentRows_cons, Association.putAll_append]
    exact ih _

theorem collect_table (collected : Collected) (declaration : Declaration) :
    (collect collected declaration).value.table = declaration.lower.value.record collected.table := by
  rw [collect, Logged.bind_value]
  split <;> rfl

theorem collectAll_rows (declarations : List Declaration) (collected : Collected) :
    (declarations.foldlM collect collected).value.table =
      ⟨Association.putAll (argumentRows declarations) collected.table.entries⟩ := by
  induction declarations generalizing collected with
  | nil => rfl
  | cons declaration rest ih =>
    rw [List.foldlM_cons, Logged.bind_value, ih, collect_table, record_row, argumentRows_cons,
      Association.putAll_append]

theorem collect_fragments (collected : Collected) (declaration : Declaration) :
    (collect collected declaration).value.fragments =
      collected.fragments ++ [declaration.fragment].filter (· ≠ []) := by
  rw [collect, Logged.bind_value, Declaration.fragment]
  by_cases empty : declaration.lower.value.fragment = []
  · rw [if_pos (List.isEmpty_iff.mpr empty), empty]
    exact (List.append_nil _).symm
  · have kept : [declaration.lower.value.fragment].filter (· ≠ []) = [declaration.lower.value.fragment] := by
      simp [empty]
    rw [if_neg (by simpa using empty), kept]
    rfl

theorem collectAll_fragments (declarations : List Declaration) (collected : Collected) :
    (declarations.foldlM collect collected).value.fragments =
      collected.fragments ++ (declarations.map Declaration.fragment).filter (· ≠ []) := by
  induction declarations generalizing collected with
  | nil => exact (List.append_nil _).symm
  | cons declaration rest ih =>
    rw [List.foldlM_cons, Logged.bind_value, ih, collect_fragments, List.append_assoc,
      ← List.filter_append]
    rfl

theorem unshown_blank {declarations : List Declaration}
    (absent : ∀ declaration ∈ declarations, declaration.fragment = []) :
    (schemaText declarations).allBlank = true := by
  have nothing : schemaText declarations = [] := List.flatMap_eq_nil_iff.mpr absent
  rw [nothing]
  rfl

theorem extract_exact (declarations : List Declaration) :
    ((extract declarations).outcome = .error .noDefinitions ↔
      ∀ declaration ∈ declarations, declaration.fragment = []) ∧
    ∃ table : ArgsTable,
      declarations.foldlM (fun table declaration => declaration.lower.value.enter table) .empty =
        .ok table ∧
      table.names.Nodup ∧ table.names = ((argumentRows declarations).map Prod.fst).eraseDups ∧
      (∀ name, table.get? name = (argumentRows declarations).reverse.lookup name) ∧
      ((∃ declaration ∈ declarations, declaration.fragment ≠ []) →
        (extract declarations).outcome =
          .ok ⟨(declarations.map Declaration.fragment).flatten, table,
            declarations.countP (·.fragment ≠ [])⟩) := by
  have value := extract_value declarations
  refine ⟨⟨?_, ?_⟩, ⟨Association.putAll (argumentRows declarations) []⟩, enterAll_rows declarations _,
    ?_, ?_, ?_, ?_⟩
  · intro failed declaration listed
    apply Classical.byContradiction
    intro present
    obtain ⟨extraction, extracted, _⟩ := extract_shown ⟨declaration, listed, present⟩
    cases extracted.symm.trans failed
  · intro absent
    rw [value, if_pos (unshown_blank absent)]
  · have apart : (([] : List (String × String)).map Prod.fst).Nodup := List.nodup_nil
    exact Association.keys_putAll_nodup apart _
  · rw [ArgsTable.names, Association.keys_putAll, List.map_nil, List.nil_append,
      List.filter_eq_self.mpr fun _ _ => by simp]
  · intro name
    rw [ArgsTable.get?, Association.lookup_putAll, List.lookup_nil, Option.or_none]
  · intro shown
    rw [value, schemaText_shown shown, collectAll_rows, collectAll_fragments, List.nil_append,
      ← List.countP_eq_length_filter, List.countP_map]
    rfl

-- Texts of white space, an enumeration and an argument declaration without anything, and two names
-- of argument declarations that differ in letter case only, the first of them declared twice.
def mixedDeclarations : List Declaration :=
  [.embedded .gql "\u2003\n", .enumeration "E" [],
    .typeAlias "QueryfArgs" (.object [.typed (some "a") (.keyword "string") false]) [],
    .typeAlias "MutationgArgs" (.object [.bare (some "x") false]) [],
    .typeAlias "queryFargs"
      (.intersection [.keyword "any", .object [.typed (some "c") (.keyword "number") true]]) [],
    .typeAlias "QueryfArgs" (.object [.typed (some "b") (.keyword "string") false]) []]

theorem mixed_collected :
    ∃ extraction, (extract mixedDeclarations).outcome = .ok extraction ∧
      extraction.argsTable.names = ["QueryfArgs", "queryFargs"] ∧
      extraction.argsTable.get? "QueryfArgs" = some "(b: String!)" ∧
      extraction.argsTable.get? "queryFargs" = some "(c: Int)" ∧
      extraction.argsTable.get? "MutationgArgs" = none ∧ extraction.fragmentCount = 3 := by
  obtain ⟨-, table, -, -, names, lookups, shown⟩ := extract_exact mixedDeclarations
  have some_shown : ∃ declaration ∈ mixedDeclarations, declaration.fragment ≠ [] := by decide +kernel
  have count : mixedDeclarations.countP (·.fragment ≠ []) = 3 := by decide +kernel
  exact ⟨_, shown some_shown, names.trans (by decide +kernel), (lookups _).trans (by decide +kernel),
    (lookups _).trans (by decide +kernel), (lookups _).trans (by decide +kernel), count⟩

end DeclSchema
