import DeclSchema.Proofs.Lowering.Meaning

/-!
Schema types of shapes. Lists and `Maybe` are passed on the way to a core, and the core alone
decides the name that stands between the brackets. A core that names nothing is reported once, and
nothing else is reported.
-/

namespace DeclSchema

/-! The way to the core. -/

-- A wrapper without an argument is not passed: it is a core itself.
inductive Shape.Wraps : Shape → Nat → Shape → Prop
  | core {shape : Shape} (noMaybe : ∀ inner others, shape ≠ .reference "Maybe" (inner :: others))
      (noArray : ∀ inner others, shape ≠ .reference "Array" (inner :: others)) : Wraps shape 0 shape
  | maybe {inner core : Shape} {lists : Nat} (others : List Shape) (way : Wraps inner lists core) :
      Wraps (.reference "Maybe" (inner :: others)) lists core
  | array {inner core : Shape} {lists : Nat} (others : List Shape) (way : Wraps inner lists core) :
      Wraps (.reference "Array" (inner :: others)) (lists + 1) core

theorem wraps_some (shape : Shape) : ∃ lists core, shape.Wraps lists core := by
  fun_induction Shape.typeRef shape with
  | case1 inner others ih =>
    obtain ⟨lists, core, way⟩ := ih
    exact ⟨lists, core, .maybe others way⟩
  | case2 inner others ih =>
    obtain ⟨lists, core, way⟩ := ih
    exact ⟨lists + 1, core, .array others way⟩
  | case3 shape noMaybe noArray =>
    exact ⟨0, shape, .core (fun inner others => noMaybe inner others) noArray⟩

theorem maybe_type (inner : Shape) (others : List Shape) :
    (Shape.reference "Maybe" (inner :: others)).schemaType = inner.schemaType := by
  rw [Shape.schemaType]
  rfl

theorem array_type (inner : Shape) (others : List Shape) :
    (Shape.reference "Array" (inner :: others)).schemaType =
      ⟨inner.schemaType.records, "[" ++ inner.schemaType.value ++ "]"⟩ := by
  have list : (Shape.reference "Array" (inner :: others)).schemaType =
      inner.schemaType >>= fun name => return "[" ++ name ++ "]" := by
    rw [Shape.schemaType]
    rfl
  rw [list]
  change (⟨inner.schemaType.records ++ [], _⟩ : Logged String) = _
  rw [List.append_nil]
  rfl

/-! Cores. -/

-- The name that a core gives. Of a chain of keys the first one counts.
inductive Shape.Names : Shape → String → Prop
  | object (members : List Member) : Names (.object members) "String"
  | text : Names (.keyword "string") "String"
  | number : Names (.keyword "number") "Int"
  | boolean : Names (.keyword "boolean") "Boolean"
  | anything : Names (.keyword "any") "String"
  | scalar (key : String) (others : List Shape) :
      Names (.reference "Scalars" (.literal (.text key) :: others)) key
  | reference {name : String} (arguments : List Shape) (other : name ∉ ["Scalars", "Maybe", "Array"]) :
      Names (.reference name arguments) name
  | scalarKey (arguments : List Shape) (key : String) :
      Names (.indexed (.reference "Scalars" arguments) (.literal (.text key))) key
  | owner {name : String} (arguments : List Shape) (key : Shape) (other : name ≠ "Scalars") :
      Names (.indexed (.reference name arguments) key) name
  | further {base index : Shape} {name : String} (key : Shape) (first : Names (.indexed base index) name) :
      Names (.indexed (.indexed base index) key) name

theorem names_type {core : Shape} {name : String} (names : core.Names name) :
    core.schemaType = ⟨[], name⟩ := by
  induction names with
  | object members => rfl
  | text => rfl
  | number => rfl
  | boolean => rfl
  | anything => rfl
  | scalar key others =>
    rw [Shape.schemaType]
    rfl
  | reference arguments other =>
    simp only [List.mem_cons, List.not_mem_nil, or_false, not_or] at other
    obtain ⟨scalars, maybe, array⟩ := other
    unfold Shape.schemaType
    rw [if_neg scalars, if_neg maybe, if_neg array]
    rfl
  | scalarKey arguments key =>
    rw [Shape.schemaType]
    rfl
  | owner arguments key other =>
    rw [Shape.schemaType, Shape.indexedType, if_neg other]
    rfl
  | further key first ih =>
    rw [Shape.schemaType] at ih ⊢
    rw [Shape.indexedType, ih]

/-! Reports. -/

-- What is reported of a core: of a chain of keys the first access.
def Shape.innermost : Shape → Shape
  | .indexed (.indexed base index) _ => innermost (.indexed base index)
  | shape => shape

def unmappedRecord (shape : Shape) : Record :=
  ⟨.warning, .typeMapper, "Cannot map type " ++ shape.display ++ " to a GraphQL type; using Unknown"⟩

theorem literalText_some {shape : Shape} {text : String} (found : shape.literalText? = some text) :
    shape = .literal (.text text) := by
  unfold Shape.literalText? at found
  split at found
  · cases found
    rfl
  · cases found

def Shape.Nameless (shape : Shape) : Prop := ∀ name, ¬ shape.Names name

theorem nameless_keyword {word : String} (nameless : (Shape.keyword word).Nameless) :
    keywordType? word = none := by
  unfold keywordType?
  split
  · exact absurd .text (nameless _)
  · exact absurd .number (nameless _)
  · exact absurd .boolean (nameless _)
  · exact absurd .anything (nameless _)
  · rfl

theorem nameless_indexed {base key : Shape} (nameless : (Shape.indexed base key).Nameless) :
    Shape.indexedType base key = unmapped (Shape.indexed base key).innermost := by
  fun_induction Shape.indexedType base key with
  | case1 key base index ih =>
    rw [Shape.innermost]
    exact ih fun name names => nameless name (.further key names)
  | case2 key arguments scalar found =>
    rw [literalText_some found] at nameless
    exact absurd (.scalarKey arguments scalar) (nameless _)
  | case3 key arguments missing => rfl
  | case4 key name arguments other => exact absurd (.owner arguments key other) (nameless _)
  | case5 base key noIndex noName =>
    cases base with
    | indexed base index => exact absurd rfl (noIndex base index)
    | _ => rfl

theorem nameless_reference {name : String} {arguments : List Shape}
    (nameless : (Shape.reference name arguments).Nameless)
    (noMaybe : ∀ inner others, Shape.reference name arguments ≠ .reference "Maybe" (inner :: others))
    (noArray : ∀ inner others, Shape.reference name arguments ≠ .reference "Array" (inner :: others)) :
    (Shape.reference name arguments).schemaType = unmapped (.reference name arguments) := by
  unfold Shape.schemaType
  split
  · rename_i scalars
    subst scalars
    split
    · rename_i scalar found
      obtain ⟨first, head, text⟩ := Option.bind_eq_some_iff.mp found
      obtain ⟨others, rfl⟩ := List.head?_eq_some_iff.mp head
      rw [literalText_some text] at nameless
      exact absurd (.scalar scalar others) (nameless _)
    · rfl
  · split
    · rename_i maybe
      subst maybe
      split
      · exact absurd rfl (noMaybe _ _)
      · rfl
    · split
      · rename_i array
        subst array
        split
        · exact absurd rfl (noArray _ _)
        · rfl
      · rename_i scalars maybe array
        exact absurd (.reference arguments (by simp [scalars, maybe, array])) (nameless _)

theorem nameless_type {core : Shape} (nameless : core.Nameless)
    (noMaybe : ∀ inner others, core ≠ .reference "Maybe" (inner :: others))
    (noArray : ∀ inner others, core ≠ .reference "Array" (inner :: others)) :
    core.schemaType = unmapped core.innermost := by
  cases core with
  | object members => exact absurd (.object members) (nameless _)
  | keyword word =>
    rw [Shape.schemaType, nameless_keyword nameless]
    rfl
  | reference name arguments => exact nameless_reference nameless noMaybe noArray
  | indexed base key =>
    rw [Shape.schemaType]
    exact nameless_indexed nameless
  | _ => rfl

/-! Types. -/

-- A name in as many brackets as there are lists.
def inBrackets (lists : Nat) (name : String) : String :=
  String.ofList (List.replicate lists '[') ++ name ++ String.ofList (List.replicate lists ']')

theorem inBrackets_none (name : String) : inBrackets 0 name = name := by simp [inBrackets]

theorem inBrackets_more (lists : Nat) (name : String) :
    inBrackets (lists + 1) name = "[" ++ inBrackets lists name ++ "]" := by
  rw [← String.toList_inj]
  simp [inBrackets, String.toList_append, List.replicate_succ, ← List.replicate_succ']

theorem wraps_core {shape core : Shape} {lists : Nat} (way : shape.Wraps lists core) :
    (∀ inner others, core ≠ .reference "Maybe" (inner :: others)) ∧
      ∀ inner others, core ≠ .reference "Array" (inner :: others) := by
  induction way with
  | core noMaybe noArray => exact ⟨noMaybe, noArray⟩
  | maybe others way ih => exact ih
  | array others way ih => exact ih

-- What is passed on the way adds brackets and reports nothing.
theorem wraps_type {shape core : Shape} {lists : Nat} (way : shape.Wraps lists core) :
    shape.schemaType = ⟨core.schemaType.records, inBrackets lists core.schemaType.value⟩ := by
  induction way with
  | core => rw [inBrackets_none]
  | maybe others way ih => rw [maybe_type, ih]
  | array others way ih => rw [array_type, ih, inBrackets_more]

/-! `Maybe` on the way. -/

-- The second shape has one `Maybe` more, somewhere on the way to the core.
inductive Shape.Loosened : Shape → Shape → Prop
  | here (shape : Shape) (others : List Shape) : Loosened shape (.reference "Maybe" (shape :: others))
  | maybe {inner looser : Shape} (others : List Shape) (further : Loosened inner looser) :
      Loosened (.reference "Maybe" (inner :: others)) (.reference "Maybe" (looser :: others))
  | array {inner looser : Shape} (others : List Shape) (further : Loosened inner looser) :
      Loosened (.reference "Array" (inner :: others)) (.reference "Array" (looser :: others))

theorem loosened_type {shape looser : Shape} (loosened : shape.Loosened looser) :
    looser.schemaType = shape.schemaType := by
  induction loosened with
  | here shape others => exact maybe_type shape others
  | maybe others further ih => rw [maybe_type, maybe_type, ih]
  | array others further ih => rw [array_type, array_type, ih]

theorem schemaType_exact (shape : Shape) :
    (∃ lists core, shape.Wraps lists core) ∧
    (∀ lists core, shape.Wraps lists core →
      (∀ name, core.Names name → shape.schemaType = ⟨[], inBrackets lists name⟩) ∧
      (core.Nameless →
        shape.schemaType = ⟨[unmappedRecord core.innermost], inBrackets lists "Unknown"⟩)) ∧
    ∀ looser, shape.Loosened looser → looser.schemaType = shape.schemaType := by
  refine ⟨wraps_some shape, ?_, fun looser => loosened_type⟩
  intro lists core way
  obtain ⟨noMaybe, noArray⟩ := wraps_core way
  have type := wraps_type way
  constructor
  · intro name names
    rw [type, names_type names]
  · intro nameless
    rw [type, nameless_type nameless noMaybe noArray]
    rfl

-- Lists and `Maybe` around a chain of two accesses that begins at `Scalars`.
def keyedLists (key : Shape) : Shape :=
  .reference "Array" [.reference "Maybe" [.reference "Array"
    [.indexed (.indexed (.reference "Scalars" []) key) (.literal (.text "input"))]]]

theorem keyedLists_wraps (key : Shape) :
    (keyedLists key).Wraps 2
      (.indexed (.indexed (.reference "Scalars" []) key) (.literal (.text "input"))) :=
  .array [] (.maybe [] (.array [] (.core (fun _ _ => nofun) (fun _ _ => nofun))))

theorem schemaType_exact_keys :
    (keyedLists (.literal (.text "ID"))).schemaType = ⟨[], "[[ID]]"⟩ ∧
    (keyedLists (.keyword "string")).schemaType =
      ⟨[unmappedRecord (.indexed (.reference "Scalars" []) (.keyword "string"))], "[[Unknown]]"⟩ ∧
    (Shape.reference "Maybe" [keyedLists (.literal (.text "ID"))]).schemaType = ⟨[], "[[ID]]"⟩ := by
  obtain ⟨-, named, loosened⟩ := schemaType_exact (keyedLists (.literal (.text "ID")))
  obtain ⟨-, unnamed, -⟩ := schemaType_exact (keyedLists (.keyword "string"))
  have text : (keyedLists (.literal (.text "ID"))).schemaType = ⟨[], "[[ID]]"⟩ :=
    (named 2 _ (keyedLists_wraps _)).1 "ID" (.further _ (.scalarKey [] "ID"))
  refine ⟨text, (unnamed 2 _ (keyedLists_wraps _)).2 ?_, ?_⟩
  · intro name names
    cases names with
    | further _ first => cases first with
      | owner _ _ other => exact other rfl
  · rw [loosened _ (.here _ []), text]

end DeclSchema
