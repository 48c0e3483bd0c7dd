import DeclSchema.Fragment
import DeclSchema.Proofs.Schema.PlainDefinitions
import DeclSchema.Proofs.Text.UpperCase
import DeclSchema.Schema.Printer

/-!
The definitions that declarations stand for, and the names in them. What is declared with proper
names stands for plain definitions.
-/

namespace DeclSchema

open Schema

/-! Types. -/

-- The schema type of a shape as a tree: `Array` makes a list, and what is neither `Array` nor
-- `Maybe` is a name.
def Shape.typeRef : Shape → TypeRef
  | .reference "Maybe" (inner :: _) => inner.typeRef
  | .reference "Array" (inner :: _) => .list inner.typeRef
  | shape => .named shape.schemaType.value

theorem typeRef_print (shape : Shape) : shape.typeRef.print = shape.schemaType.value := by
  fun_induction Shape.typeRef shape with
  | case1 inner rest ih =>
    rw [ih, Shape.schemaType]
    rfl
  | case2 inner rest ih =>
    rw [TypeRef.print, ih]
    conv => rhs; rw [Shape.schemaType]
    rfl
  | case3 shape => rfl

theorem typeRef_marked (shape : Shape) : shape.typeRef.isMarked = false := by
  fun_induction Shape.typeRef shape with
  | case1 inner rest ih => exact ih
  | case2 => rfl
  | case3 => rfl

theorem typeRef_proper {shape : Shape} (named : isName shape.typeRef.baseName = true) :
    shape.typeRef.Proper := by
  fun_induction Shape.typeRef shape with
  | case1 inner rest ih => exact ih named
  | case2 inner rest ih => exact ih named
  | case3 shape => exact named

/-! Fields. -/

-- A member that may be absent is nullable. Without a name or a type a member is no field.
def Member.field? : Member → Option Field
  | .typed (some name) shape optional =>
    if name.isEmpty then none
    else some ⟨none, name, [], if optional then shape.typeRef else .nonNull shape.typeRef, []⟩
  | _ => none

def Shape.fields (shape : Shape) : List Field := shape.members.filterMap Member.field?

-- The line of a member is its field, indented.
def fieldLine (field : Field) : String := "  " ++ (field.name ++ ": " ++ field.type.print)

theorem bare_print (name : String) (type : TypeRef) :
    (⟨none, name, [], type, []⟩ : Field).print = Points.of (name ++ ": " ++ type.print) := by
  change Points.of name ++ [] ++ Points.of ": " ++ Points.of type.print ++ [] = _
  rw [List.append_nil, List.append_nil, Points.of_append, Points.of_append]

theorem member_line (member : Member) :
    member.line.value = (member.field?.map fieldLine).getD "" := by
  cases member with
  | bare name optional => cases name <;> rfl
  | typed name shape optional =>
    cases name with
    | none => rfl
    | some name =>
      by_cases empty : name.isEmpty = true
      · simp only [Member.line, Member.name, Member.shape?, Member.field?, empty, if_true]
        rfl
      · simp only [Member.line, Member.name, Member.shape?, Member.field?, empty, Bool.false_eq_true,
          if_false, Option.map_some, Option.getD_some, fieldLine, Logged.bind_value,
          Logged.pure_value, Member.isOptional]
        cases optional with
        | true => simp [typeRef_print, String.append_assoc]
        | false => simp [TypeRef.print, typeRef_print, String.append_assoc]

theorem line_empty (member : Member) :
    (!member.line.value.isEmpty) = member.field?.isSome := by
  rw [member_line]
  cases member.field? <;> simp [fieldLine]

theorem member_field {member : Member} {field : Field} (found : member.field? = some field) :
    member.name = some field.name ∧ field = ⟨none, field.name, [], field.type, []⟩ := by
  unfold Member.field? at found
  split at found
  · split at found
    · cases found
    · cases Option.some.inj found
      exact ⟨rfl, rfl⟩
  · cases found

theorem mapM_value {α β : Type} (f : α → Logged β) (items : List α) :
    (items.mapM f).value = items.map fun item => (f item).value := by
  induction items with
  | nil => rfl
  | cons item rest ih =>
    rw [List.mapM_cons, Logged.bind_value, Logged.bind_value, Logged.pure_value, ih, List.map_cons]

theorem lines_fields (members : List Member) :
    (memberLines members).value = (members.filterMap Member.field?).map fieldLine := by
  rw [memberLines, Logged.bind_value, Logged.pure_value, mapM_value]
  induction members with
  | nil => rfl
  | cons member rest ih =>
    rw [List.map_cons, List.filter_cons, line_empty, member_line, ih, List.filterMap_cons]
    cases member.field? <;> rfl

theorem field_plain {member : Member} {field : Field} (found : member.field? = some field)
    (named : isName field.name = true) (typed : isName field.type.baseName = true) :
    field.Plain TypeRef.Proper := by
  unfold Member.field? at found
  split at found
  · split at found
    · cases found
    · rename_i name shape optional present
      cases Option.some.inj found
      refine .mk named (fun _ member => nomatch member) ?_
      cases optional with
      | true => exact typeRef_proper typed
      | false =>
        have proper := typeRef_proper typed
        simpa [TypeRef.Proper, TypeRef.isProper, typeRef_marked] using proper
  · cases found

/-! Definitions. -/

def Shape.scalarNames : Shape → List String
  | .object members => (members.filterMap Member.name).filter (!·.isEmpty)
  | _ => []

-- Embedded texts are copied as they are, and nothing is said of them here.
def Declaration.definitions : Declaration → List Definition
  | .typeAlias name shape _ =>
    if name = "Scalars" then shape.scalarNames.map fun scalar => .scalar none scalar []
    else if shape.fields.isEmpty then []
    else [.object ⟨none, name, [], [], shape.fields⟩]
  | .enumeration name members =>
    if members.isEmpty then []
    else [.enumeration none name [] (members.map fun member => ⟨none, Text.toUpper member, []⟩)]
  | .embedded .. => []

-- The names that a declaration leaves in the schema text.
def Declaration.writtenNames : Declaration → List String
  | .typeAlias name shape _ =>
    if name = "Scalars" then shape.scalarNames
    else if shape.fields.isEmpty then []
    else name :: shape.fields.flatMap fun field => [field.name, field.type.baseName]
  | .enumeration name members =>
    if members.isEmpty then [] else name :: members.map Text.toUpper
  | .embedded .. => []

-- Declarations without texts of their own, in which all names that are written are proper.
structure Legible (declarations : List Declaration) : Prop where
  written : ∀ declaration ∈ declarations, declaration.isEmbedded = false
  named : ∀ declaration ∈ declarations, ∀ name ∈ declaration.writtenNames, isName name = true

theorem upper_free (text : String) : Reading.isReserved (some (.name (Text.toUpper text))) = false := by
  have absent : ∀ c, c.isLower = true → c ∉ (Text.toUpper text).toList := by
    intro c small member
    rw [Text.upper_isLower member] at small
    cases small
  have letter : ∀ word : String, 'e' ∈ word.toList ∨ 'u' ∈ word.toList → Text.toUpper text ≠ word := by
    rintro word (member | member) rfl
    · exact absent 'e' (by decide) member
    · exact absent 'u' (by decide) member
  simp [Reading.isReserved, Token.text?, letter "true", letter "false", letter "null"]

/-! What lowering can do. -/

-- A keyword with a blank behind it, a name, and a body in braces.
def braced (head name body : String) : String := head ++ name ++ " \x7b\n" ++ body ++ "\n\x7d\n"

-- The text of a declaration, the names in it, and its definitions.
inductive Lowering : Points → List String → List Definition → Prop
  | nothing : Lowering [] [] []
  | scalars (names : List String) :
    Lowering (String.join (names.map fun name => "scalar " ++ name ++ "\n")) names
      (names.map fun name => .scalar none name [])
  | object (name : String) (fields : List Field) (present : fields ≠ [])
    (source : ∀ field ∈ fields, ∃ member : Member, member.field? = some field) :
    Lowering (braced "type " name ("\n".intercalate (fields.map fieldLine)))
      (name :: fields.flatMap fun field => [field.name, field.type.baseName])
      [.object ⟨none, name, [], [], fields⟩]
  | enumeration (name : String) (members : List String) (present : members ≠ []) :
    Lowering (braced "enum " name (", ".intercalate (members.map Text.toUpper)))
      (name :: members.map Text.toUpper)
      [.enumeration none name [] (members.map fun member => ⟨none, Text.toUpper member, []⟩)]

theorem alias_fragment {name : String} (other : name ≠ "Scalars") (shape : Shape)
    (parameters : List String) :
    (Declaration.typeAlias name shape parameters).lower.value.fragment =
      Points.of (typeFragment name shape).value := by
  simp only [Declaration.lower, other, if_false, Logged.bind_value]
  split <;> rfl

theorem typeFragment_value (name : String) (shape : Shape) :
    (typeFragment name shape).value =
      if shape.fields.isEmpty then ""
      else braced "type " name ("\n".intercalate (shape.fields.map fieldLine)) := by
  rw [typeFragment, Logged.bind_value, lines_fields, Shape.fields]
  cases shape.members.filterMap Member.field? <;> rfl

theorem lowering {declaration : Declaration} (written : declaration.isEmbedded = false) :
    Lowering declaration.lower.value.fragment declaration.writtenNames declaration.definitions := by
  cases declaration with
  | embedded => cases written
  | enumeration name members =>
    cases members with
    | nil => exact .nothing
    | cons first others => exact .enumeration name (first :: others) (by simp)
  | typeAlias name shape parameters =>
    by_cases scalars : name = "Scalars"
    · subst scalars
      cases shape with
      | object members => exact .scalars _
      | _ => exact .nothing
    · rw [alias_fragment scalars, typeFragment_value]
      unfold Declaration.writtenNames Declaration.definitions
      simp only [scalars, if_false]
      by_cases empty : shape.fields.isEmpty = true
      · simp only [empty, if_true]
        exact .nothing
      · simp only [empty, Bool.false_eq_true, if_false]
        refine .object name shape.fields (by simpa using empty) ?_
        intro field member
        obtain ⟨source, _, found⟩ := List.mem_filterMap.mp member
        exact ⟨source, found⟩

theorem lowering_absent {text : Points} {names : List String} {definitions : List Definition}
    (lowered : Lowering text names definitions) : definitions = [] ↔ text = [] := by
  cases lowered with
  | nothing => simp
  | scalars => cases names <;> simp
  | object => simp [braced]
  | enumeration => simp [braced]

theorem lowering_plain {text : Points} {names : List String} {definitions : List Definition}
    (lowered : Lowering text names definitions) (legible : ∀ name ∈ names, isName name = true) :
    ∀ definition ∈ definitions, definition.Plain TypeRef.Proper := by
  intro definition member
  cases lowered with
  | nothing => cases member
  | scalars =>
    obtain ⟨scalar, listed, rfl⟩ := List.mem_map.mp member
    exact .scalar (legible scalar listed)
  | object name fields present source =>
    obtain ⟨named, later⟩ := List.forall_mem_cons.mp legible
    rw [List.mem_singleton.mp member]
    refine .object (.mk named ?_)
    intro field listed
    obtain ⟨source, found⟩ := source field listed
    have own := fun text inside => later text (List.mem_flatMap.mpr ⟨field, listed, inside⟩)
    exact field_plain found (own _ (by simp)) (own _ (by simp))
  | enumeration name members present =>
    obtain ⟨named, upper⟩ := List.forall_mem_cons.mp legible
    rw [List.mem_singleton.mp member]
    refine .enumeration named ?_
    intro value listed
    obtain ⟨text, present, rfl⟩ := List.mem_map.mp listed
    exact .mk (upper _ (List.mem_map_of_mem present)) (upper_free text)

theorem definitions_plain {declarations : List Declaration} (legible : Legible declarations) :
    ∀ definition ∈ declarations.flatMap Declaration.definitions,
      definition.Plain TypeRef.Proper := by
  intro definition member
  obtain ⟨declaration, listed, inside⟩ := List.mem_flatMap.mp member
  exact lowering_plain (lowering (legible.written declaration listed))
    (legible.named declaration listed) definition inside

end DeclSchema
