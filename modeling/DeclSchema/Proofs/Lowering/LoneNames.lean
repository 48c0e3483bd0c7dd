import DeclSchema.Proofs.Lowering.Emission
import DeclSchema.Proofs.Lowering.Joining
import DeclSchema.Proofs.Schema.StrayDocuments

/-!
Texts that are copied as names into the schema text. Where what stands behind the characters of a
name is stray, the schema text is refused; so a schema text that is read holds proper names only,
and defines what its declarations stand for. A text that goes on with a colon can define more.
-/

namespace DeclSchema

open Schema

-- The types of fields, without their lists and marks.
def Schema.Definition.fieldTypes : Definition → List String
  | .object type => type.fields.map fun field => field.type.baseName
  | _ => []

-- Declarations without texts of their own. Names may hold what no name can, as long as it is stray.
structure Lone (declarations : List Declaration) : Prop where
  written : ∀ declaration ∈ declarations, declaration.isEmbedded = false
  named : ∀ declaration ∈ declarations, ∀ name ∈ declaration.writtenNames, isLone name = true
  unlisted : ∀ declaration ∈ declarations, ∀ definition ∈ declaration.definitions,
    ∀ type ∈ definition.fieldTypes, type.toList.head? ≠ some '['

/-! Fields and values. -/

theorem indented_tokens (text : String) (rest : Points) :
    tokens (Points.of ("  " ++ text) ++ rest) = tokens (Points.of text ++ rest) := by
  have blanks : Points.of "  " = [.char ' ', .char ' '] := rfl
  rw [Points.of_append, blanks]
  exact (tokens_space _).trans (tokens_space _)

theorem fieldLine_stays {member : Member} {field : Field} (found : member.field? = some field)
    (named : isName field.name = true) (typed : isName field.type.baseName = true) :
    Reading.Stays Reading.field (Points.of (fieldLine field)) field.tokens := by
  have plain := field_plain found named typed
  obtain ⟨_, bare⟩ := member_field found
  have proper : field.type.Proper := by
    cases plain with
    | mk _ _ proper => exact proper
  refine ⟨fieldLine_scans found plain, ⟨_, _, rfl⟩, fun rest begins => ?_⟩
  rw [bare]
  exact Reading.field_leaves field.name proper begins

theorem fieldLine_strays {field : Field} (nameLone : isLone field.name = true)
    (typeLone : isLone field.type.baseName = true)
    (first : field.type.baseName.toList.head? ≠ some '[')
    (illegible : isName field.name = false ∨ isName field.type.baseName = false) :
    Reading.Strays Reading.field (Points.of (fieldLine field)) := by
  have strays := Reading.field_strays nameLone typeLone first illegible
  rw [fieldLine]
  refine ⟨fun rest => ?_, fun rest => ?_⟩
  · rw [indented_tokens]
    exact strays.begins rest
  · rw [indented_tokens]
    exact strays.leaves rest

/-! The text of one declaration. -/

theorem lowering_between {text : Points} {names : List String} {definitions : List Definition}
    (lowered : Lowering text names definitions) {rest : Points}
    (between : Reading.Between (tokens rest)) :
    Reading.Between (tokens (text ++ rest)) := by
  have keyword {word : String} (other : word ≠ "implements") {front : List Token}
      (shape : ∃ more, front = .name word :: more) : Reading.Between front := by
    obtain ⟨more, rfl⟩ := shape
    exact other
  cases lowered with
  | nothing => exact between
  | scalars =>
    cases names with
    | nil => exact between
    | cons name others => exact keyword (by decide) ⟨_, scalars_cons name others rest⟩
  | object name fields =>
    obtain ⟨more, shape⟩ := braced_heading (by rfl : "type " = "type" ++ " ")
      (by decide) name ("\n".intercalate (fields.map fieldLine)) rest
    exact keyword (by decide) ⟨_, shape⟩
  | enumeration name members =>
    obtain ⟨more, shape⟩ := braced_heading (by rfl : "enum " = "enum" ++ " ")
      (by decide) name (", ".intercalate (members.map Text.toUpper)) rest
    exact keyword (by decide) ⟨_, shape⟩

theorem scalars_stuck {names : List String} (lone : ∀ name ∈ names, isLone name = true)
    (illegible : ∃ name ∈ names, isName name = false) {rest : Points}
    (between : Reading.Between (tokens rest)) :
    Reading.Stuck
      (tokens (Points.of (String.join (names.map fun name => "scalar " ++ name ++ "\n")) ++ rest)) := by
  induction names with
  | nil =>
    obtain ⟨_, listed, _⟩ := illegible
    cases listed
  | cons name others ih =>
    obtain ⟨own, later⟩ := List.forall_mem_cons.mp lone
    cases named : isName name with
    | false =>
      rw [scalars_cons]
      exact Reading.stuck_strays (Reading.scalar_strays own named _)
    | true =>
      have behind : ∃ name ∈ others, isName name = false := by
        obtain ⟨other, listed, wrong⟩ := illegible
        rcases List.mem_cons.mp listed with rfl | listed
        · rw [named] at wrong
          cases wrong
        · exact ⟨other, listed, wrong⟩
      have plain : ∀ definition ∈ [Definition.scalar none name []],
          definition.Plain TypeRef.Proper := by
        intro definition member
        rw [List.mem_singleton.mp member]
        exact .scalar named
      rw [scalars_cons, tokens_name named (delimited_feed _), tokens_feed]
      exact Reading.stuck_behind plain (lowering_between (.scalars others) between) (ih later behind)

theorem object_stuck {name : String} {fields : List Field}
    (source : ∀ field ∈ fields, ∃ member : Member, member.field? = some field)
    (nameLone : isLone name = true)
    (lone : ∀ field ∈ fields, isLone field.name = true ∧ isLone field.type.baseName = true ∧
      field.type.baseName.toList.head? ≠ some '[')
    (illegible : isName name = false ∨
      ∃ field ∈ fields, isName field.name = false ∨ isName field.type.baseName = false)
    (rest : Points) :
    Reading.Stuck
      (tokens (Points.of (braced "type " name ("\n".intercalate (fields.map fieldLine))) ++ rest)) := by
  have heading : "type " = "type" ++ " " := rfl
  have strays {field : Field} (listed : field ∈ fields)
      (wrong : isName field.name = false ∨ isName field.type.baseName = false) :
      Reading.Strays Reading.field (Points.of (fieldLine field)) := by
    obtain ⟨nameLone, typeLone, first⟩ := lone field listed
    exact fieldLine_strays nameLone typeLone first wrong
  cases named : isName name with
  | false =>
    obtain ⟨more, shape⟩ := braced_heading heading (by decide) name
      ("\n".intercalate (fields.map fieldLine)) rest
    rw [shape]
    exact Reading.stuck_strays (Reading.object_strays nameLone named more)
  | true =>
    obtain ⟨field, listed, wrong⟩ := illegible.resolve_left (by rw [named]; exact Bool.true_eq_false.mp)
    rw [braced_body heading (by decide) named, Points.of_intercalate, List.map_map]
    refine Reading.stuck_next (Reading.leaves_refused ?_)
    refine Reading.object_refuses (by decide) (by decide) name _ ?_
      ⟨_, List.mem_map_of_mem listed, strays listed wrong⟩
    intro text member
    obtain ⟨field, listed, rfl⟩ := List.mem_map.mp member
    obtain ⟨member, found⟩ := source field listed
    cases label : isName field.name with
    | false => exact .inr (strays listed (.inl label))
    | true =>
      cases typed : isName field.type.baseName with
      | false => exact .inr (strays listed (.inr typed))
      | true => exact .inl ⟨_, fieldLine_stays found label typed⟩

theorem enumeration_stuck {name : String} {members : List String} (nameLone : isLone name = true)
    (lone : ∀ member ∈ members, isLone member = true)
    (illegible : isName name = false ∨ ∃ member ∈ members, isName member = false)
    (rest : Points) :
    Reading.Stuck (tokens (Points.of (braced "enum " name (", ".intercalate members)) ++ rest)) := by
  have heading : "enum " = "enum" ++ " " := rfl
  cases named : isName name with
  | false =>
    obtain ⟨more, shape⟩ := braced_heading heading (by decide) name (", ".intercalate members) rest
    rw [shape]
    exact Reading.stuck_strays (Reading.enum_strays nameLone named more)
  | true =>
    obtain ⟨member, listed, wrong⟩ := illegible.resolve_left (by rw [named]; exact Bool.true_eq_false.mp)
    rw [braced_body heading (by decide) named, Points.of_intercalate]
    refine Reading.stuck_next (Reading.leaves_refused ?_)
    refine Reading.enum_refuses (by decide) (by decide) name _ ?_
      ⟨_, List.mem_map_of_mem listed, Reading.enumValue_strays (lone member listed) wrong⟩
    intro _ member
    obtain ⟨text, listed, rfl⟩ := List.mem_map.mp member
    cases label : isName text with
    | false => exact .inr (Reading.enumValue_strays (lone text listed) label)
    | true => exact .inl ⟨_, Reading.enumValue_stays label⟩

theorem lowering_stuck {text : Points} {names : List String} {definitions : List Definition}
    (lowered : Lowering text names definitions) (lone : ∀ name ∈ names, isLone name = true)
    (unlisted : ∀ definition ∈ definitions, ∀ type ∈ definition.fieldTypes,
      type.toList.head? ≠ some '[')
    (illegible : ∃ name ∈ names, isName name = false) {rest : Points}
    (between : Reading.Between (tokens rest)) :
    Reading.Stuck (tokens (text ++ rest)) := by
  obtain ⟨wrong, listed, other⟩ := illegible
  cases lowered with
  | nothing => cases listed
  | scalars => exact scalars_stuck lone ⟨wrong, listed, other⟩ between
  | object name fields present source =>
    obtain ⟨nameLone, later⟩ := List.forall_mem_cons.mp lone
    have first := unlisted _ List.mem_cons_self
    refine object_stuck source nameLone (fun field member => ?_) ?_ rest
    · have own := fun text inside => later text (List.mem_flatMap.mpr ⟨field, member, inside⟩)
      exact ⟨own _ (by simp), own _ (by simp), first _ (List.mem_map_of_mem member)⟩
    · rcases List.mem_cons.mp listed with rfl | listed
      · exact .inl other
      · obtain ⟨field, member, inside⟩ := List.mem_flatMap.mp listed
        refine .inr ⟨field, member, ?_⟩
        simp only [List.mem_cons, List.not_mem_nil, or_false] at inside
        rcases inside with rfl | rfl
        · exact .inl other
        · exact .inr other
  | enumeration name members present =>
    obtain ⟨nameLone, later⟩ := List.forall_mem_cons.mp lone
    refine enumeration_stuck nameLone later ?_ rest
    rcases List.mem_cons.mp listed with rfl | listed
    · exact .inl other
    · exact .inr ⟨wrong, listed, other⟩

/-! The text of all declarations. -/

section Lone

variable {declarations : List Declaration}

theorem lone_rest {declaration : Declaration} {rest : List Declaration}
    (lone : Lone (declaration :: rest)) : Lone rest :=
  ⟨(List.forall_mem_cons.mp lone.written).2, (List.forall_mem_cons.mp lone.named).2,
    (List.forall_mem_cons.mp lone.unlisted).2⟩

theorem schemaText_between
    (written : ∀ declaration ∈ declarations, declaration.isEmbedded = false) :
    Reading.Between (tokens (schemaText declarations)) := by
  induction declarations with
  | nil => trivial
  | cons declaration rest ih =>
    obtain ⟨own, later⟩ := List.forall_mem_cons.mp written
    rw [schemaText_cons]
    exact lowering_between (lowering own) (ih later)

theorem schemaText_stuck (lone : Lone declarations)
    (illegible : ∃ declaration ∈ declarations, ∃ name ∈ declaration.writtenNames,
      isName name = false) :
    Reading.Stuck (tokens (schemaText declarations)) := by
  induction declarations with
  | nil =>
    obtain ⟨_, listed, _⟩ := illegible
    cases listed
  | cons declaration rest ih =>
    have lowered := lowering (lone.written declaration List.mem_cons_self)
    have between := schemaText_between (lone_rest lone).written
    rw [schemaText_cons]
    by_cases own : ∃ name ∈ declaration.writtenNames, isName name = false
    · exact lowering_stuck lowered (lone.named declaration List.mem_cons_self)
        (lone.unlisted declaration List.mem_cons_self) own between
    · have legible : ∀ name ∈ declaration.writtenNames, isName name = true := by
        intro name member
        rw [← Bool.not_eq_false]
        exact fun wrong => own ⟨name, member, wrong⟩
      have behind : ∃ declaration ∈ rest, ∃ name ∈ declaration.writtenNames, isName name = false := by
        obtain ⟨other, listed, wrong⟩ := illegible
        rcases List.mem_cons.mp listed with rfl | listed
        · exact absurd wrong own
        · exact ⟨other, listed, wrong⟩
      rw [lowering_tokens lowered legible]
      exact Reading.stuck_behind (lowering_plain lowered legible) between (ih (lone_rest lone) behind)

theorem stuck_unread {text : Points} (stuck : Reading.Stuck (tokens text))
    (document : Document) : Document.parse text ≠ .ok document := by
  intro read
  obtain ⟨rest, done⟩ := parse_ok read
  exact Reading.stuck_document stuck document rest done

-- What is accepted has no names but proper ones.
theorem lone_legible (lone : Lone declarations) {document : Document}
    (read : readSchema (schemaText declarations) = .ok document) : Legible declarations := by
  refine ⟨lone.written, fun declaration listed name member => ?_⟩
  rw [← Bool.not_eq_false]
  intro wrong
  have stuck := schemaText_stuck lone ⟨declaration, listed, name, member, wrong⟩
  exact stuck_unread stuck document (readSchema_ok.mp read)

theorem lone_names_read (lone : Lone declarations) {extraction : Extraction} {document : Document}
    (extracted : (extract declarations).outcome = .ok extraction)
    (read : readSchema extraction.schemaText = .ok document) :
    document.definitions = declarations.flatMap Declaration.definitions ∧
    (∀ declaration ∈ declarations, ∀ name ∈ declaration.writtenNames, isName name = true) ∧
    (∀ declaration ∈ declarations,
      declaration.definitions = [] ↔ declaration.fragment = []) ∧
    ∀ member : Member, (member.line.value ≠ "" ↔ member.field?.isSome = true) ∧
      ∀ field, member.field? = some field → member.name = some field.name ∧ field.arguments = [] := by
  rw [(extracted_text extracted).2] at read
  have legible := lone_legible lone read
  refine ⟨?_, legible.named, ?_, ?_⟩
  · rw [schemaText_read legible (extracted_shown extracted)] at read
    split at read
    · cases read
      rfl
    · cases read
  · intro declaration listed
    exact lowering_absent (lowering (lone.written declaration listed))
  · intro member
    refine ⟨?_, fun field found => ?_⟩
    · rw [← line_empty]
      simp
    · obtain ⟨name, bare⟩ := member_field found
      exact ⟨name, by rw [bare]⟩

end Lone

theorem lone_names_read_orders :
    Lone orderDeclarations ∧
    ∃ extraction document, (extract orderDeclarations).outcome = .ok extraction ∧
      readSchema extraction.schemaText = .ok document ∧
      document.definitions = [
        .scalar none "Date" [],
        .enumeration none "enum" [] [⟨none, "TRUE", []⟩, ⟨none, "NULL", []⟩],
        .object ⟨none, "Order", [], [], [
          ⟨none, "type", [], .nonNull (.named "enum"), []⟩,
          ⟨none, "dates", [], .list (.named "Date"), []⟩]⟩] := by
  have lone : Lone orderDeclarations := ⟨by decide, by decide +kernel, by decide +kernel⟩
  have legible : Legible orderDeclarations := ⟨by decide, by decide +kernel⟩
  have shown : Shown orderDeclarations :=
    ⟨.enumeration "enum" ["true", "null"], by simp [orderDeclarations], by decide +kernel⟩
  obtain ⟨extraction, extracted, text⟩ := extract_shown shown
  have read : readSchema extraction.schemaText =
      .ok ⟨orderDeclarations.flatMap Declaration.definitions⟩ := by
    rw [text, schemaText_read legible shown]
    exact if_pos (by decide +kernel)
  obtain ⟨defined, _⟩ := lone_names_read lone extracted read
  refine ⟨lone, extraction, _, extracted, read, ?_⟩
  rw [defined]
  rfl

-- One alias, with a name that goes on with the type of a field and another definition.
def bracedSource : String := "type A = \x7b 'a: Int \x7d type B \x7b b': string \x7d;"

-- The source declares what has these titles, and definitions of these names are read from its schema text.
def defines (source : String) (titles names : List String) : Bool :=
  match (Source.readSource source).outcome with
  | .ok declarations =>
    declarations.all (fun declaration => !declaration.isEmbedded) &&
      declarations.map Declaration.title = titles &&
      match (extract declarations).outcome with
      | .ok extraction =>
        match readSchema extraction.schemaText with
        | .ok document => document.definitions.map Definition.name? = names.map some
        | .error _ => false
      | .error _ => false
  | .error _ => false

theorem defines_read {source : String} {titles names : List String}
    (reads : defines source titles names = true) :
    ∃ declarations extraction document, (Source.readSource source).outcome = .ok declarations ∧
      (∀ declaration ∈ declarations, declaration.isEmbedded = false) ∧
      declarations.map Declaration.title = titles ∧
      (extract declarations).outcome = .ok extraction ∧
      readSchema extraction.schemaText = .ok document ∧
      document.definitions.map Definition.name? = names.map some := by
  unfold defines at reads
  split at reads
  · rename_i declarations read
    simp only [Bool.and_eq_true, decide_eq_true_eq, List.all_eq_true, Bool.not_eq_true'] at reads
    obtain ⟨⟨written, titled⟩, reads⟩ := reads
    split at reads
    · rename_i extraction extracted
      split at reads
      · rename_i document parsed
        exact ⟨declarations, extraction, document, read, written, titled, extracted, parsed,
          of_decide_eq_true reads⟩
      · cases reads
    · cases reads
  · cases reads

theorem braced_name_defines :
    ∃ declarations extraction document,
      (Source.readSource bracedSource).outcome = .ok declarations ∧
      (∀ declaration ∈ declarations, declaration.isEmbedded = false) ∧
      declarations.map Declaration.title = ["A"] ∧
      (extract declarations).outcome = .ok extraction ∧
      readSchema extraction.schemaText = .ok document ∧
      document.definitions.map Definition.name? = [some "A", some "B"] := by
  have reads : defines bracedSource ["A"] ["A", "B"] = true := by decide +kernel
  exact defines_read reads

end DeclSchema
