import DeclSchema.Conversion
import DeclSchema.Proofs.Lowering.Meaning
import DeclSchema.Proofs.Schema.PlainPrinting
import DeclSchema.Proofs.Schema.PlainReading

/-!
The schema text of declarations, read back. The text falls into the tokens of the definitions that
the declarations stand for, so reading gives these definitions, unless lists are nested too deeply.
-/

namespace DeclSchema

open Schema

/-! Fragments. -/

section Braces

variable {α : Type} {text : α → String} {form : α → List Token} {row : List α} {head word : String}
  (heading : head = word ++ " ") (keyword : isName word = true)

include heading keyword

theorem braced_heading (name body : String) (rest : Points) :
    ∃ more, tokens (Points.of (braced head name body) ++ rest) =
      .name word :: tokens (Points.of name ++ more) := by
  refine ⟨Points.of (" \x7b\n" ++ body ++ "\n\x7d\n") ++ rest, ?_⟩
  have space : Points.of " " = [.char ' '] := rfl
  simp only [braced, heading, Points.of_append, List.append_assoc, space,
    List.cons_append, List.nil_append, tokens_name keyword (delimited_space _), tokens_space]

theorem braced_body {name : String} (named : isName name = true) (body : String) (rest : Points) :
    tokens (Points.of (braced head name body) ++ rest) =
      .name word :: .name name :: .symbol .openBrace ::
        tokens (Points.of body ++ .char '\n' :: .char '\x7d' :: .char '\n' :: rest) := by
  have space : Points.of " " = [.char ' '] := rfl
  have opening : Points.of " \x7b\n" = [.char ' ', .char '\x7b', .char '\n'] := rfl
  have closing : Points.of "\n\x7d\n" = [.char '\n', .char '\x7d', .char '\n'] := rfl
  simp only [braced, heading, Points.of_append, List.append_assoc, space, opening, closing,
    List.cons_append, List.nil_append, tokens_name keyword (delimited_space _),
    tokens_name named (delimited_space _), tokens_space, tokens_openBrace, tokens_feed]

theorem braced_tokens {name separator : String} (named : isName name = true) (present : row ≠ [])
    (scans : ∀ a ∈ row, Scans (Points.of (text a)) (form a)) (apart : separator ≠ "")
    (blank : separator.toList.all isIgnored = true) (rest : Points) :
    tokens (Points.of (braced head name (separator.intercalate (row.map text))) ++ rest) =
      .name word :: .name name :: (enclosed .openBrace .closeBrace form row ++ tokens rest) := by
  obtain ⟨first, others, rfl⟩ := List.exists_cons_of_ne_nil present
  have listed : ((first :: others).map text).map Points.of =
      (first :: others).map fun a => Points.of (text a) := List.map_map
  rw [braced_body heading keyword named, Points.of_intercalate, listed,
    tokens_row scans apart blank (delimited_feed (.char '\x7d' :: .char '\n' :: rest)), tokens_feed,
    tokens_closeBrace, tokens_feed]
  simp [enclosed]

end Braces

theorem fieldLine_scans {member : Member} {field : Field} (found : member.field? = some field)
    (plain : field.Plain TypeRef.Proper) : Scans (Points.of (fieldLine field)) field.tokens := by
  have printed : Points.of (field.name ++ ": " ++ field.type.print) = field.print := by
    rw [(member_field found).2, bare_print]
  have blanks : Points.of "  " = [.char ' ', .char ' '] := rfl
  rw [fieldLine, Points.of_append, printed, blanks]
  refine ⟨by simp, fun rest delimited => ?_⟩
  simp only [List.cons_append, List.nil_append, tokens_space,
    (field_spells plain).scan rest delimited]

theorem scalars_cons (name : String) (others : List String) (rest : Points) :
    tokens (Points.of (String.join ((name :: others).map fun name => "scalar " ++ name ++ "\n")) ++
        rest) =
      .name "scalar" :: tokens (Points.of name ++ .char '\n' ::
        (Points.of (String.join (others.map fun name => "scalar " ++ name ++ "\n")) ++ rest)) := by
  have heading : Points.of "scalar " = Points.of "scalar" ++ [.char ' '] := rfl
  have behind : Points.of "\n" = [.char '\n'] := rfl
  simp only [List.map_cons, String.join_cons, Points.of_append, heading, behind,
    List.append_assoc, List.cons_append, List.nil_append,
    tokens_name (by decide : isName "scalar" = true) (delimited_space _), tokens_space]

theorem scalars_tokens {names : List String} (named : ∀ name ∈ names, isName name = true)
    (rest : Points) :
    tokens (Points.of (String.join (names.map fun name => "scalar " ++ name ++ "\n")) ++ rest) =
      names.flatMap (fun name => [.name "scalar", .name name]) ++ tokens rest := by
  induction names with
  | nil => rfl
  | cons name others ih =>
    obtain ⟨first, later⟩ := List.forall_mem_cons.mp named
    rw [scalars_cons, tokens_name first (delimited_feed _), tokens_feed, ih later]
    rfl

theorem values_enclosed (members : List String) :
    enclosed .openBrace .closeBrace EnumValue.tokens
        (members.map fun member => ⟨none, Text.toUpper member, []⟩) =
      enclosed .openBrace .closeBrace (fun member => [.name (Text.toUpper member)]) members := by
  cases members with
  | nil => rfl
  | cons first others => simp only [enclosed, List.map_cons, List.flatMap_cons, List.flatMap_map,
      EnumValue.tokens]

theorem lowering_tokens {text : Points} {names : List String} {definitions : List Definition}
    (lowered : Lowering text names definitions) (legible : ∀ name ∈ names, isName name = true)
    (rest : Points) :
    tokens (text ++ rest) = definitions.flatMap Definition.tokens ++ tokens rest := by
  have plain := lowering_plain lowered legible
  cases lowered with
  | nothing => rfl
  | scalars =>
    rw [scalars_tokens legible, List.flatMap_map]
    rfl
  | object name fields present source =>
    have named := legible name List.mem_cons_self
    have scans : ∀ field ∈ fields, Scans (Points.of (fieldLine field)) field.tokens := by
      intro field member
      cases plain _ List.mem_cons_self with
      | object plain =>
        cases plain with
        | mk _ plain =>
          obtain ⟨_, found⟩ := source field member
          exact fieldLine_scans found (plain field member)
    rw [braced_tokens (by rfl : "type " = "type" ++ " ") (by decide) named present
      scans (by decide) (by decide), List.flatMap_singleton]
    rfl
  | enumeration name members present =>
    obtain ⟨named, upper⟩ := List.forall_mem_cons.mp legible
    have scans : ∀ member ∈ members,
        Scans (Points.of (Text.toUpper member)) [.name (Text.toUpper member)] :=
      fun member listed => (spells_name (upper _ (List.mem_map_of_mem listed))).toScans
    rw [braced_tokens (by rfl : "enum " = "enum" ++ " ") (by decide) named present
      scans (by decide) (by decide), List.flatMap_singleton, Definition.tokens, values_enclosed]
    rfl

theorem shown_append {text : Points} (shown : text.allBlank = false) (more : Points) :
    (text ++ more).allBlank = false := by
  rw [Points.allBlank] at shown ⊢
  rw [List.all_append, shown, Bool.false_and]

theorem braced_shown {head : String} (keyword : (Points.of head).allBlank = false)
    (name body : String) : (Points.of (braced head name body)).allBlank = false := by
  simp only [braced, Points.of_append]
  exact shown_append (shown_append (shown_append (shown_append keyword _) _) _) _

-- A text that is there begins with a keyword.
theorem lowering_shown {text : Points} {names : List String} {definitions : List Definition}
    (lowered : Lowering text names definitions) (shown : text ≠ []) : text.allBlank = false := by
  cases lowered with
  | nothing => exact absurd rfl shown
  | scalars =>
    cases names with
    | nil => exact absurd rfl shown
    | cons name others =>
      simp only [List.map_cons, String.join_cons, Points.of_append]
      have keyword : (Points.of "scalar ").allBlank = false := by decide
      exact shown_append (shown_append (shown_append keyword _) _) _
  | object name => exact braced_shown (by decide) name _
  | enumeration name => exact braced_shown (by decide) name _

def Declaration.fragment (declaration : Declaration) : Points := declaration.lower.value.fragment

theorem embedded_fragment {tag : Tag} {text : Points}
    (present : (Declaration.embedded tag text).fragment ≠ []) :
    (Declaration.embedded tag text).fragment = text ++ "\n" ∧ text.allBlank = false := by
  have lowered : (Declaration.embedded tag text).fragment =
      if text.allBlank = true then [] else text ++ Points.of "\n" := by
    simp only [Declaration.fragment, Declaration.lower]
    split <;> rfl
  by_cases blank : text.allBlank = true
  · rw [if_pos blank] at lowered
    exact absurd lowered present
  · rw [if_neg blank] at lowered
    exact ⟨lowered, by simpa using blank⟩

theorem fragment_shown {declaration : Declaration} (present : declaration.fragment ≠ []) :
    declaration.fragment.allBlank = false := by
  cases declaration with
  | embedded tag text =>
    obtain ⟨fragment, visible⟩ := embedded_fragment present
    rw [fragment]
    exact shown_append visible "\n"
  | typeAlias => exact lowering_shown (lowering rfl) present
  | enumeration => exact lowering_shown (lowering rfl) present

/-! Extraction. -/

-- The text of declarations, whether or not it is blank.
def schemaText (declarations : List Declaration) : Points :=
  declarations.flatMap (·.lower.value.fragment)

theorem schemaText_cons (declaration : Declaration) (rest : List Declaration) :
    schemaText (declaration :: rest) = declaration.lower.value.fragment ++ schemaText rest :=
  List.flatMap_cons

theorem collect_text (collected : Collected) (declaration : Declaration) :
    (collect collected declaration).value.fragments.flatten =
      collected.fragments.flatten ++ declaration.lower.value.fragment := by
  rw [collect, Logged.bind_value]
  by_cases empty : declaration.lower.value.fragment.isEmpty = true
  · simp only [empty, if_true, Logged.pure_value]
    rw [List.isEmpty_iff.mp empty, List.append_nil]
  · simp only [empty, Bool.false_eq_true, if_false, Logged.bind_value, Logged.pure_value,
      List.flatten_append, List.flatten_singleton]

theorem collectAll_text (declarations : List Declaration) (collected : Collected) :
    (declarations.foldlM collect collected).value.fragments.flatten =
      collected.fragments.flatten ++ schemaText declarations := by
  induction declarations generalizing collected with
  | nil => exact (List.append_nil _).symm
  | cons declaration rest ih =>
    rw [List.foldlM_cons, Logged.bind_value, ih, collect_text, schemaText_cons, List.append_assoc]

theorem ofLogged_outcome {ε α β : Type} (x : Logged α) (f : α → Traced ε β) :
    (Traced.ofLogged x >>= f).outcome = (f x.value).outcome := rfl

theorem extract_value (declarations : List Declaration) :
    let collected := (declarations.foldlM collect ⟨[], .empty⟩).value
    (extract declarations).outcome =
      if (schemaText declarations).allBlank then .error .noDefinitions
      else .ok ⟨schemaText declarations, collected.table, collected.fragments.length⟩ := by
  have text := collectAll_text declarations ⟨[], .empty⟩
  rw [List.flatten_nil, List.nil_append] at text
  rw [extract, ofLogged_outcome, ← text]
  dsimp only
  split <;> rfl

theorem extract_outcome (declarations : List Declaration) :
    ∃ table count, (extract declarations).outcome =
      if (schemaText declarations).allBlank then .error .noDefinitions
      else .ok ⟨schemaText declarations, table, count⟩ :=
  ⟨_, _, extract_value declarations⟩

theorem legible_rest {declaration : Declaration} {rest : List Declaration}
    (legible : Legible (declaration :: rest)) : Legible rest :=
  ⟨(List.forall_mem_cons.mp legible.written).2, (List.forall_mem_cons.mp legible.named).2⟩

section Legible

variable {declarations : List Declaration}

theorem schemaText_tokens (legible : Legible declarations) :
    tokens (schemaText declarations) =
      (declarations.flatMap Declaration.definitions).flatMap Definition.tokens := by
  induction declarations with
  | nil => rfl
  | cons declaration rest ih =>
    have own := lowering (legible.written declaration List.mem_cons_self)
    have first := lowering_tokens own (legible.named declaration List.mem_cons_self)
    rw [schemaText_cons, first, ih (legible_rest legible), List.flatMap_cons,
      List.flatMap_append]

-- At least one declaration leaves a text.
def Shown (declarations : List Declaration) : Prop :=
  ∃ declaration ∈ declarations, declaration.lower.value.fragment ≠ []

theorem schemaText_shown (shown : Shown declarations) :
    (schemaText declarations).allBlank = false := by
  obtain ⟨declaration, listed, present⟩ := shown
  obtain ⟨point, inside, letter⟩ := List.all_eq_false.mp (fragment_shown present)
  exact List.all_eq_false.mpr ⟨point, List.mem_flatMap.mpr ⟨declaration, listed, inside⟩, letter⟩

theorem shown_definitions (legible : Legible declarations) (shown : Shown declarations) :
    declarations.flatMap Declaration.definitions ≠ [] := by
  obtain ⟨declaration, listed, present⟩ := shown
  have own := lowering_absent (lowering (legible.written declaration listed))
  obtain ⟨definition, member⟩ := List.exists_mem_of_ne_nil _ fun none => present (own.mp none)
  exact List.ne_nil_of_mem (List.mem_flatMap.mpr ⟨declaration, listed, member⟩)

theorem schemaText_parse (legible : Legible declarations) (shown : Shown declarations) :
    Document.parse (schemaText declarations) =
      if (declarations.flatMap Declaration.definitions).all Definition.fits then
        .ok ⟨declarations.flatMap Declaration.definitions⟩
      else .error .tooDeep :=
  Reading.parse_plain (shown_definitions legible shown) (definitions_plain legible)
    (schemaText_tokens legible)

-- How a text in which lists are nested too deeply is refused.
def depthFailure (text : Points) : Failure :=
  .schema ("Generated schema is not valid SDL: " ++ Fault.tooDeep.message) text

theorem schemaText_read (legible : Legible declarations) (shown : Shown declarations) :
    readSchema (schemaText declarations) =
      if (declarations.flatMap Declaration.definitions).all Definition.fits then
        .ok ⟨declarations.flatMap Declaration.definitions⟩
      else .error (depthFailure (schemaText declarations)) := by
  rw [readSchema, schemaText_parse legible shown]
  by_cases fits : (declarations.flatMap Declaration.definitions).all Definition.fits = true
  · rw [if_pos fits, if_pos fits]
  · rw [if_neg fits, if_neg fits]
    rfl

theorem extract_shown (shown : Shown declarations) :
    ∃ extraction, (extract declarations).outcome = .ok extraction ∧
      extraction.schemaText = schemaText declarations := by
  obtain ⟨table, count, outcome⟩ := extract_outcome declarations
  refine ⟨⟨schemaText declarations, table, count⟩, ?_, rfl⟩
  rw [outcome, schemaText_shown shown]
  rfl

theorem extract_decodes (legible : Legible declarations) (shown : Shown declarations) :
    (∀ shape : Shape, shape.typeRef.print = shape.schemaType.value) ∧
    ∃ extraction, (extract declarations).outcome = .ok extraction ∧
      readSchema extraction.schemaText =
        if (declarations.flatMap Declaration.definitions).all Definition.fits then
          .ok ⟨declarations.flatMap Declaration.definitions⟩
        else .error (depthFailure extraction.schemaText) := by
  obtain ⟨extraction, outcome, text⟩ := extract_shown shown
  refine ⟨typeRef_print, extraction, outcome, ?_⟩
  rw [text]
  exact schemaText_read legible shown

end Legible

-- Keywords as names, an enumeration of reserved words, and an alias that leaves nothing.
def orderDeclarations : List Declaration :=
  [.typeAlias "Scalars" (.object [.typed (some "Date") (.keyword "any") false, .bare none false]) [],
    .enumeration "enum" ["true", "null"],
    .typeAlias "Id" (.keyword "string") [],
    .typeAlias "Order"
      (.intersection [.reference "Base" [],
        .object [
          .typed (some "type") (.reference "enum" []) false,
          .typed (some "dates")
            (.reference "Array" [.reference "Maybe" [.indexed (.reference "Scalars" [])
              (.literal (.text "Date"))]]) true,
          .bare (some "total") false]]) []]

theorem extract_decodes_orders :
    Legible orderDeclarations ∧ Shown orderDeclarations ∧
    ∃ extraction, (extract orderDeclarations).outcome = .ok extraction ∧
      readSchema extraction.schemaText = .ok ⟨[
        .scalar none "Date" [],
        .enumeration none "enum" [] [⟨none, "TRUE", []⟩, ⟨none, "NULL", []⟩],
        .object ⟨none, "Order", [], [], [
          ⟨none, "type", [], .nonNull (.named "enum"), []⟩,
          ⟨none, "dates", [], .list (.named "Date"), []⟩]⟩]⟩ := by
  have legible : Legible orderDeclarations := ⟨by decide, by decide +kernel⟩
  have shown : Shown orderDeclarations :=
    ⟨.enumeration "enum" ["true", "null"], by simp [orderDeclarations], by decide +kernel⟩
  obtain ⟨_, extraction, outcome, read⟩ := extract_decodes legible shown
  refine ⟨legible, shown, extraction, outcome, ?_⟩
  rw [read]
  rfl

/-! Lists nested too deeply. -/

def nestedLists : Nat → Shape
  | 0 => .keyword "string"
  | depth + 1 => .reference "Array" [nestedLists depth]

theorem nestedLists_type (depth : Nat) :
    (nestedLists depth).typeRef.depth = depth ∧ (nestedLists depth).typeRef.baseName = "String" := by
  induction depth with
  | zero => exact ⟨rfl, rfl⟩
  | succ depth ih =>
    rw [nestedLists, Shape.typeRef]
    exact ⟨congrArg (· + 1) ih.1, ih.2⟩

def nestedDeclarations (depth : Nat) : List Declaration :=
  [.typeAlias "A" (.object [.typed (some "a") (nestedLists depth) false]) []]

theorem nested_legible (depth : Nat) : Legible (nestedDeclarations depth) := by
  refine ⟨by simp [nestedDeclarations, Declaration.isEmbedded], ?_⟩
  intro declaration listed name member
  rw [List.mem_singleton.mp listed] at member
  change name ∈ ["A", "a", (nestedLists depth).typeRef.baseName] at member
  rw [(nestedLists_type depth).2] at member
  revert name
  decide

theorem nested_shown (depth : Nat) : Shown (nestedDeclarations depth) := by
  refine ⟨_, List.mem_singleton_self _, ?_⟩
  rw [alias_fragment (by decide), typeFragment_value]
  change Points.of (braced _ _ _) ≠ []
  simp [braced]

theorem nested_fits (depth : Nat) :
    ((nestedDeclarations depth).flatMap Declaration.definitions).all Definition.fits =
      decide (depth ≤ Reading.maxDepth) := by
  have type : (TypeRef.nonNull (nestedLists depth).typeRef).fits =
      decide (depth ≤ Reading.maxDepth) := by
    rw [TypeRef.fits, TypeRef.depth, (nestedLists_type depth).1]
  change (((true && TypeRef.fits (.nonNull (nestedLists depth).typeRef)) && true) && true) = _
  rw [type, Bool.and_true, Bool.and_true, Bool.true_and]

-- Two hundred lists can be read back, and one more cannot.
theorem deep_lists_unread :
    ¬ ∀ declarations : List Declaration, Legible declarations → Shown declarations →
      ∃ extraction, (extract declarations).outcome = .ok extraction ∧
        readSchema extraction.schemaText = .ok ⟨declarations.flatMap Declaration.definitions⟩ := by
  intro decodes
  have legible := nested_legible 201
  have shown := nested_shown 201
  obtain ⟨extraction, outcome, read⟩ := decodes (nestedDeclarations 201) legible shown
  obtain ⟨other, found, text⟩ := extract_shown shown
  cases Except.ok.inj (outcome.symm.trans found)
  rw [text, schemaText_read legible shown, nested_fits] at read
  cases read

end DeclSchema
