import DeclSchema.Proofs.Schema.Spelling
import DeclSchema.Schema.Printer

/-!
The printed text of plain definitions. However the printer lays it out, it falls into the tokens of
the definitions.
-/

namespace DeclSchema.Schema

/-! Pieces on one line. -/

theorem type_spells {type : TypeRef} (proper : type.Proper) :
    Spells (Points.of type.print) type.tokens := by
  induction type with
  | named name => exact spells_name proper
  | list element ih =>
    rw [TypeRef.print, Points.of_append, Points.of_append]
    exact spells_list (ih proper)
  | nonNull type ih =>
    simp only [TypeRef.Proper, TypeRef.isProper, Bool.and_eq_true] at proper
    rw [TypeRef.print, Points.of_append]
    exact spells_nonNull (ih proper.2)

theorem words_gap (before after : List Points) :
    words (before ++ [] :: after) = words (before ++ after) := by
  simp [words, joined, List.filter_append]

theorem words_single {text : Points} (present : text ≠ []) : words [text] = text := by
  have kept : (!text.isEmpty) = true := by simpa using present
  simp [words, joined, kept]

theorem inputValue_spells {value : InputValue} (plain : value.Plain TypeRef.Proper) :
    Spells value.print value.tokens := by
  cases plain with
  | @mk name type named typed =>
    have spelled := spells_labelled (spells_name named) (type_spells typed)
    have printed : (⟨none, name, type, none, []⟩ : InputValue).print =
        name ++ ": " ++ type.print := by
      change words ([Points.of name ++ ": " ++ type.print] ++ [[], []]) = _
      rw [words_gap, words_gap, List.append_nil, words_single spelled.present]
    rw [printed]
    exact spelled

section Arguments

variable {arguments : List InputValue}

-- None of them needs a line of its own.
theorem arguments_line (plain : ∀ argument ∈ arguments, argument.Plain TypeRef.Proper) :
    printArguments arguments = wrapped "(" (joined ", " (arguments.map InputValue.print)) ")" := by
  have single : (arguments.map InputValue.print).any isMultiline = false := by
    rw [List.any_eq_false]
    intro text member
    obtain ⟨argument, present, rfl⟩ := List.mem_map.mp member
    have line := (inputValue_spells (plain argument present)).line
    simpa [isMultiline] using line
  simp [printArguments, single]

theorem arguments_spells {name : String} (named : isName name = true)
    (plain : ∀ argument ∈ arguments, argument.Plain TypeRef.Proper) :
    Spells (name ++ printArguments arguments)
      (.name name :: enclosed .openParen .closeParen InputValue.tokens arguments) := by
  have own := spells_name named
  have spells : ∀ argument ∈ arguments, Spells argument.print argument.tokens :=
    fun argument member => inputValue_spells (plain argument member)
  have scans : ∀ argument ∈ arguments, Scans argument.print argument.tokens :=
    fun argument member => (spells argument member).toScans
  cases arguments with
  | nil => simpa [arguments_line plain, joined, wrapped, enclosed] using own
  | cons first others =>
    have opens : Points.of "(" = [.char '('] := rfl
    have closes : Points.of ")" = [.char ')'] := rfl
    have present := row_present (spells first List.mem_cons_self).present others (Points.of ", ")
    rw [arguments_line plain, joined_row scans, wrapped_present present, opens, closes]
    refine ⟨⟨by simp, ?_⟩, ?_⟩
    · intro rest _
      have opening : Delimited (.char '(' ::
          ((Points.of ", ").intercalate ((first :: others).map InputValue.print) ++
            .char ')' :: rest)) := delimited_cons (by decide) _
      have closing : Delimited (.char ')' :: rest) := delimited_cons (by decide) rest
      have items := tokens_row scans (by decide) (by decide : ", ".toList.all isIgnored = true)
        closing
      simp only [List.append_assoc, List.cons_append, List.nil_append, own.scan _ opening,
        tokens_symbol (by rfl : symbol? '(' = some .openParen), items,
        tokens_symbol (by rfl : symbol? ')' = some .closeParen), enclosed]
    · have line := row_line spells (by decide : .char '\n' ∉ Points.of ", ")
      simpa using ⟨own.line, line⟩

end Arguments

theorem field_spells {field : Field} (plain : field.Plain TypeRef.Proper) :
    Spells field.print field.tokens := by
  cases plain with
  | @mk name arguments type named plain typed =>
    have spelled := spells_labelled (arguments_spells named plain) (type_spells typed)
    have printed : (⟨none, name, arguments, type, []⟩ : Field).print =
        name ++ printArguments arguments ++ ": " ++ type.print := List.append_nil _
    rw [printed]
    exact spelled

theorem enumValue_spells {value : EnumValue} (plain : value.Plain) :
    Spells value.print value.tokens := by
  cases plain with
  | @mk name named free =>
    have spelled := spells_name named
    have printed : (⟨none, name, []⟩ : EnumValue).print = name := by
      change words ([Points.of name] ++ [[]]) = name
      rw [words_gap, List.append_nil, words_single spelled.present]
    rw [printed]
    exact spelled

/-! Definitions. -/

-- A keyword, a name and a body. Without a body nothing stands behind the name.
theorem headed_scans {word name : String} {body : Points} {form : List Token}
    (keyword : isName word = true) (named : isName name = true)
    (scan : ∀ rest, tokens (body ++ rest) = form ++ tokens rest) :
    Scans (words [word, name, body]) (.name word :: .name name :: form) := by
  have first : (!(Points.of word).isEmpty) = true := by simpa using name_present keyword
  have second : (!(Points.of name).isEmpty) = true := by simpa using name_present named
  have space : Points.of " " = [.char ' '] := rfl
  by_cases empty : body = []
  · subst empty
    have text : words [word, name, []] = Points.of word ++ .char ' ' :: Points.of name := by
      simp [words, joined, first, second, space]
    rw [text]
    refine ⟨by simp, ?_⟩
    intro rest delimited
    have nothing : tokens rest = form ++ tokens rest := scan rest
    simp only [List.append_assoc, List.cons_append, tokens_name keyword (delimited_space _),
      tokens_space, tokens_name named delimited, ← nothing]
  · have third : (!body.isEmpty) = true := by simpa using empty
    have text : words [word, name, body] =
        Points.of word ++ .char ' ' :: (Points.of name ++ .char ' ' :: body) := by
      simp [words, joined, first, second, third, space]
    rw [text]
    refine ⟨by simp, ?_⟩
    intro rest _
    simp only [List.append_assoc, List.cons_append, tokens_name keyword (delimited_space _),
      tokens_space, tokens_name named (delimited_space _), scan rest]

theorem definition_scans {definition : Definition} (plain : definition.Plain TypeRef.Proper) :
    Scans definition.print definition.tokens := by
  cases plain with
  | @scalar name named =>
    have body : ∀ rest, tokens ([] ++ rest) = [] ++ tokens rest := fun _ => rfl
    change Scans (words ["scalar", name, []]) [.name "scalar", .name name]
    exact headed_scans (by decide) named body
  | @object type plain =>
    cases plain with
    | @mk name fields named plain =>
      have body := tokens_block fun field member => field_spells (plain field member)
      have printed : (Definition.object ⟨none, name, [], [], fields⟩).print =
          words ["type", name, block (fields.map Field.print)] :=
        (words_gap ["type", name] _).trans (words_gap ["type", name] _)
      rw [printed]
      exact headed_scans (by decide) named body
  | @enumeration name values named plain =>
    have body := tokens_block fun value member => enumValue_spells (plain value member)
    have printed : (Definition.enumeration none name [] values).print =
        words ["enum", name, block (values.map EnumValue.print)] := words_gap ["enum", name] _
    rw [printed]
    exact headed_scans (by decide) named body
  | @input type plain =>
    cases plain with
    | @mk name fields named plain =>
      have body := tokens_block fun field member => inputValue_spells (plain field member)
      have printed : (Definition.input ⟨none, name, [], fields⟩).print =
          words ["input", name, block (fields.map InputValue.print)] :=
        words_gap ["input", name] _
      rw [printed]
      exact headed_scans (by decide) named body

/-! Documents. -/

theorem tokens_print {definitions : List Definition}
    (plain : ∀ definition ∈ definitions, definition.Plain TypeRef.Proper) :
    tokens ((Document.mk definitions).print ++ "\n") = definitions.flatMap Definition.tokens := by
  have scans : ∀ definition ∈ definitions, Scans definition.print definition.tokens :=
    fun definition member => definition_scans (plain definition member)
  have items := tokens_row scans (by decide) (by decide : "\n\n".toList.all isIgnored = true)
    (delimited_feed [])
  have blank : tokens [.char '\n'] = [] := rfl
  rw [Document.print, joined_row scans]
  change tokens (_ ++ [.char '\n']) = _
  rw [items, blank, List.append_nil]

end DeclSchema.Schema
