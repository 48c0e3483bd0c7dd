import DeclSchema.Proofs.Assembly.Outcome
import DeclSchema.Proofs.Lowering.ArgumentNames
import DeclSchema.Proofs.Lowering.Collecting
import DeclSchema.Proofs.Lowering.Emission
import DeclSchema.Proofs.Lowering.Joining

/-!
The two ways of an argument declaration. Its argument list is kept in the table under its name,
where a later declaration of that name takes its place; its object type is bound to a field, where
the earliest declaration counts. What is printed for the field is the list of the earliest one.
-/

namespace DeclSchema

open Schema

/-! The aliases that leave a text. -/

def Declaration.shownAlias? : Declaration → Option (String × Shape)
  | .typeAlias name shape parameters =>
    if (Declaration.typeAlias name shape parameters).fragment = "" then none else some (name, shape)
  | _ => none

def shownAliases (declarations : List Declaration) : List (String × Shape) :=
  declarations.filterMap Declaration.shownAlias?

-- The earliest alias that has the key of a field.
def boundAlias? (operation field : String) (declarations : List Declaration) :
    Option (String × Shape) :=
  (shownAliases declarations).find? fun written => argsKey written.1 = operationArgsKey operation field

-- The latest alias of a name.
def keptAlias? (name : String) (declarations : List Declaration) : Option (String × Shape) :=
  (shownAliases declarations).reverse.find? fun written => written.1 = name

theorem alias_shown {name : String} (other : name ≠ "Scalars") (shape : Shape)
    (parameters : List String) :
    (Declaration.typeAlias name shape parameters).shownAlias? =
      if shape.fields.isEmpty then none else some (name, shape) := by
  have fragment : (Declaration.typeAlias name shape parameters).fragment =
      Points.of (if shape.fields.isEmpty then ""
        else braced "type " name ("\n".intercalate (shape.fields.map fieldLine))) := by
    rw [← typeFragment_value]
    exact alias_fragment other shape parameters
  rw [Declaration.shownAlias?, fragment]
  by_cases empty : shape.fields.isEmpty = true
  · simp only [empty, if_true]
  · simp [empty, braced]

theorem shown_self {name : String} {shape : Shape} {parameters : List String}
    {written : String × Shape}
    (shown : (Declaration.typeAlias name shape parameters).shownAlias? = some written) :
    written = (name, shape) := by
  rw [Declaration.shownAlias?] at shown
  split at shown
  · cases shown
  · cases shown
    rfl

theorem shown_present {name : String} (other : name ≠ "Scalars") {shape : Shape}
    {parameters : List String} {written : String × Shape}
    (shown : (Declaration.typeAlias name shape parameters).shownAlias? = some written) :
    shape.fields.isEmpty = false := by
  rw [alias_shown other] at shown
  split at shown
  · cases shown
  · rename_i present
    exact Bool.eq_false_iff.mpr present

/-! The table. -/

-- What a declaration puts under a name, if anything.
def Declaration.argumentsFor (name : String) (declaration : Declaration) : Option String :=
  match declaration.shownAlias? with
  | some written => if written.1 = name then some (argumentList written.2).value else none
  | none => none

theorem argumentsFor_other {name : String} {declaration : Declaration}
    (other : ∀ written, declaration.shownAlias? = some written → written.1 ≠ name) :
    declaration.argumentsFor name = none := by
  unfold Declaration.argumentsFor
  cases shown : declaration.shownAlias? with
  | none => rfl
  | some written => exact if_neg (other written shown)

theorem row_found {name : String} (args : isArgsName name = true) (declaration : Declaration) :
    declaration.argumentRow?.toList.lookup name = declaration.argumentsFor name := by
  cases declaration with
  | embedded tag text => rfl
  | enumeration written members => rfl
  | typeAlias written shape parameters =>
    by_cases declares : DeclaresArguments written shape
    · obtain ⟨own, present⟩ := declares_fields.mp declares
      rw [declared_row declares, Declaration.argumentsFor, alias_shown (args_other own), present]
      by_cases same : written = name
      · simp [same]
      · have miss : (name == written) = false := by simpa using Ne.symm same
        simp [same, List.lookup_cons, miss]
    · rw [other_row declares, argumentsFor_other]
      · rfl
      · rintro found shown rfl
        obtain rfl := shown_self shown
        exact declares (declares_fields.mpr ⟨args, shown_present (args_other args) shown⟩)

theorem record_get {name : String} (args : isArgsName name = true) (declaration : Declaration)
    (table : ArgsTable) :
    (declaration.lower.value.record table).get? name =
      (declaration.argumentsFor name).or (table.get? name) := by
  rw [record_row, ArgsTable.get?, Association.lookup_putAll, ← row_found args]
  cases declaration.argumentRow? <;> rfl

-- The latest declaration of a name takes the place of earlier ones.
theorem collectAll_get {name : String} (args : isArgsName name = true)
    (declarations : List Declaration) (collected : Collected) :
    (declarations.foldlM collect collected).value.table.get? name =
      ((keptAlias? name declarations).map fun written => (argumentList written.2).value).or
        (collected.table.get? name) := by
  induction declarations generalizing collected with
  | nil => rfl
  | cons declaration rest ih =>
    rw [List.foldlM_cons, Logged.bind_value, ih, collect_table, record_get args, ← Option.or_assoc]
    congr 1
    unfold keptAlias? shownAliases Declaration.argumentsFor
    rw [List.filterMap_cons]
    cases declaration.shownAlias? with
    | none => rw [Option.or_none]
    | some written =>
      dsimp only
      rw [List.reverse_cons, List.find?_append, List.find?_singleton, Option.map_or]
      by_cases same : written.1 = name <;> simp [same]

theorem extracted_table {declarations : List Declaration} {extraction : Extraction}
    (extracted : (extract declarations).outcome = .ok extraction) {name : String}
    (args : isArgsName name = true) :
    extraction.argsTable.get? name =
      (keptAlias? name declarations).map fun written => (argumentList written.2).value := by
  have table := collectAll_get args declarations ⟨[], .empty⟩
  rw [extract_value] at extracted
  split at extracted
  · cases extracted
  · cases extracted
    rw [table, ArgsTable.empty, ArgsTable.get?, List.lookup_nil, Option.or_none]

/-! The printed list. -/

theorem trim_shown {text front rest : List Char} {c d : Char} (first : text = c :: rest)
    (visible : Text.isBlank c = false) (last : text = front ++ [d]) (ending : Text.isBlank d = false) :
    Text.trim (' ' :: ' ' :: text) = text := by
  have blank : Text.isBlank ' ' = true := by decide
  have start : Text.trimStart (' ' :: ' ' :: text) = text := by
    simp [Text.trimStart, first, blank, visible]
  rw [Text.trim, start, Text.trimEnd, last, List.reverse_concat, List.dropWhile_cons, ending,
    if_neg Bool.false_ne_true, List.reverse_cons, List.reverse_reverse]

theorem type_ending {type : TypeRef} (proper : type.Proper) :
    ∃ front c, type.print.toList = front ++ [c] ∧ Text.isBlank c = false := by
  cases type with
  | named name =>
    have present : name.toList ≠ [] := by simpa using name_present proper
    refine ⟨_, _, (List.dropLast_concat_getLast present).symm, ?_⟩
    exact namePart_shown (name_parts proper _ (List.getLast_mem present))
  | list element =>
    refine ⟨'[' :: element.print.toList, ']', ?_, by decide⟩
    simp [TypeRef.print]
  | nonNull type =>
    refine ⟨type.print.toList, '!', ?_, by decide⟩
    simp [TypeRef.print]

theorem trimmed_line {name : String} {type : TypeRef} (named : isName name = true)
    (proper : type.Proper) :
    trimmed (fieldLine ⟨none, name, [], type, []⟩) = name ++ ": " ++ type.print := by
  obtain ⟨c, rest, shape, start, parts⟩ := name_split named
  obtain ⟨front, d, last, ending⟩ := type_ending proper
  have visible : Text.isBlank c = false :=
    namePart_shown (name_parts named c (by rw [shape]; exact List.mem_cons_self))
  have written : (name ++ ": " ++ type.print).toList =
      name.toList ++ ':' :: ' ' :: type.print.toList := by
    simp [String.toList_append]
  have text : (fieldLine ⟨none, name, [], type, []⟩).toList =
      ' ' :: ' ' :: (name ++ ": " ++ type.print).toList := by
    rw [fieldLine, String.toList_append]
    rfl
  have begun : (name ++ ": " ++ type.print).toList = c :: (rest ++ ':' :: ' ' :: type.print.toList) := by
    rw [written, shape, List.cons_append]
  have ended : (name ++ ": " ++ type.print).toList =
      (name.toList ++ ':' :: ' ' :: front) ++ [d] := by
    rw [written, last, List.append_assoc, List.cons_append, List.cons_append]
  rw [trimmed, text, trim_shown begun visible ended ending, String.ofList_toList]

theorem input_printed {name : String} {type : TypeRef} :
    (Field.toInput ⟨none, name, [], type, []⟩).print =
      Points.of (name ++ ": " ++ type.print) := by
  rw [Points.of_append, Points.of_append]
  change words ([Points.of name ++ ": " ++ type.print] ++ [[], []]) = _
  rw [words_gap, words_gap, List.append_nil, words_single (by simp)]

-- The fields of a shape, as arguments of a field and as they are kept in the table.
theorem arguments_printed {shape : Shape} (some : shape.fields ≠ [])
    (plain : ∀ field ∈ shape.fields, field.Plain TypeRef.Proper) :
    printArguments (shape.fields.map Field.toInput) = Points.of (argumentList shape).value := by
  have inputs : ∀ argument ∈ shape.fields.map Field.toInput, argument.Plain TypeRef.Proper := by
    intro argument member
    obtain ⟨field, listed, rfl⟩ := List.mem_map.mp member
    exact Assembly.toInput_plain (plain field listed)
  have lines : ((shape.fields.map fieldLine).map trimmed).map Points.of =
      (shape.fields.map Field.toInput).map InputValue.print := by
    rw [List.map_map, List.map_map, List.map_map]
    refine List.map_congr_left fun field listed => ?_
    obtain ⟨member, _, found⟩ := List.mem_filterMap.mp listed
    have own := plain field listed
    rw [(member_field found).2] at own ⊢
    cases own with
    | mk named _ typed =>
      dsimp only [Function.comp_apply]
      rw [trimmed_line named typed, input_printed]
  have scans : ∀ argument ∈ shape.fields.map Field.toInput, Scans argument.print argument.tokens :=
    fun argument member => (inputValue_spells (inputs argument member)).toScans
  have filled : (Points.of ", ").intercalate ((shape.fields.map Field.toInput).map InputValue.print) ≠
      [] := by
    obtain ⟨first, others, row⟩ := List.exists_cons_of_ne_nil some
    rw [row]
    exact row_present (scans first.toInput (by simp [row])).present _ _
  rw [arguments_line inputs, joined_row scans, wrapped_present filled, argumentList_value,
    if_neg (by simpa using some), Points.of_append, Points.of_append, Points.of_intercalate, lines]

/-! The earliest declaration. -/

section Extracted

variable {declarations : List Declaration} {extraction : Extraction} {document : Document}

theorem extracted_definitions (legible : Legible declarations)
    (extracted : (extract declarations).outcome = .ok extraction)
    (read : readSchema extraction.schemaText = .ok document) :
    document.definitions = declarations.flatMap Declaration.definitions := by
  rw [(extracted_text extracted).2, schemaText_read legible (extracted_shown extracted)] at read
  split at read
  · cases read
    rfl
  · cases read

-- The object type of an alias.
def aliasType (written : String × Shape) : ObjectType := ⟨none, written.1, [], [], written.2.fields⟩

theorem argsTypes_alias (declaration : Declaration) :
    declaration.definitions.filterMap Assembly.argsType? =
      (declaration.shownAlias?.toList.filter (isArgsName ·.1)).map aliasType := by
  cases declaration with
  | embedded tag text => rfl
  | enumeration name members =>
    cases members <;> rfl
  | typeAlias name shape parameters =>
    by_cases scalars : name = "Scalars"
    · subst scalars
      have plain : isArgsName "Scalars" = false := Bool.eq_false_iff.mpr fun args => args_other args rfl
      have none : ((Declaration.typeAlias "Scalars" shape parameters).shownAlias?.toList.filter
          (isArgsName ·.1)) = [] := by
        rw [List.filter_eq_nil_iff]
        intro written shown
        rw [shown_self (Option.mem_toList.mp shown), plain]
        exact Bool.false_ne_true
      rw [none, List.map_nil, List.filterMap_eq_nil_iff]
      intro definition member
      obtain ⟨scalar, _, rfl⟩ := List.mem_map.mp member
      rfl
    · rw [alias_shown scalars, Declaration.definitions, if_neg scalars]
      by_cases empty : shape.fields.isEmpty = true
      · simp [empty]
      · by_cases args : isArgsName name = true
        · simp [empty, args, Assembly.argsType?, aliasType]
        · simp [empty, args, Assembly.argsType?]

theorem argsTypes_aliases (declarations : List Declaration) :
    (declarations.flatMap Declaration.definitions).filterMap Assembly.argsType? =
      ((shownAliases declarations).filter (isArgsName ·.1)).map aliasType := by
  induction declarations with
  | nil => rfl
  | cons declaration rest ih =>
    have own : declaration.definitions.filterMap Assembly.argsType? =
        (declaration.shownAlias?.toList.filter (isArgsName ·.1)).map aliasType :=
      argsTypes_alias declaration
    have split : shownAliases (declaration :: rest) =
        declaration.shownAlias?.toList ++ shownAliases rest := by
      rw [shownAliases, List.filterMap_cons]
      cases declaration.shownAlias? <;> rfl
    rw [List.flatMap_cons, List.filterMap_append, ih, own, split, List.filter_append, List.map_append]

theorem shownAliases_source {written : String × Shape} (shown : written ∈ shownAliases declarations) :
    ∃ parameters, .typeAlias written.1 written.2 parameters ∈ declarations ∧
      (written.1 ≠ "Scalars" → written.2.fields.isEmpty = false) := by
  obtain ⟨declaration, listed, shown⟩ := List.mem_filterMap.mp shown
  cases declaration with
  | typeAlias name shape parameters =>
    obtain rfl := shown_self shown
    exact ⟨parameters, listed, fun other => shown_present other shown⟩
  | _ => cases shown

theorem shownAliases_named (legible : Legible declarations) {written : String × Shape}
    (shown : written ∈ shownAliases declarations) : isName written.1 = true := by
  obtain ⟨parameters, listed, present⟩ := shownAliases_source shown
  by_cases scalars : written.1 = "Scalars"
  · rw [scalars]
    decide +kernel
  · refine legible.named _ listed _ ?_
    simp [Declaration.writtenNames, scalars, present scalars]

theorem shownAliases_plain (legible : Legible declarations) {written : String × Shape}
    (shown : written ∈ shownAliases declarations) (other : written.1 ≠ "Scalars") :
    written.2.fields ≠ [] ∧ ∀ field ∈ written.2.fields, field.Plain TypeRef.Proper := by
  obtain ⟨parameters, listed, present⟩ := shownAliases_source shown
  refine ⟨by simpa using present other, ?_⟩
  have defined : .object (aliasType written) ∈ declarations.flatMap Declaration.definitions := by
    refine List.mem_flatMap.mpr ⟨_, listed, ?_⟩
    simp [Declaration.definitions, other, present other, aliasType]
  cases Assembly.object_plain (definitions_plain legible) defined with
  | mk _ plain => exact plain

theorem find_agree {α : Type} {p q : α → Bool} {items : List α}
    (agree : ∀ item ∈ items, p item = q item) : items.find? p = items.find? q := by
  induction items with
  | nil => rfl
  | cons item rest ih =>
    obtain ⟨first, later⟩ := List.forall_mem_cons.mp agree
    rw [List.find?_cons, List.find?_cons, first, ih later]

-- The declaration that is found for a field is the object type of an alias.
theorem declaration_alias (legible : Legible declarations)
    (definitions : document.definitions = declarations.flatMap Declaration.definitions)
    {operation : String} (known : operation = "Query" ∨ operation = "Mutation") {field : Field}
    (named : isName field.name = true) :
    Assembly.declaration? operation document field =
      (boundAlias? operation field.name declarations).map aliasType := by
  rw [← Assembly.argsIndex_lookup, Assembly.argsIndex_earliest, Assembly.earliest?, definitions,
    argsTypes_aliases, List.find?_map, List.find?_filter]
  refine congrArg (Option.map aliasType) (find_agree fun written shown => ?_)
  have keyed : ((fun type : ObjectType =>
      decide (argsKey type.name = operationArgsKey operation field.name)) ∘ aliasType) written =
      decide (argsKey written.1 = operationArgsKey operation field.name) := rfl
  rw [keyed, decide_eq_decide, decide_eq_true_iff, and_iff_right_iff_imp]
  exact partner_args (shownAliases_named legible shown) known (name_piece named)

/-! Bound fields. -/

theorem declaredLabels_named {operation other : String}
    (known : operation = "Query" ∨ operation = "Mutation") (alike : other = "Query" ∨ other = "Mutation")
    {field : Field} (labelled : operation ++ "." ++ field.name ∈ Assembly.declaredLabels other document) :
    (Assembly.declaration? operation document field).isSome = true := by
  obtain ⟨type, _, labelled⟩ := List.mem_flatMap.mp labelled
  obtain ⟨found, declared, label⟩ := List.mem_map.mp labelled
  have some := (List.mem_filter.mp declared).2
  have same : other = operation := by
    have first := congrArg (·.toList.head?) label
    rcases known with rfl | rfl <;> rcases alike with rfl | rfl
    · rfl
    · simp [String.toList_append] at first
    · simp [String.toList_append] at first
    · rfl
  subst same
  have name : found.name = field.name := (String.append_right_inj _).mp label
  unfold Assembly.declaration? at some ⊢
  rwa [name] at some

theorem bound_declared {operation : String} (known : operation = "Query" ∨ operation = "Mutation")
    {field : Field} (bound : operation ++ "." ++ field.name ∈ (Assembly.run document).value.bound) :
    (Assembly.declaration? operation document field).isSome = true := by
  rw [Assembly.run_bound, (Assembly.queryBound_mentioned document).bound] at bound
  rcases List.mem_append.mp bound with mutation | query
  · rw [Assembly.boundMutations, Assembly.boundIn_labels (Assembly.prepared_mutations document)]
      at mutation
    exact declaredLabels_named known (.inr rfl) mutation
  · rcases Assembly.mutationBound_queries document with gone | same
    · rw [Assembly.boundQueries, Assembly.boundIn, gone] at query
      cases query
    · rw [Assembly.boundQueries, Assembly.boundIn_labels same] at query
      exact declaredLabels_named known (.inl rfl) query

theorem onDocument_sublist (finish : Finish) (document : Document) :
    (finish.onDocument document).definitions.Sublist document.definitions := by
  unfold Finish.onDocument
  induction finish.filters generalizing document with
  | nil => exact List.Sublist.refl _
  | cons filter rest ih => exact (ih _).trans List.filter_sublist

theorem complete_bound (finish : Finish) :
    (extraction.complete finish document).value.bound = (Assembly.run document).value.bound := by
  simp only [Extraction.complete, Logged.bind_value, Logged.pure_value]

theorem complete_definitions (finish : Finish) :
    (extraction.complete finish document).value.document.definitions.Sublist
      (Assembly.run document).value.definitions := by
  simp only [Extraction.complete, Logged.bind_value, Logged.pure_value]
  have part := onDocument_sublist finish (Assembly.run document).value.document
  rwa [Assembly.document_definitions] at part

theorem boundAlias_mem {operation field : String} {written : String × Shape}
    (found : boundAlias? operation field declarations = some written) :
    written ∈ shownAliases declarations ∧ argsKey written.1 = operationArgsKey operation field := by
  unfold boundAlias? at found
  exact ⟨List.mem_of_find?_eq_some found, by simpa using List.find?_some found⟩

theorem keptAlias_of_mem {name : String} {shape : Shape}
    (shown : (name, shape) ∈ shownAliases declarations) :
    ∃ kept, keptAlias? name declarations = some (name, kept) ∧
      (name, kept) ∈ shownAliases declarations := by
  have present : ((shownAliases declarations).reverse.find? fun written => written.1 = name).isSome := by
    rw [List.find?_isSome]
    exact ⟨_, List.mem_reverse.mpr shown, by simp⟩
  obtain ⟨⟨other, kept⟩, found⟩ := Option.isSome_iff_exists.mp present
  have same : other = name := by simpa using List.find?_some found
  subst same
  exact ⟨kept, found, List.mem_reverse.mp (List.mem_of_find?_eq_some found)⟩

-- The arguments of a field that is left in the end are those of its declaration.
theorem operation_arguments {operation : String} (known : operation = "Query" ∨ operation = "Mutation")
    {type : ObjectType} (present : .object type ∈ (Assembly.run document).value.definitions)
    (named : type.name = operation) {field : Field} (member : field ∈ type.fields)
    {declared : ObjectType} (found : Assembly.declaration? operation document field = some declared) :
    field.arguments = declared.fields.map Field.toInput := by
  rw [Assembly.run_definitions] at present
  obtain ⟨merged, _, rfl⟩ :=
    Assembly.queryBound_operation known named (List.mem_filter.mp present).1
  obtain ⟨before, _, rfl⟩ := List.mem_map.mp member
  have same : (Assembly.withDeclared operation document before).name = before.name := by
    unfold Assembly.withDeclared
    split <;> rfl
  have earlier : Assembly.declaration? operation document before = some declared := by
    unfold Assembly.declaration? at found ⊢
    rwa [same] at found
  rw [Assembly.withDeclared, earlier]

theorem bound_arguments_printed (legible : Legible declarations)
    (extracted : (extract declarations).outcome = .ok extraction)
    (read : readSchema extraction.schemaText = .ok document) (finish : Finish) {operation : String}
    (known : operation = "Query" ∨ operation = "Mutation") {type : ObjectType}
    (present : .object type ∈ (extraction.complete finish document).value.document.definitions)
    (named : type.name = operation) {field : Field} (member : field ∈ type.fields)
    (bound : operation ++ "." ++ field.name ∈ (extraction.complete finish document).value.bound) :
    ∃ name shape kept, boundAlias? operation field.name declarations = some (name, shape) ∧
      printArguments field.arguments = Points.of (argumentList shape).value ∧
      keptAlias? name declarations = some (name, kept) ∧
      extraction.argsTable.get? name = some (argumentList kept).value ∧
      ((∀ other, (name, other) ∈ shownAliases declarations → other = shape) →
        (extraction.argsTable.get? name).map Points.of = some (printArguments field.arguments)) := by
  have definitions := extracted_definitions legible extracted read
  have left := (complete_definitions finish).subset present
  rw [complete_bound] at bound
  have fieldNamed : isName field.name = true := by
    have whole : Assembly.Plain TypeRef.Proper document.definitions := by
      rw [definitions]
      exact definitions_plain legible
    cases Assembly.object_plain (Assembly.run_preserves whole) left with
    | mk _ plain =>
      cases plain field member with
      | mk named _ _ => exact named
  obtain ⟨declared, found⟩ := Option.isSome_iff_exists.mp (bound_declared known bound)
  have arguments := operation_arguments known left named member found
  rw [declaration_alias legible definitions known fieldNamed] at found
  obtain ⟨⟨name, shape⟩, chosen, rfl⟩ := Option.map_eq_some_iff.mp found
  obtain ⟨shown, key⟩ := boundAlias_mem chosen
  have args := partner_args (shownAliases_named legible shown) known (name_piece fieldNamed) key
  obtain ⟨kept, latest, keptShown⟩ := keptAlias_of_mem shown
  have table := extracted_table extracted args
  rw [latest] at table
  obtain ⟨some, plain⟩ := shownAliases_plain legible shown (args_other args)
  have printed : printArguments field.arguments = Points.of (argumentList shape).value := by
    rw [arguments]
    exact arguments_printed some plain
  refine ⟨name, shape, kept, chosen, printed, latest, table, ?_⟩
  intro alone
  rw [table, printed, alone kept keptShown]
  rfl

end Extracted

def searchArguments : Shape :=
  .object [.typed (some "filters") (.reference "Array" [.reference "Filter" []]) false]

theorem bound_arguments_printed_search :
    Legible searchDeclarations ∧
    ∃ extraction document type field, (extract searchDeclarations).outcome = .ok extraction ∧
      readSchema extraction.schemaText = .ok document ∧
      .object type ∈ (extraction.complete .none document).value.document.definitions ∧
      type.name = "Query" ∧ field ∈ type.fields ∧ field.name = "search" ∧
      "Query" ++ "." ++ field.name ∈ (extraction.complete .none document).value.bound ∧
      (extraction.argsTable.get? "QuerysearchArgs").map Points.of =
        some (printArguments field.arguments) := by
  have legible : Legible searchDeclarations := ⟨by decide, by decide +kernel⟩
  have shown : Shown searchDeclarations := ⟨_, List.mem_cons_self, by decide +kernel⟩
  obtain ⟨extraction, extracted, text⟩ := extract_shown shown
  have read : readSchema extraction.schemaText = .ok searchDocument := by
    rw [text, schemaText_read legible shown]
    exact if_pos (by decide +kernel)
  have fields : (Assembly.objectsNamed "Query" (Assembly.run searchDocument).value.definitions).flatMap
      (fun type => type.fields.map (·.name)) = ["search", "size"] := by decide +kernel
  have member : "search" ∈ ["search", "size"] := List.mem_cons_self
  rw [← fields] at member
  obtain ⟨type, object, member⟩ := List.mem_flatMap.mp member
  obtain ⟨field, member, label⟩ := List.mem_map.mp member
  obtain ⟨present, named⟩ := Assembly.objects_exact.mp object
  have bound : "Query" ++ "." ++ field.name ∈ (extraction.complete .none searchDocument).value.bound := by
    rw [label, complete_bound]
    decide +kernel
  have left : .object type ∈ (extraction.complete .none searchDocument).value.document.definitions :=
    present
  obtain ⟨name, shape, kept, chosen, _, _, _, agrees⟩ :=
    bound_arguments_printed legible extracted read .none (.inl rfl) left named member bound
  have earliest : boundAlias? "Query" "search" searchDeclarations =
    some ("QuerysearchArgs", searchArguments) := rfl
  rw [label, earliest] at chosen
  cases chosen
  refine ⟨legible, extraction, searchDocument, type, field, extracted, read, left, named, member, label,
    bound, agrees ?_⟩
  intro other listed
  have aliases : shownAliases searchDeclarations =
    ("QuerysearchArgs", searchArguments) :: shownAliases searchDeclarations.tail := rfl
  rw [aliases] at listed
  rcases List.mem_cons.mp listed with same | later
  · cases same
    rfl
  · have names : (shownAliases searchDeclarations.tail).map Prod.fst = ["Query", "Filter", "Query"] := by
      decide +kernel
    have again := List.mem_map_of_mem (f := Prod.fst) later
    rw [names] at again
    simp at again

-- The name of an argument declaration declared twice.
def redeclared : List Declaration :=
  [.typeAlias "QueryfArgs" (.object [.typed (some "a") (.keyword "string") false]) [],
    .typeAlias "QueryfArgs" (.object [.typed (some "b") (.keyword "string") false]) [],
    .typeAlias "Query" (.object [.typed (some "f") (.keyword "string") false]) []]

theorem redeclared_arguments :
    Legible redeclared ∧
    ∃ extraction document, (extract redeclared).outcome = .ok extraction ∧
      readSchema extraction.schemaText = .ok document ∧
      (boundAlias? "Query" "f" redeclared).map Prod.fst = some "QueryfArgs" ∧
      (extraction.complete .none document).value.bound = ["Query.f"] ∧
      (extraction.complete .none document).value.sdl =
        "type Query \x7b\n  f(a: String!): String!\n\x7d\n" ∧
      extraction.argsTable.get? "QueryfArgs" = some "(b: String!)" := by
  have legible : Legible redeclared := ⟨by decide, by decide +kernel⟩
  have shown : Shown redeclared := ⟨_, List.mem_cons_self, by decide +kernel⟩
  obtain ⟨extraction, extracted, text⟩ := extract_shown shown
  have read : readSchema extraction.schemaText =
      .ok ⟨redeclared.flatMap Declaration.definitions⟩ := by
    rw [text, schemaText_read legible shown]
    exact if_pos (by decide +kernel)
  refine ⟨legible, extraction, _, extracted, read, by decide +kernel, ?_, ?_, ?_⟩
  · rw [complete_bound]
    decide +kernel
  · rw [complete_sdl]
    decide +kernel
  · rw [extracted_table extracted (by decide +kernel)]
    decide +kernel

end DeclSchema
