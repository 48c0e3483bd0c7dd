import DeclSchema.Proofs.Schema.PlainDefinitions

/-!
Reading of plain definitions. On the tokens of a plain definition each rule gives that definition
back, or refuses it because of a type with too many lists inside one another; nothing else can go
wrong, whatever the names are.
-/

namespace DeclSchema.Schema.Reading

variable {α β : Type}

/-! Single steps. -/

theorem run_step {x : Reading α} {f : α → Reading β} {before after : List Token} {a : α}
    (done : x.run before = .ok (a, after)) : (x >>= f).run before = (f a).run after := by
  rw [StateT.run_bind, done]
  rfl

-- The outcome for tokens that are right, if they are not too deep.
def within (fits : Bool) (a : α) (rest : List Token) : Except Fault (α × List Token) :=
  if fits then .ok (a, rest) else .error .tooDeep

theorem run_within {x : Reading α} {f : α → Reading β} {before after : List Token} {a : α}
    {fits more : Bool} {b : β} {rest : List Token} (done : x.run before = within fits a after)
    (next : (f a).run after = within more b rest) :
    (x >>= f).run before = within (fits && more) b rest := by
  rw [StateT.run_bind, done]
  cases fits with
  | true => exact next
  | false => rfl

theorem run_last {x : Reading α} {f : α → Reading β} {before after : List Token} {a : α}
    {fits : Bool} {b : β} {rest : List Token} (done : x.run before = within fits a after)
    (next : (f a).run after = .ok (b, rest)) : (x >>= f).run before = within fits b rest := by
  rw [StateT.run_bind, done]
  cases fits with
  | true => exact next
  | false => rfl

-- The next token is no broken text.
def Whole (tokens : List Token) : Prop := ready tokens = .ok tokens

theorem whole_nil : Whole [] := rfl

theorem whole_name (word : String) (rest : List Token) : Whole (.name word :: rest) := rfl

theorem whole_symbol (symbol : Symbol) (rest : List Token) : Whole (.symbol symbol :: rest) := rfl

theorem get_run (tokens : List Token) :
    (get : Reading (List Token)).run tokens = .ok (tokens, tokens) := rfl

theorem peek_run (tokens : List Token) : peek.run tokens = .ok (tokens.head?, tokens) := rfl

theorem advance_run {rest : List Token} (whole : Whole rest) (token : Token) :
    advance.run (token :: rest) = .ok ((), rest) := by
  have passed : advance.run (token :: rest) = (do
      let later ← ready rest
      return ((), later)) := rfl
  rw [passed, whole]
  rfl

theorem name_run {rest : List Token} (whole : Whole rest) (word : String) :
    name.run (.name word :: rest) = .ok (word, rest) := by
  have read : name.run (.name word :: rest) =
      (do advance; return word : Reading String).run (.name word :: rest) := rfl
  rw [read, run_step (advance_run whole _)]
  rfl

theorem expect_run {rest : List Token} (whole : Whole rest) (symbol : Symbol) :
    (expect symbol).run (.symbol symbol :: rest) = .ok ((), rest) := by
  have read : (expect symbol).run (.symbol symbol :: rest) =
      (if some (Token.symbol symbol) = some (.symbol symbol) then advance
       else fail (.expected (.symbol symbol) (some (.symbol symbol)))).run (.symbol symbol :: rest) := rfl
  rw [read, if_pos rfl, advance_run whole]

theorem isNext_run (symbol : Symbol) (tokens : List Token) :
    (isNext symbol).run tokens = .ok (decide (tokens.head? = some (.symbol symbol)), tokens) := rfl

theorem accept_hit {rest : List Token} (whole : Whole rest) (symbol : Symbol) :
    (accept symbol).run (.symbol symbol :: rest) = .ok (true, rest) := by
  unfold accept
  rw [run_step (isNext_run symbol _), List.head?_cons, decide_eq_true rfl, if_pos rfl,
    run_step (advance_run whole _)]
  rfl

theorem accept_miss {symbol : Symbol} {tokens : List Token}
    (other : tokens.head? ≠ some (.symbol symbol)) :
    (accept symbol).run tokens = .ok (false, tokens) := by
  unfold accept
  rw [run_step (isNext_run symbol _), decide_eq_false other]
  rfl

theorem keyword_run {rest : List Token} (whole : Whole rest) (word : String) :
    (keyword word).run (.name word :: rest) = .ok ((), rest) := by
  have read : (keyword word).run (.name word :: rest) =
      (if some (Token.name word) = some (.name word) then advance
       else fail (.expected (.keyword word) (some (.name word)))).run (.name word :: rest) := rfl
  rw [read, if_pos rfl, advance_run whole]

theorem acceptKeyword_miss {word : String} {tokens : List Token}
    (other : tokens.head? ≠ some (.name word)) :
    (acceptKeyword word).run tokens = .ok (false, tokens) := by
  have read : (acceptKeyword word).run tokens =
      (if tokens.head? = some (.name word) then do advance; return true
       else return false : Reading Bool).run tokens := rfl
  rw [read, if_neg other]
  rfl

theorem quotation_none (word : String) (rest : List Token) :
    quotation?.run (.name word :: rest) = .ok (none, .name word :: rest) := rfl

theorem whileNext_none {symbol : Symbol} {tokens : List Token}
    (other : tokens.head? ≠ some (.symbol symbol)) (item : Reading α) :
    (whileNext symbol item).run tokens = .ok ([], tokens) := by
  have read : (whileNext symbol item).run tokens =
      (whileNextWithin symbol item (tokens.length + 1)).run tokens := rfl
  rw [read, whileNextWithin, run_step (isNext_run symbol tokens), decide_eq_false other]
  rfl

-- What can stand behind a whole item: the end, the next item or definition, a closing symbol.
def Settled : List Token → Prop
  | [] => True
  | .name _ :: _ => True
  | .symbol symbol :: _ => symbol = .closeParen ∨ symbol = .closeBrace
  | _ => False

theorem settled_whole {rest : List Token} (settled : Settled rest) : Whole rest := by
  unfold Settled at settled
  split at settled
  · exact whole_nil
  · exact whole_name _ _
  · exact whole_symbol _ _
  · cases settled

theorem settled_other {rest : List Token} (settled : Settled rest) {symbol : Symbol}
    (opens : symbol ≠ .closeParen ∧ symbol ≠ .closeBrace) :
    rest.head? ≠ some (.symbol symbol) := by
  intro next
  unfold Settled at settled
  split at settled
  · cases next
  · cases next
  · cases next
    rcases settled with rfl | rfl
    · exact opens.1 rfl
    · exact opens.2 rfl
  · cases settled

/-! Types. -/

theorem nonNullMark_none {rest : List Token} (other : rest.head? ≠ some (.symbol .bang))
    (type : TypeRef) : (nonNullMark type).run rest = .ok (type, rest) := by
  unfold nonNullMark
  rw [run_step (accept_miss other)]
  rfl

theorem nonNullMark_some {rest : List Token} (whole : Whole rest) (type : TypeRef) :
    (nonNullMark type).run (.symbol .bang :: rest) = .ok (.nonNull type, rest) := by
  unfold nonNullMark
  rw [run_step (accept_hit whole .bang)]
  rfl

theorem type_whole (type : TypeRef) (rest : List Token) : Whole (type.tokens ++ rest) := by
  induction type generalizing rest with
  | named name => exact whole_name _ _
  | list element _ => exact whole_symbol _ _
  | nonNull type ih =>
    rw [TypeRef.tokens, List.append_assoc]
    exact ih _

theorem typeRef_named {rest : List Token} (whole : Whole rest) (depth : Nat) (name : String) :
    (typeRef depth).run (.name name :: rest) = (nonNullMark (.named name)).run rest := by
  have other : ((Token.name name :: rest).head? = some (.symbol .openBracket)) ↔ False := by simp
  rw [typeRef.eq_def, run_step (isNext_run _ _), decide_eq_false other.mp, if_neg (by simp),
    run_step (name_run whole name)]

theorem typeRef_list {element : TypeRef} {depth : Nat} {rest : List Token} (whole : Whole rest)
    (read : (typeRef depth).run (element.tokens ++ .symbol .closeBracket :: rest) =
      within (decide (element.depth ≤ depth)) element (.symbol .closeBracket :: rest)) :
    (typeRef (depth + 1)).run ((TypeRef.list element).tokens ++ rest) =
      if element.depth ≤ depth then (nonNullMark (.list element)).run rest
      else .error .tooDeep := by
  have shape : (TypeRef.list element).tokens ++ rest =
      .symbol .openBracket :: (element.tokens ++ .symbol .closeBracket :: rest) := by
    simp [TypeRef.tokens]
  rw [shape, typeRef, run_step (isNext_run _ _), List.head?_cons, decide_eq_true rfl, if_pos rfl]
  rw [run_step (expect_run (type_whole element _) .openBracket)]
  by_cases fits : element.depth ≤ depth
  · rw [decide_eq_true fits] at read
    rw [run_step read, run_step (expect_run whole .closeBracket), if_pos fits]
  · rw [StateT.run_bind, read, decide_eq_false fits, if_neg fits]
    rfl

theorem typeRef_deep (tokens : List Token) :
    (typeRef 0).run (.symbol .openBracket :: tokens) = .error .tooDeep := by
  rw [typeRef, run_step (isNext_run _ _), List.head?_cons, decide_eq_true rfl, if_pos rfl]
  rfl

-- A type without a mark is read up to the place of its mark. Both statements at once: a list needs
-- the second of its element, and a marked type the first of the type under its mark.
theorem typeRef_both (type : TypeRef) (proper : type.isProper = true) (depth : Nat)
    (rest : List Token) (whole : Whole rest) :
    (type.isMarked = false → (typeRef depth).run (type.tokens ++ rest) =
      if type.depth ≤ depth then (nonNullMark type).run rest else .error .tooDeep) ∧
    (rest.head? ≠ some (.symbol .bang) → (typeRef depth).run (type.tokens ++ rest) =
      within (decide (type.depth ≤ depth)) type rest) := by
  -- The second statement follows from the first where the type has no mark.
  have unmarked : ∀ {type : TypeRef} {depth : Nat} {rest : List Token},
      ((typeRef depth).run (type.tokens ++ rest) =
        if type.depth ≤ depth then (nonNullMark type).run rest else .error .tooDeep) →
      rest.head? ≠ some (.symbol .bang) →
      (typeRef depth).run (type.tokens ++ rest) =
        within (decide (type.depth ≤ depth)) type rest := by
    intro type depth rest read other
    rw [read, nonNullMark_none other, within]
    by_cases fits : type.depth ≤ depth <;> simp [fits]
  induction type generalizing depth rest with
  | named name =>
    have read := typeRef_named whole depth name
    exact ⟨fun _ => read, unmarked read⟩
  | list element ih =>
    have read : (typeRef depth).run ((TypeRef.list element).tokens ++ rest) =
        if (TypeRef.list element).depth ≤ depth then (nonNullMark (.list element)).run rest
        else .error .tooDeep := by
      cases depth with
      | zero =>
        have deep : ¬ (TypeRef.list element).depth ≤ 0 := Nat.not_succ_le_zero _
        rw [if_neg deep]
        exact typeRef_deep _
      | succ depth =>
        have inner := (ih proper depth (.symbol .closeBracket :: rest) (whole_symbol _ _)).2 (by simp)
        rw [typeRef_list whole inner]
        simp only [TypeRef.depth, Nat.add_le_add_iff_right]
    exact ⟨fun _ => read, unmarked read⟩
  | nonNull type ih =>
    refine ⟨fun bare => (nomatch bare), fun _ => ?_⟩
    simp only [TypeRef.isProper, Bool.and_eq_true, Bool.not_eq_true'] at proper
    have inner := (ih proper.2 depth (.symbol .bang :: rest) (whole_symbol _ _)).1 proper.1
    rw [TypeRef.tokens, List.append_assoc, List.singleton_append, inner, nonNullMark_some whole,
      within]
    by_cases fits : type.depth ≤ depth <;> simp [TypeRef.depth, fits]

theorem typeRef_read {type : TypeRef} (proper : type.isProper = true) {rest : List Token}
    (settled : Settled rest) : (typeRef maxDepth).run (type.tokens ++ rest) = within type.fits type rest :=
  (typeRef_both type proper maxDepth rest (settled_whole settled)).2 (settled_other settled (by decide))

/-! Rows of items. -/

-- The rule gives the item back from its tokens, which begin with a name.
structure Reads (item : Reading α) (form : α → List Token) (fits : α → Bool) (a : α) : Prop where
  read : ∀ rest, Settled rest → item.run (form a ++ rest) = within (fits a) a rest
  named : ∃ word more, form a = .name word :: more

section Rows

variable {item : Reading α} {form : α → List Token} {fits : α → Bool} {row : List α}
  {opening closing : Symbol} {rest : List Token}

theorem row_settled (reads : ∀ a ∈ row, Reads item form fits a) (settled : Settled rest) :
    Settled (row.flatMap form ++ rest) := by
  cases row with
  | nil => exact settled
  | cons a others =>
    obtain ⟨word, more, shape⟩ := (reads a List.mem_cons_self).named
    simp [shape, Settled]

theorem row_length (reads : ∀ a ∈ row, Reads item form fits a) :
    row.length ≤ (row.flatMap form).length := by
  induction row with
  | nil => exact Nat.le_refl _
  | cons a others ih =>
    obtain ⟨first, later⟩ := List.forall_mem_cons.mp reads
    obtain ⟨word, more, shape⟩ := first.named
    have shorter := ih later
    simp only [List.flatMap_cons, List.length_append, shape, List.length_cons]
    omega

theorem itemsWithin_read (closes : closing = .closeParen ∨ closing = .closeBrace)
    (reads : ∀ a ∈ row, Reads item form fits a) (whole : Whole rest) {steps : Nat}
    (enough : row.length < steps) :
    (itemsWithin closing item steps).run (row.flatMap form ++ .symbol closing :: rest) =
      within (row.all fits) row rest := by
  induction row generalizing steps with
  | nil =>
    cases steps with
    | zero => cases enough
    | succ steps =>
      rw [itemsWithin, List.flatMap_nil, List.nil_append, run_step (accept_hit whole closing)]
      rfl
  | cons a others ih =>
    cases steps with
    | zero => cases enough
    | succ steps =>
      obtain ⟨first, later⟩ := List.forall_mem_cons.mp reads
      obtain ⟨word, more, shape⟩ := first.named
      have settled : Settled (others.flatMap form ++ .symbol closing :: rest) :=
        row_settled later closes
      have tail := ih later (Nat.lt_of_succ_lt_succ enough)
      have other : (form a ++ (others.flatMap form ++ .symbol closing :: rest)).head? ≠
          some (.symbol closing) := by simp [shape]
      rw [itemsWithin, List.flatMap_cons, List.append_assoc, run_step (accept_miss other),
        if_neg Bool.false_ne_true, List.all_cons]
      refine run_within (first.read _ settled) ?_
      exact run_last tail rfl

theorem items_read (closes : closing = .closeParen ∨ closing = .closeBrace)
    (reads : ∀ a ∈ row, Reads item form fits a) (whole : Whole rest) :
    (items closing item).run (row.flatMap form ++ .symbol closing :: rest) =
      within (row.all fits) row rest := by
  refine itemsWithin_read closes reads whole ?_
  have length := row_length reads
  rw [List.length_append]
  omega

theorem optionalMany_none {tokens : List Token} (other : tokens.head? ≠ some (.symbol opening)) :
    (optionalMany opening closing item).run tokens = .ok ([], tokens) := by
  unfold optionalMany
  rw [run_step (isNext_run opening tokens), decide_eq_false other]
  rfl

theorem optionalMany_read (closes : closing = .closeParen ∨ closing = .closeBrace)
    (reads : ∀ a ∈ row, Reads item form fits a) (whole : Whole rest)
    (other : rest.head? ≠ some (.symbol opening)) :
    (optionalMany opening closing item).run (enclosed opening closing form row ++ rest) =
      within (row.all fits) row rest := by
  cases row with
  | nil => exact optionalMany_none other
  | cons a others =>
    obtain ⟨first, later⟩ := List.forall_mem_cons.mp reads
    obtain ⟨word, more, shape⟩ := first.named
    have settled : Settled (others.flatMap form ++ .symbol closing :: rest) :=
      row_settled later closes
    have start : Whole (form a ++ (others.flatMap form ++ .symbol closing :: rest)) := by
      rw [shape]
      exact whole_name _ _
    have tokens : enclosed opening closing form (a :: others) ++ rest =
        .symbol opening :: (form a ++ (others.flatMap form ++ .symbol closing :: rest)) := by
      simp [enclosed]
    rw [tokens, optionalMany, run_step (isNext_run _ _), List.head?_cons, decide_eq_true rfl,
      if_pos rfl, many, run_step (expect_run start opening), List.all_cons]
    refine run_within (first.read _ settled) ?_
    exact run_last (items_read closes later whole) rfl

end Rows

/-! Fields and values. -/

theorem defaultValue_none {rest : List Token} (settled : Settled rest) :
    defaultValue.run rest = .ok (none, rest) := by
  unfold defaultValue
  rw [run_step (accept_miss (settled_other settled (by decide)))]
  rfl

theorem directives_none {rest : List Token} (other : rest.head? ≠ some (.symbol .atSign)) :
    constantDirectives.run rest = .ok ([], rest) :=
  whileNext_none other _

theorem inputValue_reads {value : InputValue} (plain : value.Plain TypeRef.Proper) :
    Reads inputValue InputValue.tokens InputValue.fits value := by
  cases plain with
  | @mk name type named typed =>
    refine ⟨?_, ⟨_, _, rfl⟩⟩
    intro rest settled
    unfold inputValue
    simp only [InputValue.tokens, List.cons_append]
    rw [run_step (quotation_none _ _), run_step (name_run (whole_symbol _ _) name),
      run_step (expect_run (type_whole type rest) .colon)]
    refine run_last (typeRef_read typed settled) ?_
    rw [run_step (defaultValue_none settled), run_step (directives_none (settled_other settled (by decide)))]
    rfl

theorem field_reads {field : Field} (plain : field.Plain TypeRef.Proper) :
    Reads Reading.field Field.tokens Field.fits field := by
  cases plain with
  | @mk name arguments type named plain typed =>
    refine ⟨?_, ⟨_, _, rfl⟩⟩
    intro rest settled
    have reads : ∀ argument ∈ arguments, Reads inputValue InputValue.tokens InputValue.fits argument :=
      fun argument member => inputValue_reads (plain argument member)
    have start : Whole (enclosed .openParen .closeParen InputValue.tokens arguments ++
        .symbol .colon :: (type.tokens ++ rest)) := by
      cases arguments <;> exact whole_symbol _ _
    unfold Reading.field
    simp only [Field.tokens, List.cons_append, List.append_assoc]
    rw [run_step (quotation_none _ _), run_step (name_run start name)]
    refine run_within (optionalMany_read (.inl rfl) reads (whole_symbol _ _) (by simp)) ?_
    rw [run_step (expect_run (type_whole type rest) .colon)]
    refine run_last (typeRef_read typed settled) ?_
    rw [run_step (directives_none (settled_other settled (by decide)))]
    rfl

theorem enumValue_reads {value : EnumValue} (plain : value.Plain) :
    Reads enumValue EnumValue.tokens (fun _ => true) value := by
  cases plain with
  | @mk name named free =>
    refine ⟨?_, ⟨_, _, rfl⟩⟩
    intro rest settled
    unfold enumValue
    simp only [EnumValue.tokens, List.singleton_append]
    have next : peek.run (.name name :: rest) = .ok (some (.name name), .name name :: rest) := rfl
    rw [run_step (quotation_none _ _), run_step next, if_neg (by rw [free]; decide),
      run_step (name_run (settled_whole settled) name), run_step (directives_none (settled_other settled (by decide)))]
    rfl

/-! Definitions. -/

-- What stands behind a definition: the next one, or nothing.
def Between : List Token → Prop
  | [] => True
  | .name word :: _ => word ≠ "implements"
  | _ => False

theorem between_settled {rest : List Token} (between : Between rest) : Settled rest := by
  unfold Between at between
  split at between
  · trivial
  · trivial
  · cases between

theorem between_other {rest : List Token} (between : Between rest) (symbol : Symbol) :
    rest.head? ≠ some (.symbol symbol) := by
  unfold Between at between
  split at between
  · simp
  · simp
  · cases between

-- Neither directives nor interfaces stand in front of a body or in its place.
structure Bodied (tokens : List Token) : Prop where
  whole : Whole tokens
  undirected : tokens.head? ≠ some (.symbol .atSign)
  alone : tokens.head? ≠ some (.name "implements")

theorem body_bodied (form : α → List Token) (row : List α) {rest : List Token}
    (between : Between rest) : Bodied (enclosed .openBrace .closeBrace form row ++ rest) := by
  cases row with
  | cons a others => exact ⟨whole_symbol _ _, by simp [enclosed], by simp [enclosed]⟩
  | nil =>
    refine ⟨settled_whole (between_settled between), between_other between _, ?_⟩
    intro next
    cases rest with
    | nil => cases next
    | cons token more =>
      cases next
      exact between rfl

theorem interfaces_none {tokens : List Token} (alone : tokens.head? ≠ some (.name "implements")) :
    interfaces.run tokens = .ok ([], tokens) := by
  unfold interfaces
  rw [run_step (acceptKeyword_miss alone)]
  rfl

theorem objectType_read {type : ObjectType} (plain : type.Plain TypeRef.Proper)
    {rest : List Token} (between : Between rest) :
    (objectType "type").run ((Definition.object type).tokens ++ rest) =
      within (type.fields.all Field.fits) type rest := by
  cases plain with
  | @mk name fields named plain =>
    have body := body_bodied Field.tokens fields between
    have reads : ∀ field ∈ fields, Reads Reading.field Field.tokens Field.fits field :=
      fun field member => field_reads (plain field member)
    unfold objectType
    simp only [Definition.tokens, List.cons_append]
    rw [run_step (quotation_none _ _), run_step (keyword_run (whole_name _ _) "type"),
      run_step (name_run body.whole name), run_step (interfaces_none body.alone),
      run_step (directives_none body.undirected)]
    exact run_last (optionalMany_read (.inr rfl) reads (settled_whole (between_settled between))
      (between_other between _)) rfl

theorem inputType_read {type : InputType} (plain : type.Plain TypeRef.Proper)
    {rest : List Token} (between : Between rest) :
    inputType.run ((Definition.input type).tokens ++ rest) =
      within (type.fields.all InputValue.fits) type rest := by
  cases plain with
  | @mk name fields named plain =>
    have body := body_bodied InputValue.tokens fields between
    have reads : ∀ field ∈ fields, Reads inputValue InputValue.tokens InputValue.fits field :=
      fun field member => inputValue_reads (plain field member)
    unfold inputType
    simp only [Definition.tokens, List.cons_append]
    rw [run_step (quotation_none _ _), run_step (keyword_run (whole_name _ _) "input"),
      run_step (name_run body.whole name), run_step (directives_none body.undirected)]
    exact run_last (optionalMany_read (.inr rfl) reads (settled_whole (between_settled between))
      (between_other between _)) rfl

theorem enumDefinition_read {name : String} {values : List EnumValue}
    (plain : ∀ value ∈ values, value.Plain) {rest : List Token} (between : Between rest) :
    enumDefinition.run ((Definition.enumeration none name [] values).tokens ++ rest) =
      .ok (.enumeration none name [] values, rest) := by
  have body := body_bodied EnumValue.tokens values between
  have reads : ∀ value ∈ values, Reads enumValue EnumValue.tokens (fun _ => true) value :=
    fun value member => enumValue_reads (plain value member)
  have read := optionalMany_read (.inr rfl) reads (settled_whole (between_settled between))
    (between_other between .openBrace)
  have all : (values.all fun _ => true) = true := by simp
  unfold enumDefinition
  simp only [Definition.tokens, List.cons_append]
  rw [run_step (quotation_none _ _), run_step (keyword_run (whole_name _ _) "enum"),
    run_step (name_run body.whole name), run_step (directives_none body.undirected)]
  rw [all] at read
  exact run_step read

theorem scalarDefinition_read (name : String) {rest : List Token} (between : Between rest) :
    scalarDefinition.run (.name "scalar" :: .name name :: rest) = .ok (.scalar none name [], rest) := by
  unfold scalarDefinition
  rw [run_step (quotation_none _ _), run_step (keyword_run (whole_name _ _) "scalar"),
    run_step (name_run (settled_whole (between_settled between)) name),
    run_step (directives_none (between_other between _))]
  rfl

-- The keyword of a definition chooses its rule.
theorem definition_rule {word : String} {rule : Reading Definition}
    (chosen : definitionRule? word = some rule) (rest : List Token) :
    Reading.definition.run (.name word :: rest) = rule.run (.name word :: rest) := by
  have next : peek.run (.name word :: rest) = .ok (some (.name word), .name word :: rest) := rfl
  unfold Reading.definition
  rw [run_step next]
  simp [isDescription, chosen]

theorem definition_read {definition : Definition} (plain : definition.Plain TypeRef.Proper)
    {rest : List Token} (between : Between rest) :
    Reading.definition.run (definition.tokens ++ rest) =
      within definition.fits definition rest := by
  cases plain with
  | @scalar name named => exact (definition_rule rfl _).trans (scalarDefinition_read name between)
  | @object type plain =>
    exact (definition_rule rfl _).trans (run_last (objectType_read plain between) rfl)
  | @enumeration name values named plain =>
    exact (definition_rule rfl _).trans (enumDefinition_read plain between)
  | @input type plain =>
    exact (definition_rule rfl _).trans (run_last (inputType_read plain between) rfl)

theorem definition_start {definition : Definition} (plain : definition.Plain TypeRef.Proper)
    (rest : List Token) :
    ∃ word more, definition.tokens ++ rest = .name word :: more ∧ word ≠ "implements" := by
  cases plain with
  | scalar named => exact ⟨"scalar", _, rfl, by decide⟩
  | object plain => exact ⟨"type", _, rfl, by decide⟩
  | enumeration named plain => exact ⟨"enum", _, rfl, by decide⟩
  | input plain => exact ⟨"input", _, rfl, by decide⟩

/-! Documents. -/

theorem definitions_between {definitions : List Definition}
    (plain : ∀ definition ∈ definitions, definition.Plain TypeRef.Proper) :
    Between (definitions.flatMap Definition.tokens) := by
  cases definitions with
  | nil => trivial
  | cons first others =>
    obtain ⟨word, more, shape, other⟩ := definition_start (plain first List.mem_cons_self)
      (others.flatMap Definition.tokens)
    rw [List.flatMap_cons, shape]
    exact other

theorem definitions_length {definitions : List Definition}
    (plain : ∀ definition ∈ definitions, definition.Plain TypeRef.Proper) :
    definitions.length ≤ (definitions.flatMap Definition.tokens).length := by
  induction definitions with
  | nil => exact Nat.le_refl _
  | cons first others ih =>
    obtain ⟨head, tail⟩ := List.forall_mem_cons.mp plain
    have shorter := ih tail
    have longer : 0 < first.tokens.length := by
      cases head <;> simp [Definition.tokens]
    rw [List.flatMap_cons, List.length_append, List.length_cons]
    omega

theorem definitionsWithin_read {definitions : List Definition}
    (plain : ∀ definition ∈ definitions, definition.Plain TypeRef.Proper) {steps : Nat}
    (enough : definitions.length < steps) :
    (definitionsWithin steps).run (definitions.flatMap Definition.tokens) =
      within (definitions.all Definition.fits) definitions [] := by
  induction definitions generalizing steps with
  | nil =>
    cases steps with
    | zero => cases enough
    | succ steps => rfl
  | cons first others ih =>
    cases steps with
    | zero => cases enough
    | succ steps =>
      obtain ⟨head, tail⟩ := List.forall_mem_cons.mp plain
      obtain ⟨word, more, shape, _⟩ := definition_start head (others.flatMap Definition.tokens)
      have next : peek.run (first.tokens ++ others.flatMap Definition.tokens) =
          .ok (some (.name word), first.tokens ++ others.flatMap Definition.tokens) := by
        rw [shape]
        rfl
      rw [definitionsWithin, List.flatMap_cons, run_step next, if_neg (by simp), List.all_cons]
      refine run_within (definition_read head (definitions_between tail)) ?_
      exact run_last (ih tail (Nat.lt_of_succ_lt_succ enough)) rfl

theorem document_read {definitions : List Definition} (some : definitions ≠ [])
    (plain : ∀ definition ∈ definitions, definition.Plain TypeRef.Proper) :
    document.run (definitions.flatMap Definition.tokens) =
      within (definitions.all Definition.fits) ⟨definitions⟩ [] := by
  cases definitions with
  | nil => exact absurd rfl some
  | cons first others =>
    obtain ⟨head, tail⟩ := List.forall_mem_cons.mp plain
    unfold document
    rw [List.flatMap_cons, List.all_cons]
    refine run_within (definition_read head (definitions_between tail)) ?_
    have size := definitions_length tail
    rw [run_step (get_run _)]
    exact run_last (definitionsWithin_read tail (Nat.lt_succ_of_le size)) rfl

-- A text whose tokens are those of plain definitions is read as these, if its types are not too
-- deep.
theorem parse_plain {text : Points} {definitions : List Definition} (some : definitions ≠ [])
    (plain : ∀ definition ∈ definitions, definition.Plain TypeRef.Proper)
    (scanned : tokens text = definitions.flatMap Definition.tokens) :
    Document.parse text =
      if definitions.all Definition.fits then .ok ⟨definitions⟩ else .error .tooDeep := by
  have whole : Whole (definitions.flatMap Definition.tokens) :=
    settled_whole (between_settled (definitions_between plain))
  unfold Document.parse of
  rw [scanned, whole]
  have read := document_read some plain
  change (do
    let (result, _) ← document.run (definitions.flatMap Definition.tokens)
    return result) = _
  rw [read, within]
  cases definitions.all Definition.fits <;> rfl

end DeclSchema.Schema.Reading
