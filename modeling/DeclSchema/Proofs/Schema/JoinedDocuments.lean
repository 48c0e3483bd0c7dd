import DeclSchema.Proofs.Schema.JoinedReading

/-!
Documents read one behind the other. The definitions of a schema are read one by one, each by the
rule that its keyword chooses, so a document of such definitions is read as before when another one
stands behind it.
-/

namespace DeclSchema.Schema

-- Everything but operations and fragments.
def Definition.isTypeSystem : Definition → Bool
  | operation .. => false
  | fragment .. => false
  | _ => true

namespace Reading

variable {α β : Type}

/-! Rules that take at least one token. -/

class Moving (rule : Reading α) : Prop where
  shorter : ∀ {tokens a rest}, rule.run tokens = .ok (a, rest) → rest.length < tokens.length

theorem takes_length {tokens rest : List Token} (taken : Takes tokens rest) :
    rest.length ≤ tokens.length := by
  obtain ⟨used, rfl, _⟩ := taken
  rw [List.length_append]
  omega

instance moving_bind {x : Reading α} {f : α → Reading β} [first : Moving x]
    [second : ∀ a, Local (f a)] : Moving (x >>= f) := by
  refine ⟨fun done => ?_⟩
  obtain ⟨a, middle, begun, ended⟩ := bind_run_ok done
  have less := first.shorter begun
  have rest := takes_length ((second a).keeps middle _ _ ended).1
  omega

instance moving_quotation {k : Option Quotation → Reading α}
    [each : ∀ description, Moving (k description)] : Moving (quotation? >>= k) := by
  refine ⟨fun {tokens} _ _ done => ?_⟩
  obtain ⟨description, middle, begun, ended⟩ := bind_run_ok done
  have less := (each description).shorter ended
  cases tokens with
  | nil =>
    cases begun
    exact less
  | cons token later =>
    have taken := takes_length (quotation_keeps token later _ _ begun).1
    omega

theorem advance_moved {token : Token} {tokens rest : List Token}
    (done : advance.run (token :: tokens) = .ok ((), rest)) : rest = tokens := by
  obtain ⟨later, readied, same⟩ := bind_ok done
  cases same
  exact ready_ok readied

instance moving_keyword {word : String} : Moving (keyword word) := by
  refine ⟨fun {tokens _ rest} done => ?_⟩
  cases tokens with
  | nil => cases done
  | cons token later =>
    have read : (if some token = some (.name word) then advance
        else fail (.expected (.keyword word) (some token))).run (token :: later) = .ok ((), rest) := done
    split at read
    · rw [advance_moved read, List.length_cons]
      exact Nat.lt_succ_self _
    · cases read

/-! The rule for a definition is chosen by its keyword, behind a description if there is one. -/

inductive Leads (word : String) : List Token → Prop where
  | plain {rest} : Leads word (.name word :: rest)
  | described {token rest} (quoted : isDescription (some token) = true) :
      Leads word (token :: .name word :: rest)

theorem leads_joined {word : String} {tokens : List Token} (leads : Leads word tokens)
    (more : List Token) : Leads word (tokens ++ more) := by
  cases leads with
  | plain => exact .plain
  | described quoted => exact .described quoted

-- What is decided once the leading token is known.
theorem definition_plain {token : Token} {tokens : List Token}
    (bare : isDescription (some token) = false) :
    Reading.definition.run (token :: tokens) =
      (match some token with
      | some (.symbol .openBrace) => operationDefinition
      | some (.name word) =>
        match definitionRule? word with
        | some rule => rule
        | none => if word = "extend" then extension else fail (.unexpected (some token))
      | _ => fail (.unexpected (some token))).run (token :: tokens) := by
  have next : peek.run (token :: tokens) = .ok (some token, token :: tokens) := rfl
  unfold Reading.definition
  rw [run_step next]
  simp only [bare, Bool.false_eq_true, if_false]
  rfl

theorem definition_described {token second : Token} {tokens : List Token}
    (quoted : isDescription (some token) = true) (whole : Whole (second :: tokens)) :
    Reading.definition.run (token :: second :: tokens) =
      (match some second with
      | some (.symbol .openBrace) => fail .describedSelection
      | some (.name word) =>
        match definitionRule? word with
        | some rule => rule
        | none => fail .describedUnknown
      | _ => fail (.unexpected (some second))).run (token :: second :: tokens) := by
  have next : peek.run (token :: second :: tokens) = .ok (some token, token :: second :: tokens) := rfl
  have leading : peekSecond.run (token :: second :: tokens) =
      .ok (some second, token :: second :: tokens) := by
    have looked : peekSecond.run (token :: second :: tokens) = (do
        let later ← ready (second :: tokens)
        return (later.head?, token :: second :: tokens)) := rfl
    rw [looked, whole]
    rfl
  unfold Reading.definition
  rw [run_step next]
  simp only [quoted, if_true]
  exact run_step leading

theorem described_whole {token : Token} {tokens rest : List Token} {definition : Definition}
    (quoted : isDescription (some token) = true)
    (done : Reading.definition.run (token :: tokens) = .ok (definition, rest)) : Whole tokens := by
  have next : peek.run (token :: tokens) = .ok (some token, token :: tokens) := rfl
  unfold Reading.definition at done
  rw [run_step next] at done
  simp only [quoted, if_true] at done
  obtain ⟨leading, middle, looked, _⟩ := bind_run_ok done
  obtain ⟨later, readied, _⟩ := bind_ok looked
  cases ready_ok readied
  exact readied

theorem definition_led {word : String} {rule : Reading Definition} {tokens : List Token}
    (leads : Leads word tokens) (chosen : definitionRule? word = some rule) :
    Reading.definition.run tokens = rule.run tokens := by
  cases leads with
  | plain => exact definition_rule chosen _
  | described quoted =>
    rw [definition_described quoted (whole_name _ _)]
    simp only [chosen]

-- What can have been read as a definition.
theorem definition_cases {tokens rest : List Token} {definition : Definition}
    (done : Reading.definition.run tokens = .ok (definition, rest)) :
    (∃ word rule, Leads word tokens ∧ definitionRule? word = some rule ∧
      rule.run tokens = .ok (definition, rest)) ∨
    (∃ later, tokens = .name "extend" :: later ∧ extension.run tokens = .ok (definition, rest)) ∨
    operationDefinition.run tokens = .ok (definition, rest) := by
  cases tokens with
  | nil => cases done
  | cons token later =>
    cases quoted : isDescription (some token) with
    | false =>
      rw [definition_plain quoted] at done
      split at done
      · exact .inr (.inr done)
      · rename_i word same
        cases same
        split at done
        · rename_i rule chosen
          exact .inl ⟨word, rule, .plain, chosen, done⟩
        · split at done
          · rename_i extending
            subst extending
            exact .inr (.inl ⟨later, rfl, done⟩)
          · cases done
      · cases done
    | true =>
      have whole := described_whole quoted done
      cases later with
      | nil =>
        cases token with
        | string value => cases done
        | block value => cases done
        | _ => cases quoted
      | cons second later =>
        rw [definition_described quoted whole] at done
        split at done
        · cases done
        · rename_i word same
          cases same
          split at done
          · rename_i rule chosen
            exact .inl ⟨word, rule, .described quoted, chosen, done⟩
          · cases done
        · cases done

/-! Definitions of the type system. -/

-- Rules for what is executed.
def Executes (rule : Reading Definition) : Prop :=
  ∀ tokens definition rest, rule.run tokens = .ok (definition, rest) → definition.isTypeSystem = false

theorem executes_bind {x : Reading α} {f : α → Reading Definition} (each : ∀ a, Executes (f a)) :
    Executes (x >>= f) := by
  intro tokens definition rest done
  obtain ⟨a, middle, _, ended⟩ := bind_run_ok done
  exact each a middle definition rest ended

theorem executes_pure {definition : Definition} (other : definition.isTypeSystem = false) :
    Executes (pure definition) := by
  intro tokens read rest done
  cases done
  exact other

theorem operationDefinition_executes : Executes operationDefinition := by
  refine executes_bind fun description => executes_bind fun selecting => ?_
  split
  · exact executes_bind fun _ => executes_pure rfl
  · refine executes_bind fun kind => executes_bind fun next => ?_
    have last (name : Option String) : Executes (do
        let parameters ← optionalMany .openParen .closeParen variableDefinition
        let directiveList ← directives false maxDepth
        return .operation description kind name parameters directiveList (← selections maxDepth)) :=
      executes_bind fun _ => executes_bind fun _ => executes_bind fun _ => executes_pure rfl
    dsimp only
    split
    · exact executes_bind fun _ => executes_bind last
    · exact executes_bind last

theorem fragmentDefinition_executes : Executes fragmentDefinition :=
  executes_bind fun _ => executes_bind fun _ => executes_bind fun _ => executes_bind fun _ =>
    executes_bind fun _ => executes_bind fun _ => executes_bind fun _ => executes_pure rfl

-- Rules for one definition, whatever is defined behind it.
structure Separate (rule : Reading Definition) : Prop where
  keeps : Local rule
  moves : Moving rule

theorem definitionRule_cases {word : String} {rule : Reading Definition}
    (chosen : definitionRule? word = some rule) : Separate rule ∨ Executes rule := by
  unfold definitionRule? at chosen
  split at chosen <;> cases chosen
  · exact .inl ⟨inferInstance, by unfold schemaDefinition; infer_instance⟩
  · exact .inl ⟨inferInstance, by unfold scalarDefinition; infer_instance⟩
  · exact .inl ⟨inferInstance, by unfold objectType; infer_instance⟩
  · exact .inl ⟨inferInstance, by unfold objectType; infer_instance⟩
  · exact .inl ⟨inferInstance, by unfold unionDefinition; infer_instance⟩
  · exact .inl ⟨inferInstance, by unfold enumDefinition; infer_instance⟩
  · exact .inl ⟨inferInstance, by unfold inputType; infer_instance⟩
  · exact .inl ⟨inferInstance, by unfold directiveDefinition; infer_instance⟩
  · exact .inr operationDefinition_executes
  · exact .inr operationDefinition_executes
  · exact .inr operationDefinition_executes
  · exact .inr fragmentDefinition_executes

theorem extensionRule_local {word : String} {rule : Reading Definition}
    (chosen : extensionRule? word = some rule) : Local rule := by
  unfold extensionRule? at chosen
  split at chosen <;> cases chosen <;> infer_instance

theorem extension_run (word : String) (token : Token) (later : List Token) :
    extension.run (token :: .name word :: later) =
      (match extensionRule? word with
      | some rule => do
        keyword "extend"
        keyword word
        rule
      | none => fail (.unexpected (some (.name word)))).run (token :: .name word :: later) := by
  have second : peekSecond.run (token :: .name word :: later) =
    .ok (some (.name word), token :: .name word :: later) := rfl
  unfold extension
  exact run_step second

theorem extension_word {tokens rest : List Token} {definition : Definition}
    (done : extension.run tokens = .ok (definition, rest)) :
    ∃ word token later, tokens = token :: .name word :: later := by
  match tokens, done with
  | [], done => cases done
  | [_], done => cases done
  | token :: .name word :: later, _ => exact ⟨word, token, later, rfl⟩
  | _ :: .symbol _ :: _, done => cases done
  | _ :: .integer _ :: _, done => cases done
  | _ :: .float _ :: _, done => cases done
  | _ :: .string _ :: _, done => cases done
  | _ :: .block _ :: _, done => cases done
  | _ :: .broken _ :: _, done => cases done

theorem extension_chosen {tokens rest : List Token} {definition : Definition}
    (done : extension.run tokens = .ok (definition, rest)) :
    ∃ rule : Reading Definition, Separate rule ∧ rule.run tokens = .ok (definition, rest) ∧
      ∀ more, extension.run (tokens ++ more) = rule.run (tokens ++ more) := by
  obtain ⟨word, token, later, rfl⟩ := extension_word done
  rw [extension_run] at done
  split at done
  · rename_i rule chosen
    have inner := extensionRule_local chosen
    refine ⟨_, ⟨inferInstance, inferInstance⟩, done, ?_⟩
    intro more
    simp only [List.cons_append]
    rw [extension_run, chosen]
  · cases done

theorem extend_led {tokens : List Token} :
    Reading.definition.run (.name "extend" :: tokens) = extension.run (.name "extend" :: tokens) :=
  definition_plain rfl

theorem leads_follows {word : String} {tokens : List Token} (leads : Leads word tokens)
    (known : (definitionRule? word).isSome = true) : Follows tokens := by
  cases leads with
  | plain =>
    constructor
    · rintro rfl
      cases known
    · rintro rfl
      cases known
  | @described token rest quoted =>
    cases token with
    | string value => trivial
    | block value => trivial
    | _ => cases quoted

-- The choice of the rule depends on tokens that are there already.
theorem definition_chosen {tokens rest : List Token} {definition : Definition}
    (done : Reading.definition.run tokens = .ok (definition, rest))
    (kind : definition.isTypeSystem = true) :
    Follows tokens ∧ ∃ rule : Reading Definition, Separate rule ∧
      rule.run tokens = .ok (definition, rest) ∧
      ∀ more, Reading.definition.run (tokens ++ more) = rule.run (tokens ++ more) := by
  have executed {rule : Reading Definition} (executes : Executes rule)
      (done : rule.run tokens = .ok (definition, rest)) : False := by
    have other := executes tokens definition rest done
    rw [kind] at other
    cases other
  rcases definition_cases done with ⟨word, rule, leads, chosen, ran⟩ | ⟨later, rfl, ran⟩ | ran
  · rcases definitionRule_cases chosen with separate | executes
    · refine ⟨leads_follows leads (by rw [chosen]; rfl), rule, separate, ran, ?_⟩
      intro more
      exact definition_led (leads_joined leads more) chosen
    · exact (executed executes ran).elim
  · obtain ⟨rule, separate, done, again⟩ := extension_chosen ran
    refine ⟨⟨by decide, by decide⟩, rule, separate, done, ?_⟩
    intro more
    rw [← again more]
    exact extend_led
  · exact (executed operationDefinition_executes ran).elim

-- What one definition takes, and that it is the same with another one behind it.
theorem definition_keeps {tokens rest : List Token} {definition : Definition}
    (done : Reading.definition.run tokens = .ok (definition, rest))
    (kind : definition.isTypeSystem = true) :
    rest.length < tokens.length ∧ Takes tokens rest ∧
      ∀ more, Follows more →
        Reading.definition.run (tokens ++ more) = .ok (definition, rest ++ more) := by
  obtain ⟨_, rule, separate, ran, again⟩ := definition_chosen done kind
  obtain ⟨taken, same⟩ := separate.keeps.keeps tokens definition rest ran
  refine ⟨separate.moves.shorter ran, taken, ?_⟩
  intro more follows
  rw [again more, same more follows]

/-! Rows of definitions. -/

-- The tokens are those of definitions of the type system, read to the end.
inductive Defines : List Token → List Definition → Prop where
  | nil : Defines [] []
  | cons {tokens rest definition definitions} (done : Reading.definition.run tokens = .ok (definition, rest))
      (kind : definition.isTypeSystem = true) (more : Defines rest definitions) :
      Defines tokens (definition :: definitions)

theorem defines_follows {tokens : List Token} {definitions : List Definition}
    (defines : Defines tokens definitions) : tokens = [] ∨ Follows tokens := by
  cases defines with
  | nil => exact .inl rfl
  | cons done kind more => exact .inr (definition_chosen done kind).1

theorem defines_present {tokens : List Token} {definitions : List Definition}
    (defines : Defines tokens definitions) (some : definitions ≠ []) : tokens ≠ [] := by
  rintro rfl
  cases defines with
  | nil => exact some rfl
  | cons done kind more => cases done

theorem defines_unbroken {tokens : List Token} {definitions : List Definition}
    (defines : Defines tokens definitions) : Unbroken tokens := by
  induction defines with
  | nil => simp [Unbroken]
  | cons done kind more ih =>
    obtain ⟨_, ⟨used, rfl, unbroken⟩, _⟩ := definition_keeps done kind
    exact unbroken_append unbroken ih

theorem defines_append {first second : List Token} {earlier later : List Definition}
    (begun : Defines first earlier) (ended : Defines second later) :
    Defines (first ++ second) (earlier ++ later) := by
  rcases defines_follows ended with rfl | follows
  · cases ended with
    | nil => rwa [List.append_nil, List.append_nil]
    | cons done kind more => cases done
  · induction begun with
    | nil => exact ended
    | cons done kind more ih =>
      obtain ⟨_, _, same⟩ := definition_keeps done kind
      exact .cons (same second follows) kind ih

theorem definitionsWithin_defines {steps : Nat} {tokens rest : List Token}
    {definitions : List Definition}
    (done : (definitionsWithin steps).run tokens = .ok (definitions, rest))
    (kinds : ∀ definition ∈ definitions, definition.isTypeSystem = true) :
    Defines tokens definitions := by
  induction steps generalizing tokens definitions with
  | zero => cases done
  | succ steps ih =>
    cases tokens with
    | nil =>
      cases done
      exact .nil
    | cons token later =>
      have next : peek.run (token :: later) = .ok (some token, token :: later) := rfl
      rw [definitionsWithin, run_step next, if_neg (by simp)] at done
      obtain ⟨first, middle, read, done⟩ := bind_run_ok done
      obtain ⟨others, last, more, done⟩ := bind_run_ok done
      cases done
      obtain ⟨kind, kinds⟩ := List.forall_mem_cons.mp kinds
      exact .cons read kind (ih more kinds)

theorem defines_definitionsWithin {tokens : List Token} {definitions : List Definition}
    (defines : Defines tokens definitions) {steps : Nat} (enough : tokens.length < steps) :
    (definitionsWithin steps).run tokens = .ok (definitions, []) := by
  induction defines generalizing steps with
  | nil =>
    cases steps with
    | zero => cases enough
    | succ steps => rfl
  | @cons tokens rest definition definitions done kind more ih =>
    cases steps with
    | zero => cases enough
    | succ steps =>
      have shorter := (definition_keeps done kind).1
      cases tokens with
      | nil => cases done
      | cons token later =>
        have next : peek.run (token :: later) = .ok (some token, token :: later) := rfl
        rw [definitionsWithin, run_step next, if_neg (by simp), run_step done,
          run_step (ih (by omega))]
        rfl

theorem document_defines {tokens rest : List Token} {document : Document}
    (done : Reading.document.run tokens = .ok (document, rest))
    (kinds : ∀ definition ∈ document.definitions, definition.isTypeSystem = true) :
    Defines tokens document.definitions := by
  unfold Reading.document at done
  obtain ⟨first, middle, read, done⟩ := bind_run_ok done
  rw [run_step (get_run middle)] at done
  obtain ⟨others, last, more, done⟩ := bind_run_ok done
  cases done
  obtain ⟨kind, kinds⟩ := List.forall_mem_cons.mp kinds
  exact .cons read kind (definitionsWithin_defines more kinds)

theorem defines_document {tokens : List Token} {definitions : List Definition} (some : tokens ≠ [])
    (defines : Defines tokens definitions) :
    Reading.document.run tokens = .ok (⟨definitions⟩, []) := by
  cases defines with
  | nil => exact absurd rfl some
  | cons done kind more =>
    unfold Reading.document
    rw [run_step done, run_step (get_run _),
      run_step (defines_definitionsWithin more (Nat.lt_succ_self _))]
    rfl

end Reading

/-! Texts. -/

theorem parse_ok {text : Points} {document : Document}
    (read : Document.parse text = .ok document) :
    ∃ rest, Reading.document.run (tokens text) = .ok (document, rest) := by
  obtain ⟨first, readied, read⟩ := bind_ok read
  cases Reading.ready_ok readied
  obtain ⟨⟨result, rest⟩, done, same⟩ := bind_ok read
  cases same
  exact ⟨rest, done⟩

theorem parse_defines {text : Points} {document : Document}
    (read : Document.parse text = .ok document)
    (kinds : ∀ definition ∈ document.definitions, definition.isTypeSystem = true) :
    Reading.Defines (tokens text) document.definitions := by
  obtain ⟨rest, done⟩ := parse_ok read
  exact Reading.document_defines done kinds

theorem parse_present {text : Points} {document : Document}
    (read : Document.parse text = .ok document) : document.definitions ≠ [] := by
  obtain ⟨rest, done⟩ := parse_ok read
  obtain ⟨definition, _, _, done⟩ := Reading.bind_run_ok done
  obtain ⟨_, _, _, done⟩ := Reading.bind_run_ok done
  obtain ⟨others, _, _, done⟩ := Reading.bind_run_ok done
  cases done
  simp

theorem defines_parse {text : Points} {definitions : List Definition}
    (some : tokens text ≠ []) (defines : Reading.Defines (tokens text) definitions) :
    Document.parse text = .ok ⟨definitions⟩ := by
  have whole : Reading.Whole (tokens text) :=
    Reading.follows_whole ((Reading.defines_follows defines).resolve_left some)
  unfold Document.parse Reading.of
  rw [whole]
  change (do
    let (result, _) ← Reading.document.run (tokens text)
    return result) = _
  rw [Reading.defines_document some defines]
  rfl

end DeclSchema.Schema
