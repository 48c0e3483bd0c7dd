import DeclSchema.Proofs.Schema.JoinedTexts
import DeclSchema.Proofs.Schema.PlainReading

/-!
Reading with more tokens behind. What a rule of the type system makes of some tokens, it makes of
them also when a further definition follows: nothing that a definition begins with can be taken
for an optional part of the definition before it. Rules are put together from rules of this kind,
and instances say so.
-/

namespace DeclSchema.Schema.Reading

variable {α β : Type}

/-! Rules that do not depend on what follows. -/

-- What a definition may begin with, as far as optional parts could be confused with it.
def Follows : List Token → Prop
  | .name word :: _ => word ≠ "implements" ∧ word ≠ "repeatable"
  | .string _ :: _ => True
  | .block _ :: _ => True
  | _ => False

theorem follows_whole {more : List Token} (follows : Follows more) : Whole more := by
  unfold Follows at follows
  split at follows
  · rfl
  · rfl
  · rfl
  · cases follows

theorem follows_symbol {more : List Token} (follows : Follows more) (symbol : Symbol) :
    more.head? ≠ some (.symbol symbol) := by
  unfold Follows at follows
  split at follows
  · simp
  · simp
  · simp
  · cases follows

-- Tokens among which there is no broken text.
def Unbroken (tokens : List Token) : Prop := ∀ token ∈ tokens, token.isBroken = false

theorem unbroken_append {first second : List Token} (earlier : Unbroken first)
    (later : Unbroken second) : Unbroken (first ++ second) := by
  intro token member
  rcases List.mem_append.mp member with left | right
  · exact earlier token left
  · exact later token right

-- What a rule has taken is in front of what it leaves.
def Takes (tokens rest : List Token) : Prop := ∃ used, tokens = used ++ rest ∧ Unbroken used

theorem takes_refl (tokens : List Token) : Takes tokens tokens :=
  ⟨[], rfl, by simp [Unbroken]⟩

theorem takes_trans {tokens middle rest : List Token} (first : Takes tokens middle)
    (second : Takes middle rest) : Takes tokens rest := by
  obtain ⟨earlier, rfl, unbroken⟩ := first
  obtain ⟨later, rfl, others⟩ := second
  exact ⟨earlier ++ later, (List.append_assoc ..).symm, unbroken_append unbroken others⟩

theorem takes_one {token : Token} (unbroken : token.isBroken = false) (rest : List Token) :
    Takes (token :: rest) rest :=
  ⟨[token], rfl, by simpa [Unbroken] using unbroken⟩

-- What the first rule makes of the tokens, the second one makes of them in front of those that
-- follow.
def Carries (rule later : Reading α) (tokens : List Token) : Prop :=
  ∀ a rest, rule.run tokens = .ok (a, rest) →
    Takes tokens rest ∧
      ∀ more, Follows more → later.run (tokens ++ more) = .ok (a, rest ++ more)

abbrev Keeps (rule : Reading α) (tokens : List Token) : Prop := Carries rule rule tokens

class Local (rule : Reading α) : Prop where
  keeps : ∀ tokens, Keeps rule tokens

-- Rules that cannot be content with nothing.
class Ended (rule : Reading α) : Prop where
  fails : ∀ a rest, rule.run [] ≠ .ok (a, rest)

theorem bind_run_ok {x : Reading α} {f : α → Reading β} {tokens rest : List Token} {b : β}
    (done : (x >>= f).run tokens = .ok (b, rest)) :
    ∃ a middle, x.run tokens = .ok (a, middle) ∧ (f a).run middle = .ok (b, rest) := by
  rw [StateT.run_bind] at done
  obtain ⟨⟨a, middle⟩, first, second⟩ := bind_ok done
  exact ⟨a, middle, first, second⟩

theorem carries_bind {x y : Reading α} {f g : α → Reading β} {tokens : List Token}
    (first : Carries x y tokens)
    (second : ∀ a rest, x.run tokens = .ok (a, rest) → Carries (f a) (g a) rest) :
    Carries (x >>= f) (y >>= g) tokens := by
  intro b rest done
  obtain ⟨a, middle, begun, ended⟩ := bind_run_ok done
  obtain ⟨taken, same⟩ := first a middle begun
  obtain ⟨later, again⟩ := second a middle begun b rest ended
  refine ⟨takes_trans taken later, ?_⟩
  intro more follows
  rw [run_step (same more follows)]
  exact again more follows

instance local_bind {x : Reading α} {f : α → Reading β} [first : Local x]
    [second : ∀ a, Local (f a)] : Local (x >>= f) :=
  ⟨fun tokens => carries_bind (first.keeps tokens) fun a rest _ => (second a).keeps rest⟩

theorem keeps_pure (a : α) (tokens : List Token) : Keeps (pure a) tokens := by
  intro b rest done
  cases done
  exact ⟨takes_refl _, fun more _ => rfl⟩

instance local_pure {a : α} : Local (pure a) := ⟨keeps_pure a⟩

theorem keeps_fail (fault : Fault) (tokens : List Token) : Keeps (fail fault : Reading α) tokens := by
  intro a rest done
  cases done

instance local_fail {fault : Fault} : Local (fail fault : Reading α) := ⟨keeps_fail fault⟩

instance local_unexpected : Local (unexpected : Reading α) := by
  refine ⟨fun tokens a rest done => ?_⟩
  cases done

instance local_ite {condition : Prop} [Decidable condition] {x y : Reading α} [Local x] [Local y] :
    Local (if condition then x else y) := by
  split <;> infer_instance

/-! Single tokens. -/

theorem ready_ok {tokens later : List Token} (readied : ready tokens = .ok later) : later = tokens := by
  unfold ready at readied
  split at readied
  · cases readied
  · cases readied
    rfl

theorem whole_joined {tokens more : List Token} (whole : Whole tokens) (follows : Follows more) :
    Whole (tokens ++ more) := by
  cases tokens with
  | nil => exact follows_whole follows
  | cons token rest =>
    cases token with
    | broken fault => cases whole
    | _ => rfl

theorem advance_keeps {token : Token} (unbroken : token.isBroken = false) (rest : List Token) :
    Keeps advance (token :: rest) := by
  intro a left done
  obtain ⟨later, readied, same⟩ := bind_ok done
  cases same
  cases ready_ok readied
  refine ⟨takes_one unbroken _, ?_⟩
  intro more follows
  exact advance_run (whole_joined readied follows) token

-- A rule that looks at the next token first and can do nothing without one.
theorem keeps_peek {k : Option Token → Reading α}
    (each : ∀ token rest, Keeps (k (some token)) (token :: rest)) (ended : Ended (k none))
    (tokens : List Token) : Keeps (peek >>= k) tokens := by
  intro a rest done
  cases tokens with
  | nil => exact absurd done (ended.fails a rest)
  | cons token later => exact each token later a rest done

instance local_peek {k : Option Token → Reading α} [each : ∀ next, Local (k next)] [Ended (k none)] :
    Local (peek >>= k) :=
  ⟨keeps_peek (fun token _ => (each (some token)).keeps _) inferInstance⟩

instance ended_bind {x : Reading α} {f : α → Reading β} [ended : Ended x] : Ended (x >>= f) := by
  refine ⟨fun b rest done => ?_⟩
  obtain ⟨a, middle, begun, _⟩ := bind_run_ok done
  exact ended.fails a middle begun

instance ended_peek {k : Option Token → Reading α} [ended : Ended (k none)] : Ended (peek >>= k) :=
  ⟨ended.fails⟩

instance ended_fail {fault : Fault} : Ended (fail fault : Reading α) :=
  ⟨fun _ _ done => nomatch done⟩

instance ended_unexpected : Ended (unexpected : Reading α) :=
  ⟨fun _ _ done => nomatch done⟩

instance ended_ite {condition : Prop} [Decidable condition] {x y : Reading α} [Ended x] [Ended y] :
    Ended (if condition then x else y) := by
  split <;> infer_instance

instance ended_name : Ended name := ⟨fun _ _ done => nomatch done⟩

instance ended_expect {symbol : Symbol} : Ended (expect symbol) := ⟨fun _ _ done => nomatch done⟩

instance ended_keyword {word : String} : Ended (keyword word) := ⟨fun _ _ done => nomatch done⟩

instance local_name : Local name := by
  refine ⟨keeps_peek ?_ ⟨fun _ _ done => nomatch done⟩⟩
  intro token rest
  cases token with
  | name text => exact carries_bind (advance_keeps rfl rest) fun _ _ _ => keeps_pure _ _
  | _ => exact keeps_fail _ _

instance local_expect {symbol : Symbol} : Local (expect symbol) := by
  refine ⟨keeps_peek ?_ ⟨fun _ _ done => nomatch done⟩⟩
  intro token rest
  split
  · rename_i same
    cases same
    exact advance_keeps rfl rest
  · exact keeps_fail _ _

instance local_keyword {word : String} : Local (keyword word) := by
  refine ⟨keeps_peek ?_ ⟨fun _ _ done => nomatch done⟩⟩
  intro token rest
  split
  · rename_i same
    cases same
    exact advance_keeps rfl rest
  · exact keeps_fail _ _

-- These rules do without a token, and what follows is not the one they look for.
instance local_isNext {symbol : Symbol} : Local (isNext symbol) := by
  refine ⟨fun tokens found rest done => ?_⟩
  rw [isNext_run] at done
  cases done
  refine ⟨takes_refl _, ?_⟩
  intro more follows
  rw [isNext_run]
  cases tokens with
  | nil => simp [follows_symbol follows symbol]
  | cons token later => rfl

theorem accept_keeps (symbol : Symbol) (tokens : List Token) : Keeps (accept symbol) tokens := by
  refine carries_bind (local_isNext.keeps tokens) ?_
  intro found rest looked
  rw [isNext_run] at looked
  cases looked
  split
  · rename_i next
    cases tokens with
    | nil => cases of_decide_eq_true next
    | cons token later =>
      cases Option.some.inj (of_decide_eq_true next)
      exact carries_bind (advance_keeps rfl later) fun _ _ _ => keeps_pure _ _
  · exact keeps_pure _ _

instance local_accept {symbol : Symbol} : Local (accept symbol) := ⟨accept_keeps symbol⟩

theorem acceptKeyword_keeps {word : String}
    (other : ∀ more, Follows more → more.head? ≠ some (.name word)) (tokens : List Token) :
    Keeps (acceptKeyword word) tokens := by
  intro found rest done
  cases tokens with
  | nil =>
    cases done
    exact ⟨takes_refl _, fun more follows => acceptKeyword_miss (other more follows)⟩
  | cons token later =>
    have keeps : Keeps (if some token = some (.name word) then do advance; return true
        else return false : Reading Bool) (token :: later) := by
      split
      · rename_i next
        cases next
        exact carries_bind (advance_keeps rfl later) fun _ _ _ => keeps_pure _ _
      · exact keeps_pure _ _
    exact keeps found rest done

theorem follows_name {more : List Token} (follows : Follows more) {word : String}
    (optional : word = "implements" ∨ word = "repeatable") : more.head? ≠ some (.name word) := by
  intro next
  unfold Follows at follows
  split at follows
  · cases next
    rcases optional with rfl | rfl
    · exact follows.1 rfl
    · exact follows.2 rfl
  · cases next
  · cases next
  · cases follows

instance local_implements : Local (acceptKeyword "implements") :=
  ⟨acceptKeyword_keeps fun _ follows => follows_name follows (.inl rfl)⟩

instance local_repeatable : Local (acceptKeyword "repeatable") :=
  ⟨acceptKeyword_keeps fun _ follows => follows_name follows (.inr rfl)⟩

-- A description may follow, but not where something has to be described.
theorem quotation_keeps (token : Token) (rest : List Token) : Keeps quotation? (token :: rest) := by
  have taken (quotation : Quotation) {token : Token} (unbroken : token.isBroken = false) :
      Keeps (do advance; return some quotation : Reading (Option Quotation)) (token :: rest) :=
    carries_bind (advance_keeps unbroken rest) fun _ _ _ => keeps_pure _ _
  cases token with
  | string value => exact taken ⟨value, false⟩ rfl
  | block value => exact taken ⟨value, true⟩ rfl
  | _ => exact keeps_pure none _

instance ended_quotation {k : Option Quotation → Reading α} [ended : Ended (k none)] :
    Ended (quotation? >>= k) :=
  ⟨ended.fails⟩

instance local_quotation {k : Option Quotation → Reading α} [each : ∀ description, Local (k description)]
    [ended : Ended (k none)] : Local (quotation? >>= k) := by
  refine ⟨fun tokens a rest done => ?_⟩
  cases tokens with
  | nil => exact absurd done (ended.fails a rest)
  | cons token later =>
    exact carries_bind (quotation_keeps token later) (fun description rest _ => (each description).keeps rest)
      a rest done

/-! Rows. With more tokens there are more steps to spare. -/

theorem local_counted {counted : Nat → Reading α}
    (grows : ∀ {steps later : Nat}, steps ≤ later → ∀ tokens, Carries (counted steps) (counted later) tokens) :
    Local (do counted ((← get).length + 1) : Reading α) := by
  refine ⟨fun tokens a rest done => ?_⟩
  obtain ⟨taken, same⟩ := grows (Nat.le_refl _) tokens a rest done
  refine ⟨taken, ?_⟩
  intro more follows
  have size : tokens.length + 1 ≤ (tokens ++ more).length + 1 := by
    rw [List.length_append]
    omega
  exact (grows size tokens a rest done).2 more follows

section Rows

variable {item : Reading α} [each : Local item] {opening closing separator : Symbol}

theorem itemsWithin_carries {steps later : Nat} (enough : steps ≤ later) (tokens : List Token) :
    Carries (itemsWithin closing item steps) (itemsWithin closing item later) tokens := by
  induction steps generalizing later tokens with
  | zero =>
    intro a rest done
    cases done
  | succ steps ih =>
    cases later with
    | zero => cases enough
    | succ later =>
      refine carries_bind (accept_keeps closing tokens) fun found rest _ => ?_
      split
      · exact keeps_pure _ _
      · refine carries_bind (each.keeps rest) fun first rest _ => ?_
        refine carries_bind (ih (Nat.le_of_succ_le_succ enough) rest) fun others rest _ => ?_
        exact keeps_pure _ _

theorem separatedWithin_carries {steps later : Nat} (enough : steps ≤ later) (tokens : List Token) :
    Carries (separatedWithin separator item steps) (separatedWithin separator item later) tokens := by
  induction steps generalizing later tokens with
  | zero =>
    intro a rest done
    cases done
  | succ steps ih =>
    cases later with
    | zero => cases enough
    | succ later =>
      refine carries_bind (each.keeps tokens) fun first rest _ => ?_
      refine carries_bind (accept_keeps separator rest) fun found rest _ => ?_
      split
      · refine carries_bind (ih (Nat.le_of_succ_le_succ enough) rest) fun others rest _ => ?_
        exact keeps_pure _ _
      · exact keeps_pure _ _

theorem whileNextWithin_carries {steps later : Nat} (enough : steps ≤ later) (tokens : List Token) :
    Carries (whileNextWithin opening item steps) (whileNextWithin opening item later) tokens := by
  induction steps generalizing later tokens with
  | zero =>
    intro a rest done
    cases done
  | succ steps ih =>
    cases later with
    | zero => cases enough
    | succ later =>
      refine carries_bind (local_isNext.keeps tokens) fun found rest _ => ?_
      split
      · refine carries_bind (each.keeps rest) fun first rest _ => ?_
        refine carries_bind (ih (Nat.le_of_succ_le_succ enough) rest) fun others rest _ => ?_
        exact keeps_pure _ _
      · exact keeps_pure _ _

instance local_items : Local (items closing item) := local_counted itemsWithin_carries

instance local_whileNext : Local (whileNext opening item) := local_counted whileNextWithin_carries

instance local_separated : Local (separated separator item) := by
  have counted : Local (do separatedWithin separator item ((← get).length + 1) : Reading (List α)) :=
    local_counted separatedWithin_carries
  unfold separated
  infer_instance

instance local_any : Local (any opening closing item) := by
  unfold any
  infer_instance

instance local_many : Local (many opening closing item) := by
  unfold many
  infer_instance

instance local_optionalMany : Local (optionalMany opening closing item) := by
  unfold optionalMany
  infer_instance

end Rows

/-! Types, values and directives. -/

instance local_nonNullMark {type : TypeRef} : Local (nonNullMark type) := by
  unfold nonNullMark
  infer_instance

instance local_typeRef {depth : Nat} : Local (typeRef depth) := by
  induction depth with
  | zero =>
    unfold typeRef
    infer_instance
  | succ depth ih =>
    unfold typeRef
    infer_instance

instance local_variableValue {constant : Bool} : Local (variableValue constant) := by
  have refused (dollar : Option Token) : ∀ next : Option Token, Local (match next with
      | some (.name text) => fail (.variableInConstant text)
      | _ => fail (.unexpected dollar) : Reading Value) := by
    intro next
    split <;> infer_instance
  unfold variableValue variableName
  infer_instance

-- The next token decides what kind of value it is.
theorem keeps_value {constant : Bool} {depth : Nat}
    (below : ∀ {inner}, depth = inner + 1 → Local (value constant inner)) (tokens : List Token) :
    Keeps (value constant depth) tokens := by
  unfold value
  refine keeps_peek ?_ ended_unexpected tokens
  intro token rest
  have single (token : Token) (unbroken : token.isBroken = false) (read : Value) :
      Keeps (do advance; return read) (token :: rest) :=
    carries_bind (advance_keeps unbroken rest) fun _ _ _ => keeps_pure _ _
  cases token with
  | symbol symbol =>
    cases symbol with
    | openBracket =>
      cases depth with
      | zero => exact keeps_fail _ _
      | succ depth =>
        have inner := below rfl
        exact local_bind.keeps _
    | openBrace =>
      cases depth with
      | zero => exact keeps_fail _ _
      | succ depth =>
        have inner := below rfl
        exact local_bind.keeps _
    | dollar => exact local_variableValue.keeps _
    | _ => exact local_unexpected.keeps _
  | integer text => exact single _ rfl _
  | float text => exact single _ rfl _
  | string text => exact single _ rfl _
  | block text => exact single _ rfl _
  | name text => exact single _ rfl _
  | broken fault => exact local_unexpected.keeps _

instance local_value {constant : Bool} {depth : Nat} : Local (value constant depth) := by
  induction depth with
  | zero => exact ⟨keeps_value fun shape => nomatch shape⟩
  | succ depth ih =>
    refine ⟨keeps_value fun shape => ?_⟩
    cases shape
    exact ih

instance local_argument {constant : Bool} {depth : Nat} : Local (argument constant depth) := by
  unfold argument
  infer_instance

instance local_arguments {constant : Bool} {depth : Nat} : Local (arguments constant depth) := by
  unfold arguments
  infer_instance

instance local_directive {constant : Bool} {depth : Nat} : Local (directive constant depth) := by
  unfold directive
  infer_instance

instance local_directives {constant : Bool} {depth : Nat} : Local (directives constant depth) := by
  unfold directives
  infer_instance

instance local_constantDirectives : Local constantDirectives := local_directives

instance local_defaultValue : Local defaultValue := by
  unfold defaultValue
  infer_instance

/-! Definitions. -/

instance local_operation : Local operation := by
  unfold operation
  infer_instance

instance local_rootType : Local rootType := by
  unfold rootType
  infer_instance

instance local_interfaces : Local interfaces := by
  unfold interfaces
  infer_instance

instance local_inputValue : Local inputValue := by
  unfold inputValue
  infer_instance

instance local_argumentDefinitions : Local argumentDefinitions := local_optionalMany

instance local_field : Local field := by
  unfold field
  infer_instance

instance local_fields : Local fields := local_optionalMany

instance local_inputFields : Local inputFields := local_optionalMany

instance local_members : Local members := by
  unfold members
  infer_instance

instance local_enumValue : Local enumValue := by
  unfold enumValue
  infer_instance

instance local_enumValues : Local enumValues := local_optionalMany

instance local_location : Local location := by
  unfold location
  infer_instance

instance local_objectType {word : String} : Local (objectType word) := by
  unfold objectType
  infer_instance

instance local_inputType : Local inputType := by
  unfold inputType
  infer_instance

instance local_schemaDefinition : Local schemaDefinition := by
  unfold schemaDefinition
  infer_instance

instance local_scalarDefinition : Local scalarDefinition := by
  unfold scalarDefinition
  infer_instance

instance local_unionDefinition : Local unionDefinition := by
  unfold unionDefinition
  infer_instance

instance local_enumDefinition : Local enumDefinition := by
  unfold enumDefinition
  infer_instance

instance local_directiveDefinition : Local directiveDefinition := by
  unfold directiveDefinition
  infer_instance

instance local_adding {nothing : Bool} {extension : Extension} : Local (adding nothing extension) := by
  unfold adding
  infer_instance

instance local_schemaExtension : Local schemaExtension := by
  unfold schemaExtension
  infer_instance

instance local_scalarExtension : Local scalarExtension := by
  unfold scalarExtension
  infer_instance

instance local_objectExtension
    {make : String → List String → List Directive → List Field → Extension} :
    Local (objectExtension make) := by
  unfold objectExtension
  infer_instance

instance local_unionExtension : Local unionExtension := by
  unfold unionExtension
  infer_instance

instance local_enumExtension : Local enumExtension := by
  unfold enumExtension
  infer_instance

instance local_inputExtension : Local inputExtension := by
  unfold inputExtension
  infer_instance

instance local_directiveExtension : Local directiveExtension := by
  unfold directiveExtension
  infer_instance

end DeclSchema.Schema.Reading
