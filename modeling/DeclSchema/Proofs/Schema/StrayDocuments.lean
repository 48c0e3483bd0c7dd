import DeclSchema.Proofs.Schema.StrayReading

/-!
Definitions with names that are none. One whose own name is not read to its end leaves a stray
token, one with such a name in its body is refused, and either way no document is read.
-/

namespace DeclSchema.Schema.Reading

variable {α β : Type} {tokens : List Token}

/-! Definitions. -/

section Headed

variable {word : String} {body : Option Quotation → String → Reading α}

theorem headed_strays {name : String} (lone : isLone name = true) (illegible : isName name = false)
    (bare : ∀ description text tokens, Astray tokens → Leaves (body description text) tokens Astray)
    (rest : Points) :
    Leaves (do
      let description ← quotation?
      keyword word
      let definitionName ← Reading.name
      body description definitionName) (.name word :: Schema.tokens (Points.of name ++ rest)) Astray := by
  refine leaves_step (quotation_none _ _) ?_
  refine leaves_along (keyword_leaves word _) fun _ => ?_
  rcases lone_wanders lone illegible rest with astray | ⟨text, more, shape, astray⟩
  · exact leaves_refused (refuses_bind (name_refuses (astray_name astray)))
  · rw [shape]
    refine leaves_along (name_leaves text more) fun _ => ?_
    exact bare _ _ _ astray

theorem headed_refuses {tokens : List Token}
    (refuses : ∀ description text, Refuses (body description text) tokens) (name : String) :
    Refuses (do
      let description ← quotation?
      keyword word
      let definitionName ← Reading.name
      body description definitionName) (.name word :: .name name :: tokens) := by
  refine leaves_step (quotation_none _ _) ?_
  refine leaves_along (keyword_leaves word _) fun _ => ?_
  refine leaves_along (name_leaves name tokens) fun _ => ?_
  exact refuses _ _

end Headed

theorem bodyless_astray {opening closing : Symbol} {item : Reading α}
    (opens : (Token.symbol opening).isStray = false) (astray : Astray tokens) {f : List α → β} :
    Leaves (do return f (← optionalMany opening closing item)) tokens Astray :=
  leaves_step (optionalMany_none (astray_symbol astray opens)) (leaves_pure astray)

section Named

variable {name : String} (lone : isLone name = true) (illegible : isName name = false)
  (rest : Points)

include lone illegible

theorem scalar_strays :
    Leaves definition (.name "scalar" :: Schema.tokens (Points.of name ++ rest)) Astray := by
  unfold Leaves
  rw [definition_rule (by rfl : definitionRule? "scalar" = some scalarDefinition)]
  refine headed_strays lone illegible (fun _ _ _ astray => ?_) rest
  exact leaves_step (directives_none (astray_symbol astray rfl)) (leaves_pure astray)

theorem enum_strays :
    Leaves definition (.name "enum" :: Schema.tokens (Points.of name ++ rest)) Astray := by
  unfold Leaves
  rw [definition_rule (by rfl : definitionRule? "enum" = some enumDefinition)]
  refine headed_strays lone illegible (fun _ _ _ astray => ?_) rest
  refine leaves_step (directives_none (astray_symbol astray rfl)) ?_
  exact bodyless_astray rfl astray

theorem object_strays :
    Leaves definition (.name "type" :: Schema.tokens (Points.of name ++ rest)) Astray := by
  unfold Leaves
  rw [definition_rule (by rfl : definitionRule? "type" =
    some (do return .object (← objectType "type")))]
  refine leaves_bind (headed_strays lone illegible (fun _ _ _ astray => ?_) rest)
    fun _ _ astray => leaves_pure astray
  refine leaves_step (interfaces_none (astray_name astray _)) ?_
  refine leaves_step (directives_none (astray_symbol astray rfl)) ?_
  exact bodyless_astray rfl astray

end Named

-- A body in which an item strays.
section Bodies

variable {row : List Points} {separator : String} (blank : separator.toList.all isIgnored = true)
  (present : separator ≠ "") (name : String) (rest : Points)

include blank present

theorem enum_refuses
    (each : ∀ text ∈ row, (∃ form, Stays enumValue text form) ∨ Strays enumValue text)
    (some : ∃ text ∈ row, Strays enumValue text) :
    Refuses definition (.name "enum" :: .name name :: .symbol .openBrace ::
      Schema.tokens ((Points.of separator).intercalate row ++ rest)) := by
  unfold Refuses Leaves
  rw [definition_rule (by rfl : definitionRule? "enum" = Option.some enumDefinition)]
  refine headed_refuses (fun _ _ => ?_) name
  refine leaves_step (directives_none (by simp)) ?_
  exact refuses_bind
    (body_refuses rfl (fun _ astray => enumValue_refuses astray) blank present each some rest)

theorem object_refuses
    (each : ∀ text ∈ row, (∃ form, Stays field text form) ∨ Strays field text)
    (some : ∃ text ∈ row, Strays field text) :
    Refuses definition (.name "type" :: .name name :: .symbol .openBrace ::
      Schema.tokens ((Points.of separator).intercalate row ++ rest)) := by
  unfold Refuses Leaves
  rw [definition_rule (by rfl : definitionRule? "type" =
    Option.some (do return .object (← objectType "type")))]
  refine refuses_bind (headed_refuses (fun _ _ => ?_) name)
  refine leaves_step (interfaces_none (by simp)) (leaves_step (directives_none (by simp)) ?_)
  exact refuses_bind
    (body_refuses rfl (fun _ astray => field_refuses astray) blank present each some rest)

end Bodies

/-! Rows of definitions. -/

theorem definition_refuses (astray : Astray tokens) : Refuses definition tokens := by
  cases tokens with
  | nil => cases astray
  | cons token later =>
    have quoted : isDescription (some token) = false := by
      cases token with
      | string value => cases astray
      | block value => cases astray
      | _ => rfl
    unfold Refuses Leaves
    rw [definition_plain quoted]
    split
    · rename_i same
      cases same
      cases astray
    · rename_i word same
      cases same
      cases astray
    · exact refuses_fail _

-- No number of definitions can be read to the end.
def Stuck (tokens : List Token) : Prop := ∀ steps, Refuses (definitionsWithin steps) tokens

theorem stuck_next {token : Token} {later : List Token}
    (next : Leaves definition (token :: later) Stuck) : Stuck (token :: later) := by
  intro steps
  cases steps with
  | zero => exact leaves_step (peek_run _) (refuses_fail _)
  | succ steps =>
    refine leaves_step (peek_run _) ?_
    rw [if_neg (by simp)]
    exact leaves_bind next fun _ _ stuck => refuses_bind (stuck steps)

theorem stuck_astray (astray : Astray tokens) : Stuck tokens := by
  cases tokens with
  | nil => cases astray
  | cons token later => exact stuck_next (leaves_refused (definition_refuses astray))

theorem stuck_strays {token : Token} {later : List Token}
    (strays : Leaves definition (token :: later) Astray) : Stuck (token :: later) :=
  stuck_next (leaves_imp strays fun _ astray => stuck_astray astray)

theorem between_behind {definitions : List Definition}
    (plain : ∀ definition ∈ definitions, definition.Plain TypeRef.Proper) {rest : List Token}
    (between : Between rest) : Between (definitions.flatMap Definition.tokens ++ rest) := by
  cases definitions with
  | nil => exact between
  | cons first others =>
    obtain ⟨word, more, shape, other⟩ := definition_start (plain first List.mem_cons_self)
      (others.flatMap Definition.tokens ++ rest)
    rw [List.flatMap_cons, List.append_assoc, shape]
    exact other

theorem stuck_behind {definitions : List Definition}
    (plain : ∀ definition ∈ definitions, definition.Plain TypeRef.Proper) {rest : List Token}
    (between : Between rest) (stuck : Stuck rest) :
    Stuck (definitions.flatMap Definition.tokens ++ rest) := by
  induction definitions with
  | nil => exact stuck
  | cons first others ih =>
    obtain ⟨head, tail⟩ := List.forall_mem_cons.mp plain
    have read := definition_read head (between_behind tail between)
    obtain ⟨word, more, shape, _⟩ :=
      definition_start head (others.flatMap Definition.tokens ++ rest)
    rw [List.flatMap_cons, List.append_assoc]
    rw [shape] at read ⊢
    refine stuck_next fun _ left done => ?_
    rw [read, within] at done
    split at done
    · cases done
      exact ih tail
    · cases done

theorem stuck_document (stuck : Stuck tokens) : Refuses document tokens := by
  intro whole rest done
  unfold document at done
  obtain ⟨first, middle, read, done⟩ := bind_run_ok done
  rw [run_step (get_run middle)] at done
  obtain ⟨others, last, more, _⟩ := bind_run_ok done
  cases tokens with
  | nil => cases read
  | cons token later =>
    refine stuck (middle.length + 1 + 1) (first :: others) last ?_
    rw [definitionsWithin, run_step (peek_run _), if_neg (by simp), run_step read, run_step more]
    rfl

end DeclSchema.Schema.Reading
