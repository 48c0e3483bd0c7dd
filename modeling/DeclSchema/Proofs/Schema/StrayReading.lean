import DeclSchema.Proofs.Schema.JoinedDocuments
import DeclSchema.Proofs.Schema.Spelling
import DeclSchema.Proofs.Schema.StrayTexts
import DeclSchema.Schema.Printer

/-!
Reading of names that are none. Where one stands for a name of a definition, a field, a type or a
value, the rules fail, or they stop in front of a stray token, and then nothing is read any more.
-/

namespace DeclSchema.Schema.Reading

variable {α β : Type}

/-! What rules leave behind. -/

-- Whatever the rule makes of the tokens, those that it leaves have the property.
def Leaves (rule : Reading α) (tokens : List Token) (property : List Token → Prop) : Prop :=
  ∀ a rest, rule.run tokens = .ok (a, rest) → property rest

def Refuses (rule : Reading α) (tokens : List Token) : Prop := Leaves rule tokens fun _ => False

variable {tokens middle : List Token} {property other : List Token → Prop}

theorem leaves_refused {rule : Reading α} (refuses : Refuses rule tokens) :
    Leaves rule tokens property :=
  fun a rest done => (refuses a rest done).elim

theorem leaves_imp {rule : Reading α} (leaves : Leaves rule tokens other)
    (implies : ∀ rest, other rest → property rest) : Leaves rule tokens property :=
  fun a rest done => implies rest (leaves a rest done)

theorem leaves_pure {a : α} (holds : property tokens) : Leaves (pure a) tokens property := by
  intro b rest done
  cases done
  exact holds

theorem leaves_bind {x : Reading α} {f : α → Reading β} (first : Leaves x tokens other)
    (second : ∀ a middle, other middle → Leaves (f a) middle property) :
    Leaves (x >>= f) tokens property := by
  intro b rest done
  obtain ⟨a, middle, begun, ended⟩ := bind_run_ok done
  exact second a middle (first a middle begun) b rest ended

theorem leaves_along {x : Reading α} {f : α → Reading β} (first : Leaves x tokens (· = middle))
    (second : ∀ a, Leaves (f a) middle property) : Leaves (x >>= f) tokens property :=
  leaves_bind first fun a _ same => same ▸ second a

theorem leaves_step {x : Reading α} {f : α → Reading β} {a : α}
    (done : x.run tokens = .ok (a, middle)) (next : Leaves (f a) middle property) :
    Leaves (x >>= f) tokens property := by
  intro b rest ended
  rw [run_step done] at ended
  exact next b rest ended

theorem refuses_bind {x : Reading α} {f : α → Reading β} (refuses : Refuses x tokens) :
    Refuses (x >>= f) tokens :=
  leaves_bind refuses fun _ _ none => none.elim

theorem refuses_fail (fault : Fault) : Refuses (fail fault : Reading α) tokens :=
  fun _ _ done => nomatch done

/-! Single steps. -/

theorem advance_leaves (token : Token) (rest : List Token) :
    Leaves advance (token :: rest) (· = rest) := by
  intro _ later done
  exact advance_moved done

theorem name_leaves (word : String) (rest : List Token) :
    Leaves name (.name word :: rest) (· = rest) :=
  leaves_bind (x := advance) (advance_leaves _ _) fun _ _ same => leaves_pure same

theorem name_refuses (none : ∀ word, tokens.head? ≠ some (.name word)) : Refuses name tokens := by
  intro word rest done
  cases tokens with
  | nil => cases done
  | cons token later =>
    cases token with
    | name text => exact none text rfl
    | _ => cases done

theorem expect_leaves (symbol : Symbol) (rest : List Token) :
    Leaves (expect symbol) (.symbol symbol :: rest) (· = rest) := by
  intro _ later done
  have read : (if some (Token.symbol symbol) = some (.symbol symbol) then advance
      else fail (.expected (.symbol symbol) (some (.symbol symbol)))).run (.symbol symbol :: rest) =
      .ok ((), later) := done
  rw [if_pos rfl] at read
  exact advance_moved read

theorem expect_refuses {symbol : Symbol} (other : tokens.head? ≠ some (.symbol symbol)) :
    Refuses (expect symbol) tokens := by
  intro _ rest done
  have read : (if tokens.head? = some (.symbol symbol) then advance
      else fail (.expected (.symbol symbol) tokens.head?)).run tokens = .ok ((), rest) := done
  rw [if_neg other] at read
  cases read

theorem accept_leaves (symbol : Symbol) (rest : List Token) :
    Leaves (accept symbol) (.symbol symbol :: rest) (· = rest) := by
  refine leaves_step (isNext_run symbol _) ?_
  rw [List.head?_cons, decide_eq_true rfl, if_pos rfl]
  exact leaves_bind (advance_leaves _ _) fun _ _ same => leaves_pure same

theorem keyword_leaves (word : String) (rest : List Token) :
    Leaves (keyword word) (.name word :: rest) (· = rest) := by
  intro _ later done
  have read : (if some (Token.name word) = some (.name word) then advance
      else fail (.expected (.keyword word) (some (.name word)))).run (.name word :: rest) =
      .ok ((), later) := done
  rw [if_pos rfl] at read
  exact advance_moved read

section Astray

variable (astray : Astray tokens)

include astray

theorem astray_symbol {symbol : Symbol} (proper : (Token.symbol symbol).isStray = false) :
    tokens.head? ≠ some (.symbol symbol) := by
  intro next
  cases tokens with
  | nil => cases next
  | cons token later =>
    cases next
    rw [Astray, proper] at astray
    cases astray

theorem astray_name (word : String) : tokens.head? ≠ some (.name word) := by
  intro next
  cases tokens with
  | nil => cases next
  | cons token later =>
    cases next
    cases astray

theorem astray_undescribed : quotation?.run tokens = .ok (none, tokens) := by
  cases tokens with
  | nil => cases astray
  | cons token later =>
    cases token with
    | string value => cases astray
    | block value => cases astray
    | _ => rfl

end Astray

/-! Types. -/

theorem nonNullMark_astray {type : TypeRef} (astray : Astray tokens) :
    Leaves (nonNullMark type) tokens (· = tokens) :=
  leaves_step (accept_miss (astray_symbol astray rfl)) (leaves_pure rfl)

theorem nonNullMark_leaves {rest : List Token} (type : TypeRef) :
    Leaves (nonNullMark type) (.symbol .bang :: rest) (· = rest) := by
  refine leaves_bind (accept_leaves .bang rest) fun marked _ same => ?_
  cases marked with
  | true => exact leaves_pure same
  | false => exact leaves_pure same

theorem named_leaves (other : tokens.head? ≠ some (.symbol .openBracket)) (depth : Nat)
    (next : Leaves (do nonNullMark (.named (← name))) tokens property) :
    Leaves (typeRef depth) tokens property := by
  rw [typeRef.eq_def]
  refine leaves_step (isNext_run _ _) ?_
  rwa [decide_eq_false other, if_neg Bool.false_ne_true]

theorem bracket_leaves (inner : ∀ depth, Leaves (typeRef depth) tokens other)
    (next : ∀ element left, other left →
      Leaves (do expect .closeBracket; nonNullMark (.list element)) left property) (depth : Nat) :
    Leaves (typeRef depth) (.symbol .openBracket :: tokens) property := by
  cases depth with
  | zero =>
    intro type left done
    rw [typeRef_deep] at done
    cases done
  | succ depth =>
    rw [typeRef.eq_def]
    refine leaves_step (isNext_run _ _) ?_
    rw [List.head?_cons, decide_eq_true rfl, if_pos rfl]
    refine leaves_along (expect_leaves _ _) fun _ => ?_
    exact leaves_bind (inner depth) next

theorem type_strays {type : TypeRef} (lone : isLone type.baseName = true)
    (illegible : isName type.baseName = false) (first : type.baseName.toList.head? ≠ some '[')
    (depth : Nat) (rest : Points) :
    Leaves (typeRef depth) (Schema.tokens (type.print ++ rest)) Astray := by
  induction type generalizing depth rest with
  | named name =>
    have unlisted : (Schema.tokens (name ++ rest)).head? ≠ some (.symbol .openBracket) :=
      lone_bracket lone first rest
    have wanders : Wanders (Schema.tokens (name ++ rest)) := lone_wanders lone illegible rest
    rw [TypeRef.print]
    refine named_leaves unlisted depth ?_
    rcases wanders with astray | ⟨word, more, shape, astray⟩
    · exact leaves_refused (refuses_bind (name_refuses (astray_name astray)))
    · rw [shape]
      refine leaves_along (name_leaves word more) fun _ => ?_
      exact leaves_imp (nonNullMark_astray astray) fun _ same => same ▸ astray
  | list element ih =>
    have text : Schema.tokens ((TypeRef.list element).print ++ rest) =
        .symbol .openBracket :: Schema.tokens (element.print ++ .char ']' :: rest) := by
      rw [TypeRef.print, Points.of_append, Points.of_append, List.append_assoc, List.append_assoc]
      exact tokens_symbol (by rfl : symbol? '[' = some .openBracket) _
    rw [text]
    refine bracket_leaves (fun depth => ih lone illegible first depth (.char ']' :: rest)) ?_ depth
    intro _ _ astray
    exact leaves_refused (refuses_bind (expect_refuses (astray_symbol astray rfl)))
  | nonNull type ih =>
    have text : (TypeRef.nonNull type).print ++ rest = type.print ++ .char '!' :: rest := by
      rw [TypeRef.print, Points.of_append, List.append_assoc]
      rfl
    rw [text]
    exact ih lone illegible first depth _

-- A proper type is read to its end, also in front of a stray token.
theorem type_leaves {type : TypeRef} (proper : type.isProper = true) (depth : Nat)
    (rest : List Token) :
    (type.isMarked = false → ∀ {property : List Token → Prop},
      (∀ marked, Leaves (nonNullMark marked) rest property) →
      Leaves (typeRef depth) (type.tokens ++ rest) property) ∧
    (rest.head? ≠ some (.symbol .bang) → Leaves (typeRef depth) (type.tokens ++ rest) (· = rest)) := by
  have unmarked {type : TypeRef} {depth : Nat} {rest : List Token}
      (read : ∀ {property : List Token → Prop}, (∀ marked, Leaves (nonNullMark marked) rest property) →
        Leaves (typeRef depth) (type.tokens ++ rest) property)
      (other : rest.head? ≠ some (.symbol .bang)) :
      Leaves (typeRef depth) (type.tokens ++ rest) (· = rest) :=
    read fun _ => leaves_step (accept_miss other) (leaves_pure rfl)
  induction type generalizing depth rest with
  | named name =>
    have read : ∀ {property : List Token → Prop}, (∀ marked, Leaves (nonNullMark marked) rest property) →
        Leaves (typeRef depth) ((TypeRef.named name).tokens ++ rest) property := by
      intro property marks
      refine named_leaves (by simp [TypeRef.tokens]) depth ?_
      exact leaves_along (name_leaves name rest) fun _ => marks _
    exact ⟨fun _ => read, unmarked read⟩
  | list element ih =>
    have read : ∀ {property : List Token → Prop}, (∀ marked, Leaves (nonNullMark marked) rest property) →
        Leaves (typeRef depth) ((TypeRef.list element).tokens ++ rest) property := by
      intro property marks
      have shape : (TypeRef.list element).tokens ++ rest =
          .symbol .openBracket :: (element.tokens ++ .symbol .closeBracket :: rest) := by
        simp [TypeRef.tokens]
      rw [shape]
      refine bracket_leaves
        (fun depth => (ih proper depth (.symbol .closeBracket :: rest)).2 (by simp)) ?_ depth
      rintro _ _ rfl
      exact leaves_along (expect_leaves _ _) fun _ => marks _
    exact ⟨fun _ => read, unmarked read⟩
  | nonNull type ih =>
    refine ⟨fun bare => absurd bare Bool.true_eq_false.mp, fun _ => ?_⟩
    simp only [TypeRef.isProper, Bool.and_eq_true, Bool.not_eq_true'] at proper
    rw [TypeRef.tokens, List.append_assoc, List.singleton_append]
    exact (ih proper.2 depth (.symbol .bang :: rest)).1 proper.1 nonNullMark_leaves

/-! Fields and values. -/

-- What can stand in front of an item that has no description.
def Begins (tokens : List Token) : Prop := Astray tokens ∨ ∃ word more, tokens = .name word :: more

theorem begins_wanders (wanders : Wanders tokens) : Begins tokens := by
  rcases wanders with astray | ⟨word, more, shape, _⟩
  · exact .inl astray
  · exact .inr ⟨word, more, shape⟩

theorem begins_symbol (begins : Begins tokens) {symbol : Symbol}
    (proper : (Token.symbol symbol).isStray = false) : tokens.head? ≠ some (.symbol symbol) := by
  rcases begins with astray | ⟨word, more, rfl⟩
  · exact astray_symbol astray proper
  · simp

-- Items that are read to their end, wherever they stand.
structure Stays (item : Reading α) (text : Points) (form : List Token) : Prop where
  scans : Scans text form
  named : ∃ word more, form = .name word :: more
  leaves : ∀ rest, Begins rest → Leaves item (form ++ rest) (· = rest)

-- Items that are not read to their end.
structure Strays (item : Reading α) (text : Points) : Prop where
  begins : ∀ rest, Begins (Schema.tokens (text ++ rest))
  leaves : ∀ rest, Leaves item (Schema.tokens (text ++ rest)) Astray

theorem field_refuses (astray : Astray tokens) : Refuses field tokens :=
  leaves_step (astray_undescribed astray) (refuses_bind (name_refuses (astray_name astray)))

theorem enumValue_refuses (astray : Astray tokens) : Refuses enumValue tokens := by
  refine leaves_step (astray_undescribed astray) (leaves_step (peek_run tokens) ?_)
  split
  · exact refuses_fail _
  · exact refuses_bind (name_refuses (astray_name astray))

theorem field_strays {name : String} {type : TypeRef} (nameLone : isLone name = true)
    (typeLone : isLone type.baseName = true) (first : type.baseName.toList.head? ≠ some '[')
    (illegible : isName name = false ∨ isName type.baseName = false) :
    Strays field (Points.of (name ++ ": " ++ type.print)) := by
  have text (rest : Points) : Points.of (name ++ ": " ++ type.print) ++ rest =
      Points.of name ++ .char ':' :: .char ' ' :: (Points.of type.print ++ rest) := by
    rw [Points.of_append, Points.of_append, List.append_assoc, List.append_assoc]
    rfl
  cases named : isName name with
  | false =>
    have wanders (rest : Points) :=
      lone_wanders nameLone named (.char ':' :: .char ' ' :: (Points.of type.print ++ rest))
    refine ⟨fun rest => text rest ▸ begins_wanders (wanders rest), fun rest => ?_⟩
    rw [text]
    rcases wanders rest with astray | ⟨word, more, shape, astray⟩
    · exact leaves_refused (field_refuses astray)
    · rw [shape]
      refine leaves_step (quotation_none word more) ?_
      refine leaves_along (name_leaves word more) fun _ => ?_
      refine leaves_step (optionalMany_none (astray_symbol astray rfl)) ?_
      exact leaves_refused (refuses_bind (expect_refuses (astray_symbol astray rfl)))
  | true =>
    have typed := illegible.resolve_left (by rw [named]; exact Bool.true_eq_false.mp)
    have scanned (rest : Points) :
        Schema.tokens (Points.of (name ++ ": " ++ type.print) ++ rest) =
          .name name :: .symbol .colon :: Schema.tokens (Points.of type.print ++ rest) := by
      rw [text, tokens_name named (delimited_cons (by decide) _),
        tokens_symbol (by rfl : symbol? ':' = some .colon), tokens_space]
    refine ⟨fun rest => .inr ⟨name, _, scanned rest⟩, fun rest => ?_⟩
    rw [scanned]
    refine leaves_step (quotation_none _ _) ?_
    refine leaves_along (name_leaves _ _) fun _ => ?_
    refine leaves_step (optionalMany_none (by simp)) ?_
    refine leaves_along (expect_leaves _ _) fun _ => ?_
    refine leaves_bind (type_strays typeLone typed first _ rest) fun _ _ astray => ?_
    exact leaves_step (directives_none (astray_symbol astray rfl)) (leaves_pure astray)

theorem field_leaves (name : String) {type : TypeRef} (proper : type.Proper) {rest : List Token}
    (begins : Begins rest) :
    Leaves field ((⟨none, name, [], type, []⟩ : Field).tokens ++ rest) (· = rest) := by
  have shape : (⟨none, name, [], type, []⟩ : Field).tokens ++ rest =
      .name name :: .symbol .colon :: (type.tokens ++ rest) := by
    simp [Field.tokens, enclosed]
  rw [shape]
  refine leaves_step (quotation_none _ _) ?_
  refine leaves_along (name_leaves _ _) fun _ => ?_
  refine leaves_step (optionalMany_none (by simp)) ?_
  refine leaves_along (expect_leaves _ _) fun _ => ?_
  refine leaves_along ((type_leaves proper maxDepth rest).2 (begins_symbol begins rfl)) fun _ => ?_
  exact leaves_step (directives_none (begins_symbol begins rfl)) (leaves_pure rfl)

theorem enumValue_strays {name : String} (lone : isLone name = true) (illegible : isName name = false) :
    Strays enumValue name := by
  refine ⟨fun rest => begins_wanders (lone_wanders lone illegible rest), fun rest => ?_⟩
  rcases lone_wanders lone illegible rest with astray | ⟨word, more, shape, astray⟩
  · exact leaves_refused (enumValue_refuses astray)
  · rw [shape]
    refine leaves_step (quotation_none word more) (leaves_step (peek_run _) ?_)
    split
    · exact leaves_refused (refuses_fail _)
    · refine leaves_along (name_leaves word more) fun _ => ?_
      exact leaves_step (directives_none (astray_symbol astray rfl)) (leaves_pure astray)

theorem enumValue_stays {name : String} (named : isName name = true) :
    Stays enumValue name [.name name] := by
  refine ⟨(spells_name named).toScans, ⟨name, [], rfl⟩, fun rest begins => ?_⟩
  rw [List.singleton_append]
  refine leaves_step (quotation_none name rest) (leaves_step (peek_run _) ?_)
  split
  · exact leaves_refused (refuses_fail _)
  · refine leaves_along (name_leaves name rest) fun _ => ?_
    exact leaves_step (directives_none (begins_symbol begins rfl)) (leaves_pure rfl)

/-! Rows of items. -/

section Rows

variable {item : Reading α} {opening closing : Symbol}
  (closes : (Token.symbol closing).isStray = false)

include closes

theorem itemsWithin_next {tokens : List Token} (begins : Begins tokens)
    (next : Leaves item tokens fun left => ∀ steps, Refuses (itemsWithin closing item steps) left)
    (steps : Nat) : Refuses (itemsWithin closing item steps) tokens := by
  cases steps with
  | zero => exact leaves_step (peek_run tokens) (refuses_fail _)
  | succ steps =>
    refine leaves_step (accept_miss (begins_symbol begins closes)) ?_
    rw [if_neg Bool.false_ne_true]
    exact leaves_bind next fun _ _ stuck => refuses_bind (stuck steps)

variable (refuses : ∀ tokens, Astray tokens → Refuses item tokens)

include refuses

theorem itemsWithin_astray {tokens : List Token} (astray : Astray tokens) (steps : Nat) :
    Refuses (itemsWithin closing item steps) tokens :=
  itemsWithin_next closes (.inl astray) (leaves_refused (refuses tokens astray)) steps

-- When the first item of a row has been read, an item that strays keeps the others from it.
theorem row_leaves {first : Points} {others : List Points} {separator : String}
    (blank : separator.toList.all isIgnored = true) (present : separator ≠ "")
    (each : ∀ text ∈ first :: others, (∃ form, Stays item text form) ∨ Strays item text)
    (some : ∃ text ∈ first :: others, Strays item text) (rest : Points) :
    Begins (Schema.tokens ((Points.of separator).intercalate (first :: others) ++ rest)) ∧
    Leaves item (Schema.tokens ((Points.of separator).intercalate (first :: others) ++ rest))
      fun left => ∀ steps, Refuses (itemsWithin closing item steps) left := by
  -- Where an item strays, it does not matter what stands behind it.
  have stuck {text : Points} (strays : Strays item text) (rest : Points) :
      Leaves item (Schema.tokens (text ++ rest))
        fun left => ∀ steps, Refuses (itemsWithin closing item steps) left :=
    leaves_imp (strays.leaves rest) fun _ astray => itemsWithin_astray closes refuses astray
  induction others generalizing first with
  | nil =>
    obtain ⟨_, listed, strays⟩ := some
    cases List.mem_singleton.mp listed
    rw [List.intercalate_singleton]
    exact ⟨strays.begins rest, stuck strays rest⟩
  | cons next others ih =>
    obtain ⟨own, later⟩ := List.forall_mem_cons.mp each
    have tail := ih later
    generalize row : (Points.of separator).intercalate (next :: others) ++ rest = more at tail
    have split : (Points.of separator).intercalate (first :: next :: others) ++ rest =
        first ++ (Points.of separator ++ more) := by
      rw [List.intercalate_cons_cons, ← row, List.append_assoc, List.append_assoc]
    rw [split]
    obtain ⟨text, listed, straying⟩ := some
    rcases List.mem_cons.mp listed with rfl | behind
    · exact ⟨straying.begins _, stuck straying _⟩
    · rcases own with ⟨form, stays⟩ | strays
      · obtain ⟨begins, leaves⟩ := tail ⟨text, behind, straying⟩
        obtain ⟨word, words, named⟩ := stays.named
        rw [stays.scans.scan _ (delimited_blank present blank more), tokens_blanks blank]
        refine ⟨.inr ⟨word, words ++ Schema.tokens more, by rw [named, List.cons_append]⟩, ?_⟩
        refine leaves_imp (stays.leaves _ begins) fun _ same => ?_
        subst same
        exact itemsWithin_next closes begins leaves
      · exact ⟨strays.begins _, stuck strays _⟩

theorem body_refuses {row : List Points} {separator : String}
    (blank : separator.toList.all isIgnored = true) (present : separator ≠ "")
    (each : ∀ text ∈ row, (∃ form, Stays item text form) ∨ Strays item text)
    (some : ∃ text ∈ row, Strays item text) (rest : Points) :
    Refuses (optionalMany opening closing item) (.symbol opening ::
      Schema.tokens ((Points.of separator).intercalate row ++ rest)) := by
  obtain ⟨first, others, rfl⟩ : ∃ first others, row = first :: others := by
    obtain ⟨text, listed, _⟩ := some
    exact List.exists_cons_of_ne_nil (List.ne_nil_of_mem listed)
  obtain ⟨_, leaves⟩ := row_leaves closes refuses blank present each some rest
  refine leaves_step (isNext_run opening _) ?_
  rw [List.head?_cons, decide_eq_true rfl, if_pos rfl]
  refine leaves_along (expect_leaves opening _) fun _ => ?_
  refine leaves_bind leaves fun _ left stuck => refuses_bind ?_
  exact leaves_step (get_run left) (stuck _)

end Rows

end DeclSchema.Schema.Reading
