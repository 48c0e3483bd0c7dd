import DeclSchema.Conversion
import DeclSchema.Proofs.Source.Faults

/-!
How a conversion ends. It gives a result, or it fails because the source is unreadable, because
nothing in it is defined or because the schema is invalid; and where it ends in any other way, a
literal of the source is to blame.
-/

namespace DeclSchema

open Source

inductive Ends (source : String) : Except Stop Conversion → Prop where
  | converted (conversion : Conversion) : Ends source (.ok conversion)
  | unreadable (message : String) (line column : Int) :
      Ends source (.error (.failure (.source message line column)))
  | nothing (message : String) : Ends source (.error (.failure (.nothing message)))
  | invalid (message text : Points) : Ends source (.error (.failure (.schema message text)))
  | literal {fault : Fault} : (Grammar.parse source.toList).Explains fault →
      Ends source (.error (.fault fault))

-- The stages of a conversion, without their records.
theorem convert_outcome (finish : Finish) (source : String) :
    (convert finish source).outcome = do
      let declarations ← (readSource source).outcome.mapError Stop.ofRejection
      let extraction ← (extract declarations).outcome.mapError Stop.failure
      let document ← (readSchema extraction.schemaText).mapError Stop.failure
      return (extraction.complete finish document).value := by
  simp only [convert, Traced.bind_outcome]
  rfl

theorem ends_bind {source : String} {ε α : Type} {x : Except ε α} {stop : ε → Stop}
    {f : α → Except Stop Conversion}
    (failing : ∀ cause, x = .error cause → Ends source (.error (stop cause)))
    (going : ∀ a, Ends source (f a)) : Ends source (x.mapError stop >>= f) := by
  cases x with
  | error cause => exact failing cause rfl
  | ok a => exact going a

theorem extract_fails {declarations : List Declaration} {failure : Failure}
    (failed : (extract declarations).outcome = .error failure) : failure = .noDefinitions := by
  unfold extract at failed
  rw [Traced.bind_outcome] at failed
  change (if _ then _ else _ : Traced _ _).outcome = _ at failed
  split at failed
  · cases failed
    rfl
  · cases failed

theorem readSchema_fails {text : Points} {failure : Failure}
    (failed : readSchema text = .error failure) :
    ∃ message, failure = .schema message text := by
  unfold readSchema at failed
  split at failed
  · cases failed
  · cases failed
    exact ⟨_, rfl⟩

-- Argument lists are kept under names that the table takes.
theorem args_accepted {declaration : Declaration} {name : String}
    (kept : declaration.lower.value.argsName = some name) (table : ArgsTable) (arguments : String) :
    ∃ next, table.add name arguments = .ok next := by
  have isArgs : isArgsName name = true := by
    cases declaration with
    | embedded tag text =>
      simp only [Declaration.lower] at kept
      split at kept <;> cases kept
    | enumeration title members => cases kept
    | typeAlias title shape parameters =>
      simp only [Declaration.lower] at kept
      split at kept
      · cases kept
      rw [Logged.bind_value] at kept
      split at kept
      next args =>
        cases kept
        exact args
      next => cases kept
  exact ⟨_, by rw [ArgsTable.add, if_pos isArgs]⟩

theorem convert_ends (finish : Finish) (source : String) :
    Ends source (convert finish source).outcome ∧
      ∀ (declaration : Declaration) (name : String),
        declaration.lower.value.argsName = some name → ∀ (table : ArgsTable) (arguments : String),
          ∃ next, table.add name arguments = .ok next := by
  refine ⟨?_, fun declaration name kept => args_accepted kept⟩
  rw [convert_outcome]
  refine ends_bind ?_ fun declarations => ends_bind ?_ fun extraction => ends_bind ?_ fun document => ?_
  · intro rejection rejected
    rcases readSource_explained source rejected with ⟨text, line, column, rfl⟩ | ⟨fault, rfl, explained⟩
    · exact .unreadable _ _ _
    · exact .literal explained
  · intro failure failed
    rw [extract_fails failed]
    exact .nothing _
  · intro failure failed
    obtain ⟨message, rfl⟩ := readSchema_fails failed
    exact .invalid _ _
  · exact .converted _

def stopsWith (stop : Stop) (outcome : Except Stop Conversion) : Bool :=
  match outcome with
  | .error found => found = stop
  | .ok _ => false

theorem stopsWith_error {stop : Stop} {outcome : Except Stop Conversion}
    (stops : stopsWith stop outcome = true) : outcome = .error stop := by
  cases outcome with
  | error found => rw [of_decide_eq_true stops]
  | ok _ => cases stops

-- A number on the line behind its sign, and an escape behind the last character.
theorem valueless_literals :
    (convert .none "type A = \x7b a: -\n5 \x7d;").outcome =
        .error (.fault (.notNumeral "-\n5".toList)) ∧
      (convert .none "const t = gql`\\u\x7b110000\x7d`;").outcome =
        .error (.fault (.noCharacter 0x110000)) := by
  constructor
  · apply stopsWith_error
    decide +kernel
  · apply stopsWith_error
    decide +kernel

end DeclSchema
