import DeclSchema.Proofs.Schema.Scanning
import DeclSchema.Schema.Reading.Definitions

/-!
Definitions without descriptions, directives, interfaces and default values, and the tokens that
any text of them has. Of their types it is left open what they are to be like.
-/

namespace DeclSchema.Schema

/-! Types. -/

-- Lists inside one another.
def TypeRef.depth : TypeRef → Nat
  | named _ => 0
  | list element => element.depth + 1
  | nonNull type => type.depth

def TypeRef.isMarked : TypeRef → Bool
  | nonNull _ => true
  | _ => false

-- What can be written: a name at the bottom, and nothing marked twice.
def TypeRef.isProper : TypeRef → Bool
  | named name => isName name
  | list element => element.isProper
  | nonNull type => !type.isMarked && type.isProper

abbrev TypeRef.Proper (type : TypeRef) : Prop := type.isProper = true

-- What can be read.
def TypeRef.fits (type : TypeRef) : Bool := type.depth ≤ Reading.maxDepth

/-! Plain definitions. -/

variable (good : TypeRef → Prop)

inductive InputValue.Plain : InputValue → Prop
  | mk {name : String} {type : TypeRef} (named : isName name = true) (typed : good type) :
    Plain ⟨none, name, type, none, []⟩

inductive Field.Plain : Field → Prop
  | mk {name : String} {arguments : List InputValue} {type : TypeRef} (named : isName name = true)
    (plain : ∀ argument ∈ arguments, argument.Plain good) (typed : good type) :
    Plain ⟨none, name, arguments, type, []⟩

inductive ObjectType.Plain : ObjectType → Prop
  | mk {name : String} {fields : List Field} (named : isName name = true)
    (plain : ∀ field ∈ fields, field.Plain good) : Plain ⟨none, name, [], [], fields⟩

inductive InputType.Plain : InputType → Prop
  | mk {name : String} {fields : List InputValue} (named : isName name = true)
    (plain : ∀ field ∈ fields, field.Plain good) : Plain ⟨none, name, [], fields⟩

inductive EnumValue.Plain : EnumValue → Prop
  | mk {name : String} (named : isName name = true)
    (free : Reading.isReserved (some (.name name)) = false) : Plain ⟨none, name, []⟩

inductive Definition.Plain : Definition → Prop
  | scalar {name : String} (named : isName name = true) : Plain (.scalar none name [])
  | object {type : ObjectType} (plain : type.Plain good) : Plain (.object type)
  | enumeration {name : String} {values : List EnumValue} (named : isName name = true)
    (plain : ∀ value ∈ values, value.Plain) : Plain (.enumeration none name [] values)
  | input {type : InputType} (plain : type.Plain good) : Plain (.input type)

variable {good}

/-! Whether the types of a definition can be read. -/

def InputValue.fits (value : InputValue) : Bool := value.type.fits

def Field.fits (field : Field) : Bool := field.arguments.all InputValue.fits && field.type.fits

def Definition.fits : Definition → Bool
  | object type => type.fields.all Field.fits
  | input type => type.fields.all InputValue.fits
  | _ => true

-- Plain definitions that can be read are definitions of types that can be read.
def Fitting (good : TypeRef → Prop) (type : TypeRef) : Prop := good type ∧ type.fits = true

variable {α : Type}

theorem all_split {p q : α → Prop} {fits : α → Bool} (each : ∀ a, p a ↔ q a ∧ fits a = true)
    (items : List α) : (∀ a ∈ items, p a) ↔ (∀ a ∈ items, q a) ∧ items.all fits = true := by
  rw [List.all_eq_true]
  constructor
  · intro all
    exact ⟨fun a member => ((each a).mp (all a member)).1,
      fun a member => ((each a).mp (all a member)).2⟩
  · rintro ⟨plain, fit⟩ a member
    exact (each a).mpr ⟨plain a member, fit a member⟩

theorem inputValue_fitting (value : InputValue) :
    value.Plain (Fitting good) ↔ value.Plain good ∧ value.fits = true := by
  constructor
  · intro plain
    cases plain with
    | mk named typed => exact ⟨.mk named typed.1, typed.2⟩
  · rintro ⟨plain, fits⟩
    cases plain with
    | mk named typed => exact .mk named ⟨typed, fits⟩

theorem field_fitting (field : Field) :
    field.Plain (Fitting good) ↔ field.Plain good ∧ field.fits = true := by
  have arguments := all_split (@inputValue_fitting good)
  rw [Field.fits, Bool.and_eq_true]
  constructor
  · intro plain
    cases plain with
    | mk named plain typed =>
      obtain ⟨plain, fits⟩ := (arguments _).mp plain
      exact ⟨.mk named plain typed.1, fits, typed.2⟩
  · rintro ⟨plain, fits, fit⟩
    cases plain with
    | mk named plain typed => exact .mk named ((arguments _).mpr ⟨plain, fits⟩) ⟨typed, fit⟩

theorem definition_fitting (definition : Definition) :
    definition.Plain (Fitting good) ↔ definition.Plain good ∧ definition.fits = true := by
  constructor
  · intro plain
    cases plain with
    | scalar named => exact ⟨.scalar named, rfl⟩
    | enumeration named values => exact ⟨.enumeration named values, rfl⟩
    | object plain =>
      cases plain with
      | mk named fields =>
        obtain ⟨plain, fits⟩ := (all_split field_fitting _).mp fields
        exact ⟨.object (.mk named plain), fits⟩
    | input plain =>
      cases plain with
      | mk named fields =>
        obtain ⟨plain, fits⟩ := (all_split inputValue_fitting _).mp fields
        exact ⟨.input (.mk named plain), fits⟩
  · rintro ⟨plain, fits⟩
    cases plain with
    | scalar named => exact .scalar named
    | enumeration named values => exact .enumeration named values
    | object plain =>
      cases plain with
      | mk named fields => exact .object (.mk named ((all_split field_fitting _).mpr ⟨fields, fits⟩))
    | input plain =>
      cases plain with
      | mk named fields =>
        exact .input (.mk named ((all_split inputValue_fitting _).mpr ⟨fields, fits⟩))

/-! Tokens. -/

-- Items between two symbols. Without items there are no symbols.
def enclosed (opening closing : Symbol) (form : α → List Token) (items : List α) : List Token :=
  match items with
  | [] => []
  | _ => .symbol opening :: (items.flatMap form ++ [.symbol closing])

def TypeRef.tokens : TypeRef → List Token
  | named name => [.name name]
  | list element => .symbol .openBracket :: (element.tokens ++ [.symbol .closeBracket])
  | nonNull type => type.tokens ++ [.symbol .bang]

def InputValue.tokens (value : InputValue) : List Token :=
  .name value.name :: .symbol .colon :: value.type.tokens

def Field.tokens (field : Field) : List Token :=
  .name field.name ::
    (enclosed .openParen .closeParen InputValue.tokens field.arguments ++
      .symbol .colon :: field.type.tokens)

def EnumValue.tokens (value : EnumValue) : List Token := [.name value.name]

-- Only of plain definitions.
def Definition.tokens : Definition → List Token
  | scalar _ name _ => [.name "scalar", .name name]
  | object type =>
    .name "type" :: .name type.name :: enclosed .openBrace .closeBrace Field.tokens type.fields
  | enumeration _ name _ values =>
    .name "enum" :: .name name :: enclosed .openBrace .closeBrace EnumValue.tokens values
  | input type =>
    .name "input" :: .name type.name ::
      enclosed .openBrace .closeBrace InputValue.tokens type.fields
  | _ => []

end DeclSchema.Schema
