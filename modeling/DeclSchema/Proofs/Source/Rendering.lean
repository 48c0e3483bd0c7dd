import DeclSchema.Proofs.Source.Reading
import DeclSchema.Shape
import DeclSchema.Source.Grammar.Types

/-!
Shapes written as types. The parts of unions, intersections, arrays and indexed objects stand in
parentheses, texts in single quotes, and every member ends with a semicolon.
-/

namespace DeclSchema

/-! ### Canonical shapes -/

-- Everything that can stand between single quotes without an escape.
def isQuotable (text : String) : Bool :=
  text.toList.all fun c => c != '\'' && c != '\\' && c.toNat != 0 && c != '\r' && c != '\n'

def isNameCharacter (c : Char) : Bool := c.isAlphanum || c = '_' || c = '$'

-- An ASCII name that begins with an upper-case letter.
def isTypeName (name : String) : Bool :=
  match name.toList with
  | [] => false
  | c :: rest => c.isUpper && rest.all isNameCharacter

def keywords : List String :=
  ["string", "number", "boolean", "any", "unknown", "never", "void", "object", "symbol", "null",
    "undefined"]

mutual
def Shape.isCanonical : Shape → Bool
  | .keyword word => keywords.contains word
  | .literal (.boolean _) => true
  | .literal (.text value) => isQuotable value
  | .literal _ => false
  | .reference name arguments => isTypeName name && areCanonical arguments
  | .indexed object index => object.isCanonical && index.isCanonical
  | .object members => areCanonicalMembers members
  | .intersection parts => 2 ≤ parts.length && areCanonical parts
  | .union types => 2 ≤ types.length && areCanonical types
  | .array element => element.isCanonical
  | .verbatim _ => false
  | .absent => false
def areCanonical : List Shape → Bool
  | [] => true
  | shape :: rest => shape.isCanonical && areCanonical rest
def Member.isCanonical : Member → Bool
  | .typed (some name) shape _ => isQuotable name && shape.isCanonical
  | .bare (some name) _ => isQuotable name
  | _ => false
def areCanonicalMembers : List Member → Bool
  | [] => true
  | member :: rest => member.isCanonical && areCanonicalMembers rest
end

/-! ### Their text -/

def quote (text : String) : List Char := '\'' :: (text.toList ++ ['\''])

mutual
def Shape.render : Shape → List Char
  | .keyword word => word.toList
  | .literal (.boolean true) => "true".toList
  | .literal (.boolean false) => "false".toList
  | .literal (.text value) => quote value
  | .reference name [] => name.toList
  | .reference name (first :: rest) =>
    name.toList ++ '<' :: (first.render ++ (renderMore rest ++ ['>']))
  | .indexed object index => '(' :: (object.render ++ ')' :: '[' :: (index.render ++ [']']))
  | .object members => '\x7b' :: (renderMembers members ++ [' ', '\x7d'])
  | .intersection parts => renderParts '&' parts
  | .union types => renderParts '|' types
  | .array element => '(' :: (element.render ++ [')', '[', ']'])
  | _ => []
-- Arguments behind the first one.
def renderMore : List Shape → List Char
  | [] => []
  | shape :: rest => ',' :: ' ' :: shape.render ++ renderMore rest
def renderParts (sign : Char) : List Shape → List Char
  | [] => []
  | shape :: rest => '(' :: (shape.render ++ ')' :: renderJoined sign rest)
-- Parts behind the first one.
def renderJoined (sign : Char) : List Shape → List Char
  | [] => []
  | shape :: rest => ' ' :: sign :: ' ' :: '(' :: (shape.render ++ ')' :: renderJoined sign rest)
def Member.render : Member → List Char
  | .typed name shape isOptional =>
    ' ' :: (quote (name.getD "") ++ (if isOptional then ['?'] else []) ++
      ':' :: ' ' :: (shape.render ++ [';']))
  | .bare name isOptional =>
    ' ' :: (quote (name.getD "") ++ (if isOptional then ['?'] else []) ++ [';'])
def renderMembers : List Member → List Char
  | [] => []
  | member :: rest => member.render ++ renderMembers rest
end

-- A source that declares one alias and nothing else.
def renderAlias (name : String) (shape : Shape) : String :=
  "type " ++ name ++ " = " ++ String.ofList shape.render ++ ";"

namespace Source

open Rule

/-! ### Names -/

theorem upper_within {c : Char} (upper : c.isUpper = true) : 0x41 ≤ c.toNat ∧ c.toNat ≤ 0x5A := by
  have within : 'A'.val ≤ c.val ∧ c.val ≤ 'Z'.val := of_decide_eq_true upper
  rw [UInt32.le_iff_toNat_le, UInt32.le_iff_toNat_le] at within
  exact within

theorem lower_within {c : Char} (lower : c.isLower = true) : 0x61 ≤ c.toNat ∧ c.toNat ≤ 0x7A := by
  have within : (decide ('a'.val ≤ c.val) && decide (c.val ≤ 'z'.val)) = true := lower
  rw [Bool.and_eq_true, decide_eq_true_eq, decide_eq_true_eq, UInt32.le_iff_toNat_le,
    UInt32.le_iff_toNat_le] at within
  exact within

theorem digit_within {c : Char} (digit : c.isDigit = true) : 0x30 ≤ c.toNat ∧ c.toNat ≤ 0x39 :=
  Char.isDigit_iff_toNat.mp digit

theorem alphanumeric_cases {c : Char} :
    c.isAlphanum = true ↔ (c.isUpper = true ∨ c.isLower = true) ∨ c.isDigit = true := by
  rw [← Bool.or_eq_true, ← Bool.or_eq_true]
  rfl

theorem nameCharacter_within {c : Char} (character : isNameCharacter c = true) :
    0x24 ≤ c.toNat ∧ c.toNat < 0x7B := by
  simp only [isNameCharacter, Bool.or_eq_true, decide_eq_true_eq] at character
  rcases character with (letter | rfl) | rfl
  · rcases alphanumeric_cases.mp letter with (upper | lower) | digit
    · have within := upper_within upper
      omega
    · have within := lower_within lower
      omega
    · have within := digit_within digit
      omega
  · decide
  · decide

theorem nameCharacter_part {c : Char} (character : isNameCharacter c = true) :
    Lexeme.isNamePart c = true ∧ c ≠ '\\' := by
  have other {e : Char} (no : isNameCharacter e = false) : c ≠ e := by
    rintro rfl
    rw [character] at no
    cases no
  have within := nameCharacter_within character
  refine ⟨?_, other rfl⟩
  have visible : Lexeme.isBlank c = false := by
    simp only [Lexeme.isBlank, Bool.or_eq_false_iff, Bool.and_eq_false_iff, decide_eq_false_iff_not]
    omega
  have large : c.toNat > 0x1F := by omega
  simp only [Lexeme.isNamePart, visible, large, decide_true, Bool.not_false, Bool.true_and,
    Bool.not_eq_true', Bool.or_eq_false_iff, decide_eq_false_iff_not]
  repeat' apply And.intro
  all_goals exact other rfl

-- Name characters of which the first is no digit.
def isWord (text : List Char) : Bool :=
  match text with
  | [] => false
  | c :: rest => isNameCharacter c && !c.isDigit && rest.all isNameCharacter

-- No name goes on here.
def Breaks (rest : List Char) : Prop := ∀ d ∈ rest.head?, breaksName d = true

-- A run of characters that are pieces by themselves.
theorem run_single {piece : List Char → Nat} {text rest : List Char}
    (single : ∀ c ∈ text, ∀ more, piece (c :: more) = 1) (stop : Lexeme.run piece 0 rest = 0) :
    Lexeme.run piece 0 (text ++ rest) = text.length := by
  induction text with
  | nil => exact stop
  | cons c more ih =>
    obtain ⟨first, later⟩ := List.forall_mem_cons.mp single
    rw [List.cons_append, Lexeme.run, first]
    dsimp only
    rw [ih later, List.length_cons, Nat.add_comm]

theorem name_run {text rest : List Char} (characters : ∀ c ∈ text, isNameCharacter c = true)
    (breaks : Breaks rest) : Lexeme.run Lexeme.namePiece 0 (text ++ rest) = text.length := by
  apply run_single
  · intro c member more
    obtain ⟨part, plain⟩ := nameCharacter_part (characters c member)
    unfold Lexeme.namePiece
    split
    next same => exact absurd (List.cons.inj same).1 plain
    next same =>
      cases same
      rw [if_pos part]
    next same => cases same
  · cases rest with
    | nil => rfl
    | cons d others => rw [Lexeme.run, namePiece_breaks (breaks d rfl)]

theorem name_word {d : Char} {text rest : List Char} (word : isWord (d :: text) = true)
    (breaks : Breaks rest) : Lexeme.name (d :: text ++ rest) = text.length + 1 := by
  simp only [isWord, Bool.and_eq_true, Bool.not_eq_true'] at word
  obtain ⟨⟨first, letter⟩, others⟩ := word
  have all : ∀ c ∈ d :: text, isNameCharacter c = true :=
    List.forall_mem_cons.mpr ⟨first, List.all_eq_true.mp others⟩
  have run := name_run all breaks
  rw [List.cons_append] at run ⊢
  simp only [Lexeme.name, letter, Bool.false_eq_true, if_false]
  rw [run, List.length_cons]

/-! ### Texts -/

theorem string_run {text rest : List Char}
    (plain : ∀ c ∈ text, c ≠ '\'' ∧ c ≠ '\\' ∧ c ≠ '\r' ∧ c ≠ '\n') :
    Lexeme.run (Lexeme.stringPiece '\'') 0 (text ++ '\'' :: rest) = text.length := by
  apply run_single
  · intro c member more
    obtain ⟨quote, slash, carriage, feed⟩ := plain c member
    simp [Lexeme.stringPiece, quote, slash, carriage, feed]
  · rfl

theorem string_quote {text : String} (quotable : isQuotable text = true) (rest : List Char) :
    Lexeme.string (quote text ++ rest) = text.toList.length + 2 := by
  have plain : ∀ c ∈ text.toList, c ≠ '\'' ∧ c ≠ '\\' ∧ c ≠ '\r' ∧ c ≠ '\n' := by
    intro c member
    have all := List.all_eq_true.mp quotable c member
    simp only [Bool.and_eq_true, bne_iff_ne] at all
    exact ⟨all.1.1.1.1, all.1.1.1.2, all.1.2, all.2⟩
  have same : quote text ++ rest = '\'' :: (text.toList ++ '\'' :: rest) := by simp [quote]
  have run : Lexeme.run (Lexeme.stringPiece '\'') 0 (text.toList ++ '\'' :: rest) = _ :=
    string_run plain
  rw [same, Lexeme.string]
  simp only [Bool.or_true, decide_true, if_true, run]
  simp

end Source

end DeclSchema
