import DeclSchema.ArgsName
import DeclSchema.Proofs.Schema.Spelling
import DeclSchema.Proofs.Source.Rendering
import DeclSchema.Text.Blank

/-!
Names of argument declarations. Such a name is recognised by how it is split, and it is found for a
field by its key. Both ways go together: a name has the key of a field just when its parts are the
operation type and the field, but for the case of letters.
-/

namespace DeclSchema

open Schema

/-! Names and their keys. -/

theorem lower_ascii {text : List Char} (ascii : ∀ c ∈ text, c.toNat < 0x80) (before : List Char) :
    Text.lowerFrom before text = text.map Char.toLower := by
  induction text generalizing before with
  | nil => rfl
  | cons c rest ih =>
    obtain ⟨first, later⟩ := List.forall_mem_cons.mp ascii
    rw [Text.lowerFrom, Text.lowerChar, if_pos first, ih later]
    rfl

theorem namePart_within {c : Char} (part : isNamePart c = true) : 0x30 ≤ c.toNat ∧ c.toNat < 0x7B := by
  simp only [isNamePart, Bool.or_eq_true, decide_eq_true_eq] at part
  rcases part with letter | rfl
  · rcases Source.alphanumeric_cases.mp letter with (upper | lower) | digit
    · have within := Source.upper_within upper
      omega
    · have within := Source.lower_within lower
      omega
    · have within := Source.digit_within digit
      omega
  · decide

theorem namePart_word {c : Char} (part : isNamePart c = true) : Text.isWordCharacter c = true := by
  have small := (namePart_within part).2
  rw [Text.isWordCharacter, if_pos (by omega)]
  exact part

theorem namePart_shown {c : Char} (part : isNamePart c = true) : Text.isBlank c = false := by
  have bounds := namePart_within part
  simp only [Text.isBlank, Bool.or_eq_false_iff, Bool.and_eq_false_iff, decide_eq_false_iff_not]
  omega

-- A text of one or more characters that can stand in a name, also in front a digit.
def isNamePiece (text : String) : Bool := !text.isEmpty && text.toList.all isNamePart

theorem piece_parts {text : String} (piece : isNamePiece text = true) :
    text ≠ "" ∧ ∀ c ∈ text.toList, isNamePart c = true := by
  simpa [isNamePiece] using piece

theorem name_parts {name : String} (named : isName name = true) :
    ∀ c ∈ name.toList, isNamePart c = true := by
  obtain ⟨c, rest, shape, start, parts⟩ := name_split named
  rw [shape]
  exact List.forall_mem_cons.mpr ⟨start_part start, parts⟩

theorem name_piece {name : String} (named : isName name = true) : isNamePiece name = true := by
  have parts := name_parts named
  simpa [isNamePiece, name_present named] using parts

-- The characters of a text without the case of its letters.
def caseless (text : String) : List Char := text.toList.map Char.toLower

theorem caseless_ofList (text : List Char) : caseless (String.ofList text) = text.map Char.toLower := by
  rw [caseless, String.toList_ofList]

theorem caseless_nil {text : String} : caseless text = [] ↔ text = "" := by
  rw [caseless, List.map_eq_nil_iff, String.toList_eq_nil_iff]

theorem key_name {text : String} (parts : ∀ c ∈ text.toList, isNamePart c = true) :
    (argsKey text).toList = caseless text := by
  rw [argsKey, Text.toLower, String.toList_ofList]
  refine lower_ascii (fun c member => ?_) []
  have small := (namePart_within (parts c member)).2
  omega

section Keys

variable {operation field : String} (known : operation = "Query" ∨ operation = "Mutation")
  (piece : isNamePiece field = true)

include known in
theorem operation_parts : ∀ c ∈ operation.toList, isNamePart c = true := by
  rcases known with rfl | rfl
  · exact name_parts rfl
  · exact name_parts rfl

include known piece in
theorem key_field :
    (operationArgsKey operation field).toList = caseless operation ++ (caseless field ++ "args".toList) := by
  have parts : ∀ c ∈ (operation ++ field ++ "Args").toList, isNamePart c = true := by
    intro c member
    rw [String.toList_append, String.toList_append] at member
    rcases List.mem_append.mp member with front | ending
    · rcases List.mem_append.mp front with first | middle
      · exact operation_parts known c first
      · exact (piece_parts piece).2 c middle
    · exact name_parts (by decide : isName "Args" = true) c ending
  rw [operationArgsKey, key_name parts, caseless, String.toList_append, String.toList_append,
    List.map_append, List.map_append, List.append_assoc]
  rfl

end Keys

theorem operations_apart {operation other : String} {rest more : List Char}
    (known : operation = "Query" ∨ operation = "Mutation") (alike : other = "Query" ∨ other = "Mutation")
    (same : caseless operation ++ rest = caseless other ++ more) : operation = other := by
  have heads := congrArg List.head? same
  rcases known with rfl | rfl <;> rcases alike with rfl | rfl
  · rfl
  · cases heads
  · cases heads
  · rfl

/-! Parts of a name. -/

theorem matchesLetter_exact {letter c : Char} (part : isNamePart c = true) :
    matchesLetter letter c = true ↔ c.toLower = letter := by
  have small := (namePart_within part).2
  have plain : ∀ other : Char, 0x7B ≤ other.toNat → c ≠ other := by
    rintro other large rfl
    omega
  simp [matchesLetter, plain 'ı' (by decide), plain 'İ' (by decide), plain 'ſ' (by decide)]

theorem matchesWord_exact {word text : List Char} (parts : ∀ c ∈ text, isNamePart c = true) :
    matchesWord word text = true ↔ text.map Char.toLower = word := by
  induction text generalizing word with
  | nil => cases word <;> simp [matchesWord]
  | cons c rest ih =>
    obtain ⟨first, later⟩ := List.forall_mem_cons.mp parts
    cases word with
    | nil => simp [matchesWord]
    | cons letter others => simp [matchesWord, matchesLetter_exact first, ih later]

theorem matchesWord_length {word text : List Char} (matching : matchesWord word text = true) :
    text.length = word.length := by
  induction text generalizing word with
  | nil =>
    cases word with
    | nil => rfl
    | cons => cases matching
  | cons c rest ih =>
    cases word with
    | nil => cases matching
    | cons letter others =>
      rw [matchesWord, Bool.and_eq_true] at matching
      rw [List.length_cons, List.length_cons, ih matching.2]

-- A name is cut in three: the word, what is between, and the ending.
theorem between_exact {word text front middle : List Char} :
    between? word text = some (front, middle) ↔
      ∃ ending, text = front ++ (middle ++ ending) ∧ matchesWord word front = true ∧
        matchesWord "args".toList ending = true ∧ middle ≠ [] ∧
        ∀ c ∈ middle, Text.isWordCharacter c = true := by
  constructor
  · intro found
    unfold between? at found
    dsimp only at found
    split at found
    · rename_i tests
      simp only [Bool.and_eq_true, Bool.not_eq_true', List.isEmpty_eq_false_iff, List.all_eq_true] at tests
      obtain ⟨⟨⟨first, last⟩, present⟩, worded⟩ := tests
      cases found
      refine ⟨_, ?_, first, last, present, worded⟩
      rw [List.take_append_drop, List.take_append_drop]
    · cases found
  · rintro ⟨ending, rfl, first, last, present, worded⟩
    have size := matchesWord_length first
    have least := matchesWord_length last
    have amount : (front ++ (middle ++ ending)).length - front.length - ending.length =
        middle.length := by
      simp only [List.length_append]
      omega
    have some : middle.isEmpty = false := by simpa using present
    have all : middle.all Text.isWordCharacter = true := List.all_eq_true.mpr worded
    unfold between?
    dsimp only
    rw [← size, ← least, amount, List.take_left, List.drop_left, List.take_left, List.drop_left,
      first, last, some, all]
    rfl

section Split

variable {name kind field : String} (named : isName name = true)

include named

theorem between_caseless {word front middle : List Char} :
    between? word name.toList = some (front, middle) ↔
      ∃ ending, name.toList = front ++ (middle ++ ending) ∧ front.map Char.toLower = word ∧
        ending.map Char.toLower = "args".toList ∧ middle ≠ [] := by
  rw [between_exact]
  refine exists_congr fun ending => and_congr_right fun shape => ?_
  have parts := name_parts named
  rw [shape] at parts
  obtain ⟨first, behind⟩ := List.forall_mem_append.mp parts
  obtain ⟨inner, last⟩ := List.forall_mem_append.mp behind
  have worded := fun c member => namePart_word (inner c member)
  rw [matchesWord_exact first, matchesWord_exact last, and_iff_left worded]

theorem between_begins {word : List Char} {found : List Char × List Char}
    (cut : between? word name.toList = some found) : ∃ rest, caseless name = word ++ rest := by
  obtain ⟨ending, shape, rfl, _⟩ := (between_caseless named).mp cut
  exact ⟨_, by rw [caseless, shape, List.map_append]⟩

-- No name is cut in both ways.
theorem between_apart {found : List Char × List Char}
    (cut : between? "query".toList name.toList = some found) :
    between? "mutation".toList name.toList = none := by
  rw [Option.eq_none_iff_forall_ne_some]
  intro other also
  obtain ⟨rest, query⟩ := between_begins named cut
  obtain ⟨more, mutation⟩ := between_begins named also
  cases query.symm.trans mutation

theorem split_ways :
    splitArgsName name =
      ((between? "mutation".toList name.toList).or (between? "query".toList name.toList)).map
        fun found => (String.ofList found.1, String.ofList found.2) := by
  have inside := name_line named
  have whole : dropLineFeed name.toList = name.toList := by
    rw [dropLineFeed, if_neg]
    intro last
    exact inside (List.mem_of_getLast? last)
  unfold splitArgsName
  dsimp only
  rw [whole]
  cases between? "mutation".toList name.toList with
  | some found => rfl
  | none => cases between? "query".toList name.toList <;> rfl

theorem split_exact :
    splitArgsName name = some (kind, field) ↔
      ∃ ending, name.toList = kind.toList ++ (field.toList ++ ending) ∧
        (caseless kind = "mutation".toList ∨ caseless kind = "query".toList) ∧
        ending.map Char.toLower = "args".toList ∧ field ≠ "" := by
  have written : splitArgsName name = some (kind, field) ↔
      between? "mutation".toList name.toList = some (kind.toList, field.toList) ∨
        between? "query".toList name.toList = some (kind.toList, field.toList) := by
    rw [split_ways named, Option.map_eq_some_iff]
    constructor
    · rintro ⟨⟨front, middle⟩, found, same⟩
      obtain ⟨rfl, rfl⟩ := Prod.mk.inj same
      dsimp only
      rw [String.toList_ofList (l := front), String.toList_ofList (l := middle)]
      exact (Option.or_eq_some_iff.mp found).imp_right And.right
    · intro found
      refine ⟨(kind.toList, field.toList), ?_, by rw [String.ofList_toList, String.ofList_toList]⟩
      exact Option.or_eq_some_iff.mpr (found.imp_right fun query => ⟨between_apart named query, query⟩)
  rw [written, between_caseless named, between_caseless named, ← exists_or]
  refine exists_congr fun ending => ?_
  rw [← and_or_left, ← or_and_right, ne_eq, String.toList_eq_nil_iff]
  rfl

end Split

/-! Keys and parts. -/

section Partners

variable {name operation field : String} (named : isName name = true)
  (known : operation = "Query" ∨ operation = "Mutation") (piece : isNamePiece field = true)

include named known piece

theorem partner_parts :
    argsKey name = operationArgsKey operation field ↔
      ∃ kind middle, splitArgsName name = some (kind, middle) ∧
        caseless kind = caseless operation ∧ caseless middle = caseless field := by
  rw [← String.toList_inj, key_name (name_parts named), key_field known piece]
  constructor
  · intro same
    obtain ⟨front, behind, shape, first, rest⟩ := List.map_eq_append_iff.mp same
    obtain ⟨middle, ending, rfl, inner, last⟩ := List.map_eq_append_iff.mp rest
    have kinds : caseless operation = "mutation".toList ∨ caseless operation = "query".toList := by
      rcases known with rfl | rfl
      · exact .inr rfl
      · exact .inl rfl
    rw [← caseless_ofList] at first inner
    refine ⟨String.ofList front, String.ofList middle, ?_, first, inner⟩
    refine (split_exact named).mpr ⟨ending, ?_, by rwa [first], last, ?_⟩
    · rw [String.toList_ofList, String.toList_ofList, shape]
    · intro empty
      rw [caseless_nil.mpr empty] at inner
      exact (piece_parts piece).1 (caseless_nil.mp inner.symm)
  · rintro ⟨kind, middle, split, first, inner⟩
    obtain ⟨ending, shape, _, last, _⟩ := (split_exact named).mp split
    rw [caseless, shape, List.map_append, List.map_append, last, ← first, ← inner]
    rfl

end Partners

theorem partner_args {name operation field : String} (named : isName name = true)
    (known : operation = "Query" ∨ operation = "Mutation") (piece : isNamePiece field = true)
    (same : argsKey name = operationArgsKey operation field) : isArgsName name = true := by
  obtain ⟨kind, middle, split, _⟩ := (partner_parts named known piece).mp same
  rw [isArgsName, split]
  rfl

theorem args_partner {name : String} (named : isName name = true) (args : isArgsName name = true) :
    ∃ operation field, (operation = "Query" ∨ operation = "Mutation") ∧ isNamePiece field = true ∧
      argsKey name = operationArgsKey operation field := by
  obtain ⟨⟨kind, field⟩, split⟩ := Option.isSome_iff_exists.mp args
  obtain ⟨ending, shape, kinds, _, present⟩ := (split_exact named).mp split
  have piece : isNamePiece field = true := by
    have parts := name_parts named
    rw [shape] at parts
    have inner := (List.forall_mem_append.mp (List.forall_mem_append.mp parts).2).1
    simpa [isNamePiece, present] using inner
  obtain ⟨operation, known, same⟩ : ∃ operation, (operation = "Query" ∨ operation = "Mutation") ∧
      caseless kind = caseless operation := by
    rcases kinds with mutation | query
    · exact ⟨"Mutation", .inr rfl, mutation⟩
    · exact ⟨"Query", .inl rfl, query⟩
  exact ⟨operation, field, known, piece,
    (partner_parts named known piece).mpr ⟨kind, field, split, same, rfl⟩⟩

theorem keys_exact {operation other field second : String}
    (known : operation = "Query" ∨ operation = "Mutation") (alike : other = "Query" ∨ other = "Mutation")
    (piece : isNamePiece field = true) (also : isNamePiece second = true) :
    operationArgsKey operation field = operationArgsKey other second ↔
      operation = other ∧ caseless field = caseless second := by
  rw [← String.toList_inj, key_field known piece, key_field alike also]
  constructor
  · intro same
    have operations := operations_apart known alike same
    rw [operations, List.append_cancel_left_eq, List.append_cancel_right_eq] at same
    exact ⟨operations, same⟩
  · rintro ⟨rfl, same⟩
    rw [same]

theorem split_matches_key {name : String} (named : isName name = true) :
    (∀ operation field, (operation = "Query" ∨ operation = "Mutation") → isNamePiece field = true →
      (argsKey name = operationArgsKey operation field ↔
        ∃ kind middle, splitArgsName name = some (kind, middle) ∧
          caseless kind = caseless operation ∧ caseless middle = caseless field)) ∧
    (isArgsName name = true ↔
      ∃ operation field, (operation = "Query" ∨ operation = "Mutation") ∧ isNamePiece field = true ∧
        argsKey name = operationArgsKey operation field) ∧
    (¬ ∃ field second, isNamePiece field = true ∧ isNamePiece second = true ∧
      argsKey name = operationArgsKey "Query" field ∧
      argsKey name = operationArgsKey "Mutation" second) ∧
    ∀ operation other field second, (operation = "Query" ∨ operation = "Mutation") →
      (other = "Query" ∨ other = "Mutation") → isNamePiece field = true → isNamePiece second = true →
      (operationArgsKey operation field = operationArgsKey other second ↔
        operation = other ∧ caseless field = caseless second) := by
  refine ⟨?_, ⟨args_partner named, ?_⟩, ?_, ?_⟩
  · intro operation field known piece
    exact partner_parts named known piece
  · rintro ⟨operation, field, known, piece, same⟩
    exact partner_args named known piece same
  · rintro ⟨field, second, piece, also, query, mutation⟩
    have operations := ((keys_exact (.inl rfl) (.inr rfl) piece also).mp (query.symm.trans mutation)).1
    exact absurd operations (by decide)
  · intro operation other field second known alike piece also
    exact keys_exact known alike piece also

-- The word in front, the field and the ending overlap with one another.
theorem split_matches_key_overlapping :
    isName "queryQueryXargsARGS" = true ∧
    argsKey "queryQueryXargsARGS" = operationArgsKey "Query" "queryxArgs" ∧
    isArgsName "queryQueryXargsARGS" = true := by
  have named : isName "queryQueryXargsARGS" = true := by decide
  obtain ⟨parts, args, _⟩ := split_matches_key named
  have partner : argsKey "queryQueryXargsARGS" = operationArgsKey "Query" "queryxArgs" :=
    (parts "Query" "queryxArgs" (.inl rfl) (by decide)).mpr
      ⟨"query", "QueryXargs", by decide +kernel, by decide, by decide⟩
  exact ⟨named, partner, args.mpr ⟨_, _, .inl rfl, by decide, partner⟩⟩

end DeclSchema
