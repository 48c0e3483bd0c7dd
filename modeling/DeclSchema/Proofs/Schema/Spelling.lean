import DeclSchema.Proofs.Schema.PlainDefinitions
import DeclSchema.Schema.Layout

/-!
Pieces of text and the tokens they stand for. A piece on one line keeps its tokens wherever the
layout puts it: beside others, on a line of its own, further to the right.
-/

namespace DeclSchema.Schema

variable {α : Type}

-- A piece may end in a name: what follows must not go on with it.
structure Scans (text : Points) (form : List Token) : Prop where
  present : text ≠ []
  scan : ∀ rest, Delimited rest → tokens (text ++ rest) = form ++ tokens rest

structure Spells (text : Points) (form : List Token) : Prop extends Scans text form where
  line : .char '\n' ∉ text

theorem name_line {word : String} (name : isName word = true) : '\n' ∉ word.toList := by
  obtain ⟨c, rest, shape, start, parts⟩ := name_split name
  rw [shape]
  intro member
  rcases List.mem_cons.mp member with rfl | later
  · exact absurd start (by decide)
  · exact absurd (parts _ later) (by decide)

theorem name_present {word : String} (name : isName word = true) : word ≠ "" := by
  rintro rfl
  exact absurd name (by decide)

theorem spells_name {word : String} (name : isName word = true) :
    Spells (Points.of word) [.name word] :=
  ⟨⟨by simpa using name_present name, fun _ delimited => tokens_name name delimited⟩,
    by simpa [Points.of] using name_line name⟩

theorem spells_list {text : Points} {form : List Token} (inner : Spells text form) :
    Spells ("[" ++ text ++ "]") (.symbol .openBracket :: (form ++ [.symbol .closeBracket])) := by
  refine ⟨⟨by simp, ?_⟩, by simpa [Points.of] using inner.line⟩
  intro rest _
  have closing : Delimited (.char ']' :: rest) := delimited_cons (by decide) rest
  simp only [Points.of, String.reduceToList, Points.ofChars_cons, Points.ofChars_nil,
    List.append_assoc, List.cons_append, List.nil_append,
    tokens_symbol (by rfl : symbol? '[' = some .openBracket), inner.scan _ closing,
    tokens_symbol (by rfl : symbol? ']' = some .closeBracket)]

theorem spells_nonNull {text : Points} {form : List Token} (inner : Spells text form) :
    Spells (text ++ "!") (form ++ [.symbol .bang]) := by
  refine ⟨⟨by simp, ?_⟩, by simpa [Points.of] using inner.line⟩
  intro rest _
  have mark : Delimited (.char '!' :: rest) := delimited_cons (by decide) rest
  simp only [Points.of, String.reduceToList, Points.ofChars_cons, Points.ofChars_nil,
    List.append_assoc, List.cons_append, List.nil_append, inner.scan _ mark,
    tokens_symbol (by rfl : symbol? '!' = some .bang)]

-- A name, a colon and what belongs to the name.
theorem spells_labelled {label text : Points} {form more : List Token} (named : Spells label form)
    (inner : Spells text more) :
    Spells (label ++ ": " ++ text) (form ++ .symbol .colon :: more) := by
  refine ⟨⟨by simp, ?_⟩, by simpa [Points.of] using ⟨named.line, inner.line⟩⟩
  intro rest delimited
  have colon : Delimited (.char ':' :: .char ' ' :: (text ++ rest)) :=
    delimited_cons (by decide) _
  simp only [Points.of, String.reduceToList, Points.ofChars_cons, Points.ofChars_nil,
    List.append_assoc, List.cons_append, List.nil_append, named.scan _ colon,
    tokens_symbol (by rfl : symbol? ':' = some .colon), tokens_space, inner.scan _ delimited]

/-! Rows of pieces. -/

section Rows

variable {text : α → Points} {form : α → List Token} {row : List α}

theorem row_cons (separator : Points) (a b : α) (more : List α) :
    separator.intercalate ((a :: b :: more).map text) =
      text a ++ (separator ++ separator.intercalate ((b :: more).map text)) := by
  rw [← List.append_assoc]
  exact List.intercalate_cons_cons

theorem tokens_row (scans : ∀ a ∈ row, Scans (text a) (form a)) {separator : String}
    (present : separator ≠ "") (blank : separator.toList.all isIgnored = true) {rest : Points}
    (delimited : Delimited rest) :
    tokens ((Points.of separator).intercalate (row.map text) ++ rest) =
      row.flatMap form ++ tokens rest := by
  induction row with
  | nil => rfl
  | cons a others ih =>
    obtain ⟨first, later⟩ := List.forall_mem_cons.mp scans
    have tail := ih later
    cases others with
    | nil => simpa using first.scan rest delimited
    | cons b more =>
      rw [row_cons, List.append_assoc, List.append_assoc,
        first.scan _ (delimited_blank present blank _), tokens_blanks blank, tail,
        ← List.append_assoc, ← List.flatMap_cons]

theorem row_line (spells : ∀ a ∈ row, Spells (text a) (form a)) {separator : Points}
    (line : .char '\n' ∉ separator) : .char '\n' ∉ separator.intercalate (row.map text) := by
  induction row with
  | nil => simp
  | cons a others ih =>
    obtain ⟨first, later⟩ := List.forall_mem_cons.mp spells
    have tail := ih later
    cases others with
    | nil => simpa using first.line
    | cons b more =>
      rw [row_cons, List.mem_append, List.mem_append, not_or, not_or]
      exact ⟨first.line, line, tail⟩

theorem indent_line {line : Points} (single : .char '\n' ∉ line) :
    line.flatMap indentPoint = line := by
  induction line with
  | nil => rfl
  | cons point rest ih =>
    simp only [List.mem_cons, not_or] at single
    rw [List.flatMap_cons, ih single.2, indentPoint, if_neg fun same => single.1 same.symm]
    rfl

theorem indent_row (spells : ∀ a ∈ row, Spells (text a) (form a)) :
    ((Points.of "\n").intercalate (row.map text)).flatMap indentPoint =
      (Points.of "\n  ").intercalate (row.map text) := by
  induction row with
  | nil => rfl
  | cons a others ih =>
    obtain ⟨first, later⟩ := List.forall_mem_cons.mp spells
    have tail := ih later
    cases others with
    | nil => simpa using indent_line first.line
    | cons b more =>
      rw [row_cons, row_cons, List.flatMap_append, List.flatMap_append, tail,
        indent_line first.line]
      rfl

theorem joined_row (scans : ∀ a ∈ row, Scans (text a) (form a)) (separator : String) :
    joined separator (row.map text) = (Points.of separator).intercalate (row.map text) := by
  have all : (row.map text).filter (!·.isEmpty) = row.map text := by
    rw [List.filter_eq_self]
    intro piece member
    obtain ⟨a, present, rfl⟩ := List.mem_map.mp member
    simpa using (scans a present).present
  rw [joined, all]

theorem row_present {a : α} (first : text a ≠ []) (others : List α) (separator : Points) :
    separator.intercalate ((a :: others).map text) ≠ [] := by
  cases others with
  | nil => simpa using first
  | cons b more =>
    rw [row_cons]
    exact List.append_ne_nil_of_left_ne_nil first _

theorem wrapped_present {before after : String} {piece : Points} (present : piece ≠ []) :
    wrapped before piece after = before ++ piece ++ after := by
  rw [wrapped, if_neg (by simpa using present)]

theorem stacked_row {a : α} {others : List α}
    (spells : ∀ b ∈ a :: others, Spells (text b) (form b)) (before after : String) :
    stacked before ((a :: others).map text) after =
      Points.of before ++ .char '\n' :: .char ' ' :: .char ' ' ::
        ((Points.of "\n  ").intercalate ((a :: others).map text) ++
          .char '\n' :: Points.of after) := by
  have present := row_present (spells a List.mem_cons_self).present others (Points.of "\n  ")
  have inside : indented (joined "\n" ((a :: others).map text)) =
      "  " ++ (Points.of "\n  ").intercalate ((a :: others).map text) ++ "" := by
    rw [indented, joined_row (fun b member => (spells b member).toScans), indent_row spells,
      wrapped_present present]
  rw [stacked, inside, wrapped_present]
  · simp [Points.of]
  · simp [Points.of]

-- A block holds its items and nothing else, and no items make no block.
theorem tokens_block (spells : ∀ a ∈ row, Spells (text a) (form a)) (rest : Points) :
    tokens (block (row.map text) ++ rest) =
      enclosed .openBrace .closeBrace form row ++ tokens rest := by
  cases row with
  | nil => simp [block, stacked, joined, indented, wrapped, enclosed]
  | cons a others =>
    have items := tokens_row (fun b member => (spells b member).toScans)
      (by decide : "\n  " ≠ "") (by decide) (delimited_feed (.char '\x7d' :: rest))
    have opening : Points.of "\x7b" = [.char '\x7b'] := rfl
    have closing : Points.of "\x7d" = [.char '\x7d'] := rfl
    rw [block, stacked_row spells, opening, closing]
    simp only [List.append_assoc, List.cons_append, List.nil_append, tokens_openBrace, tokens_feed,
      tokens_space, items, tokens_closeBrace, enclosed]

end Rows

end DeclSchema.Schema
