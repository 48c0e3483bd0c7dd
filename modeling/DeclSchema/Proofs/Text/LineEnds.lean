import DeclSchema.Text.Utf8

/-!
The line ends of a text that is read from a file. Every text falls into lines, and what is left of
it are these lines with line feeds between them.
-/

namespace DeclSchema.Text

def isLineEnd (c : Char) : Bool := c = '\n' || c = '\r'

-- A text and its lines. A line ends with a line feed, a carriage return, or both of them in this
-- order; behind the last end there is one line more, which may be empty.
inductive Lines : List Char → List (List Char) → Prop
  | last {line : List Char} (plain : line.all (!isLineEnd ·)) : Lines line [line]
  | feed {line rest : List Char} {lines : List (List Char)} (plain : line.all (!isLineEnd ·))
    (more : Lines rest lines) : Lines (line ++ '\n' :: rest) (line :: lines)
  | both {line rest : List Char} {lines : List (List Char)} (plain : line.all (!isLineEnd ·))
    (more : Lines rest lines) : Lines (line ++ '\r' :: '\n' :: rest) (line :: lines)
  | carriage {line rest : List Char} {lines : List (List Char)} (plain : line.all (!isLineEnd ·))
    (single : rest.head? ≠ some '\n') (more : Lines rest lines) :
    Lines (line ++ '\r' :: rest) (line :: lines)

-- A line that has nothing to unify in it.
theorem unifyLineEnds_plain {line : List Char} (plain : line.all (!isLineEnd ·)) (rest : List Char) :
    unifyLineEnds (line ++ rest) = line ++ unifyLineEnds rest := by
  induction line with
  | nil => rfl
  | cons c later ih =>
    simp only [List.all_cons, Bool.and_eq_true, isLineEnd, Bool.not_eq_true', Bool.or_eq_false_iff,
      decide_eq_false_iff_not] at plain ih
    rw [List.cons_append, unifyLineEnds, if_neg plain.1.2, ih plain.2, List.cons_append]
    intro _ same
    exact absurd same plain.1.2

theorem unifyLineEnds_carriage {rest : List Char} (single : rest.head? ≠ some '\n') :
    unifyLineEnds ('\r' :: rest) = '\n' :: unifyLineEnds rest := by
  rw [unifyLineEnds, if_pos rfl]
  rintro more _ rfl
  exact single rfl

theorem lines_present {text : List Char} {lines : List (List Char)} (falls : Lines text lines) :
    ∃ first others, lines = first :: others := by
  cases falls <;> exact ⟨_, _, rfl⟩

theorem intercalate_feed (line : List Char) {lines : List (List Char)}
    (present : ∃ first others, lines = first :: others) :
    ['\n'].intercalate (line :: lines) = line ++ '\n' :: ['\n'].intercalate lines := by
  obtain ⟨first, others, rfl⟩ := present
  rw [List.intercalate_cons_cons, List.append_assoc]
  rfl

theorem unifyLineEnds_lines {text : List Char} {lines : List (List Char)}
    (falls : Lines text lines) : unifyLineEnds text = ['\n'].intercalate lines := by
  induction falls with
  | last plain =>
    have whole := unifyLineEnds_plain plain []
    simpa [unifyLineEnds] using whole
  | feed plain more ih =>
    rw [unifyLineEnds_plain plain, intercalate_feed _ (lines_present more), ← ih]
    rfl
  | both plain more ih =>
    rw [unifyLineEnds_plain plain, intercalate_feed _ (lines_present more), ← ih]
    rfl
  | carriage plain single more ih =>
    rw [unifyLineEnds_plain plain, intercalate_feed _ (lines_present more), ← ih,
      unifyLineEnds_carriage single]

theorem lines_exist (text : List Char) : ∃ lines, Lines text lines := by
  generalize size : text.length = n
  induction n using Nat.strongRecOn generalizing text with
  | _ n ih =>
    have split : text.takeWhile (!isLineEnd ·) ++ text.dropWhile (!isLineEnd ·) = text :=
      List.takeWhile_append_dropWhile
    have plain : (text.takeWhile (!isLineEnd ·)).all (!isLineEnd ·) := List.all_takeWhile
    have total := congrArg List.length split
    rw [List.length_append] at total
    cases behind : text.dropWhile (!isLineEnd ·) with
    | nil =>
      rw [behind, List.append_nil] at split
      exact ⟨[text], .last (split ▸ plain)⟩
    | cons c rest =>
      have ends : isLineEnd c = true := by
        have present : text.dropWhile (!isLineEnd ·) ≠ [] := by simp [behind]
        have stopped := List.head_dropWhile_not (!isLineEnd ·) present
        simpa [behind] using stopped
      rw [behind, List.length_cons] at total
      rw [behind] at split
      rw [← split]
      obtain ⟨lines, more⟩ := ih rest.length (by omega) rest rfl
      simp only [isLineEnd, Bool.or_eq_true, decide_eq_true_eq] at ends
      rcases ends with rfl | rfl
      · exact ⟨_, .feed plain more⟩
      · by_cases single : rest.head? = some '\n'
        · obtain ⟨later, rfl⟩ := List.head?_eq_some_iff.mp single
          rw [List.length_cons] at total
          obtain ⟨lines, more⟩ := ih later.length (by omega) later rfl
          exact ⟨_, .both plain more⟩
        · exact ⟨_, .carriage plain single more⟩

end DeclSchema.Text
