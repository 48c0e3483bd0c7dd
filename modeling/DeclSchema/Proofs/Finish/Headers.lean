import DeclSchema.Finish
import DeclSchema.Proofs.Schema.Scanning
import DeclSchema.Schema.Reading.Definitions

/-!
What headers put in front of a schema text. Whatever they hold, only comments and empty lines come
of them, so the text behind them is read as before.
-/

namespace DeclSchema

open Schema

/-! Lines without meaning. -/

-- A line that is empty or a comment. No character in it ends a line, neither for the headers nor
-- for the reader of schema texts.
structure Remark (line : List Char) : Prop where
  marked : line = [] ∨ line.head? = some '#'
  unbroken : ∀ c ∈ line, Header.isSeparator c = false

theorem Remark.empty : Remark [] := ⟨.inl rfl, fun _ member => nomatch member⟩

theorem separator_lineEnd {c : Char} (inside : Header.isSeparator c = false) : isLineEnd c = false := by
  rw [Bool.eq_false_iff]
  intro ends
  simp only [isLineEnd, Bool.or_eq_true, decide_eq_true_eq] at ends
  rcases ends with rfl | rfl <;> exact absurd inside (by decide)

theorem Remark.tokens_behind {line : List Char} (remark : Remark line) (rest : Points) :
    tokens (Points.ofChars line ++ .char '\n' :: rest) = tokens rest := by
  cases line with
  | nil => exact tokens_feed rest
  | cons c text =>
    obtain rfl : c = '#' := by simpa using remark.marked
    exact tokens_comment
      (fun d member => separator_lineEnd (remark.unbroken d (List.mem_cons_of_mem _ member))) rest

def endLines (lines : List (List Char)) : List Char := lines.flatMap (· ++ ['\n'])

theorem endLines_append (lines more : List (List Char)) :
    endLines (lines ++ more) = endLines lines ++ endLines more := List.flatMap_append

theorem remarks_tokens {lines : List (List Char)} (remarks : ∀ line ∈ lines, Remark line)
    (rest : Points) : tokens (Points.ofChars (endLines lines) ++ rest) = tokens rest := by
  induction lines with
  | nil => rfl
  | cons line later ih =>
    obtain ⟨first, others⟩ := List.forall_mem_cons.mp remarks
    calc tokens (Points.ofChars (endLines (line :: later)) ++ rest)
        = tokens (Points.ofChars line ++ .char '\n' ::
            (Points.ofChars (endLines later) ++ rest)) := by
          simp [endLines, List.flatMap_cons]
      _ = tokens (Points.ofChars (endLines later) ++ rest) := first.tokens_behind _
      _ = tokens rest := ih others

/-! The lines of a header. -/

namespace Header

theorem lines_unbroken {text line : List Char} (member : line ∈ lines text) :
    ∀ c ∈ line, isSeparator c = false := by
  fun_induction lines text generalizing line with
  | case1 => cases member
  | case2 rest ih =>
    rcases List.mem_cons.mp member with rfl | later
    · exact fun _ inside => nomatch inside
    · exact ih later
  | case3 c rest _ _ ih =>
    rcases List.mem_cons.mp member with rfl | later
    · exact fun _ inside => nomatch inside
    · exact ih later
  | case4 c rest _ other _ _ =>
    rw [List.mem_singleton.mp member]
    simpa using other
  | case5 c rest _ other first more split ih =>
    rw [split] at ih
    rcases List.mem_cons.mp member with rfl | later
    · exact List.forall_mem_cons.mpr ⟨by simpa using other, ih List.mem_cons_self⟩
    · exact ih (List.mem_cons_of_mem _ later)

theorem commented_remark {line : List Char} (unbroken : ∀ c ∈ line, isSeparator c = false) :
    Remark (commented line) := by
  unfold commented
  split
  · exact ⟨.inr rfl, unbroken⟩
  · refine ⟨.inr ?_, ?_⟩
    · rw [Text.trimEnd_cons (by decide)]
      rfl
    · intro c member
      rcases List.mem_cons.mp (Text.trimEnd_subset _ member) with rfl | later
      · decide
      · rcases List.mem_cons.mp later with rfl | inside
        · decide
        · exact unbroken c inside

def comments (header : String) : List (List Char) :=
  (lines (dropFinalLineFeeds header.toList)).map commented

-- A header that has no lines leaves an empty line in their place.
def front (header : String) : List (List Char) :=
  match comments header with
  | [] => [[], []]
  | first :: more => first :: more ++ [[]]

theorem front_remark {header : String} {line : List Char} (member : line ∈ front header) :
    Remark line := by
  have remarks : ∀ line ∈ comments header, Remark line := by
    intro line member
    obtain ⟨written, listed, rfl⟩ := List.mem_map.mp member
    exact commented_remark (lines_unbroken listed)
  unfold front at member
  split at member
  · have blank : line = [] := by simpa using member
    exact blank ▸ Remark.empty
  · rename_i first more split
    rw [split] at remarks
    rcases List.mem_append.mp member with comment | last
    · exact remarks line comment
    · rw [List.mem_singleton.mp last]
      exact Remark.empty

theorem intercalate_ended (first : List Char) (more : List (List Char)) :
    ['\n'].intercalate (first :: more) ++ ['\n'] = endLines (first :: more) := by
  induction more generalizing first with
  | nil => simp [endLines]
  | cons second more ih =>
    rw [List.intercalate_cons_cons, List.append_assoc, ih]
    simp [endLines]

theorem add_front (header : String) (text : Points) :
    add header text = Points.ofChars (endLines (front header)) ++ text := by
  have written : add header text =
      Points.ofChars (['\n'].intercalate (comments header) ++ ['\n']) ++ .char '\n' :: text := by
    rw [Points.ofChars_append, List.append_assoc, add, List.append_assoc]
    rfl
  rw [written, front]
  cases comments header with
  | nil => rfl
  | cons first more =>
    dsimp only
    rw [intercalate_ended, endLines_append, Points.ofChars_append, List.append_assoc]
    rfl

end Header

/-! All headers. -/

-- The lines in front of a text, the header that was added last first.
def Finish.front (finish : Finish) : List (List Char) := finish.headers.reverse.flatMap Header.front

theorem onText_front (finish : Finish) (text : Points) :
    finish.onText text = Points.ofChars (endLines finish.front) ++ text := by
  obtain ⟨filters, headers⟩ := finish
  unfold Finish.onText Finish.front
  induction headers generalizing text with
  | nil => rfl
  | cons header later ih =>
    rw [List.foldl_cons, ih, Header.add_front, List.reverse_cons, List.flatMap_append, endLines_append,
      Points.ofChars_append, List.append_assoc, List.flatMap_singleton]

-- However headers are written, the text behind them keeps its tokens and its document.
theorem onText_remarks (finish : Finish) (text : Points) :
    finish.onText text = Points.ofChars (endLines finish.front) ++ text ∧
    (∀ line ∈ finish.front, Remark line) ∧
    tokens (finish.onText text) = tokens text ∧
    Document.parse (finish.onText text) = Document.parse text := by
  have remarks : ∀ line ∈ finish.front, Remark line := by
    intro line member
    obtain ⟨header, _, inside⟩ := List.mem_flatMap.mp member
    exact Header.front_remark inside
  have same : tokens (finish.onText text) = tokens text := by
    rw [onText_front, remarks_tokens remarks]
  refine ⟨onText_front finish text, remarks, same, ?_⟩
  rw [Document.parse, Reading.of, same]
  rfl

-- Neither a line separator nor a carriage return lets the rest of a header out of its comments.
example : (Finish.onText ⟨[], ["one\rtype X\u2028 \n", "# three\r\n\n", ""]⟩ "scalar T\n") =
    "\n\n# three\n\n# one\n# type X\n#\n\nscalar T\n" := by decide +kernel

end DeclSchema
