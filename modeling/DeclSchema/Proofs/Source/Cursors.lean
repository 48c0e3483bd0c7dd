import DeclSchema.Source.Rule

/-!
Cursors that follow one another. What lies between two cursors is a piece of the text, and a gap is
such a piece: blanks and comments, behind which no further gap begins.
-/

namespace DeclSchema.Source

theorem Place.afterAll_append (p : Place) (first second : List Char) :
    p.afterAll (first ++ second) = (p.afterAll first).afterAll second := List.foldl_append

theorem Place.after_offset (p : Place) (c : Char) : (p.after c).offset = p.offset + c.utf8Size := by
  unfold Place.after
  split
  next feed =>
    subst feed
    rfl
  next => rfl

theorem Place.afterAll_offset (p : Place) (text : List Char) :
    (p.afterAll text).offset = p.offset + Text.byteLength text := by
  induction text generalizing p with
  | nil => rfl
  | cons c rest ih =>
    have later := ih (p.after c)
    rw [Place.after_offset] at later
    simpa [Place.afterAll, Nat.add_assoc] using later

namespace Cursor

-- The second cursor stands behind a piece of the text at the first one.
structure Spans (c : Cursor) (taken : List Char) (next : Cursor) : Prop where
  text : c.rest = taken ++ next.rest
  place : next.place = c.place.afterAll taken

theorem spans_nil (c : Cursor) : c.Spans [] c := ⟨rfl, rfl⟩

theorem spans_append {c middle next : Cursor} {first second : List Char}
    (earlier : c.Spans first middle) (later : middle.Spans second next) :
    c.Spans (first ++ second) next := by
  refine ⟨?_, ?_⟩
  · rw [earlier.text, later.text, List.append_assoc]
  · rw [later.place, earlier.place, Place.afterAll_append]

theorem spans_skip (c : Cursor) (n : Nat) : c.Spans (c.rest.take n) (c.skip n) :=
  ⟨(List.take_append_drop n c.rest).symm, rfl⟩

theorem spans_textTo {c next : Cursor} {taken : List Char} (spans : c.Spans taken next) :
    c.textTo next = taken := by
  have size : next.place.offset - c.place.offset = Text.byteLength taken := by
    rw [spans.place, Place.afterAll_offset]
    omega
  rw [textTo, size, spans.text, Text.takeBytes_append]

def Leads (c next : Cursor) : Prop := ∃ taken, c.Spans taken next

theorem leads_refl (c : Cursor) : c.Leads c := ⟨[], spans_nil c⟩

theorem leads_trans {c middle next : Cursor} (earlier : c.Leads middle) (later : middle.Leads next) :
    c.Leads next := by
  obtain ⟨first, earlier⟩ := earlier
  obtain ⟨second, later⟩ := later
  exact ⟨first ++ second, spans_append earlier later⟩

theorem leads_skip (c : Cursor) (n : Nat) : c.Leads (c.skip n) := ⟨_, spans_skip c n⟩

/-! ### Gaps -/

theorem runOf_take (p : Char → Bool) (text : List Char) :
    text.take (Lexeme.runOf p text) = text.takeWhile p := by
  induction text with
  | nil => rfl
  | cons c rest ih =>
    unfold Lexeme.runOf at ih ⊢
    by_cases hit : p c = true <;> simp [hit, ih]

theorem runOf_drop (p : Char → Bool) (text : List Char) :
    text.drop (Lexeme.runOf p text) = text.dropWhile p := by
  induction text with
  | nil => rfl
  | cons c rest ih =>
    unfold Lexeme.runOf at ih ⊢
    by_cases hit : p c = true <;> simp [hit, ih]

theorem gap_leads (c : Cursor) : c.Leads c.gap.after := by
  fun_induction Cursor.gap c with
  | case1 c blanks broken here none =>
    exact leads_skip c blanks
  | case2 c blanks broken here n size more ih =>
    exact leads_trans (leads_skip c blanks) (leads_trans (leads_skip here (n + 1)) ih)

-- A gap without comments.
theorem gap_blanks {c : Cursor} {blanks rest : List Char} (text : c.rest = blanks ++ rest)
    (blank : ∀ d ∈ blanks, Lexeme.isBlank d = true) (shown : ∀ d ∈ rest.head?, Lexeme.isBlank d = false)
    (noComment : Lexeme.comment rest = 0) :
    c.gap = ⟨[], blanks.contains '\n', ⟨rest, c.place.afterAll blanks⟩⟩ := by
  have run : c.rest.takeWhile Lexeme.isBlank = blanks := by
    rw [text, List.takeWhile_append_of_pos blank]
    cases rest with
    | nil => simp
    | cons d more => simp [shown d rfl]
  have size : Lexeme.runOf Lexeme.isBlank c.rest = blanks.length := by rw [Lexeme.runOf, run]
  have here : c.skip (Lexeme.runOf Lexeme.isBlank c.rest) = ⟨rest, c.place.afterAll blanks⟩ := by
    rw [size, skip, text, List.drop_left, List.take_left]
  rw [gap]
  split
  next =>
    rw [here, size, text, List.take_left]
  next n found =>
    rw [here, noComment] at found
    cases found

theorem gap_none {c : Cursor} (shown : ∀ d ∈ c.rest.head?, Lexeme.isBlank d = false)
    (noComment : Lexeme.comment c.rest = 0) : c.gap = ⟨[], false, c⟩ :=
  gap_blanks (List.nil_append c.rest).symm (by simp) shown noComment

-- No gap begins here.
def Settled (c : Cursor) : Prop := c.gap = ⟨[], false, c⟩

theorem gap_settled (c : Cursor) : c.gap.after.Settled := by
  fun_induction Cursor.gap c with
  | case1 c blanks broken here none =>
    apply gap_none ?_ none
    intro d first
    have shown : here.rest = c.rest.dropWhile Lexeme.isBlank := runOf_drop _ _
    have stop := List.head?_dropWhile_not Lexeme.isBlank c.rest
    rw [← shown, Option.mem_def.mp first] at stop
    exact stop
  | case2 c blanks broken here n size more ih => exact ih

theorem comment_slash {text : List Char} (found : Lexeme.comment text ≠ 0) :
    text.head? = some '/' := by
  unfold Lexeme.comment at found
  split at found
  · rfl
  · rfl
  · exact absurd rfl found

-- Behind its first spaces, if it has more than these, a gap goes on with another blank or with a
-- comment.
theorem gap_text (c : Cursor) :
    ∃ taken, c.Spans taken c.gap.after ∧
      ∀ d ∈ (taken.dropWhile (· = ' ')).head?, Lexeme.isBlank d = true ∨ d = '/' := by
  have blank : ∀ d ∈ (c.rest.takeWhile Lexeme.isBlank).dropWhile (· = ' '),
      Lexeme.isBlank d = true := fun d member =>
    List.all_eq_true.mp List.all_takeWhile d ((List.dropWhile_sublist _).subset member)
  have first := spans_skip c (Lexeme.runOf Lexeme.isBlank c.rest)
  rw [runOf_take] at first
  rw [gap]
  split
  next => exact ⟨_, first, fun d head => .inl (blank d (List.mem_of_mem_head? head))⟩
  next n found =>
    have slash := comment_slash (by rw [found]; exact Nat.succ_ne_zero n)
    have second := spans_skip (c.skip (Lexeme.runOf Lexeme.isBlank c.rest)) (n + 1)
    obtain ⟨others, last⟩ := gap_leads ((c.skip (Lexeme.runOf Lexeme.isBlank c.rest)).skip (n + 1))
    refine ⟨_, spans_append first (spans_append second last), ?_⟩
    intro d head
    cases rest : (c.skip (Lexeme.runOf Lexeme.isBlank c.rest)).rest with
    | nil => simp [rest] at slash
    | cons e more =>
      rw [rest, List.head?_cons, Option.some.injEq] at slash
      subst slash
      rw [List.dropWhile_append] at head
      split at head
      next =>
        right
        simpa [rest] using head.symm
      next shown =>
        left
        apply blank d
        cases run : (c.rest.takeWhile Lexeme.isBlank).dropWhile (· = ' ') with
        | nil => simp [run] at shown
        | cons first others =>
          rw [run, List.cons_append, List.head?_cons] at head
          exact Option.mem_some.mp head ▸ List.mem_cons_self

end Cursor

end DeclSchema.Source
