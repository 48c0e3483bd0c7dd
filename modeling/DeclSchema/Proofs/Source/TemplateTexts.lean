import DeclSchema.Proofs.Source.Rendering
import DeclSchema.Proofs.Source.TemplateSegments
import DeclSchema.Source.Grammar.Goal

/-!
Texts written as templates. A backslash stands in front of every character that would end the
template, begin a substitution or begin an escape; what is read from such a template is the text.
-/

namespace DeclSchema.Source

open Node

/-! ### Escaped texts -/

-- What a template does not hold as it is.
def isMarked (c : Char) : Bool := c = '\\' || c = '`' || c = '$'

def escaped (text : List Char) : List Char :=
  text.flatMap fun c => if isMarked c then ['\\', c] else [c]

theorem escaped_marked {c : Char} (marked : isMarked c = true) (text : List Char) :
    escaped (c :: text) = ['\\', c] ++ escaped text := by
  rw [escaped, List.flatMap_cons, if_pos marked]
  rfl

theorem escaped_plain {run : List Char} (plain : ∀ c ∈ run, isMarked c = false) (text : List Char) :
    escaped (run ++ text) = run ++ escaped text := by
  induction run with
  | nil => rfl
  | cons c more ih =>
    obtain ⟨first, later⟩ := List.forall_mem_cons.mp plain
    have rest : escaped (c :: (more ++ text)) = c :: escaped (more ++ text) := by
      rw [escaped, List.flatMap_cons, if_neg (by simp [first])]
      rfl
    rw [List.cons_append, rest, ih later, List.cons_append]

theorem marked_cases {c : Char} (marked : isMarked c = true) : c = '\\' ∨ c = '`' ∨ c = '$' := by
  simpa [isMarked, or_assoc] using marked

theorem plain_cases {c : Char} (plain : isMarked c = false) : c ≠ '\\' ∧ c ≠ '`' ∧ c ≠ '$' := by
  simpa [isMarked, and_assoc] using plain

-- An escape of two characters, which stands for the second one.
theorem escape_marked {c : Char} (marked : isMarked c = true) (rest : List Char) :
    Lexeme.escape ('\\' :: c :: rest) = 2 ∧ cookedEscape ['\\', c] = .ok [c] := by
  rcases marked_cases marked with rfl | rfl | rfl
  · exact ⟨rfl, rfl⟩
  · exact ⟨rfl, rfl⟩
  · exact ⟨rfl, rfl⟩

/-! ### Pieces -/

-- The nodes behind the opening mark of a template that stands for the text, from a place on.
inductive Pieces : Place → List Char → List Node → Prop where
  | closed (place : Place) : Pieces place [] [leaf .mark place ['`']]
  | run {place : Place} {run text : List Char} {nodes : List Node} :
      (∀ c ∈ run, isMarked c = false) → Pieces (place.afterAll run) text nodes →
      Pieces place (run ++ text) (leaf .fragment place run :: nodes)
  | escape {place : Place} {c : Char} {text : List Char} {nodes : List Node} :
      isMarked c = true → Pieces (place.afterAll ['\\', c]) text nodes →
      Pieces place (c :: text) (leaf .escape place ['\\', c] :: nodes)

theorem pieces_whole {place : Place} {text : List Char} {nodes : List Node}
    (pieces : Pieces place text nodes) : anyFault nodes = false := by
  induction pieces with
  | closed => rfl
  | run _ _ ih => exact ih
  | escape _ _ ih => exact ih

theorem pieces_lie {place : Place} {text : List Char} {nodes : List Node}
    (pieces : Pieces place text nodes) :
    ∃ segments, Segment.textAll segments = escaped text ∧ Segment.valueAll segments = .ok (.ofChars text) ∧
      Lie place.offset segments nodes := by
  induction pieces with
  | closed place => exact ⟨[], rfl, rfl, .other rfl (.nil _)⟩
  | @run place run text nodes plain _ ih =>
    obtain ⟨segments, written, value, lie⟩ := ih
    rw [Place.afterAll_offset] at lie
    refine ⟨.run run :: segments, ?_, ?_, .other rfl (.run lie)⟩
    · rw [Segment.textAll_cons, written, escaped_plain plain]
      rfl
    · rw [Segment.valueAll_cons, value, Points.ofChars_append]
      rfl
  | @escape place c text nodes marked _ ih =>
    obtain ⟨segments, written, value, lie⟩ := ih
    rw [Place.afterAll_offset] at lie
    refine ⟨.escape ['\\', c] :: segments, ?_, ?_, .cut rfl rfl lie⟩
    · rw [Segment.textAll_cons, written, escaped_marked marked]
      rfl
    · rw [Segment.valueAll_cons, value, Segment.value, (escape_marked marked []).2]
      rfl

/-! ### Reading -/

namespace Grammar

open Rule

variable {hole : Rule Node}

theorem fragment_run {run later rest : List Char}
    (plain : ∀ c ∈ run, isMarked c = false ∧ c ≠ '\x00')
    (stop : ∀ c ∈ later.head?, isMarked c = true) :
    Lexeme.run fragmentPiece 0 (run ++ (escaped later ++ '`' :: rest)) = run.length := by
  apply run_single
  · intro c member more
    obtain ⟨unmarked, filled⟩ := plain c member
    obtain ⟨slash, quote, dollar⟩ := plain_cases unmarked
    have code : c.toNat ≠ 0 := by
      intro zero
      exact filled (Char.toNat_inj.mp zero)
    unfold fragmentPiece
    split
    next same => exact absurd (List.cons.inj same).1 dollar
    next same =>
      cases same
      simp [slash, quote, code]
    next same => cases same
  · cases later with
    | nil => rfl
    | cons c others =>
      rw [escaped_marked (stop c rfl)]
      rfl

theorem body_escape {c : Char} (marked : isMarked c = true) (fuel : Nat) (rest : List Char)
    (place : Place) :
    templateBody hole (fuel + 1) ⟨'\\' :: c :: rest, place⟩ =
      (templateBody hole fuel ⟨rest, place.afterAll ['\\', c]⟩).map fun more =>
        (leaf .escape place ['\\', c] :: more.1, more.2) := by
  rw [templateBody]
  dsimp only
  rw [(escape_marked marked rest).1]
  rfl

theorem body_fragment {c : Char} {run rest : List Char} (plain : isMarked c = false)
    (size : Lexeme.run fragmentPiece 0 (c :: run ++ rest) = run.length + 1) (fuel : Nat)
    (place : Place) :
    templateBody hole (fuel + 1) ⟨c :: run ++ rest, place⟩ =
      (templateBody hole fuel ⟨rest, place.afterAll (c :: run)⟩).map fun more =>
        (leaf .fragment place (c :: run) :: more.1, more.2) := by
  obtain ⟨slash, quote, dollar⟩ := plain_cases plain
  have taken : (c :: run ++ rest).take (run.length + 1) = c :: run := by simp
  have behind : (⟨c :: run ++ rest, place⟩ : Cursor).skip (run.length + 1) =
      ⟨rest, place.afterAll (c :: run)⟩ := by
    simp [Cursor.skip]
  rw [templateBody]
  dsimp only
  rw [size]
  dsimp only
  rw [taken, behind]
  split
  next same => cases same
  next same => exact absurd (List.cons.inj same).1 quote
  next same => exact absurd (List.cons.inj same).1 slash
  next same => exact absurd (List.cons.inj same).1 dollar
  next => rfl

-- The longest run of plain characters is one fragment.
theorem split_run {c : Char} (others : List Char) (plain : isMarked c = false) :
    ∃ run later, c :: others = c :: run ++ later ∧ (∀ d ∈ c :: run, isMarked d = false) ∧
      ∀ d ∈ later.head?, isMarked d = true := by
  refine ⟨others.takeWhile (!isMarked ·), others.dropWhile (!isMarked ·), ?_, ?_, ?_⟩
  · rw [List.cons_append, List.takeWhile_append_dropWhile]
  · refine List.forall_mem_cons.mpr ⟨plain, fun d member => ?_⟩
    simpa using List.all_eq_true.mp List.all_takeWhile d member
  · intro d head
    have stop := List.head?_dropWhile_not (!isMarked ·) others
    rw [Option.mem_def.mp head] at stop
    simpa using stop

theorem body_pieces (hole : Rule Node) (text rest : List Char) (filled : '\x00' ∉ text) (fuel : Nat)
    (enough : text.length < fuel) (place : Place) :
    ∃ nodes, templateBody hole fuel ⟨escaped text ++ '`' :: rest, place⟩ =
        some (nodes, ⟨rest, place.afterAll (escaped text ++ ['`'])⟩) ∧
      Pieces place text nodes := by
  -- A fragment takes many characters at once, so the induction follows the rounds of the reader.
  induction fuel generalizing text place with
  | zero => exact absurd enough (Nat.not_lt_zero _)
  | succ fuel ih =>
    cases text with
    | nil => exact ⟨_, rfl, .closed place⟩
    | cons c others =>
      cases marked : isMarked c with
      | true =>
        obtain ⟨nodes, read, pieces⟩ := ih others (fun member => filled (List.mem_cons_of_mem c member))
          (Nat.lt_of_succ_lt_succ enough) (place.afterAll ['\\', c])
        refine ⟨leaf .escape place ['\\', c] :: nodes, ?_, .escape marked pieces⟩
        rw [escaped_marked marked, List.append_assoc, List.append_assoc, Place.afterAll_append]
        rw [List.cons_append, List.cons_append, List.nil_append, body_escape marked, read]
        rfl
      | false =>
        obtain ⟨run, later, same, plain, stop⟩ := split_run others marked
        rw [same] at filled enough ⊢
        simp only [List.length_append, List.length_cons] at enough
        obtain ⟨nodes, read, pieces⟩ := ih later (fun member => filled (List.mem_append_right _ member))
          (by omega) (place.afterAll (c :: run))
        refine ⟨leaf .fragment place (c :: run) :: nodes, ?_, .run plain pieces⟩
        have size : Lexeme.run fragmentPiece 0 (c :: run ++ (escaped later ++ '`' :: rest)) =
            run.length + 1 := by
          refine fragment_run (fun d member => ⟨plain d member, ?_⟩) stop
          rintro rfl
          exact filled (List.mem_append_left _ member)
        rw [escaped_plain plain, List.append_assoc, List.append_assoc, Place.afterAll_append]
        rw [body_fragment marked size, read]
        rfl

-- The template stands for the text.
def MeansText (n : Node) (text : List Char) : Prop :=
  ∃ place opening inside, n = ⟨.template, none, place, '`' :: (escaped text ++ ['`']), false,
      leaf .mark opening ['`'] :: inside⟩ ∧
    Pieces (place.afterAll ['`']) text inside

theorem template_reads {text : List Char} (filled : '\x00' ∉ text) (rest : List Char) :
    (templateOf .template hole).Reads ('`' :: (escaped text ++ ['`'])) rest (MeansText · text) := by
  intro place
  have mark : (mark "`").Reads ['`'] (escaped text ++ '`' :: rest) _ := reads_sign "`" '`' rfl rfl
  obtain ⟨_, opened, opening, rfl⟩ := mark place
  have enough : text.length < (escaped text ++ '`' :: rest).length + 1 := by
    have spelled : text.length ≤ (escaped text).length :=
      length_le_flatMap (fun c => by split <;> simp) text
    rw [List.length_append]
    omega
  obtain ⟨inside, body, pieces⟩ :=
    body_pieces hole text rest filled _ enough (place.afterAll ['`'])
  have same : '`' :: (escaped text ++ ['`']) ++ rest = ['`'] ++ (escaped text ++ '`' :: rest) := by simp
  refine ⟨_, node_found ?_ ⟨rfl, rfl⟩ .template, place, opening, inside, rfl, pieces⟩
  rw [same, bind_found opened]
  exact bind_found body _

section

variable {n : Node} {text : List Char}

theorem MeansText.cooked (means : MeansText n text) : n.cooked = .ok (.ofChars text) := by
  obtain ⟨place, opening, inside, rfl, pieces⟩ := means
  obtain ⟨segments, written, value, lie⟩ := pieces_lie pieces
  rw [Place.afterAll_offset] at lie
  have made : MadeOf ⟨.template, none, place, '`' :: (escaped text ++ ['`']), false,
      leaf .mark opening ['`'] :: inside⟩ segments :=
    ⟨by rw [written], .other rfl lie⟩
  exact made.cooked.trans value

theorem MeansText.kind (means : MeansText n text) : n.kind = .template := by
  obtain ⟨place, opening, inside, rfl, -⟩ := means
  rfl

theorem MeansText.whole (means : MeansText n text) : n.hasFault = false := by
  obtain ⟨place, opening, inside, rfl, pieces⟩ := means
  simp [hasFault, anyFault, leaf, pieces_whole pieces]

end

end Grammar

end DeclSchema.Source
