import DeclSchema.Proofs.Source.Rendering
import DeclSchema.Source.Grammar
import DeclSchema.Source.ShapeReading

/-!
Rendered types are read back. What a rendered type is read into has the shape that was rendered,
whatever stands around it.
-/

namespace DeclSchema.Source.Grammar

open Rule Node

/-! ### What follows a type -/

def isStop (d : Char) : Bool := d = ';' || d = ')' || d = ']' || d = '>' || d = ','

def Stopped (rest : List Char) : Prop := ∃ d more, rest = d :: more ∧ isStop d = true

-- A type ends in front of this character: no brackets, no sign and no word follow.
structure Closes (d : Char) : Prop where
  shown : isShown d = true
  breaks : breaksName d = true
  noBracket : beginsOther "[" d = true
  noPoint : beginsOther "." d = true
  noArrow : beginsOther "=>" d = true
  noAngle : beginsOther "<" d = true

theorem stop_closes {d : Char} (stop : isStop d = true) :
    Closes d ∧ beginsOther "|" d = true ∧ beginsOther "&" d = true := by
  simp only [isStop, Bool.or_eq_true, decide_eq_true_eq] at stop
  rcases stop with (((rfl | rfl) | rfl) | rfl) | rfl
  all_goals exact ⟨⟨rfl, rfl, rfl, rfl, rfl, rfl⟩, rfl, rfl⟩

theorem stopped_heads {rest : List Char} (stopped : Stopped rest) :
    ∃ d, Heads d rest ∧ Closes d ∧ beginsOther "|" d = true ∧ beginsOther "&" d = true := by
  obtain ⟨d, more, rfl, stop⟩ := stopped
  obtain ⟨closes, noBar, noAnd⟩ := stop_closes stop
  exact ⟨d, heads_cons closes.shown more, closes, noBar, noAnd⟩

/-! ### What a type begins with -/

def isOpening (d : Char) : Bool := isNameCharacter d || d = '\'' || d = '(' || d = '\x7b'

def Opens (text : List Char) : Prop := ∃ d more, text = d :: more ∧ isOpening d = true

theorem opening_shown {d : Char} (opening : isOpening d = true) : isShown d = true := by
  simp only [isOpening, Bool.or_eq_true, decide_eq_true_eq] at opening
  rcases opening with ((character | rfl) | rfl) | rfl
  · have part := (nameCharacter_part character).1
    have noSlash : d ≠ '/' := by
      rintro rfl
      cases character
    simp only [Lexeme.isNamePart, Bool.and_eq_true, Bool.not_eq_true'] at part
    simp [isShown, part.1.2, noSlash]
  all_goals decide

theorem opening_other {d : Char} {sign : String} (opening : isOpening d = true)
    (no : sign.toList.head?.any (!isOpening ·) = true) : beginsOther sign d = true := by
  unfold beginsOther
  split
  next none => simp [none] at no
  next e _ same =>
    rw [same] at no
    rw [bne_iff_ne]
    rintro rfl
    simp [opening] at no

theorem opens_shown {text : List Char} (opens : Opens text) : Shown text := by
  obtain ⟨d, more, rfl, opening⟩ := opens
  exact ⟨d, more, rfl, opening_shown opening⟩

theorem opens_heads {text : List Char} (opens : Opens text) :
    ∃ d, Heads d text ∧ isOpening d = true := by
  obtain ⟨d, more, rfl, opening⟩ := opens
  exact ⟨d, heads_cons (opening_shown opening) more, opening⟩

theorem opens_append {text : List Char} (opens : Opens text) (rest : List Char) :
    Opens (text ++ rest) := by
  obtain ⟨d, more, rfl, opening⟩ := opens
  exact ⟨d, more ++ rest, rfl, opening⟩

section

variable {read : Reader} {lineEnds : Bool} {d : Char} {text rest : List Char} {P : Node → Prop}

theorem bracketed_refuses (heads : Heads d rest) (other : beginsOther "[" d = true) (start : Cursor)
    (left : Node) : (bracketed read lineEnds start left).Refuses rest :=
  refuses_orElse
    (refuses_grow (refuses_guarded _ (refuses_seq (refuses_mark heads other))) _ _ _)
    (refuses_grow (refuses_guarded _ (refuses_seq (refuses_mark heads other))) _ _ _)

theorem primary_reads (atom : (atomType read lineEnds).Reads text rest P) (heads : Heads d rest)
    (other : beginsOther "[" d = true) : (primaryType read lineEnds).Reads text rest P :=
  reads_climbing atom (bracketed_refuses heads other)

-- Words in front of a type that make another one of it.
def operators : List String := ["keyof", "readonly", "infer", "new", "abstract"]

-- The text does not begin with such a word.
def Unled (text : List Char) : Prop :=
  ∀ word ∈ operators, text.take (Lexeme.name text) ≠ word.toList

theorem operand_reads (primary : (primaryType read lineEnds).Reads text rest P)
    (unled : Unled (text ++ rest)) : (operandType read lineEnds).Reads text rest P := by
  intro place
  obtain ⟨n, found, property⟩ := primary place
  refine ⟨n, ?_, property⟩
  have other : ∀ word ∈ operators,
      ((⟨text ++ rest, place⟩ : Cursor).nameHere == word.toList) = false := fun word member =>
    beq_false_of_ne (unled word member)
  simp only [operators, List.forall_mem_cons] at other
  obtain ⟨notKeyof, notReadonly, notInfer, notNew, notAbstract, -⟩ := other
  unfold operandType
  dsimp only
  simp only [notKeyof, notReadonly, notInfer, notNew, notAbstract, Bool.or_self, Bool.false_eq_true,
    if_false]
  exact found

theorem chain_reads {kind : Kind} {sign : Rule (List Node)} {operand : Rule Node}
    (reads : operand.Reads text rest P) (unsigned : sign.Refuses (text ++ rest))
    (stop : sign.Refuses rest) : (chain kind sign operand).Reads text rest P :=
  reads_climbing (reads_right (refuses_node (refuses_seq unsigned) kind) reads) fun _ _ =>
    refuses_grow (refuses_seq stop) _ _ _

theorem type_reads (union : (unionType read lineEnds).Reads text rest P) (heads : Heads d rest)
    (breaks : breaksName d = true) : (typeRule read lineEnds).Reads text rest P :=
  reads_ungrown _ union fun _ _ =>
    refuses_grow (refuses_guarded _ (refuses_seq (refuses_named heads breaks))) _ _ _

theorem intersection_reads {first : Char} (operand : (operandType read lineEnds).Reads text rest P)
    (begins : Heads first (text ++ rest)) (noAnd : beginsOther "&" first = true)
    (heads : Heads d rest) (stop : beginsOther "&" d = true) :
    (intersectionType read lineEnds).Reads text rest P :=
  chain_reads operand (refuses_markNot begins noAnd) (refuses_markNot heads stop)

theorem union_reads {first : Char} (operand : (intersectionType read lineEnds).Reads text rest P)
    (begins : Heads first (text ++ rest)) (noBar : beginsOther "|" first = true)
    (heads : Heads d rest) (stop : beginsOther "|" d = true) :
    (unionType read lineEnds).Reads text rest P :=
  chain_reads operand (refuses_markNot begins noBar) (refuses_markNot heads stop)

-- A type that is neither a union nor an intersection.
theorem alone_reads (primary : (primaryType read lineEnds).Reads text rest P)
    (opens : Opens (text ++ rest)) (unled : Unled (text ++ rest)) (stopped : Stopped rest) :
    (typeRule read lineEnds).Reads text rest P := by
  obtain ⟨d, heads, closes, stopBar, stopAnd⟩ := stopped_heads stopped
  obtain ⟨first, begins, opening⟩ := opens_heads opens
  have intersection := intersection_reads (operand_reads primary unled) begins
    (opening_other opening rfl) heads stopAnd
  exact type_reads (union_reads intersection begins (opening_other opening rfl) heads stopBar) heads
    closes.breaks

theorem unled_breaks (breaks : breaksName d = true) (more : List Char) : Unled (d :: more) := by
  intro word member
  rw [name_breaks breaks]
  simp only [operators, List.mem_cons, List.not_mem_nil, or_false] at member
  rcases member with rfl | rfl | rfl | rfl | rfl <;> simp

theorem startsWith_other {sign : String} (heads : Heads d rest) (other : beginsOther sign d = true)
    (place : Place) : (⟨rest, place⟩ : Cursor).gap.after.startsWith sign = false := by
  obtain ⟨more, later, gap⟩ := gap_heads heads place
  rw [gap, Cursor.startsWith]
  exact isPrefixOf_other other more

/-! ### Nodes and their shapes -/

@[simp] theorem mark_idle (place : Place) (text : List Char) :
    (leaf .mark place text).isContent = false := rfl

@[simp] theorem mark_whole (place : Place) (text : List Char) :
    (leaf .mark place text).hasFault = false := rfl

theorem anyFault_append (first second : List Node) :
    anyFault (first ++ second) = (anyFault first || anyFault second) := by
  induction first with
  | nil => rfl
  | cons n more ih => simp [anyFault, ih, Bool.or_assoc]

-- The node stands for the shape.
structure Means (n : Node) (shape : Shape) : Prop where
  shape : readShape n = .ok shape
  content : n.isContent = true
  whole : n.hasFault = false

theorem Means.playing {n : Node} {shape : Shape} (means : Means n shape) (r : Role) :
    Means (n.playing r) shape := by
  cases n
  exact ⟨means.shape, means.content, means.whole⟩

-- The reader reads the rendered shape wherever a type may end.
structure ReadsBack (read : Reader) (shape : Shape) : Prop where
  opens : Opens shape.render
  reads : ∀ lineEnds rest, Stopped rest →
    (read (.type lineEnds)).Reads shape.render rest (Means · shape)

theorem ReadsBack.shown {shape : Shape} (back : ReadsBack read shape) : Shown shape.render :=
  opens_shown back.opens

/-! ### Parentheses -/

variable {shape : Shape}

theorem stopped_cons {d : Char} (stop : isStop d = true) (more : List Char) : Stopped (d :: more) :=
  ⟨d, more, rfl, stop⟩

theorem shown_cons {d : Char} (shown : isShown d = true) (more : List Char) : Shown (d :: more) :=
  ⟨d, more, rfl, shown⟩

-- A type between two marks.
theorem enclosed_reads {first last : String} {o c : Char} (begins : first.toList = [o])
    (opening : isShown o = true) (ends : last.toList = [c]) (closing : isStop c = true)
    (inside : ReadsBack read shape) :
    (seq [mark first, item (read (.type false)), mark last]).Reads (o :: (shape.render ++ [c])) rest
      fun nodes => ∃ before n behind,
        nodes = [leaf .mark before [o], n, leaf .mark behind [c]] ∧ Means n shape := by
  have closed : (mark last).Reads [c] rest _ := reads_sign last c ends (stop_closes closing).1.shown
  have middle := reads_item inside.shown spaces_nil (inside.reads false _ (stopped_cons closing rest))
  refine reads_seq (reads_sign first o begins opening) (reads_seq middle (reads_seq_last closed)
    (R := fun nodes => ∃ n behind, nodes = [n, leaf .mark behind [c]] ∧ Means n shape) ?_) ?_
  · rintro _ _ ⟨n, rfl, means⟩ ⟨behind, rfl⟩
    exact ⟨n, behind, rfl, means⟩
  · rintro _ _ ⟨before, rfl⟩ ⟨n, behind, rfl, means⟩
    exact ⟨before, n, behind, rfl, means⟩

theorem parentheses_read (inside : ReadsBack read shape) (heads : Heads d rest)
    (noArrow : beginsOther "=>" d = true) :
    (atomType read lineEnds).Reads ('(' :: (shape.render ++ [')'])) rest fun n =>
      n.kind = .parenthesizedType ∧ Means n shape := by
  have row : (seq [mark "(", item (read (.type false)), mark ")"]).Reads _ rest _ :=
    enclosed_reads rfl rfl rfl rfl inside
  have parenthesized : (parenthesized read lineEnds).Reads ('(' :: (shape.render ++ [')'])) rest
      fun n => n.kind = .parenthesizedType ∧ Means n shape := by
    refine reads_imp ?_ (reads_left (reads_checked (reads_node .parenthesizedType row) fun place => ?_))
    · rintro _ ⟨place, _, rfl, first, n, last, rfl, means⟩
      refine ⟨rfl, ?_, rfl, ?_⟩
      · simp [readShape, readFirst, means.content, means.shape]
      · simp [hasFault, anyFault, means.whole]
    · rw [startsWith_other heads noArrow]
      rfl
  exact parenthesized

/-! ### Words -/

-- A whole word, behind which no point follows.
structure Worded (text rest : List Char) : Prop where
  word : isWord text = true
  breaks : Breaks rest
  follows : ∃ d, Heads d rest ∧ beginsOther "." d = true

theorem word_cons (word : isWord text = true) :
    ∃ c more, text = c :: more ∧ isNameCharacter c = true := by
  cases text with
  | nil => cases word
  | cons c more =>
    simp only [isWord, Bool.and_eq_true] at word
    exact ⟨c, more, rfl, word.1.1⟩

theorem word_opens (word : isWord text = true) : Opens text := by
  obtain ⟨c, more, rfl, character⟩ := word_cons word
  exact ⟨c, more, rfl, by simp [isOpening, character]⟩

theorem word_shown (word : isWord text = true) : Shown text := opens_shown (word_opens word)

theorem stopped_breaks (stopped : Stopped rest) : Breaks rest := by
  obtain ⟨d, more, rfl, stop⟩ := stopped
  intro e head
  cases head
  exact (stop_closes stop).1.breaks

theorem worded_name (worded : Worded text rest) : Lexeme.name (text ++ rest) = text.length := by
  obtain ⟨c, more, rfl, -⟩ := word_cons worded.word
  exact name_word worded.word worded.breaks

-- What is read may go on behind the word.
theorem atom_word {name behind : List Char} (worded : Worded name behind)
    (same : text ++ rest = name ++ behind) (reads : (wordType read lineEnds).Reads text rest P) :
    (atomType read lineEnds).Reads text rest P := by
  intro place
  obtain ⟨n, found, property⟩ := reads place
  refine ⟨n, ?_, property⟩
  have size := worded_name worded
  obtain ⟨c, more, rfl, character⟩ := word_cons worded.word
  rw [same] at found ⊢
  unfold atomType
  split
  case h_13 =>
    rw [size]
    exact found
  all_goals
    next same =>
      cases same
      try cases character

theorem word_alone {name behind : List Char} (worded : Worded name behind)
    (free : operators.all (·.toList != name) = true) (same : text ++ rest = name ++ behind)
    (stopped : Stopped rest) (reads : (wordType read lineEnds).Reads text rest P) :
    (typeRule read lineEnds).Reads text rest P := by
  obtain ⟨d, heads, closes, -, -⟩ := stopped_heads stopped
  have opens : Opens (text ++ rest) := same ▸ opens_append (word_opens worded.word) behind
  refine alone_reads (primary_reads (atom_word worded same reads) heads closes.noBracket) opens ?_ stopped
  intro word member
  rw [same, worded_name worded, List.take_left]
  have different := List.all_eq_true.mp free word member
  rw [bne_iff_ne] at different
  exact Ne.symm different

theorem worded_stopped (word : isWord text = true) (stopped : Stopped rest) : Worded text rest := by
  obtain ⟨d, heads, closes, -, -⟩ := stopped_heads stopped
  exact ⟨word, stopped_breaks stopped, d, heads, closes.noPoint⟩

theorem undotted (worded : Worded text rest) (place : Place) : dotted ⟨rest, place⟩ = false := by
  obtain ⟨d, heads, noPoint⟩ := worded.follows
  unfold dotted
  dsimp only
  rw [startsWith_other heads noPoint]
  rfl

theorem wordOf_reads {texts : List String} (worded : Worded text rest)
    (known : texts.any (·.toList == text) = true) :
    (wordOf texts).Reads text rest fun nodes => ∃ place, nodes = [leaf .mark place text] :=
  reads_named (word_shown worded.word) spaces_nil (worded_name worded) known

theorem wordOf_refuses {texts : List String} (worded : Worded text rest)
    (unknown : texts.any (·.toList == text) = false) : (wordOf texts).Refuses (text ++ rest) :=
  refuses_other (word_shown worded.word) (worded_name worded) unknown

theorem wordAs_refuses {kind : Kind} {word : String} (worded : Worded text rest)
    (other : (text == word.toList) = false) :
    (lexeme kind (nameSize (· == word.toList))).Refuses (text ++ rest) :=
  refuses_other (word_shown worded.word) (worded_name worded) other

theorem predefined_reads {word : String} (worded : Worded word.toList rest)
    (known : predefined.any (·.toList == word.toList) = true) :
    (wordType read lineEnds).Reads word.toList rest (Means · (.keyword word)) := by
  have named := reads_node .predefinedType (wordOf_reads worded known)
  refine reads_imp ?_ (reads_left (reads_checked named ?_))
  · rintro _ ⟨place, _, rfl, start, rfl⟩
    refine ⟨?_, rfl, ?_⟩
    · simp [readShape]
    · simp [hasFault, anyFault]
  · intro place
    rw [undotted worded]
    rfl

theorem literalWord_reads {kind : Kind} {word : String} {shape : Shape}
    (worded : Worded word.toList rest)
    (means : ∀ place start,
      Means ⟨.literalType, none, place, word.toList, false, [leaf kind start word.toList]⟩ shape) :
    (do let found ← literalWord kind word; guard fun c => !dotted c; return found).Reads
      word.toList rest (Means · shape) := by
  have named : (lexeme kind (nameSize (· == word.toList))).Reads word.toList rest _ :=
    reads_named (word_shown worded.word) spaces_nil (worded_name worded) (by simp)
  refine reads_checked (reads_imp ?_ (reads_node .literalType named)) fun place => ?_
  · rintro _ ⟨place, _, rfl, start, rfl⟩
    exact means place start
  · rw [undotted worded]
    rfl

theorem literalWord_refuses {kind : Kind} {word : String} (worded : Worded text rest)
    (other : (text == word.toList) = false) :
    (do let found ← literalWord kind word; guard fun c => !dotted c; return found).Refuses
      (text ++ rest) := refuses_bind (refuses_node (wordAs_refuses worded other) _)

-- The words that are tried in front of the literal ones.
theorem unpredefined (worded : Worded text rest) (other : predefined.any (·.toList == text) = false)
    (notUnique : (text == "unique".toList) = false) :
    (do let found ← node .predefinedType (wordOf predefined); guard fun c => !dotted c; return found :
      Rule Node).Refuses (text ++ rest) ∧
    (node .predefinedType (seq [word "unique", word "symbol"])).Refuses (text ++ rest) :=
  ⟨refuses_bind (refuses_node (wordOf_refuses worded other) _),
    refuses_node (refuses_seq (wordAs_refuses worded notUnique)) _⟩

theorem null_reads (stopped : Stopped rest) :
    (wordType read lineEnds).Reads "null".toList rest (Means · (.keyword "null")) := by
  have worded : Worded "null".toList rest := worded_stopped rfl stopped
  obtain ⟨first, second⟩ := unpredefined worded (by decide) (by decide)
  exact reads_right first (reads_right second
    (reads_left (literalWord_reads worded fun _ _ => ⟨rfl, rfl, rfl⟩)))

theorem undefined_reads (stopped : Stopped rest) :
    (wordType read lineEnds).Reads "undefined".toList rest (Means · (.keyword "undefined")) := by
  have worded : Worded "undefined".toList rest := worded_stopped rfl stopped
  obtain ⟨first, second⟩ := unpredefined worded (by decide) (by decide)
  exact reads_right first (reads_right second (reads_right (literalWord_refuses worded rfl)
    (reads_left (literalWord_reads worded fun _ _ => ⟨rfl, rfl, rfl⟩))))

theorem true_reads (stopped : Stopped rest) :
    (wordType read lineEnds).Reads "true".toList rest (Means · (.literal (.boolean true))) := by
  have worded : Worded "true".toList rest := worded_stopped rfl stopped
  obtain ⟨first, second⟩ := unpredefined worded (by decide) (by decide)
  exact reads_right first (reads_right second (reads_right (literalWord_refuses worded rfl)
    (reads_right (literalWord_refuses worded rfl)
      (reads_left (literalWord_reads worded fun _ _ => ⟨rfl, rfl, rfl⟩)))))

theorem false_reads (stopped : Stopped rest) :
    (wordType read lineEnds).Reads "false".toList rest (Means · (.literal (.boolean false))) := by
  have worded : Worded "false".toList rest := worded_stopped rfl stopped
  obtain ⟨first, second⟩ := unpredefined worded (by decide) (by decide)
  exact reads_right first (reads_right second (reads_right (literalWord_refuses worded rfl)
    (reads_right (literalWord_refuses worded rfl) (reads_right (literalWord_refuses worded rfl)
      (reads_left (literalWord_reads worded fun _ _ => ⟨rfl, rfl, rfl⟩))))))

/-! ### References -/

-- Words that are tried in front of names.
def typeWords : List String :=
  predefined ++ ["unique", "null", "undefined", "true", "false", "this", "typeof", "import"]

theorem named_reads {name behind : List Char} (worded : Worded name behind)
    (free : typeWords.all (·.toList != name) = true) (same : text ++ rest = name ++ behind)
    (reads : (namedType read).Reads text rest P) : (wordType read lineEnds).Reads text rest P := by
  have other : ∀ word ∈ typeWords, (name == word.toList) = false := by
    intro word member
    have different := List.all_eq_true.mp free word member
    rw [bne_iff_ne] at different
    exact beq_false_of_ne (Ne.symm different)
  have unknown : predefined.any (·.toList == name) = false := by
    rw [List.any_eq_false]
    intro word member
    have different := ne_of_beq_false (other word (List.mem_append_left _ member))
    exact fun same => different (eq_of_beq same).symm
  have lone (word : String) (known : word ∈ typeWords) {kind : Kind} :
      (lexeme kind (nameSize (· == word.toList))).Refuses (text ++ rest) :=
    same ▸ wordAs_refuses worded (other word known)
  obtain ⟨first, second⟩ := unpredefined worded unknown (other "unique" (by decide))
  rw [← same] at first second
  refine reads_right first (reads_right second ?_)
  refine reads_right (refuses_bind (refuses_node (lone "null" (by decide)) _)) ?_
  refine reads_right (refuses_bind (refuses_node (lone "undefined" (by decide)) _)) ?_
  refine reads_right (refuses_bind (refuses_node (lone "true" (by decide)) _)) ?_
  refine reads_right (refuses_bind (refuses_node (lone "false" (by decide)) _)) ?_
  refine reads_right (refuses_bind (refuses_node (lone "this" (by decide)) _)) ?_
  refine reads_right (refuses_node (refuses_seq (lone "typeof" (by decide))) _) ?_
  have shown : Shown (text ++ rest) := same ▸ shown_append (word_shown worded.word) behind
  refine reads_right (refuses_node (refuses_seq (refuses_item_here (bare_shown shown) ?_)) _) reads
  exact refuses_node (refuses_seq (lone "import" (by decide))) _

theorem leafOf_reads {kind : Kind} {size : List Char → Nat} (filled : text ≠ [])
    (taken : size (text ++ rest) = text.length) :
    (leafOf kind size).Reads text rest fun n => ∃ place, n = leaf kind place text := by
  intro place
  obtain ⟨others, some⟩ : ∃ others, text.length = others + 1 := by
    obtain ⟨c, more, rfl⟩ := List.exists_cons_of_ne_nil filled
    exact ⟨more.length, rfl⟩
  refine ⟨_, ?_, place, rfl⟩
  unfold leafOf
  dsimp only
  rw [taken, some]
  dsimp only
  rw [← some, Cursor.skip, List.take_left, List.drop_left]

theorem word_filled (word : isWord text = true) : text ≠ [] := by
  rintro rfl
  cases word

theorem typeName_reads (worded : Worded text rest) :
    (nestedTypeName <|> typeName).Reads text rest fun n => ∃ place, n = leaf .typeName place text := by
  have name : (anyName .typeName).Reads text rest _ :=
    reads_lexeme .typeName (word_shown worded.word) spaces_nil (worded_name worded)
  refine reads_right (refuses_node (refuses_seq_after name (refuses_seq ?_)) _) ?_
  · exact fun place => bind_none (guard_false (undotted worded place)) _
  · exact leafOf_reads (word_filled worded.word) (worded_name worded)

theorem lone_reads (worded : Worded text rest) (heads : Heads d rest)
    (noAngle : beginsOther "<" d = true) :
    (namedType read).Reads text rest fun n => ∃ place, n = leaf .typeName place text := by
  have none : (itemAs .typeArguments (typeArguments read)).Refuses rest :=
    refuses_itemAs heads (fun more =>
      refuses_node (refuses_seq (refuses_mark (heads_cons heads.1 more) noAngle)) _) _
  exact reads_ungrown (fun start left => grow .genericType start [left.playing .name] _)
    (typeName_reads worded) fun _ _ => refuses_grow none _ _ _

theorem generic_reads {name inside : List Char} {Q : List Node → Prop}
    (worded : Worded name (inside ++ rest))
    (reads : (itemAs .typeArguments (typeArguments read)).Reads inside rest Q) :
    (namedType read).Reads (name ++ inside) rest fun n => ∃ place start covered children,
      n = ⟨.genericType, none, start, covered, false,
        (leaf .typeName place name).playing .name :: children⟩ ∧ Q children := by
  intro place
  obtain ⟨base, found, origin, rfl⟩ := typeName_reads worded place
  rw [← List.append_assoc] at found
  obtain ⟨n, grown, covered, children, rfl, property⟩ := reads_grow .genericType
    ⟨name ++ inside ++ rest, place⟩ [(leaf .typeName origin name).playing .name] reads
    (place.afterAll name)
  refine ⟨_, ?_, origin, place, covered, children, rfl, property⟩
  unfold namedType
  rw [found]
  dsimp only
  rw [grown, Place.afterAll_append]
  rfl

/-! ### Arguments -/

-- What an argument behind the first one is written as.
def renderArgument (shape : Shape) : List Char := ',' :: ' ' :: shape.render

theorem renderMore_flatMap (shapes : List Shape) :
    renderMore shapes = shapes.flatMap renderArgument := by
  induction shapes with
  | nil => rfl
  | cons shape more ih => rw [renderMore, ih, List.flatMap_cons]; rfl

theorem argument_stopped (others : List Shape) :
    Stopped (others.flatMap renderArgument ++ '>' :: rest) := by
  cases others with
  | nil => exact stopped_cons rfl _
  | cons shape more => exact stopped_cons rfl _

-- The nodes stand for the shapes.
structure MeanAll (nodes : List Node) (shapes : List Shape) : Prop where
  shapes : readShapes nodes = .ok shapes
  whole : anyFault nodes = false

theorem meanAll_cons {n : Node} {nodes : List Node} {shapes : List Shape} (first : Means n shape)
    (later : MeanAll nodes shapes) : MeanAll (n :: nodes) (shape :: shapes) := by
  refine ⟨?_, ?_⟩
  · simp [readShapes, first.content, first.shape, later.shapes]
    rfl
  · simp [anyFault, first.whole, later.whole]

theorem meanAll_mark {nodes : List Node} {shapes : List Shape} (place : Place) (text : List Char)
    (later : MeanAll nodes shapes) : MeanAll (leaf .mark place text :: nodes) shapes := by
  refine ⟨?_, ?_⟩
  · simp [readShapes, later.shapes]
  · simp [anyFault, later.whole]

theorem readShapes_mark (nodes : List Node) (place : Place) (text : List Char) :
    readShapes (nodes ++ [leaf .mark place text]) = readShapes nodes := by
  induction nodes with
  | nil => rfl
  | cons n more ih => simp [readShapes, ih]

theorem meanAll_ended {nodes : List Node} {shapes : List Shape} (all : MeanAll nodes shapes)
    (place : Place) (text : List Char) : MeanAll (nodes ++ [leaf .mark place text]) shapes := by
  refine ⟨by rw [readShapes_mark, all.shapes], ?_⟩
  rw [anyFault_append, all.whole]
  rfl

theorem argument_reads (reads : ReadsBack read shape) (stopped : Stopped rest) :
    (seq [mark ",", item (read (.type false))]).Reads (renderArgument shape) rest fun nodes =>
      ∃ place n, nodes = [leaf .mark place [','], n] ∧ Means n shape := by
  have inside := reads_item reads.shown spaces_one (reads.reads false rest stopped)
  refine reads_seq (reads_sign "," ',' rfl rfl) (reads_seq_last inside) ?_
  rintro _ _ ⟨place, rfl⟩ ⟨n, rfl, means⟩
  exact ⟨place, n, rfl, means⟩

theorem more_arguments_read {others : List Shape} (each : ∀ shape ∈ others, ReadsBack read shape) :
    (many (seq [mark ",", item (read (.type false))])).Reads (renderMore others) ('>' :: rest)
      (MeanAll · others) := by
  rw [renderMore_flatMap]
  refine reads_many (Q := fun shapes nodes => MeanAll nodes shapes) ⟨rfl, rfl⟩ (by simp [renderArgument])
    ?_ ?_ others fun shape member more => argument_reads (each shape member) (argument_stopped more)
  · rintro shape more _ nodes ⟨place, n, rfl, means⟩ later
    exact meanAll_mark place _ (meanAll_cons means later)
  · exact refuses_seq (refuses_mark (heads_cons (d := '>') rfl rest) rfl)

theorem arguments_read {others : List Shape} (first : ReadsBack read shape)
    (each : ∀ shape ∈ others, ReadsBack read shape) :
    (typeArguments read).Reads ('<' :: (shape.render ++ (renderMore others ++ ['>']))) rest fun n =>
      ∃ place covered children, n = ⟨.typeArguments, none, place, covered, false, children⟩ ∧
        MeanAll children (shape :: others) := by
  have behind : Stopped (renderMore others ++ '>' :: rest) := by
    rw [renderMore_flatMap]
    exact argument_stopped others
  have one := reads_item first.shown spaces_nil (first.reads false _ behind)
  have none : (optional (mark ",")).Reads [] ('>' :: rest) (· = []) :=
    reads_none (refuses_mark (heads_cons (d := '>') rfl rest) rfl)
  have row : (listed (item (read (.type false)))).Reads (shape.render ++ renderMore others) ('>' :: rest)
      (MeanAll · (shape :: others)) := by
    refine reads_seq one (reads_seq_ended (more_arguments_read each) (reads_seq_last none)) ?_
    rintro _ nodes ⟨n, rfl, means⟩ later
    exact meanAll_cons means later
  have whole : (seq [mark "<", listed (item (read (.type false))), mark ">"]).Reads
      (['<'] ++ ((shape.render ++ renderMore others) ++ ['>'])) rest (MeanAll · (shape :: others)) := by
    have closing : (mark ">").Reads ['>'] rest _ := reads_sign ">" '>' rfl rfl
    refine reads_seq (reads_sign "<" '<' rfl rfl) (reads_seq row (reads_seq_last closing)
      (R := (MeanAll · (shape :: others))) ?_) ?_
    · rintro nodes _ all ⟨place, rfl⟩
      exact meanAll_ended all place _
    · rintro _ nodes ⟨place, rfl⟩ all
      exact meanAll_mark place _ all
  rw [List.append_assoc] at whole
  refine reads_imp ?_ (reads_node .typeArguments whole)
  rintro _ ⟨place, children, rfl, all⟩
  exact ⟨place, _, children, rfl, all⟩

end

end DeclSchema.Source.Grammar
