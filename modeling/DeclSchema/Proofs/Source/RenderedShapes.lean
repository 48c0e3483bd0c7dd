import DeclSchema.Proofs.Source.RenderedTypes

/-!
Each kind of shape but objects: its text is read back when the texts of its parts are.
-/

namespace DeclSchema.Source.Grammar

open Rule Node

variable {read : Reader} {lineEnds : Bool} {rest : List Char} {shape : Shape}

/-! ### Words and texts -/

theorem keyword_reads {word : String} (known : word ∈ keywords) (stopped : Stopped rest) :
    (typeRule read lineEnds).Reads word.toList rest (Means · (.keyword word)) := by
  have every : ∀ word ∈ keywords, isWord word.toList = true ∧
      operators.all (·.toList != word.toList) = true ∧
      (predefined.any (·.toList == word.toList) = true ∨ word = "null" ∨ word = "undefined") := by
    decide
  obtain ⟨spelled, free, choice⟩ := every word known
  refine word_alone (worded_stopped spelled stopped) free rfl stopped ?_
  rcases choice with plain | rfl | rfl
  · exact predefined_reads (worded_stopped spelled stopped) plain
  · exact null_reads stopped
  · exact undefined_reads stopped

theorem boolean_reads (value : Bool) (stopped : Stopped rest) :
    (typeRule read lineEnds).Reads (Shape.literal (.boolean value)).render rest
      (Means · (.literal (.boolean value))) := by
  cases value with
  | true => exact word_alone (worded_stopped rfl stopped) (by decide) rfl stopped (true_reads stopped)
  | false => exact word_alone (worded_stopped rfl stopped) (by decide) rfl stopped (false_reads stopped)

theorem quote_opens (value : String) : Opens (quote value) := ⟨'\'', _, rfl, rfl⟩

theorem quote_unquoted (value : String) (r : Option Role) (place : Place) (missing : Bool)
    (children : List Node) :
    (⟨.string, r, place, quote value, missing, children⟩ : Node).unquoted = value := by
  simp [unquoted, quote]

theorem string_reads {value : String} (quotable : isQuotable value = true) :
    (lexeme .string Lexeme.string).Reads (quote value) rest fun nodes =>
      ∃ place, nodes = [leaf .string place (quote value)] := by
  refine reads_lexeme .string (opens_shown (quote_opens value)) spaces_nil ?_
  rw [string_quote quotable]
  simp [quote]

theorem text_reads {value : String} (quotable : isQuotable value = true) (stopped : Stopped rest) :
    (typeRule read lineEnds).Reads (quote value) rest (Means · (.literal (.text value))) := by
  have literal : (atomType read lineEnds).Reads (quote value) rest (Means · (.literal (.text value))) := by
    refine reads_imp ?_ (reads_node .literalType (string_reads quotable))
    rintro _ ⟨place, _, rfl, start, rfl⟩
    refine ⟨?_, rfl, rfl⟩
    have inside := quote_unquoted value none start false []
    simp only [readShape, readLiteral, leaf]
    exact congrArg (fun text => Except.ok (Shape.literal (.text text))) inside
  obtain ⟨d, heads, closes, -, -⟩ := stopped_heads stopped
  exact alone_reads (primary_reads literal heads closes.noBracket) (opens_append (quote_opens value) rest)
    (unled_breaks rfl _) stopped

/-! ### References -/

theorem typeName_word {name : String} (named : isTypeName name = true) :
    isWord name.toList = true := by
  unfold isTypeName at named
  unfold isWord
  split at named
  · cases named
  next c more same =>
    rw [Bool.and_eq_true] at named
    obtain ⟨upper, others⟩ := named
    have noDigit : c.isDigit = false := by
      rw [Bool.eq_false_iff]
      intro digit
      have above := upper_within upper
      have below := digit_within digit
      omega
    have letter : c.isAlphanum = true := alphanumeric_cases.mpr (.inl (.inl upper))
    simp [isNameCharacter, letter, noDigit, others]

-- A name in upper case is none of the words in lower case.
theorem typeName_free {name : String} {words : List String} (named : isTypeName name = true)
    (lower : words.all (fun word => word.toList.head?.any (!·.isUpper)) = true) :
    words.all (·.toList != name.toList) = true := by
  rw [List.all_eq_true] at lower ⊢
  intro word member
  have small := lower word member
  rw [bne_iff_ne]
  intro same
  rw [same] at small
  unfold isTypeName at named
  split at named
  · cases named
  next c more spelled =>
    rw [Bool.and_eq_true] at named
    simp [spelled, named.1] at small

theorem name_alone {name : String} (named : isTypeName name = true) (stopped : Stopped rest) :
    (typeRule read lineEnds).Reads name.toList rest (Means · (.reference name [])) := by
  have worded : Worded name.toList rest := worded_stopped (typeName_word named) stopped
  obtain ⟨d, heads, closes, -, -⟩ := stopped_heads stopped
  refine word_alone worded (typeName_free named (by decide)) rfl stopped ?_
  refine reads_imp ?_ (named_reads worded (typeName_free named (by decide)) rfl
    (lone_reads worded heads closes.noAngle))
  rintro _ ⟨place, rfl⟩
  exact ⟨by simp [readShape, leaf], rfl, rfl⟩

theorem generic_means {name : String} {arguments : List Shape} {inner : List Node}
    (start place inside : Place) (covered between : List Char) (all : MeanAll inner arguments) :
    Means ⟨.genericType, none, start, covered, false,
      [(leaf .typeName place name.toList).playing .name,
        (⟨.typeArguments, none, inside, between, false, inner⟩ : Node).playing .typeArguments]⟩
      (.reference name arguments) := by
  refine ⟨?_, rfl, ?_⟩
  · have arguments := all.shapes
    simp only [readShape, nameOf, readArguments, playing, leaf, arguments]
    exact congrArg (fun text => Except.ok (Shape.reference text _)) (String.ofList_toList)
  · simp [hasFault, anyFault, playing, leaf, all.whole]

theorem name_applied {name : String} {others : List Shape} (named : isTypeName name = true)
    (first : ReadsBack read shape) (each : ∀ shape ∈ others, ReadsBack read shape)
    (stopped : Stopped rest) :
    (typeRule read lineEnds).Reads (Shape.reference name (shape :: others)).render rest
      (Means · (.reference name (shape :: others))) := by
  rw [Shape.render]
  have angle (more : List Char) : Worded name.toList ('<' :: more) :=
    ⟨typeName_word named, by simp [Breaks, breaksName, Lexeme.isNamePart], '<', heads_cons rfl more, rfl⟩
  have inside : (itemAs .typeArguments (typeArguments read)).Reads _ rest _ :=
    reads_itemAs .typeArguments (shown_cons rfl _) spaces_nil (arguments_read first each)
  have generic := generic_reads (angle _) inside
  refine word_alone (angle _) (typeName_free named (by decide)) (List.append_assoc _ _ _) stopped
    (reads_imp ?_ (named_reads (angle _) (typeName_free named (by decide)) (List.append_assoc _ _ _)
      generic))
  rintro _ ⟨place, start, covered, _, rfl, _, rfl, inner, between, children, rfl, all⟩
  exact generic_means start place inner covered between all

/-! ### Brackets -/

theorem goesOn_reads {text : List Char} {rule : Rule (List Node)} {P : List Node → Prop}
    (shown : Shown text) (reads : rule.Reads text rest P) :
    (do goesOn lineEnds; rule).Reads text rest P := by
  refine reads_guarded (fun place => ?_) reads
  have gap := gap_shown (shown_append shown rest) spaces_nil place
  rw [List.nil_append] at gap
  simp [sameLine, gap]

theorem bracketed_array {left : Node} (start : Cursor) (means : Means left shape) :
    (bracketed read lineEnds start left).Reads ['[', ']'] rest (Means · (.array shape)) := by
  have row : (seq [mark "[", pure [], mark "]"]).Reads ['[', ']'] rest fun nodes =>
      ∃ first last, nodes = [leaf .mark first ['['], leaf .mark last [']']] := by
    refine reads_seq (reads_sign "[" '[' rfl rfl) (reads_seq_idle (reads_pure rfl)
      (reads_seq_last (reads_sign "]" ']' rfl rfl))) ?_
    rintro _ _ ⟨first, rfl⟩ ⟨last, rfl⟩
    exact ⟨first, last, rfl⟩
  refine reads_imp ?_ (reads_left (reads_grow .arrayType start [left]
    (goesOn_reads (shown_cons rfl _) row)))
  rintro _ ⟨covered, _, rfl, first, last, rfl⟩
  refine ⟨?_, rfl, ?_⟩
  · simp [readShape, readFirst, means.content, means.shape]
    rfl
  · simp [hasFault, anyFault, means.whole]

theorem bracketed_index {left : Node} {object : Shape} (start : Cursor) (means : Means left object)
    (index : ReadsBack read shape) :
    (bracketed read lineEnds start left).Reads ('[' :: (shape.render ++ [']'])) rest
      (Means · (.indexed object shape)) := by
  -- An array is tried first and needs its closing bracket at once.
  have nothing : (pure [] : Rule (List Node)).Reads [] (shape.render ++ [']'] ++ rest) (· = []) :=
    reads_pure rfl
  have unclosed : (mark "]").Refuses (shape.render ++ [']'] ++ rest) := by
    obtain ⟨d, heads, begins⟩ := opens_heads (opens_append (opens_append index.opens [']']) rest)
    exact refuses_mark heads (opening_other begins rfl)
  have inner : (seq [pure [], mark "]"]).Refuses ([] ++ (shape.render ++ [']'] ++ rest)) :=
    refuses_seq_after nothing (refuses_seq unclosed)
  have empty : (seq [mark "[", pure [], mark "]"]).Refuses (['['] ++ (shape.render ++ [']'] ++ rest)) :=
    refuses_seq_after (reads_sign "[" '[' rfl rfl) inner
  have row : (seq [mark "[", item (read (.type false)), mark "]"]).Reads _ rest _ :=
    enclosed_reads rfl rfl rfl rfl index
  refine reads_imp ?_ (reads_right (refuses_grow (refuses_guarded _ empty) _ _ _)
    (reads_grow .lookupType start [left] (goesOn_reads (shown_cons rfl _) row)))
  rintro _ ⟨covered, _, rfl, first, n, last, rfl, inside⟩
  refine ⟨?_, rfl, ?_⟩
  · simp [readShape, readShapes, means.content, means.shape, inside.content, inside.shape]
    rfl
  · simp [hasFault, anyFault, means.whole, inside.whole]

-- A type in parentheses and the brackets behind it.
theorem bracketed_reads {later : List Char} {whole : Shape} (inside : ReadsBack read shape)
    (stopped : Stopped rest)
    (brackets : ∀ start left, Means left shape →
      (bracketed read lineEnds start left).Reads ('[' :: later) rest (Means · whole)) :
    (typeRule read lineEnds).Reads ('(' :: (shape.render ++ ')' :: '[' :: later)) rest (Means · whole) := by
  obtain ⟨d, heads, closes, -, -⟩ := stopped_heads stopped
  have parentheses : (atomType read lineEnds).Reads ('(' :: (shape.render ++ [')']))
      ('[' :: later ++ rest) _ :=
    parentheses_read inside (heads_cons (d := '[') rfl _) rfl
  have primary : (primaryType read lineEnds).Reads ('(' :: (shape.render ++ [')']) ++ '[' :: later)
      rest _ :=
    reads_climbing_once (List.cons_ne_nil _ _) (bracketed_refuses heads closes.noBracket) parentheses
      fun start left found => brackets start left found.2
  rw [List.cons_append, List.append_assoc] at primary
  exact alone_reads primary ⟨'(', _, rfl, rfl⟩ (unled_breaks rfl _) stopped

theorem array_reads (element : ReadsBack read shape) (stopped : Stopped rest) :
    (typeRule read lineEnds).Reads (Shape.array shape).render rest (Means · (.array shape)) :=
  bracketed_reads element stopped fun start _ means => bracketed_array start means

theorem indexed_reads {index : Shape} (object : ReadsBack read shape) (inside : ReadsBack read index)
    (stopped : Stopped rest) :
    (typeRule read lineEnds).Reads (Shape.indexed shape index).render rest
      (Means · (.indexed shape index)) :=
  bracketed_reads object stopped fun start _ means => bracketed_index start means inside

/-! ### Chains -/

-- The node stands for these operands of a chain, be it a single one.
structure Chained (kind : Kind) (shapes : List Shape) (n : Node) : Prop where
  operands : ∀ more later, readOperands kind more = .ok later →
    readOperands kind (n :: more) = .ok (shapes ++ later)
  whole : n.hasFault = false
  joined : 2 ≤ shapes.length → n.kind = kind ∧ readOperands kind n.children = .ok shapes

theorem chained_one {kind : Kind} {n : Node} (means : Means n shape) (other : n.kind ≠ kind) :
    Chained kind [shape] n := by
  refine ⟨fun more later rest => ?_, means.whole, fun many => ?_⟩
  · simp only [readOperands, means.content, means.shape, other, rest, if_true, if_false]
    rfl
  · simp at many

def isChain (kind : Kind) : Bool := kind = .unionType || kind = .intersectionType

theorem chained_more {kind : Kind} {shapes : List Shape} {left n : Node} (chain : isChain kind = true)
    (before : Chained kind shapes left) (means : Means n shape) (other : n.kind ≠ kind)
    (start place : Place) (covered sign : List Char) :
    Chained kind (shapes ++ [shape])
      ⟨kind, none, start, covered, false, [left, leaf .mark place sign, n]⟩ := by
  have inner : readOperands kind [left, leaf .mark place sign, n] = .ok (shapes ++ [shape]) := by
    refine before.operands _ _ ?_
    rw [readOperands, if_neg (by simp)]
    exact (chained_one means other).operands [] [] rfl
  simp only [isChain, Bool.or_eq_true, decide_eq_true_eq] at chain
  refine ⟨fun more later rest => ?_, ?_, fun _ => ⟨rfl, inner⟩⟩
  · rw [readOperands, if_pos (by rcases chain with rfl | rfl <;> rfl)]
    simp only [inner, rest, if_true]
    rfl
  · rcases chain with rfl | rfl <;> simp [hasFault, anyFault, before.whole, means.whole]

def chainShape (kind : Kind) (shapes : List Shape) : Shape :=
  if kind = .unionType then .union shapes else .intersection shapes

theorem chained_means {kind : Kind} {shapes : List Shape} {n : Node} (chain : isChain kind = true)
    (chained : Chained kind shapes n) (many : 2 ≤ shapes.length) : Means n (chainShape kind shapes) := by
  obtain ⟨same, inner⟩ := chained.joined many
  simp only [isChain, Bool.or_eq_true, decide_eq_true_eq] at chain
  cases n with
  | mk found r place text missing children =>
    cases same
    match shapes, many with
    | _ :: _ :: _, _ =>
      rcases chain with rfl | rfl
      all_goals
        refine ⟨?_, rfl, chained.whole⟩
        rw [readShape, inner]
        rfl

-- What an operand behind the first one is written as.
def renderJoin (sign : Char) (shape : Shape) : List Char :=
  ' ' :: sign :: ' ' :: '(' :: (shape.render ++ [')'])

theorem renderJoined_flatMap (sign : Char) (shapes : List Shape) :
    renderJoined sign shapes = shapes.flatMap (renderJoin sign) := by
  induction shapes with
  | nil => rfl
  | cons shape more ih => simp [renderJoined, ih, renderJoin]

theorem renderParts_cons (sign : Char) (others : List Shape) :
    renderParts sign (shape :: others) =
      '(' :: (shape.render ++ [')']) ++ others.flatMap (renderJoin sign) := by
  simp [renderParts, renderJoined_flatMap]

-- An operand ends in front of the sign or where the whole chain ends.
def Ended (sign : Char) (rest : List Char) : Prop := Stopped rest ∨ Heads sign rest

theorem ended_joined {sign : Char} (shown : isShown sign = true) (stopped : Stopped rest)
    (others : List Shape) : Ended sign (others.flatMap (renderJoin sign) ++ rest) := by
  cases others with
  | nil => exact .inl stopped
  | cons shape more => exact .inr (heads_space shown _)

theorem chain_joins {kind : Kind} {sign : Char} {text : String} {longer : List String}
    {operand : Rule Node} {others : List Shape} (chain : isChain kind = true)
    (spelled : text.toList = [sign]) (shown : isShown sign = true)
    (short : ∀ more, longer.any (·.toList.isPrefixOf (sign :: ' ' :: more)) = false)
    (unsigned : beginsOther text '(' = true) (unjoined : (markNot text longer).Refuses rest)
    (stopped : Stopped rest)
    (each : ∀ part ∈ shape :: others, ∀ rest, Ended sign rest →
      operand.Reads ('(' :: (part.render ++ [')'])) rest fun n =>
        n.kind = .parenthesizedType ∧ Means n part) :
    (Grammar.chain kind (markNot text longer) operand).Reads (renderParts sign (shape :: others)) rest
      (Chained kind (shape :: others)) := by
  -- Parentheses keep an operand apart even when it is a chain of the same kind.
  have apart {n : Node} (parenthesized : n.kind = .parenthesizedType) : n.kind ≠ kind := by
    rw [parenthesized]
    rintro rfl
    cases chain
  rw [renderParts_cons]
  have leading (more : List Char) : (node kind (seq [markNot text longer, item operand])).Refuses
      ('(' :: more) :=
    refuses_node (refuses_seq (refuses_markNot (heads_cons rfl _) unsigned)) _
  refine reads_climbed (by simp [renderJoin]) (fun _ _ => refuses_grow (refuses_seq unjoined) _ _ _)
    shape others (reads_right (leading _) ?_) ?_
  · refine reads_imp ?_ (each shape List.mem_cons_self _ (ended_joined shown stopped others))
    rintro n ⟨parenthesized, means⟩
    exact chained_one means (apart parenthesized)
  · intro part member behind known start left before
    have sign : (markNot text longer).Reads [' ', sign]
        ((' ' :: '(' :: (part.render ++ [')'])) ++ (behind.flatMap (renderJoin sign) ++ rest)) _ :=
      reads_markNot spelled ⟨sign, [], rfl, shown⟩ spaces_one (short _)
    have operand := reads_item (shown_cons rfl _) spaces_one
      (each part (List.mem_cons_of_mem _ member) _ (ended_joined shown stopped behind))
    refine reads_imp ?_ (reads_grow kind start [left] (reads_seq sign (reads_seq_last operand)
      (R := fun nodes => ∃ place text n, nodes = [leaf .mark place text, n] ∧
        n.kind = .parenthesizedType ∧ Means n part) ?_))
    · rintro _ ⟨covered, _, rfl, place, text, n, rfl, parenthesized, means⟩
      exact chained_more chain before means (apart parenthesized) _ _ _ _
    · rintro _ _ ⟨place, rfl⟩ ⟨n, rfl, found⟩
      exact ⟨place, _, n, rfl, found⟩

theorem operand_part {d : Char} (inside : ReadsBack read shape) (heads : Heads d rest)
    (closes : Closes d) :
    (operandType read lineEnds).Reads ('(' :: (shape.render ++ [')'])) rest fun n =>
      n.kind = .parenthesizedType ∧ Means n shape :=
  operand_reads (primary_reads (parentheses_read inside heads closes.noArrow) heads closes.noBracket)
    (unled_breaks rfl _)

theorem bar_closes : Closes '|' := ⟨rfl, rfl, rfl, rfl, rfl, rfl⟩

theorem and_closes : Closes '&' := ⟨rfl, rfl, rfl, rfl, rfl, rfl⟩

theorem intersection_joined {others : List Shape} (some : others ≠ [])
    (each : ∀ part ∈ shape :: others, ReadsBack read part) (stopped : Stopped rest) :
    (typeRule read lineEnds).Reads (Shape.intersection (shape :: others)).render rest
      (Means · (.intersection (shape :: others))) := by
  obtain ⟨d, heads, closes, stopBar, stopAnd⟩ := stopped_heads stopped
  have chain : (intersectionType read lineEnds).Reads (renderParts '&' (shape :: others)) rest
      (Chained .intersectionType (shape :: others)) := by
    refine chain_joins rfl rfl rfl (fun _ => rfl) rfl (refuses_markNot heads stopAnd) stopped ?_
    rintro part member rest (stopped | sign)
    · obtain ⟨d, heads, closes, -, -⟩ := stopped_heads stopped
      exact operand_part (each part member) heads closes
    · exact operand_part (each part member) sign and_closes
  have many : 2 ≤ (shape :: others).length := Nat.succ_le_succ (List.length_pos_iff.mpr some)
  have union := union_reads (reads_imp (fun n chained => chained_means rfl chained many) chain)
    (heads_cons (d := '(') rfl _) rfl heads stopBar
  exact type_reads union heads closes.breaks

theorem union_joined {others : List Shape} (some : others ≠ [])
    (each : ∀ part ∈ shape :: others, ReadsBack read part) (stopped : Stopped rest) :
    (typeRule read lineEnds).Reads (Shape.union (shape :: others)).render rest
      (Means · (.union (shape :: others))) := by
  obtain ⟨d, heads, closes, stopBar, -⟩ := stopped_heads stopped
  have chain : (unionType read lineEnds).Reads (renderParts '|' (shape :: others)) rest
      (Chained .unionType (shape :: others)) := by
    refine chain_joins rfl rfl rfl (fun _ => rfl) rfl (refuses_markNot heads stopBar) stopped ?_
    rintro part member rest (stopped | sign)
    · obtain ⟨d, heads, closes, -, stopAnd⟩ := stopped_heads stopped
      exact intersection_reads (operand_part (each part member) heads closes)
        (heads_cons (d := '(') rfl _) rfl heads stopAnd
    · exact intersection_reads (operand_part (each part member) sign bar_closes)
        (heads_cons (d := '(') rfl _) rfl sign rfl
  have many : 2 ≤ (shape :: others).length := Nat.succ_le_succ (List.length_pos_iff.mpr some)
  exact type_reads (reads_imp (fun n chained => chained_means rfl chained many) chain) heads closes.breaks

end DeclSchema.Source.Grammar
