import DeclSchema.Proofs.Source.RenderedShapes

/-!
Rendered objects are read back: every member from its quote to its semicolon, with or without a
question mark and with or without a type.
-/

namespace DeclSchema.Source.Grammar

open Rule Node

variable {read : Reader} {d : Char} {text rest : List Char}

/-! ### In front of a member -/

-- No member that has no name begins with this character, and no modifier.
def isPlain (d : Char) : Bool :=
  isShown d && breaksName d && ["[", "+", "-", "(", "<", "*"].all (beginsOther · d)

theorem plain_other {sign : String} (plain : isPlain d = true)
    (listed : sign ∈ ["[", "+", "-", "(", "<", "*"]) : beginsOther sign d = true := by
  simp only [isPlain, Bool.and_eq_true] at plain
  exact List.all_eq_true.mp plain.2 sign listed

theorem plain_breaks (plain : isPlain d = true) : breaksName d = true := by
  simp only [isPlain, Bool.and_eq_true] at plain
  exact plain.1.2

theorem typeParameters_refuse (heads : Heads d text) (angle : beginsOther "<" d = true) :
    (typeParameters read).Refuses text :=
  refuses_itemAs heads (fun more =>
    refuses_node (refuses_seq (refuses_mark (heads_cons heads.1 more) angle)) _) _

theorem signature_refuses (heads : Heads d text) (angle : beginsOther "<" d = true)
    (parenthesis : beginsOther "(" d = true) (lineEnds : Bool) :
    (signature read lineEnds).Refuses text :=
  refuses_seq_optional (typeParameters_refuse heads angle) (refuses_seq (refuses_item heads fun more =>
    refuses_node (refuses_seq (refuses_mark (heads_cons heads.1 more) parenthesis)) _))

theorem member_plain (heads : Heads d text) (plain : isPlain d = true) (place : Place) :
    member read ⟨text, place⟩ = namedMember read ⟨text, place⟩ := by
  have noWord {found : List Char → Bool} : (lexeme .mark (nameSize found)).Refuses text :=
    refuses_named heads (plain_breaks plain)
  have noMark {sign : String} (listed : sign ∈ ["[", "+", "-", "(", "<", "*"]) : (mark sign).Refuses text :=
    refuses_mark heads (plain_other plain listed)
  have index : (indexSignature read).Refuses text := by
    have unmarked : (seq [optional (mark "+" <|> mark "-"), word "readonly"]).Refuses text :=
      refuses_seq_optional (refuses_orElse (noMark (by simp)) (noMark (by simp))) (refuses_seq noWord)
    exact refuses_node (refuses_seq_optional unmarked (refuses_seq (noMark (by simp)))) _
  have construct : (node .constructSignature
      (seq [optional (word "abstract"), word "new", signature read true])).Refuses text :=
    refuses_node (refuses_seq_optional noWord (refuses_seq noWord)) _
  have call : (node .callSignature (signature read true)).Refuses text :=
    refuses_node (signature_refuses heads (plain_other plain (by simp)) (plain_other plain (by simp)) true) _
  have unmapped : startsMapped ⟨text, place⟩ = false := by
    unfold startsMapped
    rw [refuses_seq (noMark (by simp))]
    rfl
  unfold member
  rw [if_neg (by simp [unmapped])]
  unfold member.plainMember
  rw [orElse_none (index place), orElse_none (construct place), orElse_none (call place)]

/-! ### Members -/

def renderFlag (isOptional : Bool) : List Char := if isOptional then ['?'] else []

def renderTyping : Option Shape → List Char
  | none => []
  | some shape => ':' :: ' ' :: shape.render

-- What a member is written as between the space and the semicolon.
def renderBody (name : String) (shape : Option Shape) (isOptional : Bool) : List Char :=
  quote name ++ renderFlag isOptional ++ renderTyping shape

theorem render_of (name : String) (shape : Option Shape) (isOptional : Bool) :
    (Member.of (some name) shape isOptional).render =
      [' '] ++ renderBody name shape isOptional ++ [';'] := by
  cases shape <;> simp [Member.of, Member.render, renderBody, renderFlag, renderTyping]

theorem typing_heads (shape : Option Shape) (rest : List Char) :
    ∃ d, Heads d (renderTyping shape ++ ';' :: rest) ∧ (d = ':' ∨ d = ';') := by
  cases shape with
  | none => exact ⟨';', heads_cons rfl _, .inr rfl⟩
  | some shape => exact ⟨':', heads_cons rfl _, .inl rfl⟩

theorem name_reads {name : String} (quotable : isQuotable name = true) :
    (propertyName read).Reads (quote name) rest fun n =>
      ∃ place, n = leaf .string place (quote name) := by
  intro place
  have size := string_quote quotable rest
  have length : name.toList.length + 2 = (quote name).length := by simp [quote]
  have noName : Lexeme.name (quote name ++ rest) = 0 := name_breaks rfl _
  refine ⟨_, ?_, place, rfl⟩
  unfold propertyName
  split
  next same => cases same
  next same => cases same
  next =>
    dsimp only
    rw [noName, size]
    dsimp only
    rw [length, Cursor.skip, List.take_left, List.drop_left]

-- The nodes behind the name: a question mark or none, then a type or none.
structure Flagged (nodes : List Node) (isOptional : Bool) : Prop where
  marked : marksOptional nodes = isOptional
  whole : anyFault nodes = false
  unplayed : ∀ n ∈ nodes, n.role = none

structure Typed (nodes : List Node) (shape : Option Shape) : Prop where
  typing : readTyping nodes = .ok (shape.map (Kind.typing, ·))
  whole : anyFault nodes = false
  unmarked : marksOptional nodes = false

theorem flag_reads {isOptional : Bool} (heads : Heads d rest) (other : beginsOther "?" d = true) :
    (optional (mark "?")).Reads (renderFlag isOptional) rest (Flagged · isOptional) := by
  cases isOptional with
  | false =>
    refine reads_imp ?_ (reads_none (refuses_mark heads other))
    rintro _ rfl
    exact ⟨rfl, rfl, by simp⟩
  | true =>
    refine reads_imp ?_ (reads_left (reads_sign "?" '?' rfl rfl))
    rintro _ ⟨place, rfl⟩
    exact ⟨by simp [marksOptional, leaf], rfl, by simp [leaf]⟩

theorem typing_reads {shape : Option Shape} (inside : ∀ part ∈ shape, ReadsBack read part) :
    (optional (typing read true)).Reads (renderTyping shape) (';' :: rest) (Typed · shape) := by
  cases shape with
  | none =>
    have nothing : (typing read true).Refuses (';' :: rest) :=
      refuses_itemAs (heads_cons rfl rest) (fun more => refuses_node
        (refuses_seq (refuses_mark (heads_cons rfl more) rfl)) _) _
    refine reads_imp ?_ (reads_none nothing)
    rintro _ rfl
    exact ⟨rfl, rfl, rfl⟩
  | some shape =>
    have back := inside shape rfl
    have row : (seq [mark ":", item (read (.type true))]).Reads
        ([':'] ++ ([' '] ++ shape.render)) (';' :: rest) fun nodes => ∃ place n, nodes = [leaf .mark place [':'], n] ∧ Means n shape := by
      refine reads_seq (reads_sign ":" ':' rfl rfl) (reads_seq_last (reads_item back.shown spaces_one
        (back.reads true _ (stopped_cons rfl rest)))) ?_
      rintro _ _ ⟨place, rfl⟩ ⟨n, rfl, means⟩
      exact ⟨place, n, rfl, means⟩
    refine reads_imp ?_ (reads_left (reads_itemAs .typing (shown_cons rfl _) spaces_nil
      (reads_node .typing row)))
    rintro _ ⟨_, rfl, start, _, rfl, place, n, rfl, means⟩
    refine ⟨?_, ?_, ?_⟩
    · simp [readTyping, playing, readFirst, means.content, means.shape]
      rfl
    · simp [anyFault, hasFault, playing, means.whole]
    · simp [marksOptional, playing]

-- The node stands for the member.
structure MeansMember (n : Node) (member : Member) : Prop where
  member : readMember n = .ok member
  content : n.isContent = true
  whole : n.hasFault = false

theorem readTyping_untyped {before : List Node} (untyped : ∀ n ∈ before, n.role ≠ some .typing)
    (nodes : List Node) : readTyping (before ++ nodes) = readTyping nodes := by
  induction before with
  | nil => rfl
  | cons n more ih =>
    obtain ⟨first, later⟩ := List.forall_mem_cons.mp untyped
    rw [List.cons_append, readTyping, ih later]
    rintro _ _ _ _ _ rfl
    exact first rfl

theorem property_means {name : String} {shape : Option Shape} {isOptional : Bool}
    {flags typings : List Node} (flagged : Flagged flags isOptional) (typed : Typed typings shape)
    (start place : Place) (covered : List Char) :
    MeansMember ⟨.propertySignature, none, start, covered, false,
      (leaf .string place (quote name)).playing .name :: flags ++ typings⟩
      (Member.of (some name) shape isOptional) := by
  refine ⟨?_, rfl, ?_⟩
  · have typing : readTyping ((leaf .string place (quote name)).playing .name :: flags ++ typings) =
        .ok (shape.map (Kind.typing, ·)) := by
      refine (readTyping_untyped (List.forall_mem_cons.mpr ⟨?_, ?_⟩) typings).trans typed.typing
      · simp [playing]
      · intro n member
        simp [flagged.unplayed n member]
    have marked : marksOptional ((leaf .string place (quote name)).playing .name :: flags ++ typings) =
        isOptional := by
      have flags := flagged.marked
      have typings := typed.unmarked
      unfold marksOptional at flags typings ⊢
      rw [List.cons_append, List.any_cons, List.any_append, flags, typings, Bool.or_false]
      rfl
    have named : ((leaf .string place (quote name)).playing .name).unquoted = name :=
      quote_unquoted name (some .name) place false []
    have shaped : (shape.map (Kind.typing, ·)).map (·.2) = shape := by cases shape <;> rfl
    calc readMember _
        = .ok (Member.of (some ((leaf .string place (quote name)).playing .name).unquoted)
            ((shape.map (Kind.typing, ·)).map (·.2)) isOptional) := by
          rw [readMember, typing, marked]
          rfl
      _ = .ok (Member.of (some name) shape isOptional) := by rw [named, shaped]
  · simp [hasFault, anyFault, anyFault_append, playing, leaf, flagged.whole, typed.whole]

-- What stands in front of the type of a member.
def memberHead (read : Reader) : Rule (List Node) := seq
  [many (modifier ["public", "private", "protected", "static", "override", "readonly", "async", "get",
      "set"]),
    optional (mark "*"), itemAs .name (propertyName read), optional (mark "?")]

theorem namedMember_head : namedMember read =
    (node .methodSignature (seq
        [memberHead read, do guard startsSignature; return [], signature read true]) <|>
      node .propertySignature (seq [memberHead read, optional (typing read true)])) := rfl

theorem modifiers_none (heads : Heads d rest) (plain : isPlain d = true) (words : List String) :
    (many (modifier words)).Reads [] rest (· = []) :=
  reads_many_none (refuses_bind (refuses_named heads (plain_breaks plain)))

theorem head_reads {name : String} {isOptional : Bool} (quotable : isQuotable name = true)
    (heads : Heads d rest) (other : beginsOther "?" d = true) :
    (memberHead read).Reads (quote name ++ renderFlag isOptional) rest fun nodes =>
      ∃ place flags, nodes = (leaf .string place (quote name)).playing .name :: flags ∧
        Flagged flags isOptional := by
  have quoted : Heads '\'' (quote name ++ renderFlag isOptional ++ rest) := heads_cons rfl _
  refine reads_seq_idle (modifiers_none quoted rfl _) ?_
  refine reads_seq_idle (reads_none (refuses_mark quoted rfl)) ?_
  refine reads_seq (reads_itemAs .name (opens_shown (quote_opens name)) spaces_nil (name_reads quotable))
    (reads_seq_last (flag_reads heads other)) ?_
  rintro _ flags ⟨_, rfl, place, rfl⟩ flagged
  exact ⟨place, flags, rfl, flagged⟩

theorem unsigned (heads : Heads d rest) (angle : beginsOther "<" d = true)
    (parenthesis : beginsOther "(" d = true) (place : Place) : startsSignature ⟨rest, place⟩ = false := by
  unfold startsSignature
  dsimp only
  rw [startsWith_other heads parenthesis, startsWith_other heads angle, Bool.or_self, Bool.and_false]

theorem member_reads {name : String} {shape : Option Shape} {isOptional : Bool}
    (quotable : isQuotable name = true) (inside : ∀ part ∈ shape, ReadsBack read part) :
    (member read).Reads (renderBody name shape isOptional) (';' :: rest)
      (MeansMember · (Member.of (some name) shape isOptional)) := by
  obtain ⟨d, heads, choice⟩ := typing_heads shape rest
  have others : beginsOther "?" d = true ∧ beginsOther "<" d = true ∧ beginsOther "(" d = true := by
    rcases choice with rfl | rfl <;> decide
  have head : (memberHead read).Reads (quote name ++ renderFlag isOptional)
      (renderTyping shape ++ ';' :: rest) _ := head_reads quotable heads others.1
  -- A method begins like a property and is tried first.
  have noMethod : (node .methodSignature (seq
      [memberHead read, do guard startsSignature; return [], signature read true])).Refuses
        (renderBody name shape isOptional ++ ';' :: rest) := by
    rw [renderBody, List.append_assoc]
    refine refuses_node (refuses_seq_after head (refuses_seq fun place => ?_)) _
    exact bind_none (guard_false (unsigned heads others.2.1 others.2.2 place)) _
  have property : (seq [memberHead read, optional (typing read true)]).Reads
      (renderBody name shape isOptional) (';' :: rest) fun nodes => ∃ place flags typings,
        nodes = (leaf .string place (quote name)).playing .name :: flags ++ typings ∧
          Flagged flags isOptional ∧ Typed typings shape := by
    refine reads_seq head (reads_seq_last (typing_reads inside)) ?_
    rintro _ typings ⟨place, flags, rfl, flagged⟩ typed
    exact ⟨place, flags, typings, rfl, flagged, typed⟩
  have named : (namedMember read).Reads (renderBody name shape isOptional) (';' :: rest)
      (MeansMember · (Member.of (some name) shape isOptional)) := by
    rw [namedMember_head]
    refine reads_imp ?_ (reads_right noMethod (reads_node .propertySignature property))
    rintro _ ⟨start, _, rfl, place, flags, typings, rfl, flagged, typed⟩
    exact property_means flagged typed _ _ _
  intro place
  obtain ⟨n, found, means⟩ := named place
  have quoted : Heads '\'' (renderBody name shape isOptional ++ ';' :: rest) := heads_cons rfl _
  exact ⟨n, (member_plain quoted rfl place).trans found, means⟩

theorem member_refuses (rest : List Char) : (member read).Refuses ('\x7d' :: rest) := by
  intro place
  have heads : Heads '\x7d' ('\x7d' :: rest) := heads_cons rfl rest
  have unnamed : (itemAs .name (propertyName read)).Refuses ('\x7d' :: rest) :=
    refuses_itemAs heads (fun more place => rfl) _
  have headless : (memberHead read).Refuses ([] ++ '\x7d' :: rest) :=
    refuses_seq_after (modifiers_none heads rfl _)
      (refuses_seq_optional (refuses_mark heads rfl) (refuses_seq unnamed))
  rw [member_plain heads rfl, namedMember_head]
  exact refuses_orElse (refuses_node (refuses_seq headless) _) (refuses_node (refuses_seq headless) _) place

/-! ### Objects -/

-- The member has a name that can be quoted, and its type is read back.
def MemberBack (read : Reader) (member : Member) : Prop :=
  ∃ name shape isOptional, member = Member.of (some name) shape isOptional ∧
    isQuotable name = true ∧ ∀ part ∈ shape, ReadsBack read part

structure MeanMembers (nodes : List Node) (members : List Member) : Prop where
  members : readMembers nodes = .ok members
  whole : anyFault nodes = false

theorem meanMembers_cons {n : Node} {nodes : List Node} {member : Member} {members : List Member}
    (first : MeansMember n member) (place : Place) (text : List Char)
    (later : MeanMembers nodes members) :
    MeanMembers (n :: leaf .mark place text :: nodes) (member :: members) := by
  refine ⟨?_, ?_⟩
  · simp [readMembers, first.content, first.member, later.members]
    rfl
  · simp [anyFault, first.whole, later.whole]

theorem readMembers_mark (nodes : List Node) (place : Place) (text : List Char) :
    readMembers (nodes ++ [leaf .mark place text]) = readMembers nodes := by
  induction nodes with
  | nil => rfl
  | cons n more ih => simp [readMembers, ih]

theorem renderMembers_flatMap (members : List Member) :
    renderMembers members = members.flatMap Member.render := by
  induction members with
  | nil => rfl
  | cons member more ih => rw [renderMembers, ih, List.flatMap_cons]

-- A member and its divider.
def memberRow (read : Reader) : Rule (List Node) := do
  let found ← item (member read)
  return found ++
    (← (mark "," <|> terminator true) <|> do guard (·.gap.after.startsWith "|\x7d"); return [])

theorem members_rows : members read =
    seq [optional (mark "," <|> mark ";"), many (memberRow read)] := rfl

theorem row_reads {member : Member} (back : MemberBack read member) :
    (memberRow read).Reads member.render rest fun nodes =>
      ∃ n place, nodes = [n, leaf .mark place [';']] ∧ MeansMember n member := by
  obtain ⟨name, shape, isOptional, rfl, quotable, inside⟩ := back
  have shown : Shown (renderBody name shape isOptional) := shown_cons rfl _
  have divider : ((mark "," <|> terminator true) <|> do
      guard (·.gap.after.startsWith "|\x7d")
      return [] : Rule (List Node)).Reads [';'] rest fun nodes =>
        ∃ place, nodes = [leaf .mark place [';']] :=
    reads_left (reads_right (refuses_mark (heads_cons (d := ';') rfl _) rfl)
      (reads_left (reads_sign ";" ';' rfl rfl)))
  rw [render_of]
  refine reads_followed (reads_item shown spaces_one (member_reads quotable inside)) divider ?_
  rintro _ _ ⟨n, rfl, means⟩ ⟨place, rfl⟩
  exact ⟨n, place, rfl, means⟩

theorem row_refuses (rest : List Char) : (memberRow read).Refuses (' ' :: '\x7d' :: rest) :=
  refuses_bind (refuses_item (heads_space rfl rest) member_refuses)

-- Behind the brace stands a space, and behind that a quote or the other brace.
theorem members_begin {members : List Member} (each : ∀ member ∈ members, MemberBack read member)
    (rest : List Char) : ∃ d more, renderMembers members ++ ' ' :: '\x7d' :: rest = ' ' :: d :: more ∧
      (d = '\'' ∨ d = '\x7d') := by
  cases members with
  | nil => exact ⟨'\x7d', rest, rfl, .inr rfl⟩
  | cons member more =>
    obtain ⟨name, shape, isOptional, rfl, -, -⟩ := each member List.mem_cons_self
    rw [renderMembers, render_of]
    exact ⟨'\'', _, rfl, .inl rfl⟩

theorem members_read {members : List Member} (each : ∀ member ∈ members, MemberBack read member) :
    (Grammar.members read).Reads (renderMembers members) (' ' :: '\x7d' :: rest)
      (MeanMembers · members) := by
  have undivided : (mark "," <|> mark ";").Refuses (renderMembers members ++ ' ' :: '\x7d' :: rest) := by
    obtain ⟨d, more, same, rfl | rfl⟩ := members_begin each rest
    all_goals
      rw [same]
      exact refuses_orElse (refuses_mark (heads_space rfl _) rfl) (refuses_mark (heads_space rfl _) rfl)
  rw [members_rows]
  refine reads_seq_idle (reads_none undivided) (reads_seq_last ?_)
  rw [renderMembers_flatMap]
  refine reads_many (Q := fun members nodes => MeanMembers nodes members) ⟨rfl, rfl⟩ ?_ ?_
    (row_refuses rest) members fun member known others => row_reads (each member known)
  · intro member
    cases member <;> simp [Member.render]
  · rintro member others _ nodes ⟨n, place, rfl, means⟩ later
    exact meanMembers_cons means place _ later

theorem object_reads {members : List Member} {lineEnds : Bool}
    (each : ∀ member ∈ members, MemberBack read member) (stopped : Stopped rest) :
    (typeRule read lineEnds).Reads (Shape.object members).render rest (Means · (.object members)) := by
  -- The other kind of braces has a bar right behind the first one.
  have inexact : (seq [mark "\x7b|", Grammar.members read, mark "|\x7d"]).Refuses
      ((Shape.object members).render ++ rest) := by
    obtain ⟨d, more, same, -⟩ := members_begin each rest
    have text : (Shape.object members).render ++ rest = '\x7b' :: ' ' :: d :: more := by
      rw [Shape.render, ← same]
      simp
    rw [text]
    exact refuses_seq (refuses_lexeme_here (bare_shown (shown_cons rfl _)) rfl)
  have row : (seq [mark "\x7b", Grammar.members read, mark "\x7d"]).Reads
      (['\x7b'] ++ (renderMembers members ++ ([' '] ++ ['\x7d']))) rest (MeanMembers · members) := by
    have closing : (mark "\x7d").Reads ([' '] ++ ['\x7d']) rest _ :=
      reads_mark rfl (shown_cons rfl _) spaces_one
    refine reads_seq (reads_sign "\x7b" '\x7b' rfl rfl)
      (reads_seq (members_read each) (reads_seq_last closing) (R := (MeanMembers · members)) ?_) ?_
    · rintro nodes _ all ⟨place, rfl⟩
      refine ⟨by rw [readMembers_mark, all.members], ?_⟩
      simp [anyFault_append, all.whole, anyFault]
    · rintro _ nodes ⟨place, rfl⟩ all
      exact ⟨by simp [readMembers, all.members], by simp [anyFault, all.whole]⟩
  have node : (objectType read).Reads (Shape.object members).render rest (Means · (.object members)) := by
    refine reads_imp ?_ (reads_node .objectType (reads_right inexact row))
    rintro _ ⟨place, children, rfl, all⟩
    refine ⟨?_, rfl, ?_⟩
    · simp [readShape, all.members]
      rfl
    · simp [hasFault, all.whole]
  have atom : (atomType read lineEnds).Reads (Shape.object members).render rest
      (Means · (.object members)) := node
  obtain ⟨d, heads, closes, -, -⟩ := stopped_heads stopped
  exact alone_reads (primary_reads atom heads closes.noBracket) ⟨'\x7b', _, rfl, rfl⟩ (unled_breaks rfl _)
    stopped

end DeclSchema.Source.Grammar
