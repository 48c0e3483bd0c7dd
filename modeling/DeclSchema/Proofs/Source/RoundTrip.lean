import DeclSchema.Proofs.Source.RenderedObjects
import DeclSchema.Source.Declarations

/-!
Sources that hold a single alias. Its type, whatever canonical shape was rendered there, is read
back as it was, and nothing else is found.
-/

namespace DeclSchema.Source

namespace Grammar

open Rule Node

/-! ### Parts of canonical shapes -/

theorem canonical_shapes {shapes : List Shape} (canonical : areCanonical shapes = true) :
    ∀ shape ∈ shapes, shape.isCanonical = true := by
  induction shapes with
  | nil => simp
  | cons shape more ih =>
    rw [areCanonical, Bool.and_eq_true] at canonical
    exact List.forall_mem_cons.mpr ⟨canonical.1, ih canonical.2⟩

theorem canonical_members {members : List Member} (canonical : areCanonicalMembers members = true) :
    ∀ member ∈ members, member.isCanonical = true := by
  induction members with
  | nil => simp
  | cons member more ih =>
    rw [areCanonicalMembers, Bool.and_eq_true] at canonical
    exact List.forall_mem_cons.mpr ⟨canonical.1, ih canonical.2⟩

theorem length_le_spelled {α : Type} {a : α} {items : List α} (spell : α → List Char)
    (member : a ∈ items) : (spell a).length ≤ (items.flatMap spell).length := by
  rw [List.flatMap_def]
  exact (List.sublist_flatten_of_mem (List.mem_map_of_mem member)).length_le

theorem length_argument {name : String} {shape : Shape} {arguments : List Shape}
    (member : shape ∈ arguments) :
    shape.render.length < (Shape.reference name arguments).render.length := by
  cases arguments with
  | nil => cases member
  | cons first others =>
    simp only [Shape.render, List.length_append, List.length_cons, renderMore_flatMap]
    rcases List.mem_cons.mp member with rfl | later
    · omega
    · have spelled := length_le_spelled renderArgument later
      simp only [renderArgument, List.length_cons] at spelled
      omega

theorem length_part {shape : Shape} {parts : List Shape} (sign : Char) (member : shape ∈ parts) :
    shape.render.length < (renderParts sign parts).length := by
  cases parts with
  | nil => cases member
  | cons first others =>
    simp only [renderParts_cons, List.length_append, List.length_cons]
    rcases List.mem_cons.mp member with rfl | later
    · omega
    · have spelled := length_le_spelled (renderJoin sign) later
      simp only [renderJoin, List.length_cons, List.length_append] at spelled
      omega

theorem length_typed {name : Option String} {shape : Shape} {isOptional : Bool}
    {members : List Member} (member : .typed name shape isOptional ∈ members) :
    shape.render.length < (Shape.object members).render.length := by
  have spelled := length_le_spelled Member.render member
  simp only [Member.render, List.length_cons, List.length_append] at spelled
  simp only [Shape.render, renderMembers_flatMap, List.length_cons, List.length_append]
  omega

theorem length_element (element : Shape) :
    element.render.length < (Shape.array element).render.length := by
  simp only [Shape.render, List.length_cons, List.length_append]
  omega

theorem length_indexed (object index : Shape) :
    object.render.length < (Shape.indexed object index).render.length ∧
      index.render.length < (Shape.indexed object index).render.length := by
  simp only [Shape.render, List.length_cons, List.length_append]
  omega

theorem render_opens {shape : Shape} (canonical : shape.isCanonical = true) : Opens shape.render := by
  cases shape with
  | keyword word =>
    have every : ∀ word ∈ keywords, isWord word.toList = true := by decide
    simp only [Shape.isCanonical, List.contains_eq_mem, decide_eq_true_eq] at canonical
    exact word_opens (every word canonical)
  | literal value =>
    cases value with
    | text value => exact quote_opens value
    | boolean value => cases value <;> exact word_opens rfl
    | integer value => cases canonical
    | float value => cases canonical
  | reference name arguments =>
    simp only [Shape.isCanonical, Bool.and_eq_true] at canonical
    have opens := word_opens (typeName_word canonical.1)
    cases arguments with
    | nil => exact opens
    | cons first others => exact opens_append opens _
  | indexed object index => exact ⟨'(', _, rfl, rfl⟩
  | object members => exact ⟨'\x7b', _, rfl, rfl⟩
  | intersection parts =>
    cases parts with
    | nil => cases canonical
    | cons first others => exact ⟨'(', _, rfl, rfl⟩
  | union types =>
    cases types with
    | nil => cases canonical
    | cons first others => exact ⟨'(', _, rfl, rfl⟩
  | array element => exact ⟨'(', _, rfl, rfl⟩
  | verbatim text => cases canonical
  | absent => cases canonical

/-! ### Every shape -/

theorem member_back {read : Reader} {member : Member} (canonical : member.isCanonical = true)
    (part : ∀ name shape isOptional, member = .typed name shape isOptional → shape.isCanonical = true →
      ReadsBack read shape) : MemberBack read member := by
  cases member with
  | typed name shape isOptional =>
    cases name with
    | none => cases canonical
    | some name =>
      simp only [Member.isCanonical, Bool.and_eq_true] at canonical
      refine ⟨name, some shape, isOptional, rfl, canonical.1, ?_⟩
      rintro _ ⟨⟩
      exact part _ _ _ rfl canonical.2
  | bare name isOptional =>
    cases name with
    | none => cases canonical
    | some name =>
      simp only [Member.isCanonical] at canonical
      exact ⟨name, none, isOptional, rfl, canonical, by simp⟩

-- One unit of fuel for each level of the shape is enough, and a level takes at least one character.
theorem canonical_back (fuel : Nat) (shape : Shape) (canonical : shape.isCanonical = true)
    (enough : shape.render.length < fuel) : ReadsBack (read fuel) shape := by
  induction fuel generalizing shape with
  | zero => exact absurd enough (Nat.not_lt_zero _)
  | succ fuel ih =>
    have below (part : Shape) (canonical : part.isCanonical = true)
        (shorter : part.render.length < shape.render.length) : ReadsBack (read fuel) part :=
      ih part canonical (by omega)
    refine ⟨render_opens canonical, fun lineEnds rest stopped => ?_⟩
    change (typeRule (read fuel) lineEnds).Reads shape.render rest (Means · shape)
    cases shape with
    | keyword word =>
      simp only [Shape.isCanonical, List.contains_eq_mem, decide_eq_true_eq] at canonical
      exact keyword_reads canonical stopped
    | literal value =>
      cases value with
      | text value => exact text_reads canonical stopped
      | boolean value => exact boolean_reads value stopped
      | integer value => cases canonical
      | float value => cases canonical
    | reference name arguments =>
      simp only [Shape.isCanonical, Bool.and_eq_true] at canonical
      obtain ⟨named, each⟩ := canonical
      cases arguments with
      | nil => exact name_alone named stopped
      | cons first others =>
        have parts : ∀ part ∈ first :: others, ReadsBack (read fuel) part := fun part member =>
          below part (canonical_shapes each part member) (length_argument member)
        obtain ⟨one, more⟩ := List.forall_mem_cons.mp parts
        exact name_applied named one more stopped
    | indexed object index =>
      simp only [Shape.isCanonical, Bool.and_eq_true] at canonical
      obtain ⟨front, inside⟩ := length_indexed object index
      exact indexed_reads (below object canonical.1 front) (below index canonical.2 inside) stopped
    | object members =>
      refine object_reads (fun member known => ?_) stopped
      refine member_back (canonical_members canonical member known) ?_
      rintro name shape isOptional rfl canonical
      exact below shape canonical (length_typed known)
    | intersection parts =>
      simp only [Shape.isCanonical, Bool.and_eq_true, decide_eq_true_eq] at canonical
      obtain ⟨many, each⟩ := canonical
      match parts, many with
      | first :: second :: others, _ =>
        exact intersection_joined (List.cons_ne_nil _ _) (fun part member =>
          below part (canonical_shapes each part member) (length_part '&' member)) stopped
    | union types =>
      simp only [Shape.isCanonical, Bool.and_eq_true, decide_eq_true_eq] at canonical
      obtain ⟨many, each⟩ := canonical
      match types, many with
      | first :: second :: others, _ =>
        exact union_joined (List.cons_ne_nil _ _) (fun part member =>
          below part (canonical_shapes each part member) (length_part '|' member)) stopped
    | array element => exact array_reads (below element canonical (length_element element)) stopped
    | verbatim text => cases canonical
    | absent => cases canonical

/-! ### The alias -/

section

variable {read : Reader} {name : String} {shape : Shape} {rest : List Char}

theorem renderAlias_spelled : (renderAlias name shape).toList =
    ("type".toList ++ ([' '] ++ name.toList)) ++
      (([' '] ++ ['=']) ++ (([' '] ++ shape.render) ++ [';'])) := by
  simp [renderAlias]

-- The node stands for the alias.
def MeansAlias (n : Node) (name : String) (shape : Shape) : Prop :=
  ∃ place text first second third last value,
    n = ⟨.typeAlias, none, place, text, false,
      [leaf .mark first "type".toList, (leaf .typeName second name.toList).playing .name,
        leaf .mark third ['='], value.playing .value, leaf .mark last [';']]⟩ ∧
    Means value shape

theorem space_breaks (more : List Char) : Breaks (' ' :: more) := by
  rintro d ⟨⟩
  rfl

theorem typeWord_reads (more : List Char) :
    (word "type").Reads "type".toList (' ' :: more) fun nodes =>
      ∃ place, nodes = [leaf .mark place "type".toList] :=
  reads_named (word_shown rfl) spaces_nil (name_word rfl (space_breaks more)) rfl

theorem aliasHead_reads (named : isTypeName name = true) (more : List Char) :
    (do
      let found ← word "type"
      guard sameLine
      return found ++ (← role .name (anyName .typeName))).Reads
      ("type".toList ++ ([' '] ++ name.toList)) (' ' :: more) fun nodes => ∃ first second,
        nodes = [leaf .mark first "type".toList, (leaf .typeName second name.toList).playing .name] := by
  have shown : Shown name.toList := word_shown (typeName_word named)
  have size : Lexeme.name (name.toList ++ ' ' :: more) = name.toList.length := by
    obtain ⟨c, others, spelled, -⟩ := word_cons (typeName_word named)
    rw [spelled]
    exact name_word (spelled ▸ typeName_word named) (space_breaks more)
  have nameRead : (role .name (anyName .typeName)).Reads ([' '] ++ name.toList) (' ' :: more) _ :=
    reads_role .name (reads_lexeme .typeName shown spaces_one size)
  refine reads_bind (typeWord_reads _) ?_
  rintro _ ⟨first, rfl⟩
  refine reads_guarded (fun place => ?_) (reads_return _ nameRead ?_)
  · rw [List.append_assoc, sameLine, gap_shown (shown_append shown _) spaces_one]
    rfl
  · rintro _ ⟨_, rfl, second, rfl⟩
    exact ⟨first, second, rfl⟩

theorem aliasBody_reads (back : ReadsBack read shape) :
    (seq [optional (typeParameters read), mark "=", itemAs .value (read (.type true)),
      terminator true]).Reads (([' '] ++ ['=']) ++ (([' '] ++ shape.render) ++ [';'])) rest fun nodes => ∃ third last value,
        nodes = [leaf .mark third ['='], value.playing .value, leaf .mark last [';']] ∧
          Means value shape := by
  have none : (typeParameters read).Refuses
      (([' '] ++ ['=']) ++ (([' '] ++ shape.render) ++ [';']) ++ rest) :=
    typeParameters_refuse (heads_space rfl _) rfl
  have sign (more : List Char) : (mark "=").Reads ([' '] ++ ['=']) more _ :=
    reads_mark rfl (shown_cons rfl _) spaces_one
  have value := reads_itemAs .value back.shown spaces_one
    (back.reads true _ (stopped_cons (d := ';') rfl rest))
  have ending : (terminator true).Reads [';'] rest _ := reads_left (reads_sign ";" ';' rfl rfl)
  refine reads_seq_idle (reads_none none) (reads_seq (sign _) (reads_seq value (reads_seq_last ending)
    (R := fun nodes => ∃ last value, nodes = [value.playing .value, leaf .mark last [';']] ∧
      Means value shape) ?_) ?_)
  · rintro _ _ ⟨value, rfl, means⟩ ⟨last, rfl⟩
    exact ⟨last, value, rfl, means⟩
  · rintro _ _ ⟨third, rfl⟩ ⟨last, value, rfl, means⟩
    exact ⟨third, last, value, rfl, means⟩

theorem alias_reads (named : isTypeName name = true) (back : ReadsBack read shape) :
    (typeAlias read).Reads (renderAlias name shape).toList rest (MeansAlias · name shape) := by
  rw [renderAlias_spelled]
  refine reads_imp ?_ (reads_node .typeAlias (reads_left
    (reads_seq (aliasHead_reads named _) (aliasBody_reads back)
      (R := fun nodes => ∃ first second third last value,
        nodes = [leaf .mark first "type".toList, (leaf .typeName second name.toList).playing .name,
          leaf .mark third ['='], value.playing .value, leaf .mark last [';']] ∧ Means value shape) ?_)))
  · rintro _ ⟨place, _, rfl, first, second, third, last, value, rfl, means⟩
    exact ⟨place, _, first, second, third, last, value, rfl, means⟩
  · rintro _ _ ⟨first, second, rfl⟩ ⟨third, last, value, rfl, means⟩
    exact ⟨first, second, third, last, value, rfl, means⟩

theorem renderAlias_begins (name : String) (shape : Shape) (rest : List Char) :
    ∃ more, (renderAlias name shape).toList ++ rest = "type".toList ++ ' ' :: more := by
  rw [renderAlias_spelled]
  exact ⟨_, rfl⟩

theorem statement_reads (named : isTypeName name = true) (back : ReadsBack read shape) :
    (statementRule read).Reads (renderAlias name shape).toList rest (MeansAlias · name shape) := by
  intro place
  have reads : (typeAlias read).Reads _ rest _ := alias_reads named back
  obtain ⟨n, found, means⟩ := reads place
  refine ⟨n, ?_, means⟩
  obtain ⟨more, begins⟩ := renderAlias_begins name shape rest
  have size : Lexeme.name ("type".toList ++ ' ' :: more) = 4 := name_word rfl (space_breaks more)
  rw [begins] at found ⊢
  unfold statementRule
  split
  case h_5 =>
    rw [size]
    exact orElse_found (orElse_found found _) _
  all_goals
    next same => cases same

/-! ### The source -/

theorem program_end (statement : Rule Node) (fuel : Nat) (place : Place) :
    program statement (fuel + 1) ⟨[], place⟩ = some ([], ⟨[], place⟩) := by
  have none : (⟨[], place⟩ : Cursor).gap = ⟨[], false, ⟨[], place⟩⟩ := bare_nil place
  rw [program]
  simp [none, gap]

theorem program_single {statement : Rule Node} {text : List Char} {P : Node → Prop}
    (shown : Shown text) (reads : statement.Reads text [] P) (fuel : Nat) :
    (program statement (fuel + 2)).Reads text [] fun nodes => ∃ n, nodes = [n] ∧ P n := by
  intro place
  have whole : (item (statement <|> unreadable statement)).Reads _ [] _ :=
    reads_item shown spaces_nil (reads_left reads)
  obtain ⟨_, found, n, rfl, property⟩ := whole place
  refine ⟨[n], ?_, n, rfl, property⟩
  have here := gap_shown (shown_append shown []) spaces_nil place
  have filled : ¬ (text ++ []).isEmpty = true := by
    obtain ⟨d, more, rfl, -⟩ := shown
    exact Bool.false_ne_true
  rw [List.nil_append] at here found
  rw [program]
  dsimp only
  rw [here, if_neg filled, found]
  dsimp only
  rw [program_end]
  rfl

-- A source that is a single statement.
theorem parse_single {text : List Char} {P : Node → Prop} (shown : Shown text)
    (plain : shebang text = 0) (reads : (Grammar.read (enoughFuel text) .statement).Reads text [] P) :
    ∃ n, parse text = ⟨.program, none, .origin, text, false, [n]⟩ ∧ P n := by
  obtain ⟨rounds, several⟩ : ∃ rounds, text.length + 1 = rounds + 2 := by
    obtain ⟨d, more, rfl, -⟩ := shown
    exact ⟨more.length, rfl⟩
  obtain ⟨_, found, n, rfl, property⟩ := program_single shown reads rounds .origin
  refine ⟨n, ?_, property⟩
  rw [List.append_nil] at found
  have start : (Cursor.start text).skip 0 = ⟨text, .origin⟩ := rfl
  unfold parse
  dsimp only
  rw [plain, several, start, found]

theorem parse_alias (named : isTypeName name = true) (canonical : shape.isCanonical = true) :
    ∃ n, parse (renderAlias name shape).toList =
        ⟨.program, none, .origin, (renderAlias name shape).toList, false, [n]⟩ ∧
      MeansAlias n name shape := by
  obtain ⟨more, begins⟩ := renderAlias_begins name shape []
  rw [List.append_nil] at begins
  have shown : Shown (renderAlias name shape).toList := begins ▸ shown_cons rfl _
  have length : (renderAlias name shape).toList.length = shape.render.length + name.toList.length + 9 := by
    simp only [renderAlias_spelled, List.length_append, List.length_cons, List.length_nil]
    have word : "type".toList.length = 4 := rfl
    omega
  have plain : shebang (renderAlias name shape).toList = 0 := by
    rw [begins]
    rfl
  apply parse_single shown plain
  -- The statement itself takes one unit, the rest is left for the type.
  obtain ⟨fuel, enough⟩ : ∃ fuel, enoughFuel (renderAlias name shape).toList = fuel + 1 := ⟨_, rfl⟩
  have back := canonical_back fuel shape canonical (by simp only [enoughFuel, length] at enough; omega)
  rw [enough]
  exact statement_reads named back

end

end Grammar

/-! ### The declaration -/

open Grammar

theorem alias_declared {n : Node} {name : String} {shape : Shape} (means : MeansAlias n name shape) :
    readDeclaration n = pure (some (.typeAlias name shape [])) := by
  obtain ⟨place, text, first, second, third, last, value, same, means⟩ := means
  have played := means.playing .value
  have kind : n.kind = .typeAlias := by rw [same]
  have child : n.child? .value = some (value.playing .value) := by rw [same]; rfl
  have named : nameText (n.child? .name) = name := by
    rw [same]
    exact String.ofList_toList
  have unparameterised : parameterNames (n.child? .typeParameters) = [] := by rw [same]; rfl
  have whole : n.hasFault = false := by
    have nameWhole : ((Node.leaf .typeName second name.toList).playing .name).hasFault = false := rfl
    rw [same]
    simp [Node.hasFault, Node.anyFault, nameWhole, played.whole]
  rw [readDeclaration, kind]
  dsimp only
  rw [readAlias, child, whole, named, unparameterised]
  dsimp only
  rw [if_neg Bool.false_ne_true, played.shape]
  rfl

-- Nodes that declare nothing by themselves.
theorem walk_idle {n : Node} (readable : n.kind ≠ .unreadable) (entered : n.isClosed = false)
    (idle : readDeclaration n = pure none) (rest : List Node) :
    walk (n :: rest) = walk (n.children ++ rest) := by
  rw [walk, if_neg readable, idle, if_neg (by simp [entered])]
  simp

theorem walk_alias {n : Node} {name : String} {shape : Shape} (means : MeansAlias n name shape)
    (text : List Char) :
    walk [⟨.program, none, .origin, text, false, [n]⟩] = pure [.typeAlias name shape []] := by
  have closed : n.isClosed = true ∧ n.kind ≠ .unreadable := by
    obtain ⟨place, text, first, second, third, last, value, rfl, -⟩ := means
    exact ⟨rfl, by simp⟩
  have done : walk [] = pure [] := by rw [walk]
  have inner : walk [n] = pure [.typeAlias name shape []] := by
    rw [walk, if_neg closed.2, alias_declared means, if_pos closed.1, done]
    rfl
  rw [walk_idle (by simp) rfl rfl, List.append_nil, inner]

theorem readSource_renderAlias (name : String) (shape : Shape) (named : isTypeName name = true)
    (canonical : shape.isCanonical = true) :
    readSource (renderAlias name shape) = pure [.typeAlias name shape []] := by
  obtain ⟨n, parsed, means⟩ := parse_alias named canonical
  rw [readSource, parsed, declarationsOf, walk_alias means]
  change (if _ && false then _ else _ : Traced Rejection (List Declaration)) = _
  rw [Bool.and_false, if_neg Bool.false_ne_true]

-- Chains inside of chains, brackets, arguments and all kinds of members.
def nestedShape : Shape :=
  .union
    [.intersection
      [.reference "Page$1"
          [.reference "Map" [.keyword "string", .array (.keyword "null")], .literal (.boolean true)],
        .object
          [.typed (some "a b") (.union [.literal (.text "x"), .union [.keyword "never", .object []]]) true,
            .typed (some "") (.indexed (.array (.reference "T_" [])) (.keyword "number")) false,
            .bare (some "?: ;") true, .bare (some "c") false]],
      .array (.array (.keyword "undefined"))]

theorem readSource_renderAlias_nested :
    isTypeName "Outer" = true ∧ nestedShape.isCanonical = true ∧
    renderAlias "Outer" nestedShape =
      "type Outer = ((Page$1<Map<string, (null)[]>, true>) & " ++
        "(\x7b 'a b'?: ('x') | ((never) | (\x7b \x7d)); '': ((T_)[])[number]; '?: ;'?; 'c'; \x7d)) | " ++
        "(((undefined)[])[]);" ∧
    readSource (renderAlias "Outer" nestedShape) = pure [.typeAlias "Outer" nestedShape []] := by
  have named : isTypeName "Outer" = true := by decide
  have canonical : nestedShape.isCanonical = true := by decide +kernel
  refine ⟨named, canonical, ?_, readSource_renderAlias "Outer" nestedShape named canonical⟩
  decide +kernel

end DeclSchema.Source
