import DeclSchema.Proofs.Source.RoundTrip
import DeclSchema.Proofs.Source.TemplateTexts

/-!
Sources that hold a single embedded text: a tag and the text as a template behind it. No rule but
that of calls takes such a source, and the text is read back as it was.
-/

namespace DeclSchema.Source

-- A source that embeds one text and holds nothing else.
def renderEmbedded (tag : Tag) (text : String) : String :=
  tag.name ++ "`" ++ String.ofList (escaped text.toList) ++ "`"

namespace Grammar

open Rule Node

variable {read : Reader} {tag : Tag} {more rest : List Char} {P : Node → Prop}

/-! ### The tag -/

theorem ofName_name (tag : Tag) : Tag.ofName? tag.name = some tag := by
  cases tag <;> rfl

theorem tag_worded (tag : Tag) (more : List Char) : Worded tag.name.toList ('`' :: more) := by
  refine ⟨?_, ?_, '`', heads_cons rfl more, rfl⟩
  · cases tag <;> rfl
  · rintro d ⟨⟩
    rfl

theorem tag_heads (tag : Tag) (more : List Char) : Heads 'g' (tag.name.toList ++ '`' :: more) := by
  cases tag with
  | gql => exact heads_cons rfl _
  | graphql => exact heads_cons rfl _

theorem tag_bare (tag : Tag) (more : List Char) : Bare (tag.name.toList ++ '`' :: more) :=
  bare_shown (shown_append (word_shown (tag_worded tag more).word) _)

theorem tag_here (tag : Tag) (more : List Char) (place : Place) :
    (⟨tag.name.toList ++ '`' :: more, place⟩ : Cursor).nameHere = tag.name.toList := by
  rw [Cursor.nameHere, worded_name (tag_worded tag more), List.take_left]

theorem tag_filled (tag : Tag) : ∃ letters, tag.name.toList.length = letters + 1 := by
  cases tag <;> exact ⟨_, rfl⟩

theorem tag_free (tag : Tag) : isReserved tag.name.toList = false := by
  cases tag <;> rfl

theorem tag_other {word : String} (other : Tag.ofName? word = none) :
    tag.name.toList ≠ word.toList := by
  intro same
  rw [← String.toList_inj.mp same, ofName_name] at other
  cases other

-- The rule does not take a tag with a template behind it.
def Untagged {α : Type} (p : Rule α) : Prop :=
  ∀ (tag : Tag) (more : List Char), p.Refuses (tag.name.toList ++ '`' :: more)

theorem word_untagged {word : String} (other : Tag.ofName? word = none) :
    Untagged (Rule.word word) := fun tag more =>
  wordAs_refuses (tag_worded tag more) (beq_false_of_ne (tag_other other))

theorem wordOf_untagged {words : List String} (others : words.all (Tag.ofName? · = none) = true) :
    Untagged (wordOf words) := by
  intro tag more
  apply wordOf_refuses (tag_worded tag more)
  rw [List.any_eq_false]
  intro word member
  have other := List.all_eq_true.mp others word member
  simpa using Ne.symm (tag_other (of_decide_eq_true other))

theorem identifier_reads (tag : Tag) (more : List Char) :
    identifier.Reads tag.name.toList ('`' :: more) fun nodes =>
      ∃ place, nodes = [leaf .identifier place tag.name.toList] := by
  apply reads_named (word_shown (tag_worded tag more).word) spaces_nil (worded_name (tag_worded tag more))
  rw [tag_free]
  rfl

/-! ### Statements of other kinds -/

theorem decorators_none (tag : Tag) (more : List Char) :
    (decorators read).Reads [] (tag.name.toList ++ '`' :: more) (· = []) :=
  reads_many_none (refuses_item (tag_heads tag more) fun others =>
    refuses_node (refuses_seq (refuses_mark (heads_cons rfl others) rfl)) _)

theorem class_untagged : Untagged (classRule read) := fun tag more =>
  refuses_node (refuses_seq_idle (decorators_none tag more)
    (refuses_seq_optional (word_untagged rfl _ _) (refuses_seq (word_untagged rfl _ _)))) _

theorem declaration_untagged : Untagged (declaration read) := by
  intro tag more
  have noAlias : (typeAlias read).Refuses (tag.name.toList ++ '`' :: more) :=
    refuses_node (refuses_orElse (refuses_seq (refuses_bind (word_untagged rfl _ _)))
      (refuses_seq (refuses_bind (word_untagged rfl _ _)))) _
  have noEnumeration : (enumeration read).Refuses (tag.name.toList ++ '`' :: more) :=
    refuses_node (refuses_seq_optional (word_untagged rfl _ _) (refuses_seq (word_untagged rfl _ _))) _
  have noInterface : (interface read).Refuses (tag.name.toList ++ '`' :: more) :=
    refuses_node (refuses_bind (word_untagged rfl _ _)) _
  have noNamespace : (namespaceRule read).Refuses (tag.name.toList ++ '`' :: more) :=
    refuses_node (refuses_bind (wordOf_untagged rfl _ _)) _
  have noFunction : (functionDeclaration read).Refuses (tag.name.toList ++ '`' :: more) :=
    refuses_node (refuses_seq_optional (word_untagged rfl _ _) (refuses_seq (word_untagged rfl _ _))) _
  have noClass : (classDeclaration read).Refuses (tag.name.toList ++ '`' :: more) :=
    refuses_node (refuses_item_here (tag_bare tag more) (class_untagged tag more)) _
  have noBindings : (bindings read).Refuses (tag.name.toList ++ '`' :: more) :=
    refuses_node (refuses_seq (wordOf_untagged rfl _ _)) _
  exact refuses_orElse noAlias (refuses_orElse noEnumeration (refuses_orElse noInterface
    (refuses_orElse noNamespace (refuses_orElse noFunction (refuses_orElse noClass noBindings)))))

theorem ambient_untagged : Untagged (ambient read) := fun tag more =>
  refuses_node (refuses_bind (word_untagged rfl tag more)) _

theorem led_untagged (word : String) (other : Tag.ofName? word = none)
    (rules : List (Rule (List Node))) : Untagged (seq (Rule.word word :: rules)) := fun tag more =>
  refuses_seq (word_untagged other tag more)

theorem import_untagged : Untagged (importStatement read) := by
  intro tag more
  have led := fun rules => led_untagged "import" rfl rules tag more
  exact refuses_node (refuses_orElse (led _) (refuses_orElse (led _) (refuses_orElse (led _) (led _)))) _

theorem export_untagged : Untagged (exportStatement read) := by
  intro tag more
  have led := fun rules => led_untagged "export" rfl rules tag more
  have decorated (rules : List (Rule (List Node))) :
      (seq (decorators read :: word "export" :: rules)).Refuses (tag.name.toList ++ '`' :: more) :=
    refuses_seq_idle (decorators_none tag more) (led rules)
  exact refuses_node (refuses_orElse (decorated _) (refuses_orElse (led _) (refuses_orElse (led _)
    (refuses_orElse (led _) (refuses_orElse (led _) (decorated _)))))) _

theorem control_untagged : Untagged (control read) := by
  intro tag more
  have led {word : String} (other : Tag.ofName? word = none) := fun rules =>
    led_untagged word other rules tag more
  exact refuses_orElse (led rfl _) (refuses_orElse (led rfl _) (refuses_orElse (led rfl _)
    (refuses_orElse (led rfl _) (refuses_orElse (led rfl _) (refuses_orElse (led rfl _)
      (refuses_orElse (led rfl _) (refuses_orElse (led rfl _) (refuses_orElse (led rfl _)
        (refuses_orElse (refuses_seq (wordOf_untagged rfl _ _)) (led rfl _))))))))))

theorem labelled_untagged : Untagged (labelled read) := fun tag more =>
  refuses_seq_after (identifier_reads tag more) (refuses_seq (refuses_mark (heads_cons rfl more) rfl))

theorem arrow_untagged : Untagged (arrow read) := by
  intro tag more
  have named : (do
      let found ← identifier
      guard fun c => sameLine c && c.gap.after.startsWith "=>"
      return found).Refuses (tag.name.toList ++ '`' :: more) := by
    apply refuses_after (identifier_reads tag more)
    intro found place
    apply bind_none (guard_false _)
    rw [startsWith_other (heads_cons rfl more) rfl, Bool.and_false]
  have unsigned : (signature read false).Refuses (tag.name.toList ++ '`' :: more) :=
    signature_refuses (tag_heads tag more) rfl rfl false
  exact refuses_node (refuses_seq (refuses_orElse (refuses_seq (refuses_bind (word_untagged rfl _ _)))
    (refuses_seq (refuses_orElse named unsigned)))) _

/-! ### The call -/

theorem memberStep_refuses (point : (mark ".").Refuses rest) (bracket : (mark "[").Refuses rest)
    (assertion : (markNot "!" ["!="]).Refuses rest) (start : Cursor) (left : Node) :
    (memberStep read start left).Refuses rest :=
  refuses_grow (refuses_orElse (refuses_guarded _ (refuses_seq point))
    (refuses_orElse (refuses_seq bracket) (refuses_guarded _ assertion))) _ _ _

-- Nothing can be read at the end of the text.
theorem lexeme_ended {kind : Kind} {size : List Char → Nat} (none : size [] = 0) :
    (lexeme kind size).Refuses [] := refuses_lexeme_here bare_nil none

theorem callStep_ended (start : Cursor) (left : Node) : (callStep read start left).Refuses [] := by
  have noMember : (memberStep read start left).Refuses [] :=
    memberStep_refuses (lexeme_ended rfl) (lexeme_ended rfl) (lexeme_ended rfl) start left
  have noTemplate : (templateStep read start left).Refuses [] :=
    refuses_grow (refuses_itemAs_here bare_nil (refuses_node (refuses_bind (lexeme_ended rfl)) _) _) _ _ _
  have noTypes : (typeArguments read).Refuses [] := refuses_node (refuses_seq (lexeme_ended rfl)) _
  have noArguments : (arguments read).Refuses [] := refuses_node (refuses_seq (lexeme_ended rfl)) _
  have noDot : optionalDot.Refuses [] := by
    unfold optionalDot
    exact lexeme_ended rfl
  refine refuses_orElse noMember (refuses_orElse noTemplate (refuses_orElse
    (refuses_grow ?_ _ _ _) (refuses_grow ?_ _ _ _)))
  · exact refuses_orElse
      (refuses_seq_optional noDot (refuses_seq (refuses_itemAs_here bare_nil noTypes _)))
      (refuses_seq_optional noDot (refuses_seq (refuses_itemAs_here bare_nil noArguments _)))
  · exact refuses_orElse (refuses_seq noDot) (refuses_orElse (refuses_seq noDot)
      (refuses_bind (refuses_item_here bare_nil noTypes)))

-- The call stands for the tag and the text.
def MeansEmbedded (n : Node) (tag : Tag) (text : List Char) : Prop :=
  ∃ place covered first template, n = ⟨.call, none, place, covered, false,
      [(leaf .identifier first tag.name.toList).playing .function, template.playing .arguments]⟩ ∧
    MeansText template text

theorem wordPrimary_tag (read : Reader) (tag : Tag) (more : List Char) :
    (wordPrimary read).Reads tag.name.toList ('`' :: more) fun n =>
      ∃ place, n = leaf .identifier place tag.name.toList := by
  intro place
  have name : (leafOf .identifier Lexeme.name).Reads tag.name.toList ('`' :: more) _ :=
    leafOf_reads (word_filled (tag_worded tag more).word) (worded_name (tag_worded tag more))
  obtain ⟨n, found, means⟩ := name place
  refine ⟨n, ?_, means⟩
  have other : ∀ word ∈ ["function", "class", "abstract", "async", "import", "this", "super", "null",
      "true", "false"], (tag.name.toList == word.toList) = false := by
    intro word member
    apply beq_false_of_ne (tag_other _)
    revert word
    decide
  simp only [List.forall_mem_cons] at other
  unfold wordPrimary
  dsimp only
  rw [tag_here]
  simp only [other, tag_free, Bool.or_self, Bool.false_eq_true, if_false]
  exact found

theorem primary_tag (tag : Tag) (more : List Char) :
    Rule.Reads (fun c => if c.nameHere == "new".toList then construction read c else primary read c)
      tag.name.toList ('`' :: more) fun n => ∃ place, n = leaf .identifier place tag.name.toList := by
  intro place
  obtain ⟨letters, filled⟩ := tag_filled tag
  obtain ⟨n, found, means⟩ := wordPrimary_tag read tag more place
  refine ⟨n, ?_, means⟩
  dsimp only
  rw [tag_here, beq_false_of_ne (tag_other rfl), if_neg Bool.false_ne_true]
  unfold primary
  split
  case h_12 =>
    rw [worded_name (tag_worded tag more), filled]
    exact found
  all_goals
    next same => cases tag <;> cases same

theorem callee_reads {text : List Char} (filled : '\x00' ∉ text) :
    (calleeRule read).Reads (tag.name.toList ++ '`' :: (escaped text ++ ['`'])) []
      (MeansEmbedded · tag text) := by
  apply reads_climbing_once (List.cons_ne_nil _ _) callStep_ended (primary_tag tag _)
  rintro start _ ⟨first, rfl⟩
  have quote : Heads '`' ('`' :: (escaped text ++ ['`']) ++ []) := heads_cons rfl _
  have noMember : (memberStep read start (leaf .identifier first tag.name.toList)).Refuses _ :=
    memberStep_refuses (refuses_mark quote rfl) (refuses_mark quote rfl) (refuses_markNot quote rfl) _ _
  have behind : (itemAs .arguments (template read)).Reads ([] ++ '`' :: (escaped text ++ ['`'])) [] _ :=
    reads_itemAs .arguments (shown_cons rfl _) spaces_nil (template_reads filled [])
  refine reads_imp ?_ (reads_right noMember (reads_left (reads_grow .call start _ behind)))
  rintro _ ⟨covered, _, rfl, template, rfl, means⟩
  exact ⟨start.place, covered, first, template, rfl, means⟩

/-! ### The statement -/

theorem signOf_here (bare : Bare rest) (none : signHere rest = "") (accept : List String) :
    (signOf accept).Refuses rest := by
  apply refuses_lexeme_here bare
  rw [none]
  exact ite_self _

theorem unary_reads (reads : (calleeRule read).Reads (tag.name.toList ++ '`' :: more) [] P) :
    (unary read).Reads (tag.name.toList ++ '`' :: more) [] P := by
  have unled : (signOf ["!", "~", "+", "-", "++", "--"] <|>
      wordOf ["typeof", "void", "delete", "await"]).Refuses (tag.name.toList ++ '`' :: more ++ []) := by
    rw [List.append_nil]
    refine refuses_orElse (signOf_here (tag_bare tag more) ?_ _) (wordOf_untagged rfl tag more)
    cases tag <;> rfl
  have operand : Rule.Reads _ _ [] P := reads_ungrown
    (fun start left => grow .expression start [left] (do guard sameLine; signOf ["++", "--"]))
    reads fun start left => refuses_grow (refuses_guarded _ (signOf_here bare_nil rfl _)) _ _ _
  exact reads_right (refuses_node (refuses_bind unled) _) operand

theorem binaryTail_ended : (binaryTail read).Refuses [] :=
  refuses_orElse (refuses_seq (refuses_orElse (signOf_here bare_nil rfl _) (lexeme_ended rfl)))
    (refuses_orElse (refuses_guarded _ (refuses_seq (lexeme_ended rfl)))
      (refuses_guarded _ (refuses_seq (lexeme_ended rfl))))

theorem questionMark_ended : questionMark.Refuses [] := by
  intro place
  unfold questionMark
  rw [bare_nil place]
  exact signOf_here bare_nil rfl _ place

section

variable {text : List Char}

theorem binary_reads (reads : (unary read).Reads text [] P) : (binary read).Reads text [] P :=
  reads_ungrown _ reads fun _ _ => refuses_grow (refuses_bind binaryTail_ended) _ _ _

theorem plainAssignment_reads (reads : (binary read).Reads text [] P) :
    (plainAssignment read).Reads text [] P :=
  reads_ungrown _ reads fun _ _ => refuses_grow (refuses_orElse
    (refuses_orElse (refuses_seq questionMark_ended) (refuses_seq questionMark_ended))
    (refuses_seq (signOf_here bare_nil rfl _))) _ _ _

theorem expression_reads (reads : (read .assignment).Reads text [] P) :
    (expressionRule read).Reads text [] P :=
  reads_ungrown _ reads fun _ _ => refuses_grow (refuses_bind (refuses_seq (lexeme_ended rfl))) _ _ _

end

theorem assignment_reads (reads : (plainAssignment read).Reads (tag.name.toList ++ '`' :: more) [] P) :
    (assignmentRule read).Reads (tag.name.toList ++ '`' :: more) [] P := by
  intro place
  obtain ⟨n, found, property⟩ := reads place
  refine ⟨n, ?_, property⟩
  rw [List.append_nil] at found ⊢
  have noArrow : arrow read ⟨tag.name.toList ++ '`' :: more, place⟩ = none :=
    arrow_untagged tag more place
  have other : (tag.name.toList == "yield".toList) = false := beq_false_of_ne (tag_other rfl)
  have filled : tag.name.toList.isEmpty = false := by cases tag <;> rfl
  unfold assignmentRule
  split
  case h_3 =>
    rw [tag_here, other, filled, if_neg Bool.false_ne_true, if_neg Bool.false_ne_true]
    exact (orElse_none noArrow _).trans found
  all_goals
    next same => cases tag <;> cases same

theorem terminator_ended : (terminator false).Reads [] [] (· = []) := by
  have ends (place : Place) : endsHere false ⟨[], place⟩ = true := by
    unfold endsHere
    rw [bare_nil place]
  exact reads_right (lexeme_ended rfl) (reads_guarded ends (reads_pure rfl))

-- The statement stands for the tag and the text.
def MeansStatement (n : Node) (tag : Tag) (text : List Char) : Prop :=
  ∃ place covered call, n = ⟨.statement, none, place, covered, false, [call]⟩ ∧
    MeansEmbedded call tag text

theorem embedded_reads {text : List Char}
    (reads : (read .expression).Reads (tag.name.toList ++ '`' :: more) [] (MeansEmbedded · tag text)) :
    (statementRule read).Reads (tag.name.toList ++ '`' :: more) [] (MeansStatement · tag text) := by
  have shown : Shown (tag.name.toList ++ '`' :: more) :=
    shown_append (word_shown (tag_worded tag more).word) _
  have expression : (expressionStatement read).Reads ([] ++ (tag.name.toList ++ '`' :: more)) [] _ :=
    reads_seq_ended (reads_item shown spaces_nil reads) (reads_seq_last terminator_ended)
  have whole : (node .statement (control read <|> labelled read <|> expressionStatement read)).Reads
      (tag.name.toList ++ '`' :: more) [] (MeansStatement · tag text) := by
    refine reads_imp ?_ (reads_node .statement (reads_right ?_ (reads_right ?_ expression)))
    · rintro _ ⟨place, _, rfl, call, rfl, means⟩
      exact ⟨place, _, call, rfl, means⟩
    · rw [List.append_nil]
      exact control_untagged tag more
    · rw [List.append_nil]
      exact labelled_untagged tag more
  intro place
  obtain ⟨n, found, means⟩ := whole place
  refine ⟨n, ?_, means⟩
  rw [List.append_nil] at found ⊢
  obtain ⟨letters, filled⟩ := tag_filled tag
  unfold statementRule
  split
  case h_5 =>
    rw [worded_name (tag_worded tag more), filled]
    dsimp only
    rw [orElse_none (declaration_untagged tag more place), orElse_none (ambient_untagged tag more place),
      orElse_none (import_untagged tag more place), orElse_none (export_untagged tag more place), found]
  all_goals
    next same => cases tag <;> cases same

/-! ### The source -/

theorem parse_embedded (tag : Tag) {text : String} (filled : '\x00' ∉ text.toList) :
    ∃ n, parse (renderEmbedded tag text).toList =
        ⟨.program, none, .origin, (renderEmbedded tag text).toList, false, [n]⟩ ∧
      MeansStatement n tag text.toList := by
  have spelled : (renderEmbedded tag text).toList =
      tag.name.toList ++ '`' :: (escaped text.toList ++ ['`']) := by
    simp [renderEmbedded]
  rw [spelled]
  have plain : shebang (tag.name.toList ++ '`' :: (escaped text.toList ++ ['`'])) = 0 := by
    cases tag <;> rfl
  apply parse_single (shown_append (word_shown (tag_worded tag []).word) _) plain
  -- The statement, its expression and the assignment in it take one unit each.
  obtain ⟨fuel, enough⟩ : ∃ fuel,
      enoughFuel (tag.name.toList ++ '`' :: (escaped text.toList ++ ['`'])) = fuel + 3 :=
    ⟨_, Nat.mul_succ 8 _⟩
  rw [enough]
  have assignment : (read (fuel + 1) .assignment).Reads _ [] (MeansEmbedded · tag text.toList) :=
    assignment_reads (plainAssignment_reads (binary_reads (unary_reads (callee_reads filled))))
  have expression : (read (fuel + 2) .expression).Reads _ [] _ := expression_reads assignment
  exact embedded_reads expression

end Grammar

/-! ### The declaration -/

open Grammar

theorem pieces_idle {place : Place} {text : List Char} {nodes : List Node}
    (pieces : Pieces place text nodes) : walk nodes = pure [] := by
  have done : walk [] = pure [] := by rw [walk]
  induction pieces with
  | closed place => rw [walk_idle (by simp [Node.leaf]) rfl rfl]; exact done
  | run _ _ ih => rw [walk_idle (by simp [Node.leaf]) rfl rfl]; exact ih
  | escape _ _ ih => rw [walk_idle (by simp [Node.leaf]) rfl rfl]; exact ih

theorem embedded_declared {n : Node} {tag : Tag} {text : List Char}
    (means : MeansEmbedded n tag text) :
    readDeclaration n = pure (some (.embedded tag (Points.ofChars text))) := by
  obtain ⟨place, covered, first, template, same, means⟩ := means
  have kind : n.kind = .call := by rw [same]
  have child : n.child? .arguments = some (template.playing .arguments) := by rw [same]; rfl
  have tagged : tagOf n = some tag := by
    rw [same]
    change Tag.ofName? (String.ofList tag.name.toList) = some tag
    rw [String.ofList_toList, ofName_name]
  have played : (template.playing .arguments).kind = .template := means.kind
  have whole : (template.playing .arguments).hasFault = false := by
    cases template
    exact means.whole
  have cooked : (template.playing .arguments).cooked = .ok (Points.ofChars text) := means.cooked
  rw [readDeclaration, kind]
  dsimp only
  rw [readEmbedded, tagged, child]
  dsimp only
  rw [played, whole, cooked]
  rfl

-- Nothing is declared inside of the call.
theorem embedded_inside {n : Node} {tag : Tag} {text : List Char} (means : MeansEmbedded n tag text) :
    n.kind = .call ∧ walk n.children = pure [] := by
  obtain ⟨place, covered, first, _, rfl, begins, opening, inside, rfl, pieces⟩ := means
  refine ⟨rfl, ?_⟩
  rw [walk_idle (by simp [Node.leaf, Node.playing]) rfl rfl]
  change walk [_] = _
  rw [walk_idle (by simp [Node.playing]) rfl rfl, List.append_nil]
  change walk (Node.leaf .mark opening ['`'] :: inside) = _
  rw [walk_idle (by simp [Node.leaf]) rfl rfl]
  exact pieces_idle pieces

theorem walk_embedded {n : Node} {tag : Tag} {text : List Char} (means : MeansStatement n tag text)
    (source : List Char) :
    walk [⟨.program, none, .origin, source, false, [n]⟩] =
      pure [.embedded tag (Points.ofChars text)] := by
  obtain ⟨place, covered, call, rfl, means⟩ := means
  obtain ⟨kind, inside⟩ := embedded_inside means
  have entered : call.isClosed = false := by rw [Node.isClosed, kind]; rfl
  rw [walk_idle (by simp) rfl rfl, List.append_nil, walk_idle (by simp) rfl rfl, List.append_nil]
  rw [walk, if_neg (by simp [kind]), embedded_declared means, entered, if_neg Bool.false_ne_true]
  rw [List.append_nil, inside]
  rfl

theorem readSource_renderEmbedded (tag : Tag) (text : String) (filled : '\x00' ∉ text.toList) :
    readSource (renderEmbedded tag text) = pure [.embedded tag text] := by
  obtain ⟨n, parsed, means⟩ := parse_embedded tag filled
  rw [readSource, parsed, declarationsOf, walk_embedded means]
  change (if _ && false then _ else _ : Traced Rejection (List Declaration)) = _
  rw [Bool.and_false, if_neg Bool.false_ne_true]
  rfl

-- Escapes next to one another and before and behind characters of one to four bytes, a lone dollar
-- sign, and both kinds of line ends.
def mixedText : String := "é`\\n\r\n€$\x7bT\x7d\\\\𝄞`\n$"

theorem readSource_renderEmbedded_mixed :
    '\x00' ∉ mixedText.toList ∧
    renderEmbedded .graphql mixedText =
      "graphql`é\\`\\\\n\r\n€\\$\x7bT\x7d\\\\\\\\𝄞\\`\n\\$`" ∧
    readSource (renderEmbedded .graphql mixedText) = pure [.embedded .graphql mixedText] := by
  have filled : '\x00' ∉ mixedText.toList := by decide
  have spelled : renderEmbedded .graphql mixedText =
      "graphql`é\\`\\\\n\r\n€\\$\x7bT\x7d\\\\\\\\𝄞\\`\n\\$`" := by
    decide +kernel
  exact ⟨filled, spelled, readSource_renderEmbedded .graphql mixedText filled⟩

end DeclSchema.Source
