import DeclSchema.Proofs.Source.SoundRules
import DeclSchema.Source.Grammar.Types

/-!
The rules of types read sound trees when the reader of goals does. Most rules are put together from
sound ones; the rules here that need an argument are those whose nodes must have a part.
-/

namespace DeclSchema.Source.Grammar

open Rule Node

variable {read : Reader} [∀ goal, Whole (read goal)] {lineEnds : Bool}

/-! ### Names -/

instance sound_identifier : Sound identifier := sound_lexeme

theorem leaf_whole {kind : Kind} {size : Nat} {c next : Cursor} {n : Node}
    (content : kind.isContent = true)
    (complete : (leaf kind c.place (c.rest.take size)).Complete)
    (cut : some (leaf kind c.place (c.rest.take size), c.skip size) = some (n, next)) :
    c.Leads next ∧ n.Whole := by
  cases cut
  exact ⟨c.leads_skip size, leaf_sound complete, content_of_kind content⟩

instance whole_propertyName : Whole (propertyName read) := by
  refine ⟨fun c n next found => ?_⟩
  unfold propertyName at found
  split at found
  · exact Whole.yields c n next found
  · split at found
    · cases found
    · exact leaf_whole rfl (complete_plain rfl) found
  · dsimp only at found
    split at found
    · exact leaf_whole rfl (complete_plain rfl) found
    · exact leaf_whole rfl (complete_plain rfl) found
    · rename_i size
      exact leaf_whole rfl (number_complete size c.place) found
    · cases found

instance sound_modifier {words : List String} : Sound (modifier words) := sound_checked

instance sound_terminator {afterType : Bool} : Sound (terminator afterType) := sound_orElse

/-! ### Templates -/

-- A rule whose node covers exactly what was read.
class Exact (p : Rule Node) : Prop where
  covers : ∀ c n next, p c = some (n, next) → c.Spans n.text next ∧ n.place = c.place

instance exact_node {kind : Kind} {p : Rule (List Node)} [Sound p] : Exact (node kind p) := by
  refine ⟨fun c n next found => ?_⟩
  obtain ⟨children, reading, rfl⟩ := grow_some found
  obtain ⟨⟨taken, spans⟩, _⟩ := Sound.yields c children next reading
  rw [← Cursor.spans_textTo spans] at spans
  exact ⟨spans, rfl⟩

-- What the inside of a template is read into: sound nodes that cover it, and at last its mark.
structure Covers (c : Cursor) (nodes : List Node) (next : Cursor) : Prop where
  sound : AllSound nodes
  row : ∃ taken, c.Spans taken next ∧ Row c.place taken nodes
  closed : ∃ inside closing, nodes = inside ++ [closing] ∧ closing.IsQuote

theorem covers_cons {c middle next : Cursor} {n : Node} {nodes : List Node} (sound : n.Sound)
    (spans : c.Spans n.text middle) (place : n.place = c.place) (covers : Covers middle nodes next) :
    Covers c (n :: nodes) next := by
  obtain ⟨taken, later, row⟩ := covers.row
  obtain ⟨inside, closing, rfl, quote⟩ := covers.closed
  refine ⟨allSound_append (allSound_single sound) covers.sound, ?_, n :: inside, closing, rfl, quote⟩
  refine ⟨n.text ++ taken, Cursor.spans_append spans later, ?_⟩
  rw [spans.place, ← place] at row
  exact place ▸ .cons row

theorem templateBody_covers {hole : Rule Node} [Whole hole] [Exact hole] (fuel : Nat) :
    ∀ c nodes next, templateBody hole fuel c = some (nodes, next) → Covers c nodes next := by
  induction fuel with
  | zero =>
    intro c nodes next found
    cases found
  | succ fuel ih =>
    intro c nodes next found
    have cut : ∀ kind size, (leaf kind c.place (c.rest.take size)).Complete →
        (templateBody hole fuel (c.skip size)).map (fun more =>
          (leaf kind c.place (c.rest.take size) :: more.1, more.2)) = some (nodes, next) →
        Covers c nodes next := by
      intro kind size complete reading
      obtain ⟨⟨more, last⟩, body, result⟩ := Option.map_eq_some_iff.mp reading
      cases result
      exact covers_cons (leaf_sound complete) (c.spans_skip size) rfl (ih _ _ _ body)
    rw [templateBody] at found
    dsimp only at found
    split at found
    · cases found
    · rename_i rest text
      cases found
      have spans := c.spans_skip 1
      rw [text] at spans
      refine ⟨allSound_single (leaf_sound (complete_plain rfl)), ⟨_, spans, ?_⟩, [], _, rfl, rfl, rfl⟩
      exact .cons (n := leaf .mark c.place ['`']) (.nil _)
    · split at found
      · exact cut .unreadable 1 (complete_plain rfl) found
      · rename_i size
        refine cut .escape _ ⟨c.rest, ?_, ?_⟩ found
        · omega
        · rw [size]
          rfl
    · split at found
      · cases found
      · rename_i n middle reading
        obtain ⟨⟨more, last⟩, body, result⟩ := Option.map_eq_some_iff.mp found
        cases result
        obtain ⟨_, whole⟩ := Whole.yields c n middle reading
        obtain ⟨spans, place⟩ := Exact.covers c n middle reading
        exact covers_cons whole.sound spans place (ih _ _ _ body)
    · split at found
      · cases found
      · exact cut .fragment _ (complete_plain rfl) found

theorem sound_templateBody {hole : Rule Node} [Whole hole] [Exact hole] :
    Sound fun c => templateBody hole (c.rest.length + 1) c := by
  refine ⟨fun c nodes next found => ?_⟩
  have covers := templateBody_covers _ c nodes next found
  obtain ⟨taken, spans, _⟩ := covers.row
  exact ⟨⟨taken, spans⟩, covers.sound⟩

instance whole_templateOf {kind : Kind} {hole : Rule Node} [Holds kind.isPlain]
    [Holds kind.isContent] [Whole hole] [Exact hole] : Whole (templateOf kind hole) :=
  @whole_node _ kind _ _ (@sound_followed _ _ _ sound_templateBody)

theorem mark_settled {text : String} {c next : Cursor} {nodes : List Node} (settled : c.Settled)
    (found : mark text c = some (nodes, next)) :
    nodes = [leaf .mark c.place text.toList] ∧ c.Spans text.toList next := by
  obtain ⟨positive, rfl, rfl⟩ := lexeme_some found
  rw [settled] at positive ⊢
  unfold literalSize at positive ⊢
  split at positive
  next begins =>
    obtain ⟨rest, same⟩ := List.isPrefixOf_iff_prefix.mp begins
    have cut : c.rest.take text.length = text.toList := by
      rw [← same, ← String.length_toList, List.take_left]
    rw [if_pos begins]
    exact ⟨by rw [cut]; rfl, cut ▸ c.spans_skip text.length⟩
  next => exact absurd positive (Nat.lt_irrefl 0)

instance wholeSettled_template : WholeSettled (template read) := by
  refine ⟨fun c n next settled found => ?_⟩
  obtain ⟨children, reading, rfl⟩ := grow_some found
  obtain ⟨opening, middle, first, reading⟩ := bind_some reading
  obtain ⟨inside, last, body, reading⟩ := bind_some reading
  cases reading
  obtain ⟨rfl, spans⟩ := mark_settled settled first
  have rest := templateBody_covers _ _ _ _ body
  have whole : Covers c (leaf .mark c.place ['`'] :: inside) next :=
    covers_cons (leaf_sound (complete_plain rfl)) spans rfl rest
  obtain ⟨taken, all, row⟩ := whole.row
  obtain ⟨between, closing, rfl, closed⟩ := rest.closed
  refine ⟨⟨taken, all⟩, .intro ?_ (by simp) whole.sound, rfl⟩
  refine ⟨_, between, closing, rfl, ⟨rfl, rfl⟩, closed, ?_⟩
  rw [Cursor.spans_textTo all]
  exact row

/-! ### Parameters -/

instance sound_typingOf {kind : Kind} {sign : String} [plain : Holds kind.isPlain] :
    Sound (typingOf kind sign read lineEnds) := by
  have filled : (seq [mark sign, item (read (.type lineEnds))]).Yields (Shows (·.isContent = true)) :=
    seq_shows_later (seq_shows_first item_shows)
  refine ⟨yields_imp ?_ (itemAs_yields .typing fun c n next _ => node_yields kind filled c n next)⟩
  rintro nodes ⟨c, n, ⟨rfl, unplayed, shows⟩, rfl⟩
  refine allSound_append (comments_sound c) (allSound_single ?_)
  exact playing_typing (content_shown shows) (sound_of_plain plain.eq unplayed shows.sound)

instance sound_typing : Sound (typing read lineEnds) := sound_typingOf

instance whole_typeArguments : Whole (typeArguments read) := whole_node

instance whole_typeParameter : Whole (typeParameter read) := whole_node

instance sound_typeParameters : Sound (typeParameters read) := sound_itemAs

instance sound_initializer : Sound (initializer read) := sound_seq_cons

instance sound_decorators : Sound (decorators read) := sound_many

instance sound_parameter : Sound (parameter read) := sound_item

instance sound_parameters : Sound (parameters read) := sound_item

instance whole_predicate : Whole (predicate read lineEnds) := whole_node

instance whole_returnType : Whole (returnType read lineEnds) := whole_orElse

instance sound_returnTyping : Sound (returnTyping read lineEnds) := sound_item

instance sound_signature : Sound (signature read lineEnds) := sound_seq_cons

/-! ### Members of object types -/

instance sound_indexHead : Sound (indexHead read) := sound_orElse

instance whole_indexSignature : Whole (indexSignature read) := whole_node

theorem whole_named {kind : Kind} {p : Rule (List Node)} (named : ∀ n : Node, n.kind = kind → n.HasName → n.Complete)
    (content : kind.isContent = true) (shows : p.Yields (Shows (·.role = some .name))) :
    Whole (node kind p) := by
  refine ⟨yields_imp ?_ (node_yields kind shows)⟩
  rintro n ⟨rfl, unplayed, shows⟩
  exact ⟨.intro (named n rfl shows.shown) (by simp [unplayed]) shows.sound, content_of_kind content⟩

instance whole_namedMember : Whole (namedMember read) := by
  have head {rest : List (Rule (List Node))} [Sound (seq rest)] (words : List String) : (seq
    (seq [many (modifier words), optional (mark "*"), itemAs .name (propertyName read),
      optional (mark "?")] :: rest)).Yields (Shows (·.role = some .name)) :=
    seq_shows_first (seq_shows_later (seq_shows_later (seq_shows_first (itemAs_shows .name))))
  refine @whole_orElse _ _ (whole_named ?_ rfl (head _)) (whole_named ?_ rfl (head _))
  · intro n kind named
    unfold Complete
    rw [kind]
    exact named
  · intro n kind named
    unfold Complete
    rw [kind]
    exact named

instance whole_member : Whole (member read) := by
  have plain : Whole (member.plainMember read) := whole_orElse
  refine ⟨fun c n next found => ?_⟩
  unfold member at found
  split at found
  · exact Whole.yields c n next found
  · exact plain.yields c n next found

instance sound_members : Sound (members read) := by
  unfold members
  infer_instance

instance whole_objectType : Whole (objectType read) := whole_node

/-! ### Types -/

instance sound_tupleMember : Sound (tupleMember read) := sound_orElse

instance whole_tupleType : Whole (tupleType read) := whole_node

instance whole_functionType : Whole (functionType read lineEnds) := whole_node

instance whole_constructorType {result : Rule Node} [Whole result] :
    Whole (constructorType read result) := whole_node

theorem whole_filled {kind : Kind} {p : Rule (List Node)} [filled : Holds kind.isFilled]
    [content : Holds kind.isContent] (shows : p.Yields (Shows (·.isContent = true))) :
    Whole (node kind p) := by
  refine ⟨yields_imp ?_ (node_yields kind shows)⟩
  rintro n ⟨rfl, unplayed, shows⟩
  have complete : n.Complete := complete_filled filled.eq (content_shown shows)
  exact ⟨.intro complete (by simp [unplayed]) shows.sound, content_of_kind content.eq⟩

instance whole_parenthesized : Whole (parenthesized read lineEnds) := by
  have inside : Whole (node .parenthesizedType (seq [mark "(", item (read (.type false)), mark ")"])) :=
    whole_filled (seq_shows_later (seq_shows_first item_shows))
  exact whole_orElse

instance whole_templateType : Whole (templateType read) := whole_templateOf

instance whole_importCall : Whole (importCall read) := whole_node

instance sound_memberPath : Sound memberPath := sound_many

instance whole_importType : Whole (importType read) := whole_node

instance sound_optionalDot : Sound optionalDot := sound_markNot

instance whole_typeQuery : Whole (typeQuery read lineEnds) := by
  unfold typeQuery goesOn
  infer_instance

instance whole_typeName : Whole typeName := by
  refine ⟨fun c n next found => ?_⟩
  unfold typeName at found
  split at found
  · cases found
  · exact leaf_whole rfl (complete_plain rfl) found

instance whole_nestedTypeName : Whole nestedTypeName := whole_node

instance whole_namedType : Whole (namedType read) := by
  refine ⟨fun c n next found => ?_⟩
  unfold namedType at found
  split at found
  · cases found
  rename_i base middle first
  obtain ⟨earlier, baseWhole⟩ := Whole.yields c base middle first
  split at found
  · cases found
    exact ⟨earlier, baseWhole⟩
  rename_i reading
  obtain ⟨later, kind, unplayed, children, sound, same⟩ :=
    grow_yields _ _ _ Sound.yields _ _ _ found
  refine ⟨Cursor.leads_trans earlier later, .intro ?_ (by simp [unplayed]) ?_, content_of_kind (by rw [kind])⟩
  · unfold Complete
    rw [kind]
    exact ⟨base.playing .name, by simp [same], rfl⟩
  · rw [same]
    exact allSound_append (allSound_single (playing_sound rfl baseWhole.sound)) sound

instance whole_literalWord {kind : Kind} {text : String} [Holds kind.isPlain] :
    Whole (literalWord kind text) := whole_node

instance whole_wordType : Whole (wordType read lineEnds) := by
  unfold wordType
  dsimp only
  infer_instance

-- The text of a signed number is a sign, whatever the gap behind it holds, and a number.
instance wholeSettled_signed :
    WholeSettled (node .signedNumber (seq [mark "-" <|> mark "+", lexeme .number Lexeme.number])) := by
  refine ⟨fun c n next settled found => ?_⟩
  obtain ⟨leads, kind, unplayed, inside⟩ := node_yields .signedNumber Sound.yields c n next found
  refine ⟨leads, .intro ?_ (by simp [unplayed]) inside, content_of_kind (by rw [kind])⟩
  obtain ⟨children, reading, rfl⟩ := grow_some found
  obtain ⟨first, middle, others, sign, reading, -⟩ := seq_some reading
  obtain ⟨second, after, none, number, reading, -⟩ := seq_some reading
  cases reading
  have signed : ∃ character, isSign character = true ∧ c.Spans [character] middle := by
    rcases orElse_some sign with minus | plus
    · exact ⟨'-', rfl, (mark_settled settled minus).2⟩
    · exact ⟨'+', rfl, (mark_settled settled plus).2⟩
  obtain ⟨character, isSign, front⟩ := signed
  obtain ⟨positive, rfl, -⟩ := lexeme_some number
  obtain ⟨between, gap, shown⟩ := middle.gap_text
  have all := Cursor.spans_append front
    (Cursor.spans_append gap (middle.gap.after.spans_skip (Lexeme.number middle.gap.after.rest)))
  exact ⟨character, between, _, Cursor.spans_textTo all, isSign, ⟨_, positive, rfl⟩, shown⟩

instance whole_signedNumber : Whole signedNumber := whole_node

instance whole_atomType : Whole (atomType read lineEnds) := by
  refine ⟨fun c n next found => ?_⟩
  unfold atomType at found
  split at found
  case h_1 => cases found
  case h_13 =>
    split at found
    · exact Whole.yields c n next found
    · exact Whole.yields c n next found
  all_goals exact Whole.yields c n next found

theorem comments_filter (c : Cursor) : c.gap.comments.filter isContent = [] := by
  rw [List.filter_eq_nil_iff]
  intro n member
  obtain ⟨place, text, rfl⟩ := comments_leaf c n member
  simp [leaf, isContent]

theorem mark_filter (text : String) : (mark text).Yields (·.filter isContent = []) := by
  refine yields_imp ?_ (lexeme_yields .mark (literalSize text))
  rintro nodes ⟨c, place, rest, -, rfl⟩
  rw [List.filter_append, comments_filter]
  rfl

theorem item_filter {p : Rule Node} [Whole p] : (item p).Yields fun nodes => (nodes.filter isContent).length = 1 := by
  refine yields_imp ?_ (item_yields WholeSettled.yields)
  rintro nodes ⟨c, n, whole, rfl⟩
  simp [comments_filter, whole.content]

-- A type in brackets behind another one.
theorem lookup_filter : (seq [mark "[", item (read (.type false)), mark "]"]).Yields
    fun nodes => (nodes.filter isContent).length = 1 := by
  intro c nodes next found
  obtain ⟨opening, middle, _, first, behind, rfl⟩ := seq_some found
  obtain ⟨inside, after, _, second, ending, rfl⟩ := seq_some behind
  obtain ⟨closing, last, _, third, nothing, rfl⟩ := seq_some ending
  cases nothing
  obtain ⟨toInside, noOpening⟩ := mark_filter _ _ _ _ first
  obtain ⟨toClosing, one⟩ := item_filter _ _ _ second
  obtain ⟨toEnd, noClosing⟩ := mark_filter _ _ _ _ third
  refine ⟨Cursor.leads_trans toInside (Cursor.leads_trans toClosing toEnd), ?_⟩
  simp [noOpening, one, noClosing]

-- A node that has grown around a whole one has content.
theorem whole_grown {kind : Kind} {start : Cursor} {left : Node} {p : Rule (List Node)}
    [filled : Holds kind.isFilled] [content : Holds kind.isContent] [Sound p] (leftWhole : left.Whole) :
    Whole (grow kind start [left] p) := by
  refine ⟨yields_imp ?_ (grow_yields kind start [left] Sound.yields)⟩
  rintro n ⟨rfl, unplayed, children, all, same⟩
  have shown : n.content ≠ [] := by simp [Node.content, same, leftWhole.content]
  refine ⟨.intro (complete_filled filled.eq shown) (by simp [unplayed]) ?_, content_of_kind content.eq⟩
  rw [same]
  exact allSound_append (allSound_single leftWhole.sound) all

theorem whole_bracketed {start : Cursor} {left : Node} (leftWhole : left.Whole) :
    Whole (bracketed read lineEnds start left) := by
  have array : Whole (grow .arrayType start [left] (do
      goesOn lineEnds
      seq [mark "[", pure [], mark "]"])) :=
    @whole_grown _ _ _ _ _ _ sound_guarded leftWhole
  have lookup : Whole (grow .lookupType start [left] (do
      goesOn lineEnds
      seq [mark "[", item (read (.type false)), mark "]"])) := by
    refine ⟨yields_imp ?_ (grow_yields .lookupType start [left]
      (yields_guarded _ (yields_and Sound.yields lookup_filter)))⟩
    rintro n ⟨kind, unplayed, children, ⟨all, one⟩, same⟩
    refine ⟨.intro ?_ (by simp [unplayed]) ?_, content_of_kind (by rw [kind])⟩
    · unfold Complete
      rw [kind]
      simp [content, same, leftWhole.content, one]
    · rw [same]
      exact allSound_append (allSound_single leftWhole.sound) all
  exact whole_orElse

instance whole_primaryType : Whole (primaryType read lineEnds) :=
  whole_climbing fun _ _ => whole_bracketed

instance whole_operandType : Whole (operandType read lineEnds) := by
  have readonly : Whole (node .readonlyType (seq [word "readonly", item (read (.type lineEnds))])) :=
    whole_filled (seq_shows_later (seq_shows_first item_shows))
  refine ⟨fun c n next found => ?_⟩
  unfold operandType at found
  dsimp only at found
  split at found
  · exact Whole.yields c n next found
  · rename_i result tried
    rw [found] at tried
    repeat' split at tried
    · exact Whole.yields c n next tried
    · exact readonly.yields c n next tried
    · exact Whole.yields c n next tried
    · exact Whole.yields c n next tried
    · cases tried

theorem whole_chain {kind : Kind} {sign : Rule (List Node)} {operand : Rule Node}
    [Holds kind.isFilled] [Holds kind.isContent] [Sound sign] [Whole operand] :
    Whole (chain kind sign operand) := by
  have first : Whole (node kind (seq [sign, item operand])) :=
    whole_filled (seq_shows_later (seq_shows_first item_shows))
  exact @whole_climbing _ _ whole_orElse fun _ _ => whole_grown

instance whole_intersectionType : Whole (intersectionType read lineEnds) := whole_chain

instance whole_unionType : Whole (unionType read lineEnds) := whole_chain

instance whole_typeRule : Whole (typeRule read lineEnds) := by
  unfold typeRule goesOn
  exact whole_extended

end DeclSchema.Source.Grammar
