import DeclSchema.Proofs.Source.SoundTypes
import DeclSchema.Source.Grammar.Expressions

/-!
The rules of expressions, bindings, functions, classes and elements read sound trees when the
reader of goals does.
-/

namespace DeclSchema.Source.Grammar

open Rule Node

variable {read : Reader} [∀ goal, Whole (read goal)]

instance whole_block : Whole (block read) := whole_node

/-! ### Bindings -/

instance sound_pairPattern : Sound (pairPattern read) := sound_seq_cons

instance whole_objectPattern : Whole (objectPattern read) := whole_node

instance whole_arrayPattern : Whole (arrayPattern read) := whole_node

instance whole_patternRule : Whole (patternRule read) := by
  refine ⟨fun c n next found => ?_⟩
  unfold patternRule at found
  split at found
  all_goals exact Whole.yields c n next found

/-! ### Functions and classes -/

instance whole_function : Whole (function read) := whole_node

instance whole_method : Whole (method read) := whole_node

instance whole_classMember : Whole (classMember read) := whole_node

instance sound_heritage : Sound (heritage read) := sound_seq_cons

instance whole_classRule : Whole (classRule read) := whole_node

/-! ### Elements -/

instance sound_tagName : Sound tagName := sound_seq_cons

instance whole_container : Whole (container read) := whole_node

instance sound_tagAttribute : Sound (tagAttribute read) := sound_orElse

theorem single_sound {p : Rule Node} [Whole p] {c next : Cursor} {nodes : List Node}
    (found : (p c).map (fun found => ([found.1], found.2)) = some (nodes, next)) :
    c.Leads next ∧ AllSound nodes := by
  obtain ⟨⟨n, after⟩, reading, result⟩ := Option.map_eq_some_iff.mp found
  cases result
  obtain ⟨leads, whole⟩ := Whole.yields c n after reading
  exact ⟨leads, allSound_single whole.sound⟩

instance sound_elementChild : Sound (elementChild read) := by
  refine ⟨fun c nodes next found => ?_⟩
  have cut (size : Nat) (taken : some ([leaf .fragment c.place (c.rest.take size)], c.skip size) =
      some (nodes, next)) : c.Leads next ∧ AllSound nodes := by
    cases taken
    exact ⟨c.leads_skip size, allSound_single (leaf_sound (complete_plain rfl))⟩
  unfold elementChild at found
  dsimp only at found
  split at found
  · cases found
  · cases found
  · exact single_sound found
  · exact single_sound found
  · split at found
    · exact cut _ found
    · exact cut _ found
  · split at found
    · cases found
    · exact cut _ found

instance whole_elementRule : Whole (elementRule read) := by
  unfold elementRule
  dsimp only
  infer_instance

/-! ### Primary expressions -/

instance whole_arguments : Whole (arguments read) := whole_node

instance whole_arrayLiteral : Whole (arrayLiteral read) := whole_node

instance whole_objectLiteral : Whole (objectLiteral read) := whole_node

theorem whole_leafOf {kind : Kind} {size : List Char → Nat} (content : kind.isContent = true)
    (complete : ∀ place rest n, size rest = n + 1 → (leaf kind place (rest.take (n + 1))).Complete) :
    Whole (leafOf kind size) := by
  refine ⟨fun c n next found => ?_⟩
  unfold leafOf at found
  split at found
  · cases found
  · rename_i size
    exact leaf_whole content (complete _ _ _ size) found

instance whole_leafOf_plain {kind : Kind} {size : List Char → Nat} [plain : Holds kind.isPlain]
    [content : Holds kind.isContent] : Whole (leafOf kind size) :=
  whole_leafOf content.eq fun _ _ _ _ => complete_plain plain.eq

instance whole_leafOf_number : Whole (leafOf .number Lexeme.number) :=
  whole_leafOf rfl fun place _ _ found => number_complete found place

instance whole_importExpression : Whole (importExpression read) := whole_node

instance whole_wordPrimary : Whole (wordPrimary read) := by
  refine ⟨fun c n next found => ?_⟩
  unfold wordPrimary at found
  dsimp only at found
  repeat' split at found
  case isFalse.isFalse.isFalse.isFalse.isFalse.isTrue => cases found
  all_goals exact Whole.yields c n next found

instance whole_primary : Whole (primary read) := by
  refine ⟨fun c n next found => ?_⟩
  unfold primary at found
  split at found
  case h_1 => cases found
  case h_5 rest text =>
    have settled : c.Settled := by
      apply Cursor.gap_none
      · simp [text]; decide
      · simp [text]; rfl
    exact WholeSettled.yields c n next settled found
  case h_12 =>
    split at found
    · exact Whole.yields c n next found
    · exact Whole.yields c n next found
  all_goals exact Whole.yields c n next found

/-! ### Calls and members -/

theorem memberStep_whole {start : Cursor} {left : Node} (whole : left.Whole) :
    Whole (memberStep read start left) := whole_grow (allSound_single whole.sound)

theorem templateStep_whole {start : Cursor} {left : Node} (whole : left.Whole) :
    Whole (templateStep read start left) :=
  whole_grow (allSound_single (playing_sound rfl whole.sound))

theorem callStep_whole {start : Cursor} {left : Node} (whole : left.Whole) :
    Whole (callStep read start left) := by
  refine @whole_orElse _ _ (memberStep_whole whole)
    (@whole_orElse _ _ (templateStep_whole whole) (@whole_orElse _ _ ?_ ?_))
  · exact whole_grow (allSound_single (playing_sound rfl whole.sound))
  · exact whole_grow (allSound_single whole.sound)

instance whole_construction : Whole (construction read) := by
  have constructor : Whole (climbing (primary read) fun start left =>
      memberStep read start left <|> templateStep read start left) :=
    whole_climbing fun _ _ whole => @whole_orElse _ _ (memberStep_whole whole) (templateStep_whole whole)
  exact whole_node

instance whole_calleeRule : Whole (calleeRule read) := by
  have first : Whole fun c =>
      if c.nameHere == "new".toList then construction read c else primary read c := by
    refine ⟨fun c n next found => ?_⟩
    split at found
    all_goals exact Whole.yields c n next found
  exact whole_climbing fun _ _ => callStep_whole

/-! ### Operators -/

instance sound_signOf {accept : List String} : Sound (signOf accept) := sound_lexeme

instance whole_unary : Whole (unary read) := by
  have led {lead : Rule (List Node)} {operand : Rule Node} [Sound lead] [Whole operand] :
      Whole (node .expression (do
        let first ← lead
        return first ++ (← seq [many lead, item operand])) <|> operand) := whole_orElse
  exact @led _ _ _ whole_extended

instance sound_binaryTail : Sound (binaryTail read) := sound_orElse

instance whole_binary : Whole (binary read) := whole_extended

instance sound_questionMark : Sound questionMark := by
  refine ⟨fun c nodes next found => ?_⟩
  unfold questionMark at found
  split at found
  · split at found
    · exact Sound.yields c nodes next found
    · cases found
  · exact Sound.yields c nodes next found

instance whole_arrow : Whole (arrow read) := by
  unfold arrow
  dsimp only
  infer_instance

instance whole_yielding : Whole (yielding read) := whole_node

instance sound_choice : Sound (choice read) := sound_orElse

instance whole_plainAssignment : Whole (plainAssignment read) := whole_extended

instance whole_assignmentRule : Whole (assignmentRule read) := by
  refine ⟨fun c n next found => ?_⟩
  unfold assignmentRule at found
  repeat' split at found
  all_goals exact Whole.yields c n next found

instance whole_expressionRule : Whole (expressionRule read) := whole_extended

end DeclSchema.Source.Grammar
