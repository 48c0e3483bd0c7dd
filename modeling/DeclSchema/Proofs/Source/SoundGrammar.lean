import DeclSchema.Proofs.Source.SoundExpressions
import DeclSchema.Source.Grammar

/-!
Every source is read into a sound tree, the unreadable ones too.
-/

namespace DeclSchema.Source.Grammar

open Rule Node

section

variable {read : Reader} [∀ goal, Whole (read goal)]

/-! ### Unreadable stretches -/

theorem stretchEnd_leads (fuel depth : Nat) (c next : Cursor)
    (found : stretchEnd fuel depth c = some next) : c.Leads next := by
  induction fuel generalizing depth c with
  | zero => cases found
  | succ fuel ih =>
    have onward : c.Leads (c.gap.after.skip (roughLexeme c.gap.after.rest)) :=
      Cursor.leads_trans c.gap_leads (Cursor.leads_skip _ _)
    rw [stretchEnd] at found
    dsimp only at found
    split at found
    · split at found
      · cases found
        exact Cursor.leads_refl _
      · cases found
    split at found
    · cases found
      exact Cursor.leads_refl _
    split at found
    · exact Cursor.leads_trans onward (ih _ _ found)
    split at found
    · exact Cursor.leads_trans onward (ih _ _ found)
    · exact Cursor.leads_trans onward (ih _ _ found)

instance sound_stretch : Sound stretch := by
  refine ⟨fun c nodes next found => ?_⟩
  unfold stretch at found
  split at found
  · cases found
  · rename_i stop reached
    cases found
    exact ⟨stretchEnd_leads _ _ _ _ reached, allSound_single (leaf_sound (complete_plain rfl))⟩

/-! ### Declarations -/

instance whole_typeAlias : Whole (typeAlias read) := by
  unfold typeAlias
  dsimp only
  infer_instance

instance whole_enumBody : Whole (enumBody read) := by
  have assigned : Whole (node .enumAssignment (seq
      [itemAs .name (propertyName read), initializer read])) := by
    refine whole_named ?_ rfl (seq_shows_first (itemAs_shows .name))
    intro n kind named
    unfold Complete
    rw [kind]
    exact named
  exact whole_node

instance whole_brokenBody : Whole brokenBody := whole_node

instance whole_enumeration : Whole (enumeration read) := whole_node

instance whole_interface : Whole (interface read) := whole_node

instance sound_moduleName : Sound moduleName := sound_orElse

instance whole_namespaceRule : Whole (namespaceRule read) := whole_node

instance sound_declarator : Sound (declarator read) := sound_seq_cons

instance whole_bindings : Whole (bindings read) := whole_node

instance whole_functionDeclaration : Whole (functionDeclaration read) := whole_node

instance whole_classDeclaration : Whole (classDeclaration read) := whole_node

instance whole_declaration : Whole (declaration read) := whole_orElse

instance whole_ambient : Whole (ambient read) := whole_node

/-! ### Modules -/

instance sound_importedNames : Sound importedNames := sound_seq_cons

instance sound_everything : Sound everything := sound_seq_cons

instance sound_fromClause : Sound (fromClause read) := sound_seq_cons

instance sound_importClause : Sound importClause := sound_orElse

instance whole_importStatement : Whole (importStatement read) := whole_node

instance whole_exportStatement : Whole (exportStatement read) := whole_node

/-! ### Control -/

instance sound_inParentheses : Sound (inParentheses read) := sound_seq_cons

instance sound_forHead : Sound (forHead read) := sound_orElse

instance sound_switchCase : Sound (switchCase read) := sound_seq_cons

instance sound_control : Sound (control read) := by
  unfold control
  repeat' refine @sound_orElse _ _ ?_ ?_
  all_goals infer_instance

instance sound_labelled : Sound (labelled read) := sound_seq_cons

instance sound_expressionStatement : Sound (expressionStatement read) := sound_seq_cons

instance whole_statementRule : Whole (statementRule read) := by
  refine ⟨fun c n next found => ?_⟩
  unfold statementRule at found
  split at found
  case h_1 => cases found
  case h_5 =>
    split at found
    all_goals exact Whole.yields c n next found
  all_goals exact Whole.yields c n next found

end

/-! ### The reader of goals -/

-- One unit of fuel is one step down to a goal.
theorem read_sound (fuel : Nat) : ∀ goal, Whole (read fuel goal) := by
  induction fuel with
  | zero =>
    intro goal
    refine ⟨fun c n next found => ?_⟩
    cases found
  | succ fuel ih =>
    intro goal
    cases goal with
    | statement => exact whole_statementRule
    | expression => exact whole_expressionRule
    | assignment => exact whole_assignmentRule
    | callee => exact whole_calleeRule
    | type lineEnds => exact whole_typeRule
    | pattern => exact whole_patternRule
    | element => exact whole_elementRule

/-! ### Programs -/

theorem resumption_leads (statement : Rule Node) (fuel : Nat) (divided : Bool) (c next : Cursor)
    (found : resumption statement fuel divided c = some next) : c.Leads next := by
  induction fuel generalizing divided c with
  | zero => cases found
  | succ fuel ih =>
    rw [resumption] at found
    dsimp only at found
    split at found
    · cases found
    generalize Bool.and _ _ = readable at found
    split at found
    · cases found
      exact Cursor.leads_refl _
    · exact Cursor.leads_trans (Cursor.leads_trans c.gap_leads (Cursor.leads_skip _ _)) (ih _ _ found)

instance whole_unreadable {statement : Rule Node} : Whole (unreadable statement) := by
  refine ⟨fun c n next found => ?_⟩
  unfold unreadable at found
  cases found
  refine ⟨?_, leaf_sound (complete_plain rfl), rfl⟩
  cases resumed : resumption statement (c.rest.length + 1)
    (c.rest.head? = some ';' || c.rest.head? = some '}') (c.skip (roughLexeme c.rest)) with
  | none => exact c.leads_skip _
  | some stop =>
    exact Cursor.leads_trans (c.leads_skip _) (resumption_leads _ _ _ _ _ resumed)

theorem program_sound {statement : Rule Node} [Whole statement] (fuel : Nat) :
    (program statement fuel).Yields AllSound := by
  induction fuel with
  | zero => exact yields_pure allSound_nil
  | succ fuel ih =>
    intro c nodes next found
    rw [program] at found
    dsimp only at found
    split at found
    · exact Sound.yields c nodes next found
    split at found
    · cases found
      exact ⟨c.leads_refl, allSound_nil⟩
    rename_i first middle reading
    obtain ⟨⟨more, last⟩, rest, result⟩ := Option.map_eq_some_iff.mp found
    cases result
    obtain ⟨earlier, firstSound⟩ := Sound.yields c first middle reading
    obtain ⟨later, moreSound⟩ := ih middle more last rest
    exact ⟨Cursor.leads_trans earlier later, allSound_append firstSound moreSound⟩

theorem parse_sound (text : List Char) : (parse text).Sound := by
  have statement := read_sound (enoughFuel text) .statement
  unfold parse
  dsimp only
  split
  · exact sound_of_plain rfl rfl allSound_nil
  · rename_i children next found
    exact sound_of_plain rfl rfl (program_sound _ _ _ _ found).2

end DeclSchema.Source.Grammar
