import DeclSchema.Proofs.Source.SoundGrammar
import DeclSchema.Proofs.Source.TemplateSegments
import DeclSchema.Proofs.Source.Walk

/-!
Where faults come from. A sound tree has every part that its readers ask for, so reading it can only
fail at a literal that the grammar admits and that has no value: a signed number with more than
spaces behind its sign, or an escape that names a character beyond the last one.
-/

namespace DeclSchema.Source

open Node

/-! ### Blame -/

namespace Node

-- The first node is the second one or lies below it.
inductive Within (n : Node) : Node → Prop where
  | self : Within n n
  | inside {parent root : Node} : parent ∈ root.children → Within n parent → Within n root

-- A literal without a value.
inductive Offends (n : Node) : Fault → Prop where
  | number {fault : Fault} : n.kind = .signedNumber → IsParted n.text →
      readNumeral n.text = .error fault → Offends n fault
  | escape {fault : Fault} : n.kind = .escape → IsBeyond n.text →
      cookedEscape n.text = .error fault → Offends n fault

-- A literal in the tree that explains the fault.
def Explains (root : Node) (fault : Fault) : Prop := ∃ n : Node, n.Within root ∧ n.Offends fault

def AnyExplains (nodes : List Node) (fault : Fault) : Prop := ∃ n ∈ nodes, n.Explains fault

theorem explains_inside {n : Node} {fault : Fault} (inside : AnyExplains n.children fault) :
    n.Explains fault := by
  obtain ⟨child, member, literal, within, offends⟩ := inside
  exact ⟨literal, .inside member within, offends⟩

theorem explains_first {n : Node} {rest : List Node} {fault : Fault} (first : n.Explains fault) :
    AnyExplains (n :: rest) fault := ⟨n, List.mem_cons_self, first⟩

theorem explains_later {n : Node} {rest : List Node} {fault : Fault}
    (later : AnyExplains rest fault) : AnyExplains (n :: rest) fault := by
  obtain ⟨m, member, explained⟩ := later
  exact ⟨m, List.mem_cons_of_mem n member, explained⟩

theorem explains_within {n root : Node} {fault : Fault} (within : n.Within root)
    (explained : n.Explains fault) : root.Explains fault := by
  induction within with
  | self => exact explained
  | inside member _ ih => exact explains_inside ⟨_, member, ih⟩

end Node

-- A reading that fails only with faults of a certain kind.
def Fails (allowed : Fault → Prop) {α : Type} (x : Except Fault α) : Prop :=
  ∀ fault, x = .error fault → allowed fault

section Fails

variable {allowed wider : Fault → Prop} {α β : Type}

theorem fails_ok (a : α) : Fails allowed (.ok a) := by
  intro fault failed
  cases failed

theorem fails_imp {x : Except Fault α} (implies : ∀ fault, allowed fault → wider fault)
    (fails : Fails allowed x) : Fails wider x := fun fault failed => implies fault (fails fault failed)

theorem fails_bind {x : Except Fault α} {f : α → Except Fault β} (first : Fails allowed x)
    (second : ∀ a, x = .ok a → Fails allowed (f a)) : Fails allowed (x >>= f) := by
  cases x with
  | error fault =>
    intro other failed
    cases failed
    exact first fault rfl
  | ok a => exact second a rfl

theorem fails_map {x : Except Fault α} {f : α → β} (fails : Fails allowed x) :
    Fails allowed (x.map f) := by
  cases x with
  | error fault =>
    intro other failed
    cases failed
    exact fails fault rfl
  | ok a => exact fails_ok (f a)

end Fails

/-! ### Parts of nodes -/

theorem nameOf_ok {children : List Node} (named : ∃ m ∈ children, m.role = some .name) :
    ∃ name, nameOf children = .ok name := by
  obtain ⟨m, member, role⟩ := named
  cases found : children.find? (·.role = some .name) with
  | none => exact absurd (List.find?_eq_none.mp found m member) (by simp [role])
  | some name => exact ⟨name, by rw [nameOf, found]⟩

theorem readLiteral_explained {text : List Char} {children : List Node} (sound : AllSound children) :
    Fails (AnyExplains children) (readLiteral text children) := by
  unfold readLiteral
  split
  next => exact fails_ok _
  next value found =>
    have member := List.mem_of_find?_eq_some found
    have complete := (sound value member).complete
    split
    case h_6 kind =>
      unfold Complete at complete
      rw [kind] at complete
      obtain ⟨number, same⟩ := number_read complete
      rw [same]
      exact fails_map (fails_ok _)
    case h_7 kind =>
      unfold Complete at complete
      rw [kind] at complete
      refine fails_map fun fault failed => ⟨value, member, value, .self, ?_⟩
      rcases signed_read complete with ⟨number, same⟩ | parted
      · rw [same] at failed
        cases failed
      · exact .number kind parted failed
    all_goals exact fails_ok _

-- As many shapes as there are contents.
theorem readShapes_length {nodes : List Node} {shapes : List Shape}
    (found : readShapes nodes = .ok shapes) : shapes.length = (nodes.filter isContent).length := by
  induction nodes generalizing shapes with
  | nil =>
    cases found
    rfl
  | cons n rest ih =>
    rw [readShapes] at found
    split at found
    next content =>
      cases first : readShape n with
      | error fault =>
        rw [first] at found
        cases found
      | ok shape =>
        cases later : readShapes rest with
        | error fault =>
          rw [first, later] at found
          cases found
        | ok more =>
          rw [first, later] at found
          cases found
          simp [content, ih later]
    next other => simp [other, ih found]

/-! ### Shapes -/

mutual

theorem readShape_explained : ∀ n : Node, n.Sound → Fails n.Explains (readShape n)
  | ⟨kind, role, place, text, missing, children⟩, sound => by
    have inside := fun fault => @explains_inside ⟨kind, role, place, text, missing, children⟩ fault
    have complete := sound.complete
    have all : AllSound children := sound.inside
    unfold Complete at complete
    unfold readShape
    split
    case h_4 =>
      obtain ⟨name, found⟩ := nameOf_ok complete
      rw [found]
      refine fails_bind (fails_ok name) fun _ _ => fails_bind ?_ fun _ _ => fails_ok _
      exact fails_imp inside (readArguments_explained children all)
    case h_5 => exact fails_imp inside (readLiteral_explained all)
    case h_6 => exact fails_map (fails_imp inside (readMembers_explained children all))
    case h_7 =>
      refine fails_bind (fails_imp inside (readOperands_explained .unionType children all)) ?_
      intro operands _
      split <;> exact fails_ok _
    case h_8 =>
      refine fails_bind (fails_imp inside (readOperands_explained .intersectionType children all)) ?_
      intro operands _
      split <;> exact fails_ok _
    case h_9 => exact fails_map (fails_imp inside (readFirst_explained children complete all))
    case h_10 =>
      refine fails_bind (fails_imp inside (readShapes_explained children all)) fun shapes found => ?_
      split
      next => exact fails_ok _
      next other =>
        have two := (readShapes_length found).trans complete
        match shapes, two with
        | [object, index], _ => exact absurd rfl (other object index)
    case h_11 => exact fails_imp inside (readFirst_explained children complete all)
    case h_12 => exact fails_imp inside (readFirst_explained children complete all)
    all_goals exact fails_ok _

theorem readShapes_explained : ∀ nodes : List Node, AllSound nodes →
    Fails (AnyExplains nodes) (readShapes nodes)
  | [], _ => fails_ok _
  | n :: rest, sound => by
    have first := readShape_explained n (sound n List.mem_cons_self)
    have later := readShapes_explained rest fun m member => sound m (List.mem_cons_of_mem n member)
    unfold readShapes
    split
    · refine fails_bind (fails_imp (fun _ => explains_first) first) fun _ _ => ?_
      exact fails_bind (fails_imp (fun _ => explains_later) later) fun _ _ => fails_ok _
    · exact fails_imp (fun _ => explains_later) later

theorem readFirst_explained : ∀ nodes : List Node, nodes.filter isContent ≠ [] → AllSound nodes →
    Fails (AnyExplains nodes) (readFirst nodes)
  | [], filled, _ => absurd rfl filled
  | n :: rest, filled, sound => by
    have first := readShape_explained n (sound n List.mem_cons_self)
    unfold readFirst
    split
    next => exact fails_imp (fun _ => explains_first) first
    next other =>
      have later := readFirst_explained rest (by simpa [other] using filled) fun m member =>
        sound m (List.mem_cons_of_mem n member)
      exact fails_imp (fun _ => explains_later) later

theorem readArguments_explained : ∀ nodes : List Node, AllSound nodes →
    Fails (AnyExplains nodes) (readArguments nodes)
  | [], _ => fails_ok _
  | ⟨kind, role, place, text, missing, inner⟩ :: rest, sound => by
    have held := readShapes_explained inner (sound _ List.mem_cons_self).inside
    have later := readArguments_explained rest fun m member => sound m (List.mem_cons_of_mem _ member)
    unfold readArguments
    split
    next same =>
      cases same
      exact fails_imp (fun _ inside => explains_first (explains_inside inside)) held
    next => exact fails_imp (fun _ => explains_later) later

theorem readOperands_explained (chain : Kind) : ∀ nodes : List Node, AllSound nodes →
    Fails (AnyExplains nodes) (readOperands chain nodes)
  | [], _ => fails_ok _
  | ⟨kind, role, place, text, missing, inner⟩ :: rest, sound => by
    have first := readShape_explained ⟨kind, role, place, text, missing, inner⟩
      (sound _ List.mem_cons_self)
    have held := readOperands_explained chain inner (sound _ List.mem_cons_self).inside
    have later := readOperands_explained chain rest fun m member =>
      sound m (List.mem_cons_of_mem _ member)
    unfold readOperands
    split
    · split
      · refine fails_bind (fails_imp (fun _ inside => explains_first (explains_inside inside)) held) ?_
        exact fun _ _ => fails_bind (fails_imp (fun _ => explains_later) later) fun _ _ => fails_ok _
      · refine fails_bind (fails_map (fails_imp (fun _ => explains_first) first)) ?_
        exact fun _ _ => fails_bind (fails_imp (fun _ => explains_later) later) fun _ _ => fails_ok _
    · exact fails_imp (fun _ => explains_later) later

theorem readMembers_explained : ∀ nodes : List Node, AllSound nodes →
    Fails (AnyExplains nodes) (readMembers nodes)
  | [], _ => fails_ok _
  | n :: rest, sound => by
    have first := readMember_explained n (sound n List.mem_cons_self)
    have later := readMembers_explained rest fun m member => sound m (List.mem_cons_of_mem n member)
    unfold readMembers
    split
    · refine fails_bind (fails_imp (fun _ => explains_first) first) fun _ _ => ?_
      exact fails_bind (fails_imp (fun _ => explains_later) later) fun _ _ => fails_ok _
    · exact fails_imp (fun _ => explains_later) later

theorem readMember_explained : ∀ n : Node, n.Sound → Fails n.Explains (readMember n)
  | ⟨kind, role, place, text, missing, children⟩, sound => by
    have complete := sound.complete
    have typing := fails_imp
      (fun fault => @explains_inside ⟨kind, role, place, text, missing, children⟩ fault)
      (readTyping_explained children sound.inside)
    unfold Complete at complete
    unfold readMember
    split
    case h_1 =>
      obtain ⟨name, found⟩ := nameOf_ok complete
      rw [found]
      exact fails_bind (fails_ok name) fun _ _ => fails_bind typing fun _ _ => fails_ok _
    case h_2 =>
      obtain ⟨name, found⟩ := nameOf_ok complete
      rw [found]
      exact fails_bind (fails_ok name) fun _ _ => fails_ok _
    case h_3 =>
      refine fails_bind typing fun _ _ => ?_
      split
      · split <;> exact fails_ok _
      · exact fails_ok _
    case h_4 => exact fails_ok _

theorem readTyping_explained : ∀ nodes : List Node, AllSound nodes →
    Fails (AnyExplains nodes) (readTyping nodes)
  | [], _ => fails_ok _
  | ⟨kind, role, place, text, missing, inner⟩ :: rest, sound => by
    have this := sound _ List.mem_cons_self
    have later := readTyping_explained rest fun m member => sound m (List.mem_cons_of_mem _ member)
    unfold readTyping
    split
    next same =>
      cases same
      have held := readFirst_explained inner (this.typed rfl) this.inside
      exact fails_map (fails_imp (fun _ inside => explains_first (explains_inside inside)) held)
    next => exact fails_imp (fun _ => explains_later) later

end

/-! ### Enumerations and templates -/

theorem memberName_ok {n : Node} (sound : n.Sound) : ∃ name, memberName n = .ok name := by
  unfold memberName
  split
  next kind =>
    have complete := sound.complete
    unfold Complete at complete
    rw [kind] at complete
    obtain ⟨name, found⟩ := nameOf_ok complete
    exact ⟨name.unquoted, by rw [found]; rfl⟩
  next => exact ⟨_, rfl⟩

theorem mapM_fails {α β : Type} {allowed : Fault → Prop} {read : α → Except Fault β} {items : List α}
    (each : ∀ a ∈ items, Fails allowed (read a)) : Fails allowed (items.mapM read) := by
  induction items with
  | nil => exact fails_ok _
  | cons a rest ih =>
    obtain ⟨first, later⟩ := List.forall_mem_cons.mp each
    rw [List.mapM_cons]
    exact fails_bind first fun _ _ => fails_bind (ih later) fun _ _ => fails_ok _

theorem cooked_explained {n : Node} (kind : n.kind = .template) (sound : n.Sound) :
    Fails n.Explains n.cooked := by
  have complete := sound.complete
  unfold Complete at complete
  rw [kind] at complete
  obtain ⟨segments, made⟩ := tiled_made complete
  intro fault failed
  obtain ⟨text, member, failing⟩ := Segment.valueAll_error (made.cooked ▸ failed)
  obtain ⟨child, present, escape, rfl⟩ := lie_escape made.children member
  have spelled := (sound.inside child present).complete
  unfold Complete at spelled
  rw [escape] at spelled
  rcases escape_cooked spelled with ⟨value, found⟩ | beyond
  · rw [found] at failing
    cases failing
  · exact explains_inside ⟨child, present, child, .self, .escape escape beyond failing⟩

/-! ### Declarations -/

theorem child_mem {n m : Node} {role : Role} (found : n.child? role = some m) : m ∈ n.children :=
  List.mem_of_find?_eq_some found

theorem declaration_explained {n : Node} (sound : n.Sound) :
    Fails n.Explains (readDeclaration n).outcome := by
  unfold readDeclaration
  split
  next =>
    rw [readAlias_outcome]
    split
    next => exact fails_ok _
    next value found =>
      split
      next => exact fails_ok _
      next =>
        have explained := readShape_explained value (sound.inside value (child_mem found))
        exact fails_map (fails_imp (fun _ e => explains_inside ⟨value, child_mem found, e⟩) explained)
  next =>
    rw [readEnumeration_outcome]
    split
    next name body _ found =>
      split
      next => exact fails_ok _
      next =>
        refine fails_map (mapM_fails fun m member => ?_)
        have inside := (sound.inside body (child_mem found)).inside
        obtain ⟨name, read⟩ := memberName_ok (inside m (List.mem_filter.mp member).1)
        rw [read]
        exact fails_ok _
    next => exact fails_ok _
  next =>
    rw [readEmbedded_outcome]
    split
    next tag template _ found =>
      split
      next whole =>
        rw [Bool.and_eq_true, decide_eq_true_eq] at whole
        have explained := cooked_explained whole.1 (sound.inside template (child_mem found))
        exact fails_map (fails_imp (fun _ e => explains_inside ⟨template, child_mem found, e⟩) explained)
      next => exact fails_ok _
    next => exact fails_ok _
  next => exact fails_ok _

mutual
theorem visited_within : ∀ root : Node, ∀ n ∈ root.visited, n.Within root
  | ⟨kind, role, place, text, missing, children⟩, n, member => by
    unfold visited at member
    split at member
    · cases member
    split at member
    · rw [List.mem_singleton.mp member]
      exact .self
    · rcases List.mem_cons.mp member with rfl | below
      · exact .self
      · obtain ⟨child, present, within⟩ := visitedAll_within children n below
        exact .inside present within
theorem visitedAll_within : ∀ nodes : List Node, ∀ n ∈ visitedAll nodes, ∃ root ∈ nodes, n.Within root
  | [], n, member => by cases member
  | first :: rest, n, member => by
    rcases List.mem_append.mp member with here | later
    · exact ⟨first, List.mem_cons_self, visited_within first n here⟩
    · obtain ⟨root, present, within⟩ := visitedAll_within rest n later
      exact ⟨root, List.mem_cons_of_mem first present, within⟩
end

theorem sound_within {n root : Node} (within : n.Within root) (sound : root.Sound) : n.Sound := by
  induction within with
  | self => exact sound
  | inside member _ ih => exact ih (sound.inside _ member)

theorem walk_explained {root : Node} (sound : root.Sound) :
    Fails root.Explains (walk [root]).outcome := by
  rw [walk_visited]
  refine fails_map (mapM_fails fun n member => ?_)
  obtain ⟨top, present, within⟩ := visitedAll_within [root] n member
  rw [List.mem_singleton.mp present] at within
  exact fails_imp (fun _ => explains_within within) (declaration_explained (sound_within within sound))

-- A source is rejected at unreadable text, or for a literal in it that has no value.
theorem readSource_explained (source : String) {rejection : Rejection}
    (rejected : (readSource source).outcome = .error rejection) :
    (∃ text line column, rejection = .unreadable text line column) ∨
      ∃ fault, rejection = .fault fault ∧ (Grammar.parse source.toList).Explains fault := by
  unfold readSource at rejected
  rw [declarationsOf_outcome] at rejected
  split at rejected
  next fault failed =>
    cases rejected
    exact .inr ⟨fault, rfl, walk_explained (Grammar.parse_sound _) fault failed⟩
  next =>
    split at rejected
    next =>
      cases rejected
      exact .inl ⟨_, _, _, rfl⟩
    next => cases rejected

end DeclSchema.Source
