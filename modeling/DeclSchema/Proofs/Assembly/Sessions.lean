import DeclSchema.Proofs.Assembly.Reclassification

/-!
Stages in any order and any number. Apart from dropping argument declarations, all that a stage can
do to the definitions is a row of small edits, each of which concerns one object type. What an edit
keeps is therefore kept by every session.
-/

namespace DeclSchema.Assembly

open Schema

/-! ### Edits -/

inductive Edit : List Definition → List Definition → Prop where
  | rebuild {front back : List Definition} {before after : ObjectType}
      (named : after.name = before.name) :
      Edit (front ++ .object before :: back) (front ++ .object after :: back)
  | convert {front back : List Definition} {type : ObjectType} :
      Edit (front ++ .object type :: back) (front ++ .input type.toInput :: back)
  | drop {front back : List Definition} {type : ObjectType} :
      Edit (front ++ .object type :: back) (front ++ back)
  | move {front back : List Definition} {type : ObjectType} :
      Edit (front ++ .object type :: back) (front ++ back ++ [.object type])

inductive Edited : List Definition → List Definition → Prop where
  | refl {definitions : List Definition} : Edited definitions definitions
  | step {start before after : List Definition} :
      Edited start before → Edit before after → Edited start after

theorem edited_single {before after : List Definition} (edit : Edit before after) :
    Edited before after := .step .refl edit

theorem edited_trans {first second third : List Definition} (earlier : Edited first second)
    (later : Edited second third) : Edited first third := by
  induction later with
  | refl => exact earlier
  | step _ edit ih => exact .step ih edit

theorem edit_cons {before after : List Definition} (definition : Definition)
    (edit : Edit before after) : Edit (definition :: before) (definition :: after) := by
  cases edit with
  | @rebuild front _ _ _ named => exact @Edit.rebuild (definition :: front) _ _ _ named
  | @convert front _ _ => exact @Edit.convert (definition :: front) _ _
  | @drop front _ _ => exact @Edit.drop (definition :: front) _ _
  | @move front _ _ => exact @Edit.move (definition :: front) _ _

theorem edited_cons {before after : List Definition} (definition : Definition)
    (edited : Edited before after) : Edited (definition :: before) (definition :: after) := by
  induction edited with
  | refl => exact .refl
  | step _ edit ih => exact .step ih (edit_cons definition edit)

/-! ### Stages as edits -/

theorem filter_edited (name : String) (definitions : List Definition) :
    Edited definitions (definitions.filter (!·.isObjectNamed name)) := by
  induction definitions with
  | nil => exact .refl
  | cons definition rest ih =>
    cases hit : definition.isObjectNamed name with
    | true =>
      obtain ⟨type, rfl, _⟩ := isObjectNamed_exact.mp hit
      have dropped : Edit (.object type :: rest) rest := @Edit.drop [] _ _
      simpa [hit] using edited_trans (edited_single dropped) ih
    | false => simpa [hit] using edited_cons definition ih

theorem replaceAll_edited {name : String} {type : ObjectType} (named : type.name = name)
    (definitions : List Definition) :
    Edited definitions (replaceAll (·.isObjectNamed name) (.object type) definitions) := by
  induction definitions with
  | nil => exact .refl
  | cons definition rest ih =>
    cases hit : definition.isObjectNamed name with
    | true =>
      obtain ⟨before, rfl, same⟩ := isObjectNamed_exact.mp hit
      have rebuilt : Edit (.object before :: rest) (.object type :: rest) :=
        @Edit.rebuild [] _ _ _ (named.trans same.symm)
      have others := edited_cons (.object type) (filter_edited name rest)
      simpa [replaceAll, hit] using edited_trans (edited_single rebuilt) others
    | false => simpa [replaceAll, hit] using edited_cons definition ih

theorem merge_edited (name : String) (definitions : List Definition) :
    Edited definitions (mergeNamed name definitions) := by
  unfold mergeNamed
  cases objects : objectsNamed name definitions with
  | nil => exact .refl
  | cons first others =>
    cases others with
    | nil => exact .refl
    | cons second more =>
      have named : ((second :: more).foldl absorb first).name = name := by
        rw [absorb_name, first_named objects]
      exact replaceAll_edited named definitions

-- What is found stands between what comes before it and what comes after it.
theorem find_split {name : String} {definitions : List Definition} {definition : Definition}
    (found : definitions.find? (·.isObjectNamed name) = some definition) :
    ∃ front back, definitions = front ++ definition :: back ∧
      definitions.eraseP (·.isObjectNamed name) = front ++ back ∧
      ∀ item, replaceFirst (·.isObjectNamed name) item definitions = front ++ item :: back := by
  induction definitions with
  | nil => cases found
  | cons head rest ih =>
    cases hit : head.isObjectNamed name with
    | true =>
      simp only [List.find?_cons, hit, Option.some.injEq] at found
      subst found
      exact ⟨[], rest, rfl, by simp [hit], fun item => by simp [replaceFirst, hit]⟩
    | false =>
      simp only [List.find?_cons, hit] at found
      obtain ⟨front, back, split, erased, replaced⟩ := ih found
      refine ⟨head :: front, back, by rw [split]; rfl, by simp [hit, erased], ?_⟩
      intro item
      simp [replaceFirst, hit, replaced item]

theorem move_edited (name : String) (definitions : List Definition) :
    Edited definitions (moveLast name definitions) := by
  unfold moveLast
  cases found : definitions.find? (·.isObjectNamed name) with
  | none => exact .refl
  | some definition =>
    obtain ⟨type, rfl, _⟩ := isObjectNamed_exact.mp (List.find?_some found)
    obtain ⟨front, back, split, erased, _⟩ := find_split found
    simp only [erased]
    rw [split]
    exact edited_single .move

theorem reclassify_edited (state : State) (name : String) :
    Edited state.definitions (state.reclassify name).value.definitions := by
  unfold State.reclassify
  cases found : state.definitions.find? (·.isObjectNamed name) with
  | none => exact .refl
  | some definition =>
    obtain ⟨type, rfl, _⟩ := isObjectNamed_exact.mp (List.find?_some found)
    obtain ⟨front, back, split, _, replaced⟩ := find_split found
    have converted : Edit state.definitions (front ++ .input type.toInput :: back) := by
      rw [split]
      exact .convert
    simpa only [Logged.bind_value, Logged.pure_value, replaced] using edited_single converted

theorem reclassifyAll_edited (names : List String) (state : State) :
    Edited state.definitions (names.foldlM State.reclassify state).value.definitions := by
  induction names generalizing state with
  | nil => exact .refl
  | cons name rest ih =>
    rw [List.foldlM_cons, Logged.bind_value]
    exact edited_trans (reclassify_edited state name) (ih _)

-- Whatever the index holds, and whenever it was built.
theorem bind_edited (operation : String) (index : ArgsIndex) (state : State) :
    Edited state.definitions (state.bind operation index).value.definitions := by
  unfold State.bind
  cases found : state.definitions.find? (·.isObjectNamed operation) with
  | none => exact .refl
  | some definition =>
    obtain ⟨type, rfl, _⟩ := isObjectNamed_exact.mp (List.find?_some found)
    obtain ⟨front, back, split, _, replaced⟩ := find_split found
    have rebuilt : Edit state.definitions
        (front ++ .object { type with fields := type.fields.map (bindField operation index) } ::
          back) := by
      rw [split]
      exact .rebuild rfl
    simp only [Logged.bind_value, replaced]
    apply edited_trans (edited_single rebuilt)
    exact reclassifyAll_edited _ { state with definitions := _, bound := _ }

/-! ### What edits keep -/

-- Definitions that no stage touches: neither object types nor named like argument declarations.
def isSteady : Definition → Bool
  | .object _ => false
  | definition => !State.hasArgsName definition

def isInputNamed (name : String) : Definition → Bool
  | .input type => type.name = name
  | _ => false

-- An argument declaration of the document, or an object or input type that has the name of one of
-- the document's object types.
def Derived (original : List Definition) (definition : Definition) : Prop :=
  (definition ∈ original ∧ State.hasArgsName definition = true) ∨
  ∃ type : ObjectType, .object type ∈ original ∧
    ((∃ kept, definition = .object kept ∧ kept.name = type.name) ∨
      ∃ converted, definition = .input converted ∧ converted.name = type.name)

structure Safe (original current : List Definition) : Prop where
  kept : (original.filter isSteady).Sublist current
  others : ∃ others, current.Perm (original.filter isSteady ++ others) ∧
    ∀ definition ∈ others, Derived original definition
  names : ∀ name, current.countP (·.name? = some name) ≤ original.countP (·.name? = some name)

theorem steady_object {type : ObjectType} {original : List Definition} :
    Definition.object type ∉ original.filter isSteady := by
  intro member
  exact absurd (List.mem_filter.mp member).2 (by simp [isSteady])

theorem derived_object {original : List Definition} {type : ObjectType}
    (derived : Derived original (.object type)) :
    ∃ source : ObjectType, .object source ∈ original ∧ type.name = source.name := by
  rcases derived with ⟨member, _⟩ | ⟨source, member, ⟨kept, same, named⟩ | ⟨_, same, _⟩⟩
  · exact ⟨type, member, rfl⟩
  · cases same
    exact ⟨source, member, named⟩
  · cases same

theorem sublist_without {α : Type} {kept front back : List α} {item : α} (other : item ∉ kept)
    (sublist : kept.Sublist (front ++ item :: back)) : kept.Sublist (front ++ back) := by
  obtain ⟨first, second, rfl, inFront, inBack⟩ := List.sublist_append_iff.mp sublist
  refine List.sublist_append_iff.mpr ⟨first, second, rfl, inFront, ?_⟩
  cases inBack with
  | cons _ tail => exact tail
  | cons_cons => exact absurd (by simp) other

-- The object type that is edited is one of the others; the others without it stay.
theorem others_without {original front back : List Definition} {type : ObjectType}
    (safe : Safe original (front ++ .object type :: back)) :
    ∃ source : ObjectType, .object source ∈ original ∧ type.name = source.name ∧
      ∃ others, (front ++ back).Perm (original.filter isSteady ++ others) ∧
        ∀ definition ∈ others, Derived original definition := by
  obtain ⟨others, arranged, derived⟩ := safe.others
  have member : Definition.object type ∈ others := by
    have present : Definition.object type ∈ original.filter isSteady ++ others :=
      arranged.mem_iff.mp (by simp)
    exact (List.mem_append.mp present).resolve_left steady_object
  obtain ⟨source, origin, named⟩ := derived_object (derived _ member)
  obtain ⟨before, after, rfl⟩ := List.append_of_mem member
  refine ⟨source, origin, named, before ++ after, ?_, ?_⟩
  · have first : (.object type :: (front ++ back)).Perm
        (.object type :: (original.filter isSteady ++ (before ++ after))) :=
      calc (.object type :: (front ++ back)).Perm (front ++ .object type :: back) :=
            List.perm_middle.symm
        _ |>.Perm (original.filter isSteady ++ (before ++ .object type :: after)) := arranged
        _ |>.Perm (.object type :: (original.filter isSteady ++ (before ++ after))) := by
            rw [← List.append_assoc, ← List.append_assoc]
            exact List.perm_middle
    exact first.cons_inv
  · intro definition inside
    apply derived
    rcases List.mem_append.mp inside with left | right
    · exact List.mem_append_left _ left
    · exact List.mem_append_right _ (List.mem_cons_of_mem _ right)

-- An edit puts an object or an input type of the same name in the place of the edited type, moves
-- it to the end, or leaves it out.
theorem replaced_safe {original front back after : List Definition} {type : ObjectType}
    {definition : Definition} (safe : Safe original (front ++ .object type :: back))
    (named : (∃ kept, definition = .object kept ∧ kept.name = type.name) ∨
      ∃ converted, definition = .input converted ∧ converted.name = type.name)
    (rest : (front ++ back).Sublist after) (arranged : after.Perm (definition :: (front ++ back))) :
    Safe original after := by
  obtain ⟨source, origin, same, others, split, derived⟩ := others_without safe
  have sameName : definition.name? = (Definition.object type).name? := by
    rcases named with ⟨kept, rfl, named⟩ | ⟨converted, rfl, named⟩ <;>
      simp [Definition.name?, named]
  refine ⟨(sublist_without steady_object safe.kept).trans rest, ⟨definition :: others, ?_, ?_⟩, ?_⟩
  · calc after.Perm (definition :: (front ++ back)) := arranged
      _ |>.Perm (definition :: (original.filter isSteady ++ others)) := split.cons definition
      _ |>.Perm (original.filter isSteady ++ definition :: others) := List.perm_middle.symm
  · refine List.forall_mem_cons.mpr ⟨.inr ⟨source, origin, ?_⟩, derived⟩
    rw [← same]
    exact named
  · intro name
    have before := safe.names name
    rw [List.perm_middle.countP_eq, List.countP_cons, ← sameName] at before
    rw [arranged.countP_eq, List.countP_cons]
    exact before

theorem dropped_safe {original front back : List Definition} {type : ObjectType}
    (safe : Safe original (front ++ .object type :: back)) : Safe original (front ++ back) := by
  obtain ⟨_, _, _, others, split, derived⟩ := others_without safe
  refine ⟨sublist_without steady_object safe.kept, ⟨others, split, derived⟩, ?_⟩
  intro name
  refine Nat.le_trans ?_ (safe.names name)
  exact List.Sublist.countP_le ((List.sublist_cons_self _ back).append_left front)

theorem edit_safe {original before after : List Definition} (safe : Safe original before)
    (edit : Edit before after) : Safe original after := by
  cases edit with
  | @rebuild front back _ type named =>
    exact replaced_safe safe (.inl ⟨type, rfl, named⟩) (by simp) List.perm_middle
  | @convert front back type =>
    exact replaced_safe safe (.inr ⟨type.toInput, rfl, rfl⟩) (by simp) List.perm_middle
  | drop => exact dropped_safe safe
  | @move front back type =>
    exact replaced_safe safe (.inl ⟨type, rfl, rfl⟩) (List.sublist_append_left _ _)
      (List.perm_append_singleton _ _)

theorem edited_safe {original before after : List Definition} (safe : Safe original before)
    (edited : Edited before after) : Safe original after := by
  induction edited with
  | refl => exact safe
  | step _ edit ih => exact edit_safe ih edit

theorem start_safe (definitions : List Definition) : Safe definitions definitions := by
  refine ⟨List.filter_sublist, ⟨definitions.filter (!isSteady ·), ?_, ?_⟩, fun _ => Nat.le_refl _⟩
  · exact (List.filter_append_perm isSteady definitions).symm
  · intro definition member
    obtain ⟨present, other⟩ := List.mem_filter.mp member
    cases definition with
    | object type => exact .inr ⟨type, present, .inl ⟨type, rfl, rfl⟩⟩
    | _ => exact .inl ⟨present, by simpa [isSteady] using other⟩

theorem prune_safe {original current : List Definition} (safe : Safe original current) :
    Safe original (current.filter (!State.hasArgsName ·)) := by
  obtain ⟨others, arranged, derived⟩ := safe.others
  have steady : (original.filter isSteady).filter (!State.hasArgsName ·) = original.filter isSteady := by
    rw [List.filter_eq_self]
    intro definition member
    have kept := (List.mem_filter.mp member).2
    cases definition <;> simp_all [isSteady]
  refine ⟨steady ▸ safe.kept.filter _, ⟨others.filter (!State.hasArgsName ·), ?_, ?_⟩, ?_⟩
  · have filtered := arranged.filter (!State.hasArgsName ·)
    rwa [List.filter_append, steady] at filtered
  · intro definition member
    exact derived definition (List.mem_filter.mp member).1
  · intro name
    exact Nat.le_trans List.filter_sublist.countP_le (safe.names name)

/-! ### Counts -/

theorem edit_objects {before after : List Definition} (edit : Edit before after) (name : String) :
    after.countP (·.isObjectNamed name) ≤ before.countP (·.isObjectNamed name) := by
  cases edit with
  | rebuild named => simp [List.countP_cons, Definition.isObjectNamed, named]
  | convert => simp [List.countP_cons, Definition.isObjectNamed]
  | drop => simp [List.countP_cons]
  | move => simp [List.countP_cons]

theorem edit_inputs {before after : List Definition} (edit : Edit before after) (name : String) :
    before.countP (isInputNamed name) ≤ after.countP (isInputNamed name) := by
  cases edit with
  | rebuild => simp [isInputNamed]
  | convert => simp [List.countP_cons, isInputNamed]
  | drop => simp [isInputNamed]
  | move => simp [isInputNamed]

theorem edited_counts {before after : List Definition} (edited : Edited before after) (name : String) :
    after.countP (·.isObjectNamed name) ≤ before.countP (·.isObjectNamed name) ∧
      before.countP (isInputNamed name) ≤ after.countP (isInputNamed name) := by
  induction edited with
  | refl => exact ⟨Nat.le_refl _, Nat.le_refl _⟩
  | step _ edit ih =>
    exact ⟨Nat.le_trans (edit_objects edit name) ih.1, Nat.le_trans ih.2 (edit_inputs edit name)⟩

/-! ### Sessions -/

-- A stage of a session. Binding uses the index that was built last, or none at all.
inductive Move where
  | stage (step : Step)
  | bindBare (operation : String)

namespace Session

def move (session : Session) : Move → Session
  | .stage step => (session.step step).value
  | .bindBare operation => { session with state := (session.state.bind operation []).value }

def moves (session : Session) (moves : List Move) : Session := moves.foldl move session

def definitions (session : Session) : List Definition := session.state.definitions

end Session

theorem run_safe (document : Document) :
    Safe document.definitions (run document).value.definitions := by
  have merged : Safe document.definitions
      (mergeNamed "Mutation" (mergeNamed "Query" document.definitions)) :=
    edited_safe (edited_safe (start_safe _) (merge_edited "Query" _)) (merge_edited "Mutation" _)
  have moved := edited_safe merged (move_edited "Query" _)
  simp only [run, Logged.bind_value, Logged.pure_value, State.prune]
  apply prune_safe
  refine edited_safe (edited_safe ?_ (bind_edited "Mutation" _ _)) (bind_edited "Query" _ _)
  simpa only [merge_value, State.reposition, State.start] using moved

-- What a move does to the definitions: edits, unless it drops the argument declarations or starts
-- over.
theorem move_change (session : Session) (move : Move) :
    (session.move move).document = session.document ∧
    (Edited session.definitions (session.move move).definitions ∨
      (move = .stage .prune ∧ (session.move move).definitions =
        session.definitions.filter (!State.hasArgsName ·)) ∨
      (move = .stage .run ∧ (session.move move).definitions =
        (run session.document).value.definitions)) := by
  cases move with
  | bindBare operation => exact ⟨rfl, .inl (bind_edited operation [] session.state)⟩
  | stage step =>
    cases step with
    | merge name =>
      refine ⟨rfl, .inl ?_⟩
      have edited := merge_edited name session.state.definitions
      simpa only [Session.definitions, Session.move, Session.step, Logged.bind_value,
        Logged.pure_value, merge_value] using edited
    | reposition => exact ⟨rfl, .inl (move_edited "Query" session.state.definitions)⟩
    | index => exact ⟨rfl, .inl .refl⟩
    | bind operation => exact ⟨rfl, .inl (bind_edited operation session.index session.state)⟩
    | reclassify name => exact ⟨rfl, .inl (reclassify_edited session.state name)⟩
    | prune => exact ⟨rfl, .inr (.inl ⟨rfl, rfl⟩)⟩
    | run =>
      refine ⟨?_, .inr (.inr ⟨rfl, ?_⟩)⟩
      · simp only [Session.move, Session.step, Logged.bind_value, Logged.pure_value]
      · simp only [Session.definitions, Session.move, Session.step, Logged.bind_value,
          Logged.pure_value]

theorem move_safe {session : Session}
    (safe : Safe session.document.definitions session.definitions) (move : Move) :
    Safe (session.move move).document.definitions (session.move move).definitions := by
  obtain ⟨same, edited | ⟨_, pruned⟩ | ⟨_, restarted⟩⟩ := move_change session move
  · rw [same]
    exact edited_safe safe edited
  · rw [same, pruned]
    exact prune_safe safe
  · rw [same, restarted]
    exact run_safe session.document

theorem moves_safe {session : Session}
    (safe : Safe session.document.definitions session.definitions) (moves : List Move) :
    Safe session.document.definitions (session.moves moves).definitions := by
  induction moves generalizing session with
  | nil => exact safe
  | cons move rest ih =>
    have later := ih (move_safe safe move)
    rwa [(move_change session move).1] at later

theorem session_safe (document : Document) (moves : List Move) (move : Move) :
    Safe document.definitions ((Session.start document).moves moves).definitions ∧
    (move ≠ .stage .run → ∀ name,
      (((Session.start document).moves moves).move move).definitions.countP
          (·.isObjectNamed name) ≤
        ((Session.start document).moves moves).definitions.countP (·.isObjectNamed name)) ∧
    (move ≠ .stage .run → move ≠ .stage .prune → ∀ name,
      ((Session.start document).moves moves).definitions.countP (isInputNamed name) ≤
        (((Session.start document).moves moves).move move).definitions.countP
          (isInputNamed name)) := by
  have start : Safe (Session.start document).document.definitions (Session.start document).definitions :=
    start_safe document.definitions
  refine ⟨moves_safe start moves, ?_, ?_⟩
  · intro goesOn name
    obtain ⟨_, edited | ⟨_, pruned⟩ | ⟨restart, _⟩⟩ :=
      move_change ((Session.start document).moves moves) move
    · exact (edited_counts edited name).1
    · rw [pruned]
      exact List.filter_sublist.countP_le
    · exact absurd restart goesOn
  · intro goesOn keeps name
    obtain ⟨_, edited | ⟨prunes, _⟩ | ⟨restart, _⟩⟩ :=
      move_change ((Session.start document).moves moves) move
    · exact (edited_counts edited name).2
    · exact absurd prunes keeps
    · exact absurd restart goesOn

end DeclSchema.Assembly
