import DeclSchema.Proofs.Assembly.OperationTypes

/-!
Types that are mentioned one after the other, each mention taking the first object type of its name
that is left. In the end a definition is an input type if fewer object types of its name stand
before it than there were mentions of that name.
-/

namespace DeclSchema.Assembly

open Schema

-- One mention of a type, by recursion along the definitions.
def convertFirst (name : String) : List Definition → List Definition
  | [] => []
  | definition :: rest =>
    match objectNamed? name definition with
    | some type => .input type.toInput :: rest
    | none => definition :: convertFirst name rest

theorem replaceFirst_convert {name : String} {definitions : List Definition} {first : ObjectType}
    {others : List ObjectType} (objects : objectsNamed name definitions = first :: others) :
    replaceFirst (·.isObjectNamed name) (.input first.toInput) definitions =
      convertFirst name definitions := by
  induction definitions with
  | nil => cases objects
  | cons definition rest ih =>
    cases found : objectNamed? name definition with
    | none =>
      have tail : objectsNamed name rest = first :: others := by
        simpa [objectsNamed, found] using objects
      simp [replaceFirst, convertFirst, found, objectNamed_none found, ih tail]
    | some type =>
      have hit : definition.isObjectNamed name = true := by rw [← objectNamed_isSome, found]; rfl
      have same : type = first := by
        simp only [objectsNamed, List.filterMap_cons, found, List.cons.injEq] at objects
        exact objects.1
      simp [replaceFirst, convertFirst, found, hit, same]

theorem convertFirst_absent {name : String} {definitions : List Definition}
    (absent : objectsNamed name definitions = []) : convertFirst name definitions = definitions := by
  induction definitions with
  | nil => rfl
  | cons definition rest ih =>
    obtain ⟨miss, tail⟩ := List.forall_mem_cons.mp (List.filterMap_eq_nil_iff.mp absent)
    simp [convertFirst, miss, ih (List.filterMap_eq_nil_iff.mpr tail)]

theorem reclassify_value (state : State) (name : String) :
    (state.reclassify name).value =
      { state with
        definitions := convertFirst name state.definitions
        reclassified := state.reclassified ++
          if state.definitions.countP (·.isObjectNamed name) = 0 then [] else [name] } := by
  unfold State.reclassify
  rw [find_object, ← objects_count]
  cases objects : objectsNamed name state.definitions with
  | nil => simp [convertFirst_absent objects, pure]
  | cons first others =>
    simp only [List.head?_cons, Option.map_some, Logged.bind_value, List.length_cons,
      Nat.add_eq_zero_iff, Nat.one_ne_zero, and_false, if_false]
    rw [replaceFirst_convert objects]
    rfl

-- Whether one of the mentions in `types` is left for an object type with `earlier` before it.
def Due (types : List String) (earlier : List Definition) (type : ObjectType) : Prop :=
  earlier.countP (·.isObjectNamed type.name) < types.count type.name

instance (types : List String) (earlier : List Definition) (type : ObjectType) :
    Decidable (Due types earlier type) := inferInstanceAs (Decidable (_ < _))

def settled (types : List String) (earlier : List Definition) : Definition → Definition
  | .object type => if Due types earlier type then .input type.toInput else .object type
  | definition => definition

def settle (types : List String) : List Definition → List Definition → List Definition
  | _, [] => []
  | earlier, definition :: rest =>
    settled types earlier definition :: settle types (earlier ++ [definition]) rest

theorem settled_due {types : List String} {earlier : List Definition} {type : ObjectType}
    (due : Due types earlier type) : settled types earlier (.object type) = .input type.toInput :=
  if_pos due

theorem settled_kept {types : List String} {earlier : List Definition} {type : ObjectType}
    (spent : ¬ Due types earlier type) : settled types earlier (.object type) = .object type :=
  if_neg spent

theorem settled_name (types : List String) (earlier : List Definition) (definition : Definition) :
    (settled types earlier definition).name? = definition.name? := by
  cases definition with
  | object type =>
    by_cases due : Due types earlier type
    · rw [settled_due due]
      rfl
    · rw [settled_kept due]
  | _ => rfl

-- No object type comes up that was not there.
theorem settled_object {types : List String} {earlier : List Definition} {definition : Definition}
    {type : ObjectType} (kept : settled types earlier definition = .object type) :
    definition = .object type := by
  cases definition with
  | object other =>
    by_cases due : Due types earlier other
    · rw [settled_due due] at kept
      cases kept
    · rwa [settled_kept due] at kept
  | _ => exact kept

theorem settled_named {types : List String} {earlier : List Definition} {definition : Definition}
    {name : String} (named : (settled types earlier definition).isObjectNamed name = true) :
    definition.isObjectNamed name = true := by
  obtain ⟨type, kept, same⟩ := isObjectNamed_exact.mp named
  exact isObjectNamed_exact.mpr ⟨type, settled_object kept, same⟩

theorem settled_miss {definition : Definition} {name : String}
    (miss : definition.isObjectNamed name = false) (types : List String) (earlier : List Definition) :
    (settled types earlier definition).isObjectNamed name = false := by
  rw [Bool.eq_false_iff] at miss ⊢
  exact fun named => miss (settled_named named)

theorem settle_object {types : List String} {earlier definitions : List Definition}
    {type : ObjectType} (member : .object type ∈ settle types earlier definitions) :
    .object type ∈ definitions := by
  induction definitions generalizing earlier with
  | nil => exact member
  | cons definition rest ih =>
    rcases List.mem_cons.mp member with kept | later
    · rw [settled_object kept.symm]
      exact List.mem_cons_self
    · exact List.mem_cons_of_mem _ (ih later)

theorem settle_ends {types : List String} {name : String} {earlier definitions : List Definition}
    (ends : Ends name definitions) : Ends name (settle types earlier definitions) := by
  induction definitions generalizing earlier with
  | nil => exact List.Pairwise.nil
  | cons definition rest ih =>
    obtain ⟨before, tail⟩ := List.pairwise_cons.mp ends
    refine List.pairwise_cons.mpr ⟨?_, ih tail⟩
    cases rest with
    | nil => exact fun _ member => absurd member List.not_mem_nil
    | cons next others =>
      exact fun _ _ => settled_miss (before next List.mem_cons_self) types earlier

theorem settle_get (types : List String) (earlier definitions : List Definition) (i : Nat) :
    (settle types earlier definitions)[i]? =
      definitions[i]?.map (settled types (earlier ++ definitions.take i)) := by
  induction definitions generalizing earlier i with
  | nil => rfl
  | cons definition rest ih =>
    cases i with
    | zero => simp [settle]
    | succ i => simp [settle, ih]

theorem settle_length (types : List String) (earlier definitions : List Definition) :
    (settle types earlier definitions).length = definitions.length := by
  induction definitions generalizing earlier with
  | nil => rfl
  | cons definition rest ih => simp [settle, ih]

theorem settle_none (earlier definitions : List Definition) :
    settle [] earlier definitions = definitions := by
  induction definitions generalizing earlier with
  | nil => rfl
  | cons definition rest ih => cases definition <;> simp [settle, settled, Due, ih]

theorem count_more (types : List String) (name other : String) :
    (types ++ [name]).count other = types.count other + if name = other then 1 else 0 := by
  simp [List.count_append, List.count_singleton]

theorem settled_other {name : String} {definition : Definition}
    (miss : definition.isObjectNamed name = false) (types : List String) (earlier : List Definition) :
    settled (types ++ [name]) earlier definition = settled types earlier definition := by
  cases definition with
  | object type =>
    have different : name ≠ type.name := by simpa [Definition.isObjectNamed, eq_comm] using miss
    have same : Due (types ++ [name]) earlier type ↔ Due types earlier type := by
      unfold Due
      rw [count_more, if_neg different, Nat.add_zero]
    simp only [settled, same]
  | _ => rfl

theorem named_after (earlier : List Definition) (definition : Definition) (name : String) :
    (earlier ++ [definition]).countP (·.isObjectNamed name) =
      earlier.countP (·.isObjectNamed name) + if definition.isObjectNamed name then 1 else 0 := by
  simp [List.countP_append, List.countP_singleton]

-- One more mention changes nothing behind enough object types of its name.
theorem settle_spent {types : List String} {name : String} {earlier : List Definition}
    (spent : types.count name < earlier.countP (·.isObjectNamed name)) (definitions : List Definition) :
    settle (types ++ [name]) earlier definitions = settle types earlier definitions := by
  induction definitions generalizing earlier with
  | nil => rfl
  | cons definition rest ih =>
    have same : settled (types ++ [name]) earlier definition = settled types earlier definition := by
      cases hit : definition.isObjectNamed name with
      | false => exact settled_other hit types earlier
      | true =>
        obtain ⟨type, rfl, rfl⟩ := isObjectNamed_exact.mp hit
        have old : ¬ Due types earlier type := by
          unfold Due
          omega
        have new : ¬ Due (types ++ [type.name]) earlier type := by
          unfold Due
          rw [count_more, if_pos rfl]
          omega
        rw [settled_kept old, settled_kept new]
    have later : types.count name < (earlier ++ [definition]).countP (·.isObjectNamed name) := by
      rw [named_after]
      omega
    rw [settle, settle, same, ih later]

-- The first object type that is left is the one whose turn the new mention is: all before it are
-- spent, and the count of those that stand before it is the number of mentions so far.
theorem convert_settle {types : List String} {name : String} {earlier : List Definition}
    (left : earlier.countP (·.isObjectNamed name) ≤ types.count name) (definitions : List Definition) :
    convertFirst name (settle types earlier definitions) =
      settle (types ++ [name]) earlier definitions := by
  induction definitions generalizing earlier with
  | nil => rfl
  | cons definition rest ih =>
    cases hit : definition.isObjectNamed name with
    | false =>
      have unseen : objectNamed? name (settled types earlier definition) = none := by
        rw [← Option.not_isSome_iff_eq_none, objectNamed_isSome, settled_miss hit]
        decide
      have later : (earlier ++ [definition]).countP (·.isObjectNamed name) ≤ types.count name := by
        rw [named_after, hit]
        simpa using left
      simp only [settle, convertFirst, unseen, settled_other hit, ih later]
    | true =>
      obtain ⟨type, rfl, rfl⟩ := isObjectNamed_exact.mp hit
      have new : Due (types ++ [type.name]) earlier type := by
        unfold Due
        rw [count_more, if_pos rfl]
        omega
      have counted := named_after earlier (.object type) type.name
      rw [hit, if_pos rfl] at counted
      by_cases old : Due types earlier type
      · have later := ih (Nat.le_trans (Nat.le_of_eq counted) old)
        simp only [settle, settled_due old, settled_due new, convertFirst, objectNamed?, later]
      · have spent : types.count type.name <
            (earlier ++ [Definition.object type]).countP (·.isObjectNamed type.name) := by
          rw [counted]
          exact Nat.lt_succ_of_le (Nat.le_of_not_lt old)
        simp only [settle, settled_kept old, settled_due new, convertFirst, objectNamed?, if_true,
          settle_spent spent]

theorem settle_count (types : List String) (earlier definitions : List Definition) (name : String) :
    (settle types earlier definitions).countP (·.isObjectNamed name) =
      definitions.countP (·.isObjectNamed name) -
        (types.count name - earlier.countP (·.isObjectNamed name)) := by
  induction definitions generalizing earlier with
  | nil => simp [settle]
  | cons definition rest ih =>
    rw [settle, List.countP_cons, List.countP_cons, ih, named_after]
    cases hit : definition.isObjectNamed name with
    | false => simp [settled_miss hit]
    | true =>
      obtain ⟨type, rfl, rfl⟩ := isObjectNamed_exact.mp hit
      by_cases due : Due types earlier type
      · have gone : (settled types earlier (.object type)).isObjectNamed type.name = false := by
          rw [settled_due due]
          rfl
        unfold Due at due
        simp only [gone, Bool.false_eq_true, if_false, if_true]
        omega
      · have kept : (settled types earlier (.object type)).isObjectNamed type.name = true := by
          rw [settled_kept due]
          exact hit
        unfold Due at due
        simp only [kept, if_true]
        omega

-- More mentions after those in `types`, one at a time.
theorem convertAll_settle (more types : List String) (definitions : List Definition) :
    more.foldl (fun all name => convertFirst name all) (settle types [] definitions) =
      settle (types ++ more) [] definitions := by
  induction more generalizing types with
  | nil => simp
  | cons name rest ih =>
    rw [List.foldl_cons, convert_settle (Nat.zero_le _), ih]
    simp

theorem settle_settle (types more : List String) (definitions : List Definition) :
    settle more [] (settle types [] definitions) = settle (types ++ more) [] definitions := by
  have fresh := convertAll_settle more [] (settle types [] definitions)
  rw [settle_none, List.nil_append] at fresh
  rw [← fresh, convertAll_settle]

-- What a row of mentions has done since `start`.
structure Mentioned (start : State) (types : List String) (state : State) : Prop where
  definitions : state.definitions = settle types [] start.definitions
  reclassified : ∀ name, state.reclassified.count name = start.reclassified.count name +
    min (types.count name) (start.definitions.countP (·.isObjectNamed name))
  bound : state.bound = start.bound
  pruned : state.pruned = start.pruned

theorem mentioned_none (state : State) : Mentioned state [] state :=
  ⟨(settle_none [] state.definitions).symm, by simp, rfl, rfl⟩

theorem reclassify_mentioned {start state : State} {types : List String}
    (mentioned : Mentioned start types state) (name : String) :
    Mentioned start (types ++ [name]) (state.reclassify name).value := by
  rw [reclassify_value]
  refine ⟨?_, ?_, mentioned.bound, mentioned.pruned⟩
  · change convertFirst name state.definitions = _
    rw [mentioned.definitions, convert_settle (Nat.zero_le _)]
  · intro other
    have left := settle_count types [] start.definitions name
    have before := mentioned.reclassified other
    simp only [List.countP_nil, Nat.sub_zero] at left
    simp only [List.count_append, mentioned.definitions, left, before]
    by_cases same : name = other
    · subst same
      split <;> simp <;> omega
    · split <;> simp [same]

theorem reclassifyAll_mentioned {start state : State} {types : List String}
    (mentioned : Mentioned start types state) (more : List String) :
    Mentioned start (types ++ more) (more.foldlM State.reclassify state).value := by
  induction more generalizing types state with
  | nil =>
    rw [List.append_nil]
    exact mentioned
  | cons name rest ih =>
    have next := ih (reclassify_mentioned mentioned name)
    rw [List.append_assoc, List.singleton_append] at next
    exact next

end DeclSchema.Assembly
