import DeclSchema.Source.Declarations

/-!
The walk over a tree, told without its stack. A walk reads the nodes that it visits one after the
other in document order, so it gives what a plain recursion over the tree gives; and it fails only
where one of these readings fails.
-/

namespace DeclSchema.Source

/-! ### The nodes that are visited -/

namespace Node

mutual
-- Unreadable text is passed over, and nothing inside of an alias or an enumeration is visited.
def visited : Node → List Node
  | ⟨kind, role, place, text, missing, children⟩ =>
    if kind = .unreadable then []
    else if kind = .typeAlias || kind = .enumeration then
      [⟨kind, role, place, text, missing, children⟩]
    else ⟨kind, role, place, text, missing, children⟩ :: visitedAll children
def visitedAll : List Node → List Node
  | [] => []
  | n :: rest => visited n ++ visitedAll rest
end

theorem visitedAll_append (first second : List Node) :
    visitedAll (first ++ second) = visitedAll first ++ visitedAll second := by
  induction first with
  | nil => rfl
  | cons n rest ih => simp [visitedAll, ih]

theorem visited_unreadable {n : Node} (unreadable : n.kind = .unreadable) : n.visited = [] := by
  cases n with
  | mk => simp_all [visited]

theorem visited_closed {n : Node} (closed : n.isClosed = true) : n.visited = [n] := by
  cases n with
  | mk kind =>
    have other : kind ≠ .unreadable := by
      rintro rfl
      cases closed
    simp_all [visited, isClosed]

theorem visited_open {n : Node} (readable : n.kind ≠ .unreadable) (entered : n.isClosed = false) :
    n.visited = n :: visitedAll n.children := by
  cases n with
  | mk => simp_all [visited, isClosed]

end Node

theorem outcome_after_warning {α : Type} (message : String) (x : Traced Fault α) :
    (warn message >>= fun _ => x).outcome = x.outcome := by
  rw [Traced.bind_outcome]
  rfl

-- The stack never matters: what is left to visit is what its nodes leave, one after the other.
theorem walk_visited (stack : List Node) :
    (walk stack).outcome =
      ((Node.visitedAll stack).mapM fun n => (readDeclaration n).outcome).map
        (·.filterMap id) := by
  fun_induction walk stack with
  | case1 => rfl
  | case2 n rest unreadable ih =>
    rw [outcome_after_warning, ih, Node.visitedAll, Node.visited_unreadable unreadable,
      List.nil_append]
  | case3 n rest readable ih =>
    have left : n.visited ++ Node.visitedAll rest =
        n :: Node.visitedAll (if n.isClosed then rest else n.children ++ rest) := by
      cases closed : n.isClosed with
      | true => simp [Node.visited_closed closed]
      | false => simp [Node.visited_open readable closed, Node.visitedAll_append]
    rw [Traced.bind_outcome, Node.visitedAll, left, List.mapM_cons]
    cases (readDeclaration n).outcome with
    | error fault => rfl
    | ok found =>
      change (walk _ >>= _).outcome = _
      rw [Traced.bind_outcome]
      simp only [dite_eq_ite] at ih
      rw [ih]
      cases (Node.visitedAll _).mapM fun n => (readDeclaration n).outcome with
      | error fault => rfl
      | ok more => cases found <;> rfl

/-! ### The declarations by recursion -/

-- The declaration that a node stands for, none when it holds a fault or lacks a part.
def aliasOf? (n : Node) : Option Declaration :=
  match n.child? .value with
  | none => none
  | some value =>
    if n.hasFault then none
    else (readShape value).toOption.map fun shape =>
      .typeAlias (nameText (n.child? .name)) shape (parameterNames (n.child? .typeParameters))

def enumerationOf? (n : Node) : Option Declaration :=
  match n.child? .name, n.child? .body with
  | some name, some body =>
    if n.hasFault then none
    else (body.content.mapM memberName).toOption.map (.enumeration name.textString)
  | _, _ => none

def embeddedOf? (n : Node) : Option Declaration :=
  match tagOf n, n.child? .arguments with
  | some tag, some template =>
    if template.kind = .template && !template.hasFault then
      template.cooked.toOption.map (.embedded tag)
    else none
  | _, _ => none

namespace Node

mutual
-- In document order; the text of a call comes before what is declared inside of it.
def declared : Node → List Declaration
  | ⟨kind, role, place, text, missing, children⟩ =>
    if kind = .unreadable then []
    else if kind = .typeAlias then
      (aliasOf? ⟨kind, role, place, text, missing, children⟩).toList
    else if kind = .enumeration then
      (enumerationOf? ⟨kind, role, place, text, missing, children⟩).toList
    else if kind = .call then
      (embeddedOf? ⟨kind, role, place, text, missing, children⟩).toList ++ declaredAll children
    else declaredAll children
def declaredAll : List Node → List Declaration
  | [] => []
  | n :: rest => declared n ++ declaredAll rest
end

-- The declaration of a node of any kind.
def declaration? (n : Node) : Option Declaration :=
  if n.kind = .typeAlias then aliasOf? n
  else if n.kind = .enumeration then enumerationOf? n
  else if n.kind = .call then embeddedOf? n
  else none

theorem declared_closed {n : Node} (closed : n.isClosed = true) :
    n.declared = n.declaration?.toList := by
  cases n with
  | mk kind =>
    simp only [isClosed, Bool.or_eq_true, decide_eq_true_eq] at closed
    rcases closed with rfl | rfl <;> simp [declared, declaration?]

theorem declared_open {n : Node} (readable : n.kind ≠ .unreadable) (entered : n.isClosed = false) :
    n.declared = n.declaration?.toList ++ declaredAll n.children := by
  cases n with
  | mk kind =>
    simp only [isClosed, Bool.or_eq_false_iff, decide_eq_false_iff_not] at entered
    by_cases call : kind = .call <;> simp_all [declared, declaration?]

mutual
theorem declared_visited (n : Node) : n.declared = n.visited.filterMap declaration? := by
  cases n with
  | mk kind role place text missing children =>
    have inside := declaredAll_visited children
    by_cases unreadable : kind = .unreadable
    · simp [declared, visited, unreadable]
    cases closed : isClosed ⟨kind, role, place, text, missing, children⟩ with
    | true =>
      rw [declared_closed closed, visited_closed closed]
      cases found : declaration? ⟨kind, role, place, text, missing, children⟩ <;> simp [found]
    | false =>
      rw [declared_open unreadable closed, visited_open unreadable closed, inside]
      cases found : declaration? ⟨kind, role, place, text, missing, children⟩ <;> simp [found]
theorem declaredAll_visited (nodes : List Node) :
    declaredAll nodes = (visitedAll nodes).filterMap declaration? := by
  cases nodes with
  | nil => rfl
  | cons n rest =>
    rw [declaredAll, visitedAll, List.filterMap_append, declared_visited n,
      declaredAll_visited rest]
end

end Node

/-! ### One reading -/

theorem map_outcome {α β : Type} (x : Except Fault α) (f : α → β) :
    (Traced.ofExcept x >>= fun a => pure (f a)).outcome = x.map f := by
  cases x <;> rfl

theorem readAlias_outcome (n : Node) :
    (readAlias n).outcome =
      match n.child? .value with
      | none => .ok none
      | some value =>
        if n.hasFault then .ok none
        else (readShape value).map fun shape =>
          some (.typeAlias (nameText (n.child? .name)) shape
            (parameterNames (n.child? .typeParameters))) := by
  unfold readAlias
  cases n.child? .value with
  | none => rfl
  | some value =>
    cases n.hasFault with
    | true => rfl
    | false => exact map_outcome _ _

theorem readEnumeration_outcome (n : Node) :
    (readEnumeration n).outcome =
      match n.child? .name, n.child? .body with
      | some name, some body =>
        if n.hasFault then .ok none
        else (body.content.mapM memberName).map fun members =>
          some (.enumeration name.textString members)
      | _, _ => .ok none := by
  unfold readEnumeration
  cases n.child? .name with
  | none => rfl
  | some name =>
    cases n.child? .body with
    | none => rfl
    | some body =>
      cases n.hasFault with
      | true => rfl
      | false => exact map_outcome _ _

theorem readEmbedded_outcome (n : Node) :
    (readEmbedded n).outcome =
      match tagOf n, n.child? .arguments with
      | some tag, some template =>
        if template.kind = .template && !template.hasFault then
          template.cooked.map fun text => some (.embedded tag text)
        else .ok none
      | _, _ => .ok none := by
  unfold readEmbedded
  cases tagOf n with
  | none => rfl
  | some tag =>
    cases n.child? .arguments with
    | none => rfl
    | some template =>
      by_cases kind : template.kind = .template
      · cases faulty : template.hasFault with
        | true => simp only [kind, faulty]; rfl
        | false =>
          simp only [kind, faulty]
          exact map_outcome _ _
      · simp only [bne_iff_ne, ne_eq, kind, not_false_eq_true, if_true, decide_false,
          Bool.false_and, Bool.false_eq_true, if_false]
        rfl

theorem found_of_map {α : Type} {x : Except Fault α} {f : α → Declaration}
    {found : Option Declaration} (read : (x.map fun a => some (f a)) = .ok found) :
    found = x.toOption.map f := by
  cases x with
  | error fault => cases read
  | ok a =>
    cases read
    rfl

theorem alias_found {n : Node} {found : Option Declaration}
    (read : (readAlias n).outcome = .ok found) : found = aliasOf? n := by
  rw [readAlias_outcome] at read
  unfold aliasOf?
  split at read
  next => exact (Except.ok.inj read).symm
  next =>
    split at read
    next faulty => rw [if_pos faulty]; exact (Except.ok.inj read).symm
    next sound => rw [if_neg sound]; exact found_of_map read

theorem enumeration_found {n : Node} {found : Option Declaration}
    (read : (readEnumeration n).outcome = .ok found) : found = enumerationOf? n := by
  rw [readEnumeration_outcome] at read
  unfold enumerationOf?
  split at read
  next =>
    split at read
    next faulty => rw [if_pos faulty]; exact (Except.ok.inj read).symm
    next sound => rw [if_neg sound]; exact found_of_map read
  next => exact (Except.ok.inj read).symm

theorem embedded_found {n : Node} {found : Option Declaration}
    (read : (readEmbedded n).outcome = .ok found) : found = embeddedOf? n := by
  rw [readEmbedded_outcome] at read
  unfold embeddedOf?
  split at read
  next =>
    split at read
    next sound => rw [if_pos sound]; exact found_of_map read
    next unsound => rw [if_neg unsound]; exact (Except.ok.inj read).symm
  next => exact (Except.ok.inj read).symm

theorem declaration_found {n : Node} {found : Option Declaration}
    (read : (readDeclaration n).outcome = .ok found) : found = n.declaration? := by
  unfold readDeclaration at read
  unfold Node.declaration?
  split at read
  next kind =>
    simp only [kind, if_true]
    exact alias_found read
  next kind =>
    simp only [kind, reduceCtorEq, if_true, if_false]
    exact enumeration_found read
  next kind =>
    simp only [kind, reduceCtorEq, if_true, if_false]
    exact embedded_found read
  next noAlias noEnumeration noCall =>
    cases read
    rw [if_neg noAlias, if_neg noEnumeration, if_neg noCall]

/-! ### Whole trees -/

theorem mapM_found {nodes : List Node}
    (reads : ∀ n ∈ nodes, ∃ found, (readDeclaration n).outcome = .ok found) :
    (nodes.mapM fun n => (readDeclaration n).outcome) = .ok (nodes.map Node.declaration?) := by
  induction nodes with
  | nil => rfl
  | cons n rest ih =>
    obtain ⟨⟨found, read⟩, later⟩ := List.forall_mem_cons.mp reads
    rw [List.mapM_cons, read, ih later, declaration_found read]
    rfl

theorem walk_declared {root : Node}
    (reads : ∀ n ∈ root.visited, ∃ found, (readDeclaration n).outcome = .ok found) :
    (walk [root]).outcome = .ok root.declared := by
  have all : Node.visitedAll [root] = root.visited := by simp [Node.visitedAll]
  rw [walk_visited, all, mapM_found reads, Node.declared_visited]
  simp [Except.map, List.filterMap_map]

theorem declarationsOf_outcome (root : Node) :
    (declarationsOf root).outcome =
      match (walk [root]).outcome with
      | .error fault => .error (.fault fault)
      | .ok declarations =>
        if root.hasFault && declarations.isEmpty then
          .error (.unreadable (faultOf root).text (faultOf root).line (faultOf root).column)
        else .ok declarations := by
  have adapted : Traced.outcome (ExceptT.adapt Rejection.fault (walk [root])) =
      (walk [root]).outcome.mapError Rejection.fault := rfl
  rw [declarationsOf, Traced.bind_outcome, adapted]
  cases (walk [root]).outcome with
  | error fault => rfl
  | ok declarations =>
    change (if root.hasFault && declarations.isEmpty then _ else _ : Traced _ _).outcome =
      if root.hasFault && declarations.isEmpty then _ else _
    split <;> rfl

theorem declarations_in_order (root : Node)
    (reads : ∀ n ∈ root.visited, ∃ found, (readDeclaration n).outcome = .ok found) :
    (walk [root]).outcome = .ok root.declared ∧
    ((∃ text line column,
        (declarationsOf root).outcome = .error (.unreadable text line column)) ↔
      root.hasFault = true ∧ root.declared = []) ∧
    (¬ (root.hasFault = true ∧ root.declared = []) →
      (declarationsOf root).outcome = .ok root.declared) := by
  have walked := walk_declared reads
  have outcome := declarationsOf_outcome root
  rw [walked] at outcome
  dsimp only at outcome
  by_cases empty : root.hasFault = true ∧ root.declared = []
  · rw [if_pos (by simpa using empty)] at outcome
    exact ⟨walked, ⟨fun _ => empty, fun _ => ⟨_, _, _, outcome⟩⟩, fun other => absurd empty other⟩
  · rw [if_neg (by simpa using empty)] at outcome
    refine ⟨walked, ⟨?_, fun other => absurd other empty⟩, fun _ => outcome⟩
    rintro ⟨text, line, column, rejected⟩
    rw [outcome] at rejected
    cases rejected

-- An alias inside of a block, unreadable text, and an embedded text with another one inside of it.
def nestedTree : Node :=
  let closed : Node := ⟨.typeAlias, none, ⟨1, 0, 1⟩, "type A=any".toList, false,
    [.leaf .mark ⟨1, 0, 1⟩ "type".toList, (Node.leaf .typeName ⟨6, 0, 6⟩ ['A']).playing .name,
      .leaf .mark ⟨7, 0, 7⟩ ['='],
      (Node.leaf .predefinedType ⟨8, 0, 8⟩ "any".toList).playing .value]⟩
  let inner : Node := ⟨.call, none, ⟨22, 0, 22⟩, "gql`b`".toList, false,
    [(Node.leaf .identifier ⟨22, 0, 22⟩ "gql".toList).playing .function,
      ⟨.template, some .arguments, ⟨25, 0, 25⟩, "`b`".toList, false,
        [.leaf .mark ⟨25, 0, 25⟩ ['`'], .leaf .fragment ⟨26, 0, 26⟩ ['b'],
          .leaf .mark ⟨27, 0, 27⟩ ['`']]⟩]⟩
  let hole : Node := ⟨.substitution, none, ⟨20, 0, 20⟩, "$\x7bgql`b`\x7d".toList, false,
    [.leaf .mark ⟨20, 0, 20⟩ "$\x7b".toList, inner, .leaf .mark ⟨28, 0, 28⟩ ['\x7d']]⟩
  let outer : Node := ⟨.call, none, ⟨15, 0, 15⟩, "gql`a$\x7bgql`b`\x7d`".toList, false,
    [(Node.leaf .identifier ⟨15, 0, 15⟩ "gql".toList).playing .function,
      ⟨.template, some .arguments, ⟨18, 0, 18⟩, "`a$\x7bgql`b`\x7d`".toList, false,
        [.leaf .mark ⟨18, 0, 18⟩ ['`'], .leaf .fragment ⟨19, 0, 19⟩ ['a'], hole,
          .leaf .mark ⟨29, 0, 29⟩ ['`']]⟩]⟩
  ⟨.program, none, .origin, "\x7btype A=any\x7d ) gql`a$\x7bgql`b`\x7d`".toList, false,
    [⟨.block, none, .origin, "\x7btype A=any\x7d".toList, false,
        [.leaf .mark .origin ['\x7b'], closed, .leaf .mark ⟨11, 0, 11⟩ ['\x7d']]⟩,
      .leaf .unreadable ⟨13, 0, 13⟩ [')'], outer]⟩

theorem declarations_in_order_nested :
    (∀ n ∈ nestedTree.visited, ∃ found, (readDeclaration n).outcome = .ok found) ∧
    (walk [nestedTree]).outcome =
      .ok [.typeAlias "A" (.keyword "any") [], .embedded .gql "a", .embedded .gql "b"] ∧
    (declarationsOf nestedTree).outcome = .ok nestedTree.declared := by
  have all : nestedTree.visited.all (fun n => (readDeclaration n).outcome.isOk) = true := by
    decide +kernel
  have reads : ∀ n ∈ nestedTree.visited, ∃ found, (readDeclaration n).outcome = .ok found := by
    intro n member
    have read := List.all_eq_true.mp all n member
    cases outcome : (readDeclaration n).outcome with
    | error fault => simp [outcome, Except.isOk, Except.toBool] at read
    | ok found => exact ⟨found, rfl⟩
  obtain ⟨walked, _, returned⟩ := declarations_in_order nestedTree reads
  exact ⟨reads, walked, returned (by decide +kernel)⟩

end DeclSchema.Source
