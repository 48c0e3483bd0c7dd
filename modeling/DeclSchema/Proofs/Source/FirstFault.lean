import DeclSchema.Proofs.Source.Walk

/-!
The search for the first fault of a tree. It keeps a stack and never enters a node below which
there is no fault, and it finds what a look at all nodes in document order finds. So a source that
is rejected is rejected at a fault, the first one that it has.
-/

namespace DeclSchema.Source

/-! ### Document order -/

namespace Node

mutual
-- All nodes of a tree, each one in front of those below it.
def preorder : Node → List Node
  | ⟨kind, role, place, text, missing, children⟩ =>
    ⟨kind, role, place, text, missing, children⟩ :: preorderAll children
def preorderAll : List Node → List Node
  | [] => []
  | n :: rest => preorder n ++ preorderAll rest
end

theorem preorder_eq (n : Node) : n.preorder = n :: preorderAll n.children := by
  cases n with
  | mk => rfl

theorem preorderAll_append (first second : List Node) :
    preorderAll (first ++ second) = preorderAll first ++ preorderAll second := by
  induction first with
  | nil => rfl
  | cons n rest ih => simp [preorderAll, ih]

mutual
theorem hasFault_any : ∀ n : Node, n.hasFault = n.preorder.any isFault
  | ⟨kind, role, place, text, missing, children⟩ => by
    rw [hasFault, preorder, List.any_cons, anyFault_any children]
    rfl
theorem anyFault_any : ∀ nodes : List Node, anyFault nodes = (preorderAll nodes).any isFault
  | [] => rfl
  | n :: rest => by
    rw [anyFault, preorderAll, List.any_append, hasFault_any n, anyFault_any rest]
end

theorem hasFault_exact {n : Node} :
    n.hasFault = true ↔ ∃ m ∈ n.preorder, m.isFault = true := by
  rw [hasFault_any, List.any_eq_true]

theorem clean_unfound {n : Node} (clean : n.hasFault = false) : n.preorder.find? isFault = none := by
  rw [List.find?_eq_none]
  intro m member fault
  have faulty := hasFault_exact.mpr ⟨m, member, fault⟩
  rw [clean] at faulty
  cases faulty

-- What is left out holds no fault, so the first fault of the others is the first of all.
theorem find_pruned (nodes : List Node) :
    (preorderAll (nodes.filter hasFault)).find? isFault = (preorderAll nodes).find? isFault := by
  induction nodes with
  | nil => rfl
  | cons n rest ih =>
    rw [preorderAll, List.find?_append]
    cases faulty : n.hasFault with
    | true => rw [List.filter_cons_of_pos faulty, preorderAll, List.find?_append, ih]
    | false =>
      rw [List.filter_cons_of_neg (by simp [faulty]), clean_unfound faulty, ih]
      rfl

end Node

/-! ### The search -/

open Node

theorem firstFault_find (stack : List Node) :
    firstFault stack = (preorderAll stack).find? isFault := by
  fun_induction firstFault stack with
  | case1 => rfl
  | case2 n rest fault =>
    rw [preorderAll, preorder_eq, List.cons_append, List.find?_cons_of_pos fault]
  | case3 n rest clean ih =>
    calc firstFault (n.faultyChildren ++ rest)
        = (preorderAll n.faultyChildren ++ preorderAll rest).find? isFault := by
          rw [ih, preorderAll_append]
      _ = (preorderAll n.children ++ preorderAll rest).find? isFault := by
          rw [List.find?_append, List.find?_append, faultyChildren, find_pruned]
      _ = (preorderAll (n :: rest)).find? isFault := by
          rw [preorderAll, preorder_eq, List.cons_append, List.find?_cons_of_neg clean]

-- The search round by round: each round takes one node off the stack.
inductive Searches : List Node → Nat → Option Node → Prop where
  | nothing : Searches [] 0 none
  | hit {n : Node} {rest : List Node} : n.isFault = true → Searches (n :: rest) 1 (some n)
  | enter {n : Node} {rest : List Node} {rounds : Nat} {found : Option Node} :
      n.isFault = false → Searches (n.faultyChildren ++ rest) rounds found →
      Searches (n :: rest) (rounds + 1) found

-- No node comes onto the stack twice, so there are no more rounds than nodes.
theorem firstFault_searches (stack : List Node) :
    ∃ rounds, rounds ≤ sizes stack ∧ Searches stack rounds (firstFault stack) := by
  fun_induction firstFault stack with
  | case1 => exact ⟨0, Nat.le_refl 0, .nothing⟩
  | case2 n rest fault =>
    refine ⟨1, ?_, .hit fault⟩
    rw [sizes, size_eq]
    omega
  | case3 n rest clean ih =>
    obtain ⟨rounds, few, searches⟩ := ih
    refine ⟨rounds + 1, ?_, .enter (by simpa using clean) searches⟩
    have fewer := sizes_filter_le hasFault n.children
    rw [sizes_append, faultyChildren] at few
    rw [sizes, size_eq]
    omega

theorem faultOf_found {root n : Node} (found : firstFault [root] = some n) : faultOf root = n := by
  rw [faultOf, found, Option.getD_some]

theorem rejected_faulty {root : Node} {text : List Char} {line column : Nat}
    (rejected : (declarationsOf root).outcome = .error (.unreadable text line column)) :
    root.hasFault = true ∧ text = (faultOf root).text ∧ line = (faultOf root).line ∧
      column = (faultOf root).column := by
  rw [declarationsOf_outcome] at rejected
  split at rejected
  next => cases rejected
  next =>
    split at rejected
    next faulty =>
      rw [Bool.and_eq_true] at faulty
      cases rejected
      exact ⟨faulty.1, rfl, rfl, rfl⟩
    next => cases rejected

theorem rejected_at_first_fault (root : Node) :
    (root.hasFault = true ↔ ∃ n ∈ root.preorder, n.isFault = true) ∧
    (∃ rounds, rounds ≤ root.size ∧ Searches [root] rounds (firstFault [root])) ∧
    firstFault [root] = root.preorder.find? isFault ∧
    (root.hasFault = true →
      root.preorder.find? isFault = some (faultOf root) ∧ (faultOf root).isFault = true) ∧
    ∀ text line column,
      (declarationsOf root).outcome = .error (.unreadable text line column) →
      ∃ n, root.preorder.find? isFault = some n ∧ n.isFault = true ∧
        text = n.text ∧ line = n.line ∧ column = n.column := by
  have all : preorderAll [root] = root.preorder := by simp [preorderAll]
  have found : firstFault [root] = root.preorder.find? isFault := by rw [firstFault_find, all]
  have first : root.hasFault = true →
      root.preorder.find? isFault = some (faultOf root) ∧ (faultOf root).isFault = true := by
    intro faulty
    obtain ⟨m, member, fault⟩ := hasFault_exact.mp faulty
    obtain ⟨n, here⟩ := Option.isSome_iff_exists.mp
      (List.find?_isSome.mpr ⟨m, member, fault⟩)
    have same : faultOf root = n := faultOf_found (found.trans here)
    rw [same]
    exact ⟨here, List.find?_some here⟩
  refine ⟨hasFault_exact, ?_, found, first, ?_⟩
  · obtain ⟨rounds, few, searches⟩ := firstFault_searches [root]
    exact ⟨rounds, by simpa [sizes] using few, searches⟩
  · intro text line column rejected
    obtain ⟨faulty, sameText, sameLine, sameColumn⟩ := rejected_faulty rejected
    obtain ⟨here, fault⟩ := first faulty
    exact ⟨faultOf root, here, fault, sameText, sameLine, sameColumn⟩

-- A token that is lacking inside of a parenthesis, and unreadable text beside the parenthesis and
-- behind the statement. The deepest of the three faults comes first.
def lackingToken : Node := ⟨.mark, none, ⟨3, 1, 1⟩, [], true, []⟩

def faultyTree : Node :=
  let inside : Node := ⟨.expression, none, ⟨2, 1, 0⟩, ['('], false,
    [.leaf .mark ⟨2, 1, 0⟩ ['('], lackingToken]⟩
  ⟨.program, none, .origin, "f\n(#@".toList, false,
    [.leaf .identifier .origin ['f'],
      ⟨.statement, none, ⟨2, 1, 0⟩, "(#".toList, false,
        [inside, .leaf .unreadable ⟨3, 1, 1⟩ ['#']]⟩,
      .leaf .unreadable ⟨4, 1, 2⟩ ['@']]⟩

theorem faultyTree_walk : (walk [faultyTree]).outcome = .ok [] := by
  have reads : ∀ n ∈ faultyTree.visited, ∃ found, (readDeclaration n).outcome = .ok found := by
    intro n member
    have plain : n.kind ≠ .typeAlias ∧ n.kind ≠ .enumeration ∧ n.kind ≠ .call := by
      revert n
      decide +kernel
    unfold readDeclaration
    split
    next kind => exact absurd kind plain.1
    next kind => exact absurd kind plain.2.1
    next kind => exact absurd kind plain.2.2
    next => exact ⟨none, rfl⟩
  exact walk_declared reads

theorem rejected_at_first_fault_deep :
    faultyTree.hasFault = true ∧
    faultyTree.preorder.find? isFault = some (faultOf faultyTree) ∧
    (declarationsOf faultyTree).outcome = .error (.unreadable [] 2 2) ∧
    ∃ n, faultyTree.preorder.find? isFault = some n ∧ n.isFault = true ∧
      [] = n.text ∧ 2 = n.line ∧ 2 = n.column := by
  obtain ⟨_, _, found, first, points⟩ := rejected_at_first_fault faultyTree
  have lacking : faultOf faultyTree = lackingToken := faultOf_found (found.trans rfl)
  have rejected : (declarationsOf faultyTree).outcome = .error (.unreadable [] 2 2) := by
    rw [declarationsOf_outcome, faultyTree_walk, lacking]
    rfl
  exact ⟨rfl, (first rfl).1, rejected, points [] 2 2 rejected⟩

end DeclSchema.Source
