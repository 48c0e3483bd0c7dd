import DeclSchema.Source.ShapeReading

/-!
What the readers of types look at. Each of them is told by the content of a list of nodes or by the
first node that plays a role, so neither comments nor marks nor places play a part.
-/

namespace DeclSchema.Source

/-! ### Chains -/

-- The two ways of joining types.
inductive Chain where
  | union
  | intersection
deriving DecidableEq

namespace Chain

def kind : Chain → Kind
  | union => .unionType
  | intersection => .intersectionType

theorem kind_injective {first second : Chain} (same : first.kind = second.kind) : first = second := by
  cases first <;> cases second <;> first | rfl | cases same

-- A single operand stands for itself.
def join (chain : Chain) (operands : List Shape) : Shape :=
  match operands with
  | [single] => single
  | operands =>
    match chain with
    | union => .union operands
    | intersection => .intersection operands

end Chain

namespace Node

mutual
-- What a node gives to a chain that it stands in: itself, or its own operands when it is a node of
-- that chain.
def operands (chain : Chain) : Node → List Node
  | ⟨kind, role, place, text, missing, children⟩ =>
    if kind = chain.kind then operandsIn chain children
    else [⟨kind, role, place, text, missing, children⟩]
def operandsIn (chain : Chain) : List Node → List Node
  | [] => []
  | n :: rest => if n.isContent then operands chain n ++ operandsIn chain rest else operandsIn chain rest
end

theorem operands_inside {chain : Chain} {n : Node} (kind : n.kind = chain.kind) :
    n.operands chain = operandsIn chain n.children := by
  cases n with
  | mk => simp_all [operands]

theorem operands_self {chain : Chain} {n : Node} (other : n.kind ≠ chain.kind) :
    n.operands chain = [n] := by
  cases n with
  | mk => simp_all [operands]

theorem operandsIn_append (chain : Chain) (first second : List Node) :
    operandsIn chain (first ++ second) = operandsIn chain first ++ operandsIn chain second := by
  induction first with
  | nil => rfl
  | cons n rest ih =>
    rw [List.cons_append, operandsIn, operandsIn, ih]
    split
    · rw [List.append_assoc]
    · rfl

theorem operandsIn_content (chain : Chain) (nodes : List Node) :
    operandsIn chain nodes = (nodes.filter isContent).flatMap (operands chain) := by
  induction nodes with
  | nil => rfl
  | cons n rest ih =>
    rw [operandsIn]
    cases content : n.isContent with
    | true => rw [if_pos rfl, List.filter_cons_of_pos content, List.flatMap_cons, ih]
    | false => rw [if_neg (by decide), List.filter_cons_of_neg (by simp [content]), ih]

end Node

open Node

/-! ### Lists of nodes -/

theorem mapM_single {α β : Type} (read : α → Except Fault β) (a : α) :
    [a].mapM read = (read a).map ([·]) := by
  rw [List.mapM_cons, List.mapM_nil]
  cases read a <;> rfl

theorem readShapes_content (nodes : List Node) :
    readShapes nodes = (nodes.filter isContent).mapM readShape := by
  induction nodes with
  | nil => rfl
  | cons n rest ih =>
    rw [readShapes]
    cases content : n.isContent with
    | true => rw [if_pos rfl, List.filter_cons_of_pos content, List.mapM_cons, ih]
    | false => rw [if_neg (by decide), List.filter_cons_of_neg (by simp [content]), ih]

theorem readMembers_content (nodes : List Node) :
    readMembers nodes = (nodes.filter isContent).mapM readMember := by
  induction nodes with
  | nil => rfl
  | cons n rest ih =>
    rw [readMembers]
    cases content : n.isContent with
    | true => rw [if_pos rfl, List.filter_cons_of_pos content, List.mapM_cons, ih]
    | false => rw [if_neg (by decide), List.filter_cons_of_neg (by simp [content]), ih]

theorem readFirst_content (nodes : List Node) :
    readFirst nodes = ((nodes.filter isContent).head?.map readShape).getD (.error .malformed) := by
  induction nodes with
  | nil => rfl
  | cons n rest ih =>
    rw [readFirst]
    cases content : n.isContent with
    | true =>
      rw [if_pos rfl, List.filter_cons_of_pos content]
      rfl
    | false => rw [if_neg (by decide), List.filter_cons_of_neg (by simp [content]), ih]

mutual
theorem readOperands_node (chain : Chain) : ∀ n : Node,
    (if n.kind = chain.kind then readOperands chain.kind n.children else (readShape n).map ([·])) =
      (n.operands chain).mapM readShape
  | ⟨kind, role, place, text, missing, children⟩ => by
    rw [operands]
    dsimp only
    split
    next => exact readOperands_operands chain children
    next => rw [mapM_single]
theorem readOperands_operands (chain : Chain) : ∀ nodes : List Node,
    readOperands chain.kind nodes = (operandsIn chain nodes).mapM readShape
  | [] => rfl
  | ⟨kind, role, place, text, missing, children⟩ :: rest => by
    have here := readOperands_node chain ⟨kind, role, place, text, missing, children⟩
    dsimp only at here
    rw [readOperands, operandsIn, readOperands_operands chain rest]
    split
    next =>
      rw [List.mapM_append, ← here]
      split
      next => rfl
      next => rfl
    next => rfl
end

theorem readArguments_found (nodes : List Node) :
    readArguments nodes =
      ((nodes.find? (·.role = some .typeArguments)).map (readShapes ·.children)).getD (.ok []) := by
  induction nodes with
  | nil => rfl
  | cons n rest ih =>
    obtain ⟨kind, role, place, text, missing, inner⟩ := n
    unfold readArguments
    split
    next same =>
      cases same
      rw [List.find?_cons_of_pos (by simp)]
      rfl
    next other =>
      rw [List.find?_cons_of_neg ?_, ih]
      simp only [decide_eq_true_eq]
      rintro rfl
      exact other _ _ _ _ _ rfl

theorem readTyping_found (nodes : List Node) :
    readTyping nodes =
      ((nodes.find? (·.role = some .typing)).map fun n =>
        (readFirst n.children).map fun shape => some (n.kind, shape)).getD (.ok none) := by
  induction nodes with
  | nil => rfl
  | cons n rest ih =>
    obtain ⟨kind, role, place, text, missing, inner⟩ := n
    unfold readTyping
    split
    next same =>
      cases same
      rw [List.find?_cons_of_pos (by simp)]
      rfl
    next other =>
      rw [List.find?_cons_of_neg ?_, ih]
      simp only [decide_eq_true_eq]
      rintro rfl
      exact other _ _ _ _ _ rfl

/-! ### Types -/

theorem chain_children (chain : Chain) (role : Option Role) (place : Place) (text : List Char)
    (missing : Bool) (children : List Node) :
    readShape ⟨chain.kind, role, place, text, missing, children⟩ =
      ((operandsIn chain children).mapM readShape).map chain.join := by
  rw [← readOperands_operands]
  cases chain
  all_goals
    unfold readShape Chain.kind
    dsimp only
    rcases readOperands _ children with _ | ⟨_ | ⟨_, _ | ⟨_, _⟩⟩⟩ <;> rfl

theorem chain_shape {chain : Chain} {n : Node} (kind : n.kind = chain.kind) :
    readShape n = ((n.operands chain).mapM readShape).map chain.join := by
  rw [operands_inside kind]
  obtain ⟨_, role, place, text, missing, children⟩ := n
  obtain rfl := kind
  exact chain_children chain role place text missing children

-- Joined again, the operands of any type are that type.
theorem operands_joined (chain : Chain) (n : Node) :
    ((n.operands chain).mapM readShape).map chain.join = readShape n := by
  by_cases kind : n.kind = chain.kind
  · exact (chain_shape kind).symm
  · rw [operands_self kind, mapM_single]
    cases readShape n <;> rfl

theorem operands_lone {chain : Chain} {n : Node} (lone : (n.operands chain).length = 1) :
    (n.operands chain).mapM readShape = (readShape n).map ([·]) := by
  rw [← operands_joined chain n]
  obtain ⟨m, single⟩ := List.length_eq_one_iff.mp lone
  rw [single, mapM_single]
  cases readShape m <;> rfl

/-! ### Places -/

namespace Node

mutual
-- The tree without the places of its nodes.
def unplaced : Node → Node
  | ⟨kind, role, _, text, missing, children⟩ =>
    ⟨kind, role, .origin, text, missing, unplacedAll children⟩
def unplacedAll : List Node → List Node
  | [] => []
  | n :: rest => unplaced n :: unplacedAll rest
end

theorem unplacedAll_map (nodes : List Node) : unplacedAll nodes = nodes.map unplaced := by
  induction nodes with
  | nil => rfl
  | cons n rest ih => rw [unplacedAll, ih, List.map_cons]

theorem unplaced_parts (n : Node) :
    n.unplaced.kind = n.kind ∧ n.unplaced.role = n.role ∧ n.unplaced.text = n.text ∧
      n.unplaced.children = unplacedAll n.children := by
  cases n with
  | mk => exact ⟨rfl, rfl, rfl, rfl⟩

theorem unplaced_isContent (n : Node) : n.unplaced.isContent = n.isContent := by
  cases n with
  | mk => rfl

theorem unplaced_textString (n : Node) : n.unplaced.textString = n.textString := by
  cases n with
  | mk => rfl

theorem unplaced_unquoted (n : Node) : n.unplaced.unquoted = n.unquoted := by
  cases n with
  | mk => rfl

end Node

theorem readLiteral_unplaced (text : List Char) (nodes : List Node) :
    readLiteral text (unplacedAll nodes) = readLiteral text nodes := by
  have found : (unplacedAll nodes).find? isContent = (nodes.find? isContent).map unplaced := by
    rw [unplacedAll_map, List.find?_map]
    congr 2
    funext n
    exact n.unplaced_isContent
  unfold readLiteral
  rw [found]
  cases nodes.find? isContent with
  | none => rfl
  | some value =>
    cases value with
    | mk => rfl

theorem bind_mapped {α β γ : Type} (x : Except Fault α) (f : α → β) (g : β → Except Fault γ) :
    x.map f >>= g = x >>= fun a => g (f a) := by
  cases x <;> rfl

theorem nameOf_unplaced (nodes : List Node) :
    nameOf (unplacedAll nodes) = (nameOf nodes).map unplaced := by
  have found : (unplacedAll nodes).find? (·.role = some .name) =
      (nodes.find? (·.role = some .name)).map unplaced := by
    rw [unplacedAll_map, List.find?_map]
    congr 2
    funext n
    simp [n.unplaced_parts.2.1]
  unfold nameOf
  rw [found]
  cases nodes.find? (·.role = some .name) <;> rfl

theorem marksOptional_unplaced (nodes : List Node) :
    marksOptional (unplacedAll nodes) = marksOptional nodes := by
  unfold marksOptional
  rw [unplacedAll_map, List.any_map]
  congr 1
  funext n
  obtain ⟨kind, _, text, _⟩ := n.unplaced_parts
  simp [kind, text]

mutual

theorem readShape_unplaced : ∀ n : Node, readShape n.unplaced = readShape n
  | ⟨kind, role, place, text, missing, children⟩ => by
    have arguments := readArguments_unplaced children
    have members := readMembers_unplaced children
    have unions := readOperands_unplaced .unionType children
    have intersections := readOperands_unplaced .intersectionType children
    have first := readFirst_unplaced children
    have shapes := readShapes_unplaced children
    rw [unplaced]
    unfold readShape
    simp only [arguments, members, unions, intersections, first, shapes, nameOf_unplaced,
      bind_mapped, unplaced_textString, readLiteral_unplaced]

theorem readShapes_unplaced : ∀ nodes : List Node, readShapes (unplacedAll nodes) = readShapes nodes
  | [] => rfl
  | n :: rest => by
    rw [unplacedAll, readShapes, readShapes, n.unplaced_isContent, readShape_unplaced n,
      readShapes_unplaced rest]

theorem readFirst_unplaced : ∀ nodes : List Node, readFirst (unplacedAll nodes) = readFirst nodes
  | [] => rfl
  | n :: rest => by
    rw [unplacedAll, readFirst, readFirst, n.unplaced_isContent, readShape_unplaced n,
      readFirst_unplaced rest]

theorem readArguments_unplaced : ∀ nodes : List Node,
    readArguments (unplacedAll nodes) = readArguments nodes
  | [] => rfl
  | ⟨kind, role, place, text, missing, inner⟩ :: rest => by
    have held := readShapes_unplaced inner
    have later := readArguments_unplaced rest
    rw [unplacedAll, unplaced]
    unfold readArguments
    rw [later]
    cases role with
    | none => rfl
    | some role => cases role <;> first | rfl | exact held

theorem readOperands_unplaced (chain : Kind) : ∀ nodes : List Node,
    readOperands chain (unplacedAll nodes) = readOperands chain nodes
  | [] => rfl
  | ⟨kind, role, place, text, missing, inner⟩ :: rest => by
    have own := readShape_unplaced ⟨kind, role, place, text, missing, inner⟩
    have held := readOperands_unplaced chain inner
    have later := readOperands_unplaced chain rest
    rw [unplaced] at own
    rw [unplacedAll, unplaced]
    unfold readOperands
    rw [later, own]
    simp only [held]
    rfl

theorem readMembers_unplaced : ∀ nodes : List Node, readMembers (unplacedAll nodes) = readMembers nodes
  | [] => rfl
  | n :: rest => by
    rw [unplacedAll, readMembers, readMembers, n.unplaced_isContent, readMember_unplaced n,
      readMembers_unplaced rest]

theorem readMember_unplaced : ∀ n : Node, readMember n.unplaced = readMember n
  | ⟨kind, role, place, text, missing, children⟩ => by
    have typing := readTyping_unplaced children
    rw [unplaced]
    unfold readMember
    simp only [typing, nameOf_unplaced, bind_mapped, unplaced_unquoted, marksOptional_unplaced]

theorem readTyping_unplaced : ∀ nodes : List Node, readTyping (unplacedAll nodes) = readTyping nodes
  | [] => rfl
  | ⟨kind, role, place, text, missing, inner⟩ :: rest => by
    have held := readFirst_unplaced inner
    have later := readTyping_unplaced rest
    rw [unplacedAll, unplaced]
    unfold readTyping
    rw [later]
    cases role with
    | none => rfl
    | some role => cases role <;> first | rfl | exact congrArg (·.map fun shape => some (kind, shape)) held

end

end DeclSchema.Source
