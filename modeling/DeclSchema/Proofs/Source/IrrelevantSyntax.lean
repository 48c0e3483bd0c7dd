import DeclSchema.Proofs.Source.Faults
import DeclSchema.Proofs.Source.ShapeContents
import DeclSchema.Proofs.Source.SoundShapes
import Mathlib.Logic.Relation

/-!
Syntax that reading passes over. A type can be commented, put in parentheses or behind `readonly`,
and a chain of types can be grouped in many ways; whatever shape is read from one of these trees is
read from all of them.
-/

namespace DeclSchema.Source

open Node

/-! ### Positions -/

-- What a member is read from.
def Node.isMemberPart (n : Node) : Bool :=
  n.role = some .name || n.role = some .typing || n.kind = .mark

-- How a node is read by the one that it stands in.
inductive Position where
  | type
  -- A type that stands in a node of a chain.
  | operand (chain : Chain)
  | arguments
  | member
  | typing

-- The children of a type that are read. Of a literal type the text counts as well, and of all other
-- types the text alone.
def Kind.shown? : Kind → Option (Node → Bool)
  | .genericType => some fun n => n.role = some .name || n.role = some .typeArguments
  | .objectType => some Node.isContent
  | .unionType => some Node.isContent
  | .intersectionType => some Node.isContent
  | .arrayType => some Node.isContent
  | .lookupType => some Node.isContent
  | .parenthesizedType => some Node.isContent
  | .readonlyType => some Node.isContent
  | _ => none

-- How a child of a type is read.
def Kind.below? (kind : Kind) (role : Option Role) : Option Position :=
  match kind with
  | .genericType => if role = some .typeArguments then some .arguments else none
  | .objectType => some .member
  | .unionType => some (.operand .union)
  | .intersectionType => some (.operand .intersection)
  | .arrayType => some .type
  | .lookupType => some .type
  | .parenthesizedType => some .type
  | .readonlyType => some .type
  | _ => none

def Kind.wraps : Kind → Bool
  | .parenthesizedType => true
  | .readonlyType => true
  | .unionType => true
  | .intersectionType => true
  | _ => false

namespace Position

def holdsType : Position → Bool
  | type => true
  | operand _ => true
  | _ => false

def shown? (position : Position) (kind : Kind) : Option (Node → Bool) :=
  match position with
  | type => kind.shown?
  | operand _ => kind.shown?
  | arguments => some Node.isContent
  | member => some Node.isMemberPart
  | typing => some Node.isContent

def below? (position : Position) (kind : Kind) (role : Option Role) : Option Position :=
  match position with
  | type => kind.below? role
  | operand _ => kind.below? role
  | arguments => some type
  | member =>
    if (kind = .propertySignature ∨ kind = .indexSignature) ∧ role = some .typing then some typing
    else none
  | typing => some type

end Position

/-! ### Changes -/

-- One change of a tree at a node that is read in some position.
inductive Change : Position → Node → Node → Prop where
  -- The tree stands elsewhere in its source.
  | moved {position : Position} {n n' : Node} : n.unplaced = n'.unplaced → Change position n n'
  -- Children that are not read come, go or change: comments, marks, and of members all but their
  -- name, their annotation and their marks. The text of the node changes with them.
  | refilled {position : Position} {kind : Kind} {role : Option Role} {place place' : Place}
      {text text' : List Char} {missing missing' : Bool} {children children' : List Node}
      {shows : Node → Bool} : position.shown? kind = some shows →
      children.filter shows = children'.filter shows →
      Change position ⟨kind, role, place, text, missing, children⟩
        ⟨kind, role, place', text', missing', children'⟩
  -- A type is put in parentheses, behind `readonly`, or behind the sign of a chain that has no other
  -- operand. What gives several operands to the chain that it stands in stays as it is.
  | wrapped {position : Position} {n : Node} {wrapper : Kind} {role : Option Role} {place : Place}
      {text : List Char} {missing : Bool} {front back : List Node} : position.holdsType = true →
      n.isContent = true → wrapper.wraps = true →
      (∀ chain, position = .operand chain → n.kind = chain.kind → (n.operands chain).length = 1) →
      (∀ m ∈ front ++ back, m.isContent = false) →
      Change position n ⟨wrapper, n.role, place, text, missing, front ++ { n with role } :: back⟩
  -- The operands of a chain are grouped in another way.
  | regrouped {position : Position} {chain : Chain} {n n' : Node} : position.holdsType = true →
      n.kind = chain.kind → n'.kind = chain.kind → n.role = n'.role →
      n.operands chain = n'.operands chain → Change position n n'
  | inside {position lower : Position} {kind : Kind} {role : Option Role} {place : Place}
      {text : List Char} {missing : Bool} {front back : List Node} {n n' : Node} :
      n.isContent = true → position.below? kind n.role = some lower → Change lower n n' →
      Change position ⟨kind, role, place, text, missing, front ++ n :: back⟩
        ⟨kind, role, place, text, missing, front ++ n' :: back⟩

-- What is read of a node in a position.
def Agrees : Position → Node → Node → Prop
  | .type, n, n' => readShape n = readShape n'
  | .operand chain, n, n' =>
    (n.operands chain).mapM readShape = (n'.operands chain).mapM readShape
  | .arguments, n, n' => readShapes n.children = readShapes n'.children
  | .member, n, n' => readMember n = readMember n'
  | .typing, n, n' => n.kind = n'.kind ∧ readFirst n.children = readFirst n'.children

-- Two nodes that can stand for each other in a position.
structure Alike (position : Position) (n n' : Node) : Prop where
  role : n.role = n'.role
  content : n.isContent = n'.isContent
  agrees : Agrees position n n'

/-! ### Lists of nodes with one of them changed -/

section

variable {n n' : Node} {front back : List Node}

theorem mapM_replaced {β : Type} {p : Node → Bool} {read : Node → Except Fault β} (hit : p n = true)
    (hit' : p n' = true) (agrees : read n = read n') :
    ((front ++ n :: back).filter p).mapM read = ((front ++ n' :: back).filter p).mapM read := by
  rw [List.filter_append, List.filter_append, List.filter_cons_of_pos hit, List.filter_cons_of_pos hit',
    List.mapM_append, List.mapM_append, List.mapM_cons, List.mapM_cons, agrees]

theorem find_replaced {β : Type} {p : Node → Bool} {f : Node → β} (hit : p n = true)
    (hit' : p n' = true) (agrees : f n = f n') :
    ((front ++ n :: back).find? p).map f = ((front ++ n' :: back).find? p).map f := by
  rw [List.find?_append, List.find?_append, List.find?_cons_of_pos hit, List.find?_cons_of_pos hit']
  cases front.find? p with
  | some m => rfl
  | none => exact congrArg some agrees

theorem nameOf_replaced (other : n.role ≠ some .name) (other' : n'.role ≠ some .name) :
    nameOf (front ++ n :: back) = nameOf (front ++ n' :: back) := by
  unfold nameOf
  rw [List.find?_append, List.find?_append, List.find?_cons_of_neg (by simpa using other),
    List.find?_cons_of_neg (by simpa using other')]

theorem marksOptional_replaced (content : n.isContent = true) (content' : n'.isContent = true) :
    marksOptional (front ++ n :: back) = marksOptional (front ++ n' :: back) := by
  have unmarked : ∀ m : Node, m.isContent = true → m.kind ≠ .mark := by
    rintro m content kind
    rw [isContent, kind] at content
    cases content
  unfold marksOptional
  rw [List.any_append, List.any_append, List.any_cons, List.any_cons]
  simp [unmarked n content, unmarked n' content']

variable (content : n.isContent = true)
include content

theorem readShapes_replaced (alike : Alike .type n n') :
    readShapes (front ++ n :: back) = readShapes (front ++ n' :: back) := by
  rw [readShapes_content, readShapes_content]
  exact mapM_replaced content (alike.content ▸ content) alike.agrees

theorem readMembers_replaced (alike : Alike .member n n') :
    readMembers (front ++ n :: back) = readMembers (front ++ n' :: back) := by
  rw [readMembers_content, readMembers_content]
  exact mapM_replaced content (alike.content ▸ content) alike.agrees

theorem readFirst_replaced (alike : Alike .type n n') :
    readFirst (front ++ n :: back) = readFirst (front ++ n' :: back) := by
  rw [readFirst_content, readFirst_content, List.head?_filter, List.head?_filter,
    find_replaced content (alike.content ▸ content) alike.agrees]

theorem readOperands_replaced {chain : Chain} (alike : Alike (.operand chain) n n') :
    (operandsIn chain (front ++ n :: back)).mapM readShape =
      (operandsIn chain (front ++ n' :: back)).mapM readShape := by
  have agrees : (n.operands chain).mapM readShape = (n'.operands chain).mapM readShape := alike.agrees
  rw [operandsIn_append, operandsIn_append, List.mapM_append, List.mapM_append, operandsIn, operandsIn,
    if_pos content, if_pos (alike.content ▸ content), List.mapM_append, List.mapM_append, agrees]

end

/-! ### One change -/

-- A type agrees in every position when its kind, its shape and its operands stay the same.
theorem type_agrees {position : Position} {n n' : Node} (holds : position.holdsType = true)
    (kind : n.kind = n'.kind) (shape : readShape n = readShape n')
    (chained : ∀ chain, n.kind = chain.kind →
      (n.operands chain).mapM readShape = (n'.operands chain).mapM readShape) :
    Agrees position n n' := by
  cases position with
  | type => exact shape
  | operand chain =>
    by_cases same : n.kind = chain.kind
    · exact chained chain same
    · change (n.operands chain).mapM readShape = (n'.operands chain).mapM readShape
      rw [operands_self same, operands_self (kind ▸ same), mapM_single, mapM_single, shape]
  | _ => cases holds

theorem unplaced_agrees (position : Position) (n : Node) : Agrees position n.unplaced n := by
  obtain ⟨kind, _, _, children⟩ := n.unplaced_parts
  cases position with
  | type => exact readShape_unplaced n
  | operand chain =>
    change (n.unplaced.operands chain).mapM readShape = (n.operands chain).mapM readShape
    rw [← readOperands_node, ← readOperands_node, kind, children, readOperands_unplaced,
      readShape_unplaced]
  | arguments =>
    change readShapes n.unplaced.children = readShapes n.children
    rw [children, readShapes_unplaced]
  | member => exact readMember_unplaced n
  | typing =>
    refine ⟨kind, ?_⟩
    rw [children, readFirst_unplaced]

theorem Agrees.symm {position : Position} {n n' : Node} (agrees : Agrees position n n') :
    Agrees position n' n := by
  cases position with
  | typing => exact ⟨agrees.1.symm, agrees.2.symm⟩
  | _ => exact Eq.symm agrees

theorem Agrees.trans {position : Position} {n m n' : Node} (first : Agrees position n m)
    (second : Agrees position m n') : Agrees position n n' := by
  cases position with
  | typing => exact ⟨first.1.trans second.1, first.2.trans second.2⟩
  | _ => exact Eq.trans first second

theorem moved_alike {position : Position} {n n' : Node} (same : n.unplaced = n'.unplaced) :
    Alike position n n' := by
  refine ⟨?_, ?_, ?_⟩
  · rw [← n.unplaced_parts.2.1, same, n'.unplaced_parts.2.1]
  · rw [← n.unplaced_isContent, same, n'.unplaced_isContent]
  · have agrees := unplaced_agrees position n
    rw [same] at agrees
    exact agrees.symm.trans (unplaced_agrees position n')

section

variable {kind : Kind} {role : Option Role} {place place' : Place} {text text' : List Char}
  {missing missing' : Bool} {children children' : List Node}

theorem find_shown {p shows : Node → Bool} (shown : ∀ n, p n = true → shows n = true)
    (same : children.filter shows = children'.filter shows) : children.find? p = children'.find? p := by
  have both : ∀ nodes : List Node, nodes.find? p = (nodes.filter shows).find? p := by
    intro nodes
    rw [List.find?_filter]
    congr 1
    funext n
    cases hit : p n with
    | true => simp [shown n hit]
    | false => simp
  rw [both, both children', same]

theorem operandsIn_shown (chain : Chain) (same : children.filter isContent = children'.filter isContent) :
    operandsIn chain children = operandsIn chain children' := by
  rw [operandsIn_content, operandsIn_content, same]

theorem shape_refilled {shows : Node → Bool} (shown : kind.shown? = some shows)
    (same : children.filter shows = children'.filter shows) :
    readShape ⟨kind, role, place, text, missing, children⟩ =
      readShape ⟨kind, role, place', text', missing', children'⟩ := by
  have chained : ∀ chain : Chain, kind = chain.kind → shows = isContent →
      readShape ⟨kind, role, place, text, missing, children⟩ =
        readShape ⟨kind, role, place', text', missing', children'⟩ := by
    rintro chain rfl rfl
    rw [chain_children, chain_children, operandsIn_shown chain same]
  unfold Kind.shown? at shown
  split at shown <;> cases shown
  case h_1 =>
    have name := find_shown (p := (·.role = some .name)) (by simp +contextual) same
    have arguments := find_shown (p := (·.role = some .typeArguments)) (by simp +contextual) same
    unfold readShape nameOf
    simp only [readArguments_found, name, arguments]
  case h_3 => exact chained .union rfl rfl
  case h_4 => exact chained .intersection rfl rfl
  all_goals
    unfold readShape
    simp only [readMembers_content, readFirst_content, readShapes_content, same]

theorem member_refilled (same : children.filter isMemberPart = children'.filter isMemberPart) :
    readMember ⟨kind, role, place, text, missing, children⟩ =
      readMember ⟨kind, role, place', text', missing', children'⟩ := by
  have name := find_shown (p := (·.role = some .name)) (by simp +contextual [isMemberPart]) same
  have typing := find_shown (p := (·.role = some .typing)) (by simp +contextual [isMemberPart]) same
  have mark := find_shown (p := fun n => n.kind = .mark && n.text = ['?'])
    (by simp +contextual [isMemberPart]) same
  have marks : marksOptional children = marksOptional children' := by
    unfold marksOptional
    rw [← List.isSome_find?, mark, List.isSome_find?]
  unfold readMember nameOf
  simp only [readTyping_found, name, typing, marks]

theorem refilled_alike {position : Position} {shows : Node → Bool}
    (shown : position.shown? kind = some shows) (same : children.filter shows = children'.filter shows) :
    Alike position ⟨kind, role, place, text, missing, children⟩
      ⟨kind, role, place', text', missing', children'⟩ := by
  refine ⟨rfl, rfl, ?_⟩
  have typed : position.holdsType = true → kind.shown? = some shows → Agrees position
      ⟨kind, role, place, text, missing, children⟩ ⟨kind, role, place', text', missing', children'⟩ := by
    intro holds shown
    refine type_agrees holds rfl (shape_refilled shown same) fun chain chained => ?_
    change kind = chain.kind at chained
    have content : isContent = shows := by
      subst chained
      cases chain <;> exact Option.some.inj shown
    rw [operands_inside chained, operands_inside chained, operandsIn_shown chain (content ▸ same)]
  cases position with
  | type => exact typed rfl shown
  | operand chain => exact typed rfl shown
  | arguments =>
    cases shown
    exact (readShapes_content children).trans (same ▸ (readShapes_content children').symm)
  | member =>
    cases shown
    exact member_refilled same
  | typing =>
    cases shown
    exact ⟨rfl, (readFirst_content children).trans (same ▸ (readFirst_content children').symm)⟩

end

section

variable {n : Node} {wrapper : Kind} {role : Option Role} {place : Place} {text : List Char}
  {missing : Bool} {front back : List Node}

theorem content_wrapped (content : n.isContent = true)
    (others : ∀ m ∈ front ++ back, m.isContent = false) : (front ++ n :: back).filter isContent = [n] := by
  have none : ∀ nodes : List Node, (∀ m ∈ nodes, m ∈ front ++ back) → nodes.filter isContent = [] := by
    intro nodes inside
    exact List.filter_eq_nil_iff.mpr fun m member => by simp [others m (inside m member)]
  rw [List.filter_append, List.filter_cons_of_pos content, none front (by simp +contextual),
    none back (by simp +contextual), List.nil_append]

theorem shape_wrapped (content : n.isContent = true) (wraps : wrapper.wraps = true)
    (others : ∀ m ∈ front ++ back, m.isContent = false) :
    readShape ⟨wrapper, role, place, text, missing, front ++ n :: back⟩ = readShape n := by
  have alone := content_wrapped content others
  have chained : ∀ chain : Chain, wrapper = chain.kind →
      readShape ⟨wrapper, role, place, text, missing, front ++ n :: back⟩ = readShape n := by
    rintro chain rfl
    rw [chain_children, operandsIn_content, alone, List.flatMap_singleton, operands_joined]
  have first : readFirst (front ++ n :: back) = readShape n := by
    rw [readFirst_content, alone]
    rfl
  unfold Kind.wraps at wraps
  split at wraps
  case h_1 => exact first
  case h_2 => exact first
  case h_3 => exact chained .union rfl
  case h_4 => exact chained .intersection rfl
  case h_5 => cases wraps

theorem readShape_played (n : Node) (role : Option Role) : readShape { n with role } = readShape n := by
  cases n with
  | mk => rfl

theorem operands_played (chain : Chain) (n : Node) (role : Option Role) :
    (({ n with role } : Node).operands chain).mapM readShape = (n.operands chain).mapM readShape := by
  obtain ⟨kind, own, place, text, missing, children⟩ := n
  rw [operands, operands]
  split
  · rfl
  · rw [mapM_single, mapM_single]
    rfl

theorem wrapped_alike {position : Position} (holds : position.holdsType = true)
    (content : n.isContent = true) (wraps : wrapper.wraps = true)
    (lone : ∀ chain, position = .operand chain → n.kind = chain.kind → (n.operands chain).length = 1)
    (others : ∀ m ∈ front ++ back, m.isContent = false) :
    Alike position n ⟨wrapper, n.role, place, text, missing, front ++ { n with role } :: back⟩ := by
  have shape : readShape ⟨wrapper, n.role, place, text, missing, front ++ { n with role } :: back⟩ =
      readShape n := by
    rw [shape_wrapped (n := { n with role }) content wraps others, readShape_played]
  refine ⟨rfl, ?_, ?_⟩
  · rw [content]
    cases wrapper <;> first | rfl | cases wraps
  · cases position with
    | type => exact shape.symm
    | operand chain =>
      change (n.operands chain).mapM readShape = _
      -- In a chain of its own kind the wrapper gives the operands of what it holds. In any other
      -- chain it is one operand, and so was what it holds.
      by_cases kind : wrapper = chain.kind
      · rw [operands_inside (n := ⟨wrapper, _, _, _, _, _⟩) kind, operandsIn_content,
          content_wrapped (n := { n with role }) content others, List.flatMap_singleton, operands_played]
      · have single : (n.operands chain).length = 1 := by
          by_cases own : n.kind = chain.kind
          · exact lone chain rfl own
          · rw [operands_self own, List.length_singleton]
        rw [operands_lone single, operands_self (n := ⟨wrapper, _, _, _, _, _⟩) kind, mapM_single, shape]
    | _ => cases holds

end

theorem regrouped_alike {position : Position} {chain : Chain} {n n' : Node}
    (holds : position.holdsType = true) (kind : n.kind = chain.kind) (kind' : n'.kind = chain.kind)
    (role : n.role = n'.role) (same : n.operands chain = n'.operands chain) : Alike position n n' := by
  refine ⟨role, by unfold isContent; rw [kind, kind'], ?_⟩
  refine type_agrees holds (kind.trans kind'.symm) ?_ fun other own => ?_
  · rw [chain_shape kind, chain_shape kind', same]
  · cases Chain.kind_injective (own.symm.trans kind)
    rw [same]

section

variable {position lower : Position} {kind : Kind} {role : Option Role} {place : Place}
  {text : List Char} {missing : Bool} {front back : List Node} {n n' : Node}

theorem shape_inside (content : n.isContent = true) (below : kind.below? n.role = some lower)
    (alike : Alike lower n n') :
    readShape ⟨kind, role, place, text, missing, front ++ n :: back⟩ =
      readShape ⟨kind, role, place, text, missing, front ++ n' :: back⟩ := by
  have chained : ∀ chain : Chain, kind = chain.kind → lower = .operand chain →
      readShape ⟨kind, role, place, text, missing, front ++ n :: back⟩ =
        readShape ⟨kind, role, place, text, missing, front ++ n' :: back⟩ := by
    rintro chain rfl rfl
    rw [chain_children, chain_children, readOperands_replaced content alike]
  unfold Kind.below? at below
  split at below
  case h_1 =>
    split at below <;> cases below
    next played =>
      have played' : n'.role = some .typeArguments := alike.role ▸ played
      have agrees : readShapes n.children = readShapes n'.children := alike.agrees
      have name : nameOf (front ++ n :: back) = nameOf (front ++ n' :: back) :=
        nameOf_replaced (by simp [played]) (by simp [played'])
      unfold readShape
      simp only [readArguments_found, name]
      rw [find_replaced (by simp [played]) (by simp [played']) agrees]
  case h_2 =>
    cases below
    exact congrArg (·.map Shape.object) (readMembers_replaced content alike)
  case h_3 =>
    cases below
    exact chained .union rfl rfl
  case h_4 =>
    cases below
    exact chained .intersection rfl rfl
  case h_9 => cases below
  all_goals
    cases below
    unfold readShape
    simp only [readFirst_replaced content alike, readShapes_replaced content alike]

theorem member_inside (content : n.isContent = true)
    (below : Position.member.below? kind n.role = some lower) (alike : Alike lower n n') :
    readMember ⟨kind, role, place, text, missing, front ++ n :: back⟩ =
      readMember ⟨kind, role, place, text, missing, front ++ n' :: back⟩ := by
  unfold Position.below? at below
  dsimp only at below
  split at below <;> cases below
  next played =>
    obtain ⟨-, played⟩ := played
    have played' : n'.role = some .typing := alike.role ▸ played
    obtain ⟨same, first⟩ : n.kind = n'.kind ∧ readFirst n.children = readFirst n'.children := alike.agrees
    have name : nameOf (front ++ n :: back) = nameOf (front ++ n' :: back) :=
      nameOf_replaced (by simp [played]) (by simp [played'])
    have marks : marksOptional (front ++ n :: back) = marksOptional (front ++ n' :: back) :=
      marksOptional_replaced content (alike.content ▸ content)
    have typing : readTyping (front ++ n :: back) = readTyping (front ++ n' :: back) := by
      have agrees : (readFirst n.children).map (fun shape => some (n.kind, shape)) =
          (readFirst n'.children).map fun shape => some (n'.kind, shape) := by rw [same, first]
      rw [readTyping_found, readTyping_found]
      rw [find_replaced (by simp [played]) (by simp [played']) agrees]
    unfold readMember
    simp only [typing, name, marks]

theorem inside_alike (content : n.isContent = true) (below : position.below? kind n.role = some lower)
    (alike : Alike lower n n') :
    Alike position ⟨kind, role, place, text, missing, front ++ n :: back⟩
      ⟨kind, role, place, text, missing, front ++ n' :: back⟩ := by
  refine ⟨rfl, rfl, ?_⟩
  have typed : position.holdsType = true → kind.below? n.role = some lower → Agrees position
      ⟨kind, role, place, text, missing, front ++ n :: back⟩
      ⟨kind, role, place, text, missing, front ++ n' :: back⟩ := by
    intro holds below
    refine type_agrees holds rfl (shape_inside content below alike) fun chain chained => ?_
    change kind = chain.kind at chained
    obtain rfl : lower = .operand chain := by
      subst chained
      cases chain <;> exact (Option.some.inj below).symm
    rw [operands_inside chained, operands_inside chained]
    exact readOperands_replaced content alike
  cases position with
  | type => exact typed rfl below
  | operand chain => exact typed rfl below
  | arguments =>
    cases below
    exact readShapes_replaced content alike
  | member => exact member_inside content below alike
  | typing =>
    cases below
    exact ⟨rfl, readFirst_replaced content alike⟩

end

theorem change_alike {position : Position} {n n' : Node} (change : Change position n n') :
    Alike position n n' := by
  induction change with
  | moved same => exact moved_alike same
  | refilled shown same => exact refilled_alike shown same
  | wrapped holds content wraps lone others => exact wrapped_alike holds content wraps lone others
  | regrouped holds kind kind' role same => exact regrouped_alike holds kind kind' role same
  | inside content below _ ih => exact inside_alike content below ih

/-! ### Any number of changes -/

theorem changes_alike {position : Position} {n n' : Node}
    (changes : Relation.EqvGen (Change position) n n') : Alike position n n' := by
  induction changes with
  | rel n n' change => exact change_alike change
  | refl n => exact moved_alike rfl
  | symm n n' _ ih => exact ⟨ih.role.symm, ih.content.symm, ih.agrees.symm⟩
  | trans n m n' _ _ first second =>
    exact ⟨first.role.trans second.role, first.content.trans second.content,
      first.agrees.trans second.agrees⟩

-- Changes leave what is read of a type as it is. Of a type in a source that is a shape whose joins
-- have two parts or more, unless a literal below the type has no value.
theorem irrelevant_syntax_unread {n n' : Node} (changes : Relation.EqvGen (Change .type) n n') :
    readShape n = readShape n' ∧
    ∀ source : List Char, n.Within (Grammar.parse source) →
      (∃ shape, readShape n' = .ok shape ∧ shape.Joined) ∨
        ∃ fault, readShape n' = .error fault ∧ n.Explains fault := by
  have same : readShape n = readShape n' := (changes_alike changes).agrees
  refine ⟨same, fun source within => ?_⟩
  have sound := sound_within within (Grammar.parse_sound source)
  rw [← same]
  cases found : readShape n with
  | ok shape => exact .inl ⟨shape, rfl, readShape_joined n sound shape found⟩
  | error fault => exact .inr ⟨fault, rfl, readShape_explained n sound fault found⟩

-- The type of an alias that begins a source.
def aliasedType? (source : String) : Option Node :=
  (Grammar.parse source.toList).children.head?.bind (·.child? .value)

theorem aliasedType_within {source : String} {n : Node} (found : aliasedType? source = some n) :
    n.Within (Grammar.parse source.toList) := by
  obtain ⟨statement, first, value⟩ := Option.bind_eq_some_iff.mp found
  exact .inside (List.mem_of_head? first) (.inside (List.mem_of_find?_eq_some value) .self)

def nameLeaf (name : String) : Node := leaf .typeName .origin name.toList
def signLeaf (sign : Char) : Node := leaf .mark .origin [sign]
def unionTree (text : String) (children : List Node) : Node :=
  ⟨.unionType, none, .origin, text.toList, false, children⟩
def parenTree (text : String) (n : Node) : Node :=
  ⟨.parenthesizedType, none, .origin, text.toList, false, [signLeaf '('] ++ n :: [signLeaf ')']⟩
def maybeTree (text listed : String) (inner : List Node) : Node :=
  ⟨.genericType, none, .origin, text.toList, false, [(nameLeaf "Maybe").playing .name] ++
    ⟨.typeArguments, some .typeArguments, .origin, listed.toList, false,
      [signLeaf '<'] ++ inner ++ [signLeaf '>']⟩ :: []⟩

def enclosedName : Node := parenTree "(A)" (nameLeaf "A")
def plainUnion : Node := unionTree "A | B" [nameLeaf "A", signLeaf '|', nameLeaf "B"]
def ledUnion : Node :=
  unionTree "| (A) | B" [unionTree "| (A)" [signLeaf '|', enclosedName], signLeaf '|', nameLeaf "B"]
def plainMaybe : Node := maybeTree "Maybe<A | B>" "<A | B>" [plainUnion]
def dressedMaybe : Node :=
  maybeTree "Maybe</* */ | (A) | B>" "</* */ | (A) | B>" [leaf .comment .origin "/* */".toList, ledUnion]

-- An operand gets parentheses, its union a bar in front, and a comment comes before that; in the
-- end the text of the whole type is brought up to date.
theorem dressedMaybe_changes : Relation.EqvGen (Change .type) plainMaybe dressedMaybe := by
  let enclosed := unionTree "A | B" [enclosedName, signLeaf '|', nameLeaf "B"]
  have operand : Change (.operand .union) (nameLeaf "A") enclosedName :=
    .wrapped rfl rfl rfl (fun chain _ kind => by cases chain <;> cases kind) (by decide)
  have enclosing : Change .type plainUnion enclosed :=
    @Change.inside .type _ _ _ _ _ _ [] [signLeaf '|', nameLeaf "B"] _ _ rfl rfl operand
  have leading : Change .type enclosed ledUnion :=
    @Change.regrouped .type .union _ _ rfl rfl rfl rfl rfl
  have argument : ∀ {n n' : Node}, n.isContent = true → Change .type n n' →
      Change .type (maybeTree "Maybe<A | B>" "<A | B>" [n]) (maybeTree "Maybe<A | B>" "<A | B>" [n']) := by
    intro n n' content change
    exact .inside rfl rfl
      (@Change.inside .arguments _ _ _ _ _ _ [signLeaf '<'] [signLeaf '>'] _ _ content rfl change)
  have comment : Change .type (maybeTree "Maybe<A | B>" "<A | B>" [ledUnion])
      (maybeTree "Maybe<A | B>" "</* */ | (A) | B>" [leaf .comment .origin "/* */".toList, ledUnion]) :=
    .inside rfl rfl (@Change.refilled .arguments _ _ _ _ _ _ _ _ _ _ _ rfl rfl)
  have text : Change .type
      (maybeTree "Maybe<A | B>" "</* */ | (A) | B>" [leaf .comment .origin "/* */".toList, ledUnion])
      dressedMaybe :=
    @Change.refilled .type _ _ _ _ _ _ _ _ _ _ _ rfl rfl
  have enclosings := Relation.EqvGen.trans _ _ _ (.rel _ _ (argument rfl enclosing))
    (.rel _ _ (argument rfl leading))
  exact .trans _ _ _ enclosings (.trans _ _ _ (.rel _ _ comment) (.rel _ _ text))

theorem irrelevant_syntax_unread_nested :
    readShape plainMaybe = readShape dressedMaybe ∧
    ∃ n, aliasedType? "type T = Maybe</* */ | (A) | B>;" = some n ∧
      ∃ shape, readShape n = .ok shape ∧ shape.Joined := by
  have reads : (aliasedType? "type T = Maybe</* */ | (A) | B>;").any
      (fun n => (readShape n).toOption.isSome) = true := by decide +kernel
  obtain ⟨n, found, read⟩ := (Option.any_eq_true _ _).mp reads
  refine ⟨(irrelevant_syntax_unread dressedMaybe_changes).1, n, found, ?_⟩
  rcases (irrelevant_syntax_unread (.refl n)).2 _ (aliasedType_within found) with given | ⟨fault, failed, _⟩
  · exact given
  · rw [failed] at read
    cases read

-- A union in parentheses is one operand of the union around it, and not one for each of its own.
example :
    readShape (unionTree "(A | B) | C" [parenTree "(A | B)" plainUnion, signLeaf '|', nameLeaf "C"]) =
      .ok (.union [.union [.reference "A" [], .reference "B" []], .reference "C" []]) := rfl

end DeclSchema.Source
