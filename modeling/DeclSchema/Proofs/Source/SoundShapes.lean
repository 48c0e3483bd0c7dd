import DeclSchema.Proofs.Source.Trees
import DeclSchema.Source.ShapeReading

/-!
The shapes that are read from sound trees. However a chain of types is spelled, a shape that joins
others joins at least two of them, and no place for a type is left empty.
-/

namespace DeclSchema

-- Every join in the shape has two parts or more.
inductive Shape.Joined : Shape → Prop
  | keyword (word : String) : Joined (.keyword word)
  | literal (value : Literal) : Joined (.literal value)
  | reference (name : String) {arguments : List Shape} (each : ∀ argument ∈ arguments, Joined argument) :
      Joined (.reference name arguments)
  | indexed {object index : Shape} (owner : Joined object) (key : Joined index) :
      Joined (.indexed object index)
  | object {members : List Member} (each : ∀ member ∈ members, ∀ shape ∈ member.shape?, Joined shape) :
      Joined (.object members)
  | intersection {parts : List Shape} (several : 2 ≤ parts.length) (each : ∀ part ∈ parts, Joined part) :
      Joined (.intersection parts)
  | union {parts : List Shape} (several : 2 ≤ parts.length) (each : ∀ part ∈ parts, Joined part) :
      Joined (.union parts)
  | array {element : Shape} (inner : Joined element) : Joined (.array element)
  | verbatim (text : String) : Joined (.verbatim text)

namespace Source

open Node

-- A reading that gives only values with a certain property.
def Gives {α : Type} (property : α → Prop) (x : Except Fault α) : Prop := ∀ a, x = .ok a → property a

section Gives

variable {α β : Type} {property : α → Prop} {result : β → Prop}

theorem gives_ok {a : α} (holds : property a) : Gives property (.ok a) := by
  intro b found
  cases found
  exact holds

theorem gives_error (fault : Fault) : Gives property (.error fault) := by
  intro b found
  cases found

theorem gives_any (x : Except Fault α) : Gives (fun _ => True) x := fun _ _ => trivial

theorem gives_bind {x : Except Fault α} {f : α → Except Fault β} (first : Gives property x)
    (second : ∀ a, property a → Gives result (f a)) : Gives result (x >>= f) := by
  cases x with
  | error fault => exact gives_error fault
  | ok a => exact second a (first a rfl)

theorem gives_map {x : Except Fault α} {f : α → β} (gives : Gives property x)
    (holds : ∀ a, property a → result (f a)) : Gives result (x.map f) := by
  cases x with
  | error fault => exact gives_error fault
  | ok a => exact gives_ok (holds a (gives a rfl))

end Gives

theorem literal_joined (text : List Char) (children : List Node) :
    Gives Shape.Joined (readLiteral text children) := by
  unfold readLiteral
  split
  · exact gives_ok (.verbatim _)
  · split
    case h_1 => exact gives_ok (.keyword _)
    case h_2 => exact gives_ok (.keyword _)
    case h_6 => exact gives_map (gives_any _) fun value _ => .literal value
    case h_7 => exact gives_map (gives_any _) fun value _ => .literal value
    case h_8 => exact gives_ok (.verbatim _)
    all_goals exact gives_ok (.literal _)

-- Of several operands a join remains, and a single one stands for itself.
theorem several_parts {operands : List Shape} (filled : operands ≠ [])
    (more : ∀ single, operands ≠ [single]) : 2 ≤ operands.length := by
  match operands, filled, more with
  | [single], _, more => exact absurd rfl (more single)
  | _ :: _ :: _, _, _ => simp

mutual

theorem readShape_joined : ∀ n : Node, n.Sound → Gives Shape.Joined (readShape n)
  | ⟨kind, role, place, text, missing, children⟩, sound => by
    have complete := sound.complete
    have all : AllSound children := sound.inside
    unfold Complete at complete
    unfold readShape
    split
    case h_1 => exact gives_ok (.keyword _)
    case h_2 => exact gives_ok (.reference _ (by simp))
    case h_3 => exact gives_ok (.reference _ (by simp))
    case h_4 =>
      refine gives_bind (gives_any _) fun name _ => ?_
      exact gives_bind (readArguments_joined children all) fun _ each => gives_ok (.reference _ each)
    case h_5 => exact literal_joined text children
    case h_6 => exact gives_map (readMembers_joined children all) fun _ each => .object each
    case h_7 =>
      refine gives_bind (readOperands_joined .unionType rfl children all) fun operands given => ?_
      obtain ⟨each, filled⟩ := given
      split
      next single => exact gives_ok (each single List.mem_cons_self)
      next more => exact gives_ok (.union (several_parts (filled complete) more) each)
    case h_8 =>
      refine gives_bind (readOperands_joined .intersectionType rfl children all) fun operands given => ?_
      obtain ⟨each, filled⟩ := given
      split
      next single => exact gives_ok (each single List.mem_cons_self)
      next more => exact gives_ok (.intersection (several_parts (filled complete) more) each)
    case h_9 => exact gives_map (readFirst_joined children all) fun _ inner => .array inner
    case h_10 =>
      refine gives_bind (readShapes_joined children all) fun shapes each => ?_
      split
      next object index =>
        exact gives_ok (.indexed (each object (by simp)) (each index (by simp)))
      next => exact gives_error _
    case h_11 => exact readFirst_joined children all
    case h_12 => exact readFirst_joined children all
    case h_13 => exact gives_ok (.verbatim _)

theorem readShapes_joined : ∀ nodes : List Node, AllSound nodes →
    Gives (fun shapes => ∀ shape ∈ shapes, Shape.Joined shape) (readShapes nodes)
  | [], _ => gives_ok (by simp)
  | n :: rest, sound => by
    have later := readShapes_joined rest fun m member => sound m (List.mem_cons_of_mem n member)
    unfold readShapes
    split
    · refine gives_bind (readShape_joined n (sound n List.mem_cons_self)) fun shape first => ?_
      exact gives_bind later fun more each => gives_ok (List.forall_mem_cons.mpr ⟨first, each⟩)
    · exact later

theorem readFirst_joined : ∀ nodes : List Node, AllSound nodes → Gives Shape.Joined (readFirst nodes)
  | [], _ => gives_error _
  | n :: rest, sound => by
    unfold readFirst
    split
    · exact readShape_joined n (sound n List.mem_cons_self)
    · exact readFirst_joined rest fun m member => sound m (List.mem_cons_of_mem n member)

theorem readArguments_joined : ∀ nodes : List Node, AllSound nodes →
    Gives (fun shapes => ∀ shape ∈ shapes, Shape.Joined shape) (readArguments nodes)
  | [], _ => gives_ok (by simp)
  | ⟨kind, role, place, text, missing, inner⟩ :: rest, sound => by
    have held := readShapes_joined inner (sound _ List.mem_cons_self).inside
    have later := readArguments_joined rest fun m member => sound m (List.mem_cons_of_mem _ member)
    unfold readArguments
    split
    next same =>
      cases same
      exact held
    next => exact later

theorem readOperands_joined (chain : Kind) (filled : chain.isFilled = true) : ∀ nodes : List Node,
    AllSound nodes →
    Gives (fun shapes => (∀ shape ∈ shapes, Shape.Joined shape) ∧
      (nodes.filter isContent ≠ [] → shapes ≠ [])) (readOperands chain nodes)
  | [], _ => gives_ok (by simp)
  | ⟨kind, role, place, text, missing, inner⟩ :: rest, sound => by
    have this := sound _ List.mem_cons_self
    have own := readShape_joined ⟨kind, role, place, text, missing, inner⟩ this
    have held := readOperands_joined chain filled inner this.inside
    have later := readOperands_joined chain filled rest fun m member =>
      sound m (List.mem_cons_of_mem _ member)
    have after : ∀ first : List Shape, (∀ shape ∈ first, Shape.Joined shape) ∧ first ≠ [] →
        Gives (fun shapes => (∀ shape ∈ shapes, Shape.Joined shape) ∧
            ((⟨kind, role, place, text, missing, inner⟩ :: rest : List Node).filter isContent ≠ [] →
              shapes ≠ []))
          (do let more ← readOperands chain rest; return first ++ more) := by
      rintro first ⟨each, some⟩
      exact gives_bind later fun more others =>
        gives_ok ⟨List.forall_mem_append.mpr ⟨each, others.1⟩, fun _ => by simp [some]⟩
    unfold readOperands
    split
    next =>
      split
      next same =>
        have content : inner.filter isContent ≠ [] :=
          content_filled (n := ⟨kind, role, place, text, missing, inner⟩) (same ▸ filled) this.complete
        exact gives_bind held fun first given => after first ⟨given.1, given.2 content⟩
      next =>
        have single : Gives (fun shapes => (∀ shape ∈ shapes, Shape.Joined shape) ∧ shapes ≠ [])
            ((readShape ⟨kind, role, place, text, missing, inner⟩).map ([·])) :=
          gives_map own fun shape given => by simpa using given
        exact gives_bind single after
    next other => exact fun shapes found => by simpa [other] using later shapes found

theorem readMembers_joined : ∀ nodes : List Node, AllSound nodes →
    Gives (fun members => ∀ member ∈ members, ∀ shape ∈ member.shape?, Shape.Joined shape)
      (readMembers nodes)
  | [], _ => gives_ok (by simp)
  | n :: rest, sound => by
    have later := readMembers_joined rest fun m member => sound m (List.mem_cons_of_mem n member)
    unfold readMembers
    split
    · refine gives_bind (readMember_joined n (sound n List.mem_cons_self)) fun member first => ?_
      exact gives_bind later fun more each => gives_ok (List.forall_mem_cons.mpr ⟨first, each⟩)
    · exact later

theorem readMember_joined : ∀ n : Node, n.Sound →
    Gives (fun member => ∀ shape ∈ member.shape?, Shape.Joined shape) (readMember n)
  | ⟨kind, role, place, text, missing, children⟩, sound => by
    have typing := readTyping_joined children sound.inside
    unfold readMember
    split
    case h_1 =>
      refine gives_bind (gives_any _) fun name _ => gives_bind typing fun found given => gives_ok ?_
      cases found with
      | none => simp [Member.of, Member.shape?]
      | some found => simpa [Member.of, Member.shape?] using given
    case h_2 => exact gives_bind (gives_any _) fun name _ => gives_ok (by simp [Member.shape?])
    case h_3 =>
      refine gives_bind typing fun found given => ?_
      split
      · split
        · exact gives_ok (by simpa [Member.shape?] using given)
        · exact gives_ok (by simp [Member.shape?])
      · exact gives_ok (by simp [Member.shape?])
    case h_4 => exact gives_ok (by simp [Member.shape?])

theorem readTyping_joined : ∀ nodes : List Node, AllSound nodes →
    Gives (fun typing => ∀ found ∈ typing, Shape.Joined found.2) (readTyping nodes)
  | [], _ => gives_ok (by simp)
  | ⟨kind, role, place, text, missing, inner⟩ :: rest, sound => by
    have held := readFirst_joined inner (sound _ List.mem_cons_self).inside
    have later := readTyping_joined rest fun m member => sound m (List.mem_cons_of_mem _ member)
    unfold readTyping
    split
    next same =>
      cases same
      exact gives_map held fun shape given => by simpa using given
    next => exact later

end

end Source

end DeclSchema
