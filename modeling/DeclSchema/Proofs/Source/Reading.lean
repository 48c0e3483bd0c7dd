import DeclSchema.Proofs.Source.Cursors

/-!
What a rule does in front of a known text. It reads exactly one piece of it and leaves the rest, or
it refuses; for each way of putting rules together there is a lemma that says so from its parts.
-/

namespace DeclSchema.Source

open Node

/-! ### What comes next -/

def Spaces (blanks : List Char) : Prop := ∀ d ∈ blanks, d = ' '

theorem spaces_nil : Spaces [] := by simp [Spaces]

theorem spaces_one : Spaces [' '] := by simp [Spaces]

-- Neither a blank nor the beginning of a comment.
def isShown (d : Char) : Bool := !Lexeme.isBlank d && d != '/'

-- Behind spaces the text goes on with this character.
def Heads (d : Char) (text : List Char) : Prop :=
  isShown d = true ∧ ∃ blanks more, text = blanks ++ d :: more ∧ Spaces blanks

-- No gap stands in front of the text.
def Shown (text : List Char) : Prop := ∃ d more, text = d :: more ∧ isShown d = true

theorem shown_append {text : List Char} (shown : Shown text) (rest : List Char) :
    Shown (text ++ rest) := by
  obtain ⟨d, more, rfl, visible⟩ := shown
  exact ⟨d, more ++ rest, rfl, visible⟩

theorem heads_cons {d : Char} (shown : isShown d = true) (more : List Char) : Heads d (d :: more) :=
  ⟨shown, [], more, rfl, spaces_nil⟩

theorem heads_space {d : Char} (shown : isShown d = true) (more : List Char) :
    Heads d (' ' :: d :: more) := ⟨shown, [' '], more, rfl, spaces_one⟩

theorem comment_shown {d : Char} {more : List Char} (shown : isShown d = true) :
    Lexeme.comment (d :: more) = 0 := by
  simp only [isShown, Bool.and_eq_true, bne_iff_ne] at shown
  apply Classical.byContradiction
  intro found
  have slash := Cursor.comment_slash found
  rw [List.head?_cons, Option.some.injEq] at slash
  exact shown.2 slash

theorem gap_shown {text blanks : List Char} (shown : Shown text) (spaces : Spaces blanks)
    (place : Place) :
    (⟨blanks ++ text, place⟩ : Cursor).gap = ⟨[], false, ⟨text, place.afterAll blanks⟩⟩ := by
  obtain ⟨d, more, rfl, visible⟩ := shown
  have blank : ∀ e ∈ blanks, Lexeme.isBlank e = true := by
    intro e member
    rw [spaces e member]
    rfl
  have feed : blanks.contains '\n' = false := by
    rw [List.contains_eq_mem, decide_eq_false_iff_not]
    intro member
    cases spaces _ member
  rw [Cursor.gap_blanks rfl blank (by simp_all [isShown]) (comment_shown visible), feed]

-- No gap stands in front of the text, wherever it is.
def Bare (text : List Char) : Prop := ∀ place, (⟨text, place⟩ : Cursor).Settled

theorem bare_nil : Bare [] := fun _ => Cursor.gap_none (by simp) rfl

theorem bare_shown {text : List Char} (shown : Shown text) : Bare text :=
  fun place => gap_shown shown spaces_nil place

theorem gap_heads {d : Char} {text : List Char} (heads : Heads d text) (place : Place) :
    ∃ more later, (⟨text, place⟩ : Cursor).gap = ⟨[], false, ⟨d :: more, later⟩⟩ := by
  obtain ⟨shown, blanks, more, rfl, spaces⟩ := heads
  exact ⟨more, _, gap_shown ⟨d, more, rfl, shown⟩ spaces place⟩

namespace Rule

variable {α β : Type}

/-! ### One step -/

theorem bind_none {p : Rule α} {c : Cursor} (refused : p c = none) (f : α → Rule β) :
    (p >>= f) c = none := by
  rw [bind_run, refused, Option.bind_none]

theorem bind_found {p : Rule α} {c next : Cursor} {a : α} (found : p c = some (a, next))
    (f : α → Rule β) : (p >>= f) c = f a next := by
  rw [bind_run, found, Option.bind_some]

theorem orElse_none {p : Rule α} {c : Cursor} (refused : p c = none) (q : Rule α) :
    (p <|> q) c = q c := by
  rw [orElse_run, refused, Option.none_or]

theorem orElse_found {p : Rule α} {c : Cursor} {result : α × Cursor} (found : p c = some result)
    (q : Rule α) : (p <|> q) c = some result := by
  rw [orElse_run, found, Option.some_or]

theorem guard_true {test : Cursor → Bool} {c : Cursor} (holds : test c = true) :
    guard test c = some ((), c) := if_pos holds

theorem guard_false {test : Cursor → Bool} {c : Cursor} (fails : test c = false) :
    guard test c = none := if_neg (by simp [fails])

/-! ### Refusing -/

def Refuses (p : Rule α) (text : List Char) : Prop := ∀ place, p ⟨text, place⟩ = none

theorem refuses_bind {p : Rule α} {f : α → Rule β} {text : List Char} (refuses : p.Refuses text) :
    (p >>= f).Refuses text := fun place => bind_none (refuses place) f

theorem refuses_guarded {p : Rule α} {text : List Char} (test : Cursor → Bool)
    (refuses : p.Refuses text) : (do guard test; p).Refuses text := by
  intro place
  cases holds : test ⟨text, place⟩ with
  | false => exact bind_none (guard_false holds) _
  | true => exact (bind_found (guard_true holds) _).trans (refuses place)

theorem refuses_orElse {p q : Rule α} {text : List Char} (first : p.Refuses text)
    (second : q.Refuses text) : (p <|> q).Refuses text := fun place =>
  (orElse_none (first place) q).trans (second place)

theorem refuses_seq {p : Rule (List Node)} {rules : List (Rule (List Node))} {text : List Char}
    (refuses : p.Refuses text) : (seq (p :: rules)).Refuses text := refuses_bind refuses

theorem refuses_grow {p : Rule (List Node)} {text : List Char} (refuses : p.Refuses text)
    (kind : Kind) (start : Cursor) (left : List Node) : (grow kind start left p).Refuses text := by
  intro place
  unfold grow
  rw [refuses place]

theorem refuses_node {p : Rule (List Node)} {text : List Char} (refuses : p.Refuses text)
    (kind : Kind) : (node kind p).Refuses text := fun place =>
  refuses_grow refuses kind ⟨text, place⟩ [] place

section Next

variable {d : Char} {text : List Char}

theorem refuses_item {p : Rule Node} (heads : Heads d text) (refuses : ∀ more, p.Refuses (d :: more)) :
    (item p).Refuses text := by
  intro place
  obtain ⟨more, later, gap⟩ := gap_heads heads place
  unfold item
  rw [gap]
  dsimp only
  rw [refuses more later]

theorem refuses_item_here {p : Rule Node} (bare : Bare text) (refuses : p.Refuses text) :
    (item p).Refuses text := by
  intro place
  unfold item
  rw [bare place]
  dsimp only
  rw [refuses]

theorem refuses_itemAs {p : Rule Node} (heads : Heads d text)
    (refuses : ∀ more, p.Refuses (d :: more)) (r : Role) : (itemAs r p).Refuses text := by
  intro place
  obtain ⟨more, later, gap⟩ := gap_heads heads place
  unfold itemAs
  rw [gap]
  dsimp only
  rw [refuses more later]

theorem refuses_itemAs_here {p : Rule Node} (bare : Bare text) (refuses : p.Refuses text) (r : Role) :
    (itemAs r p).Refuses text := by
  intro place
  unfold itemAs
  rw [bare place]
  dsimp only
  rw [refuses]

theorem refuses_lexeme {kind : Kind} {size : List Char → Nat} (heads : Heads d text)
    (none : ∀ more, size (d :: more) = 0) : (lexeme kind size).Refuses text := by
  intro place
  obtain ⟨more, later, gap⟩ := gap_heads heads place
  unfold lexeme
  rw [gap]
  dsimp only
  rw [none more]

theorem refuses_lexeme_here {kind : Kind} {size : List Char → Nat} (bare : Bare text)
    (none : size text = 0) : (lexeme kind size).Refuses text := by
  intro place
  unfold lexeme
  rw [bare place]
  dsimp only
  rw [none]

-- The sign begins with another character.
def beginsOther (sign : String) (d : Char) : Bool :=
  match sign.toList with
  | [] => false
  | e :: _ => e != d

theorem isPrefixOf_other {sign : String} (other : beginsOther sign d = true) (more : List Char) :
    sign.toList.isPrefixOf (d :: more) = false := by
  unfold beginsOther at other
  split at other
  · cases other
  next e rest same =>
    rw [same, Bool.eq_false_iff]
    simpa using fun same _ => absurd same (by simpa using other)

theorem literalSize_other {sign : String} (other : beginsOther sign d = true) (more : List Char) :
    literalSize sign (d :: more) = 0 := by
  rw [literalSize, isPrefixOf_other other, if_neg Bool.false_ne_true]

theorem refuses_mark {sign : String} (heads : Heads d text) (other : beginsOther sign d = true) :
    (mark sign).Refuses text := refuses_lexeme heads (literalSize_other other)

theorem refuses_markNot {sign : String} {longer : List String} (heads : Heads d text)
    (other : beginsOther sign d = true) : (markNot sign longer).Refuses text := by
  refine refuses_lexeme heads fun more => ?_
  rw [literalSize_other other, ite_self]

-- No name holds this character.
def breaksName (d : Char) : Bool := !Lexeme.isNamePart d && d != '\\'

theorem namePiece_breaks (breaks : breaksName d = true) (more : List Char) :
    Lexeme.namePiece (d :: more) = 0 := by
  simp only [breaksName, Bool.and_eq_true, Bool.not_eq_true', bne_iff_ne] at breaks
  unfold Lexeme.namePiece
  split
  next same => exact absurd (List.cons.inj same).1 breaks.2
  next same =>
    cases same
    simp [breaks.1]
  next => rfl

theorem name_breaks (breaks : breaksName d = true) (more : List Char) :
    Lexeme.name (d :: more) = 0 := by
  unfold Lexeme.name
  dsimp only
  rw [Lexeme.run, namePiece_breaks breaks, ite_self]

theorem refuses_named {kind : Kind} {accept : List Char → Bool} (heads : Heads d text)
    (breaks : breaksName d = true) : (lexeme kind (nameSize accept)).Refuses text := by
  refine refuses_lexeme heads fun more => ?_
  unfold nameSize
  rw [name_breaks breaks, ite_self]

end Next

/-! ### Reading -/

-- The rule reads exactly this text in front of the rest, and its result has the property.
def Reads (p : Rule α) (text rest : List Char) (P : α → Prop) : Prop :=
  ∀ place, ∃ a, p ⟨text ++ rest, place⟩ = some (a, ⟨rest, place.afterAll text⟩) ∧ P a

variable {text more rest : List Char}

theorem reads_imp {p : Rule α} {P Q : α → Prop} (implies : ∀ a, P a → Q a)
    (reads : p.Reads text rest P) : p.Reads text rest Q := by
  intro place
  obtain ⟨a, found, property⟩ := reads place
  exact ⟨a, found, implies a property⟩

theorem reads_pure {P : α → Prop} {a : α} (property : P a) : (pure a : Rule α).Reads [] rest P :=
  fun _ => ⟨a, rfl, property⟩

theorem reads_bind {p : Rule α} {f : α → Rule β} {P : α → Prop} {Q : β → Prop}
    (first : p.Reads text (more ++ rest) P) (second : ∀ a, P a → (f a).Reads more rest Q) :
    (p >>= f).Reads (text ++ more) rest Q := by
  intro place
  obtain ⟨a, found, property⟩ := first place
  obtain ⟨b, later, conclusion⟩ := second a property (place.afterAll text)
  refine ⟨b, ?_, conclusion⟩
  rw [List.append_assoc, bind_found found, later, Place.afterAll_append]

theorem reads_return {p : Rule α} {P : α → Prop} {Q : β → Prop} (f : α → β)
    (reads : p.Reads text rest P) (result : ∀ a, P a → Q (f a)) :
    (do return f (← p)).Reads text rest Q := by
  intro place
  obtain ⟨a, found, property⟩ := reads place
  exact ⟨f a, bind_found found _, result a property⟩

theorem reads_left {p q : Rule α} {P : α → Prop} (reads : p.Reads text rest P) :
    (p <|> q).Reads text rest P := by
  intro place
  obtain ⟨a, found, property⟩ := reads place
  exact ⟨a, orElse_found found q, property⟩

theorem reads_right {p q : Rule α} {P : α → Prop} (refuses : p.Refuses (text ++ rest))
    (reads : q.Reads text rest P) : (p <|> q).Reads text rest P := by
  intro place
  obtain ⟨a, found, property⟩ := reads place
  exact ⟨a, (orElse_none (refuses place) q).trans found, property⟩

-- A test that holds wherever the rest stands.
theorem reads_checked {p : Rule α} {P : α → Prop} {test : Cursor → Bool}
    (reads : p.Reads text rest P) (holds : ∀ place, test ⟨rest, place⟩ = true) :
    (do let found ← p; guard test; return found).Reads text rest P := by
  have after : ∀ a, P a → (do guard test; return a : Rule α).Reads [] rest P := fun a property place =>
    ⟨a, bind_found (guard_true (holds place)) _, property⟩
  simpa using reads_bind reads after

theorem reads_guarded {p : Rule α} {P : α → Prop} {test : Cursor → Bool}
    (holds : ∀ place, test ⟨text ++ rest, place⟩ = true) (reads : p.Reads text rest P) :
    (do guard test; p).Reads text rest P := by
  intro place
  obtain ⟨a, found, property⟩ := reads place
  exact ⟨a, (bind_found (guard_true (holds place)) _).trans found, property⟩

theorem refuses_after {p : Rule α} {f : α → Rule β} {P : α → Prop} (reads : p.Reads text rest P)
    (refuses : ∀ a, (f a).Refuses rest) : (p >>= f).Refuses (text ++ rest) := by
  intro place
  obtain ⟨a, found, _⟩ := reads place
  exact (bind_found found f).trans (refuses a _)

section Rows

variable {p : Rule (List Node)} {P Q R : List Node → Prop}

theorem reads_none (refuses : p.Refuses rest) : (optional p).Reads [] rest (· = []) :=
  reads_right refuses (reads_pure rfl)

theorem reads_seq_nil : (seq []).Reads [] rest (· = []) := reads_pure rfl

theorem reads_followed {q : Rule (List Node)} (first : p.Reads text (more ++ rest) P)
    (second : q.Reads more rest Q) (both : ∀ a b, P a → Q b → R (a ++ b)) :
    (do return (← p) ++ (← q)).Reads (text ++ more) rest R :=
  reads_bind first fun a left => reads_return (a ++ ·) second fun b right => both a b left right

theorem reads_seq {rules : List (Rule (List Node))} (first : p.Reads text (more ++ rest) P)
    (second : (seq rules).Reads more rest Q) (both : ∀ a b, P a → Q b → R (a ++ b)) :
    (seq (p :: rules)).Reads (text ++ more) rest R := reads_followed first second both

-- Rules of a row that read nothing.
theorem reads_seq_idle {rules : List (Rule (List Node))} (first : p.Reads [] (text ++ rest) (· = []))
    (second : (seq rules).Reads text rest P) : (seq (p :: rules)).Reads text rest P := by
  refine @reads_seq [] _ _ _ _ _ _ _ first second fun a b left right => ?_
  rw [left, List.nil_append]
  exact right

theorem reads_seq_ended {rules : List (Rule (List Node))} (first : p.Reads text rest P)
    (second : (seq rules).Reads [] rest (· = [])) : (seq (p :: rules)).Reads text rest P := by
  have both : (seq (p :: rules)).Reads (text ++ []) rest P := by
    refine reads_seq first second fun a b left right => ?_
    rw [right, List.append_nil]
    exact left
  rwa [List.append_nil] at both

theorem reads_seq_last (reads : p.Reads text rest P) : (seq [p]).Reads text rest P :=
  reads_seq_ended reads reads_seq_nil

theorem refuses_seq_after {rules : List (Rule (List Node))} (reads : p.Reads text rest P)
    (refuses : (seq rules).Refuses rest) : (seq (p :: rules)).Refuses (text ++ rest) :=
  refuses_after reads fun _ => refuses_bind refuses

theorem refuses_seq_idle {rules : List (Rule (List Node))} (idle : p.Reads [] rest P)
    (refuses : (seq rules).Refuses rest) : (seq (p :: rules)).Refuses rest := by
  have after := refuses_seq_after idle refuses
  rwa [List.nil_append] at after

-- What may be missing is, and what must follow it does not.
theorem refuses_seq_optional {rules : List (Rule (List Node))} (none : p.Refuses rest)
    (refuses : (seq rules).Refuses rest) : (seq (optional p :: rules)).Refuses rest :=
  refuses_seq_idle (reads_none none) refuses

end Rows

section Nodes

variable {p : Rule (List Node)} {one : Rule Node} {P : List Node → Prop} {Q : Node → Prop}

theorem reads_grow (kind : Kind) (start : Cursor) (left : List Node) (reads : p.Reads text rest P) :
    (grow kind start left p).Reads text rest fun n =>
      ∃ covered children, n = ⟨kind, none, start.place, covered, false, left ++ children⟩ ∧
        P children := by
  intro place
  obtain ⟨children, found, property⟩ := reads place
  refine ⟨_, ?_, start.textTo ⟨rest, place.afterAll text⟩, children, rfl, property⟩
  unfold grow
  rw [found]

theorem node_found {c next : Cursor} {children : List Node} (found : p c = some (children, next))
    (spans : c.Spans text next) (kind : Kind) :
    node kind p c = some (⟨kind, none, c.place, text, false, children⟩, next) := by
  unfold node grow
  rw [found]
  dsimp only
  rw [Cursor.spans_textTo spans]
  rfl

theorem reads_node (kind : Kind) (reads : p.Reads text rest P) :
    (node kind p).Reads text rest fun n =>
      ∃ place children, n = ⟨kind, none, place, text, false, children⟩ ∧ P children := by
  intro place
  obtain ⟨children, found, property⟩ := reads place
  exact ⟨_, node_found found ⟨rfl, rfl⟩ kind, place, children, rfl, property⟩

-- What is read may be the beginning of something longer, and is not here.
theorem reads_ungrown (longer : Cursor → Node → Rule Node) (reads : one.Reads text rest Q)
    (stop : ∀ start left, (longer start left).Refuses rest) :
    Rule.Reads (fun c =>
      match one c with
      | none => none
      | some (left, next) =>
        match longer c left next with
        | none => some (left, next)
        | grown => grown) text rest Q := by
  intro place
  obtain ⟨n, found, property⟩ := reads place
  refine ⟨n, ?_, property⟩
  dsimp only
  rw [found]
  dsimp only
  rw [stop]

variable {blanks : List Char}

theorem reads_item (shown : Shown text) (spaces : Spaces blanks) (reads : one.Reads text rest Q) :
    (item one).Reads (blanks ++ text) rest fun nodes => ∃ n, nodes = [n] ∧ Q n := by
  intro place
  obtain ⟨n, found, property⟩ := reads (place.afterAll blanks)
  refine ⟨[n], ?_, n, rfl, property⟩
  unfold item
  rw [List.append_assoc, gap_shown (shown_append shown rest) spaces, Place.afterAll_append]
  dsimp only
  rw [found]
  rfl

theorem reads_itemAs (r : Role) (shown : Shown text) (spaces : Spaces blanks)
    (reads : one.Reads text rest Q) :
    (itemAs r one).Reads (blanks ++ text) rest fun nodes => ∃ n, nodes = [n.playing r] ∧ Q n := by
  intro place
  obtain ⟨n, found, property⟩ := reads (place.afterAll blanks)
  refine ⟨[n.playing r], ?_, n, rfl, property⟩
  unfold itemAs
  rw [List.append_assoc, gap_shown (shown_append shown rest) spaces, Place.afterAll_append]
  dsimp only
  rw [found]
  rfl

theorem reads_role (r : Role) (reads : p.Reads text rest P) :
    (role r p).Reads text rest fun nodes =>
      ∃ found, nodes = found.map (fun n => if n.isContent then n.playing r else n) ∧ P found := by
  intro place
  obtain ⟨found, read, property⟩ := reads place
  refine ⟨_, ?_, found, rfl, property⟩
  unfold role
  rw [read]
  rfl

theorem reads_lexeme {size : List Char → Nat} (kind : Kind) (shown : Shown text)
    (spaces : Spaces blanks) (taken : size (text ++ rest) = text.length) :
    (lexeme kind size).Reads (blanks ++ text) rest fun nodes =>
      ∃ place, nodes = [leaf kind place text] := by
  intro place
  refine ⟨_, ?_, place.afterAll blanks, rfl⟩
  have gap := gap_shown (shown_append shown rest) spaces place
  obtain ⟨d, more, same, _⟩ := shown
  have some : text.length = more.length + 1 := by rw [same, List.length_cons]
  unfold lexeme
  rw [List.append_assoc, gap, Place.afterAll_append]
  dsimp only
  rw [taken, some]
  dsimp only
  rw [← some, Cursor.skip, List.take_left, List.drop_left]
  rfl

theorem literalSize_here {sign : String} (spelled : sign.toList = text) (rest : List Char) :
    literalSize sign (text ++ rest) = text.length := by
  have begins : sign.toList.isPrefixOf (text ++ rest) = true := by
    rw [spelled, List.isPrefixOf_iff_prefix]
    exact List.prefix_append _ _
  rw [literalSize, if_pos begins, ← String.length_toList, spelled]

theorem reads_mark {sign : String} (spelled : sign.toList = text) (shown : Shown text)
    (spaces : Spaces blanks) :
    (mark sign).Reads (blanks ++ text) rest fun nodes => ∃ place, nodes = [leaf .mark place text] :=
  reads_lexeme .mark shown spaces (literalSize_here spelled rest)

-- A mark of one character.
theorem reads_sign (sign : String) (d : Char) (spelled : sign.toList = [d])
    (shown : isShown d = true) :
    (mark sign).Reads [d] rest fun nodes => ∃ place, nodes = [leaf .mark place [d]] :=
  reads_mark spelled ⟨d, [], rfl, shown⟩ spaces_nil

theorem reads_markNot {sign : String} {longer : List String} (spelled : sign.toList = text)
    (shown : Shown text) (spaces : Spaces blanks)
    (shorter : longer.any (·.toList.isPrefixOf (text ++ rest)) = false) :
    (markNot sign longer).Reads (blanks ++ text) rest fun nodes =>
      ∃ place, nodes = [leaf .mark place text] := by
  refine reads_lexeme .mark shown spaces ?_
  rw [if_neg (by rw [shorter]; exact Bool.false_ne_true), literalSize_here spelled]

theorem reads_named {kind : Kind} {accept : List Char → Bool} (shown : Shown text)
    (spaces : Spaces blanks) (named : Lexeme.name (text ++ rest) = text.length)
    (accepted : accept text = true) :
    (lexeme kind (nameSize accept)).Reads (blanks ++ text) rest fun nodes =>
      ∃ place, nodes = [leaf kind place text] := by
  refine reads_lexeme kind shown spaces ?_
  rw [nameSize, named, List.take_left, if_pos accepted]

-- A whole name that the rule does not accept.
theorem refuses_other {kind : Kind} {accept : List Char → Bool} (shown : Shown text)
    (named : Lexeme.name (text ++ rest) = text.length) (refused : accept text = false) :
    (lexeme kind (nameSize accept)).Refuses (text ++ rest) := by
  refine refuses_lexeme_here (bare_shown (shown_append shown rest)) ?_
  rw [nameSize, named, List.take_left, if_neg (by simp [refused])]

end Nodes

/-! ### Repetition -/

section Many

variable {p : Rule (List Node)} {spell : α → List Char} {P : α → List Node → Prop}
  {Q : List α → List Node → Prop}

theorem moved {text rest : List Char} (filled : text ≠ []) (place : Place) :
    (⟨rest, place.afterAll text⟩ : Cursor).place.offset ≠ place.offset := by
  cases text with
  | nil => exact absurd rfl filled
  | cons c more =>
    have positive := c.utf8Size_pos
    have later := Place.afterAll_offset place (c :: more)
    simp only [Text.byteLength_cons] at later
    dsimp only
    omega

-- One round for each item, and one more that reads nothing.
theorem manyLoop_reads (done : Q [] []) (filled : ∀ a, spell a ≠ [])
    (step : ∀ a others found nodes, P a found → Q others nodes → Q (a :: others) (found ++ nodes))
    (stop : p.Refuses rest) (items : List α)
    (each : ∀ a ∈ items, ∀ others : List α, p.Reads (spell a) (others.flatMap spell ++ rest) (P a))
    (fuel : Nat) (enough : items.length < fuel) :
    (manyLoop p fuel).Reads (items.flatMap spell) rest (Q items) := by
  induction items generalizing fuel with
  | nil =>
    intro place
    obtain ⟨fuel, rfl⟩ := Nat.exists_eq_succ_of_ne_zero (Nat.ne_zero_of_lt enough)
    refine ⟨[], ?_, done⟩
    rw [List.flatMap_nil, List.nil_append, manyLoop]
    dsimp only
    rw [stop place]
    rfl
  | cons a others ih =>
    intro place
    obtain ⟨fuel, rfl⟩ := Nat.exists_eq_succ_of_ne_zero (Nat.ne_zero_of_lt enough)
    obtain ⟨found, read, property⟩ := each a List.mem_cons_self others place
    have later := ih (fun b member => each b (List.mem_cons_of_mem a member)) fuel (by simp at enough; omega)
    obtain ⟨nodes, reading, rest⟩ := later (place.afterAll (spell a))
    refine ⟨found ++ nodes, ?_, step a others found nodes property rest⟩
    rw [List.flatMap_cons, List.append_assoc, manyLoop]
    dsimp only
    rw [read]
    dsimp only
    rw [if_neg (moved (filled a) place), reading, Place.afterAll_append]
    rfl

theorem length_le_flatMap (filled : ∀ a, spell a ≠ []) (items : List α) :
    items.length ≤ (items.flatMap spell).length := by
  induction items with
  | nil => simp
  | cons a others ih =>
    have positive := List.length_pos_iff.mpr (filled a)
    simp only [List.flatMap_cons, List.length_append, List.length_cons]
    omega

theorem reads_many (done : Q [] []) (filled : ∀ a, spell a ≠ [])
    (step : ∀ a others found nodes, P a found → Q others nodes → Q (a :: others) (found ++ nodes))
    (stop : p.Refuses rest) (items : List α)
    (each : ∀ a ∈ items, ∀ others : List α, p.Reads (spell a) (others.flatMap spell ++ rest) (P a)) :
    (many p).Reads (items.flatMap spell) rest (Q items) := by
  intro place
  have enough := length_le_flatMap filled items
  refine manyLoop_reads done filled step stop items each _ ?_ place
  simp only [List.length_append]
  omega

theorem reads_many_none (stop : p.Refuses rest) : (many p).Reads [] rest (· = []) := by
  intro place
  refine ⟨[], ?_, rfl⟩
  rw [List.nil_append, many, manyLoop]
  dsimp only
  rw [stop place]
  rfl

end Many

/-! ### Climbing -/

section Climbing

variable {one : Rule Node} {spell : α → List Char} {P : List α → Node → Prop}

theorem climb_stop {step : Node → Rule Node} {left : Node} {c : Cursor} (stop : step left c = none)
    (fuel : Nat) : climb step (fuel + 1) left c = some (left, c) := by
  rw [climb]
  dsimp only
  rw [stop]

theorem climb_step {step : Node → Rule Node} {left grown : Node} {c next : Cursor}
    (grows : step left c = some (grown, next)) (fuel : Nat) :
    climb step (fuel + 1) left c = climb step fuel grown next := by
  rw [climb]
  dsimp only
  rw [grows]

-- One step for each item, and one more that is refused. The property tells what the node holds of
-- the items so far.
theorem climb_reads (step : Node → Rule Node) (stop : ∀ left, (step left).Refuses rest)
    (items : List α)
    (each : ∀ a ∈ items, ∀ (others known : List α) (left : Node), P known left →
      (step left).Reads (spell a) (others.flatMap spell ++ rest) (P (known ++ [a])))
    (fuel : Nat) (enough : items.length ≤ fuel) (known : List α) (left : Node)
    (property : P known left) :
    (climb step (fuel + 1) left).Reads (items.flatMap spell) rest (P (known ++ items)) := by
  induction items generalizing fuel known left with
  | nil =>
    intro place
    exact ⟨left, climb_stop (stop left place) fuel, by rwa [List.append_nil]⟩
  | cons a others ih =>
    intro place
    obtain ⟨fuel, rfl⟩ := Nat.exists_eq_succ_of_ne_zero (Nat.ne_zero_of_lt enough)
    obtain ⟨grown, grows, holds⟩ := each a List.mem_cons_self others known left property place
    have later := ih (fun b member => each b (List.mem_cons_of_mem a member)) fuel
      (Nat.le_of_succ_le_succ enough) (known ++ [a]) grown holds
    obtain ⟨n, reading, all⟩ := later (place.afterAll (spell a))
    refine ⟨n, ?_, by rwa [List.append_assoc] at all⟩
    rw [List.flatMap_cons, List.append_assoc, climb_step grows, reading, Place.afterAll_append]

theorem reads_climbed {step : Cursor → Node → Rule Node} (filled : ∀ a, spell a ≠ [])
    (stop : ∀ start left, (step start left).Refuses rest) (first : α) (items : List α)
    (reads : one.Reads text (items.flatMap spell ++ rest) (P [first]))
    (each : ∀ a ∈ items, ∀ (others known : List α) (start : Cursor) (left : Node), P known left →
      (step start left).Reads (spell a) (others.flatMap spell ++ rest) (P (known ++ [a]))) :
    (climbing one step).Reads (text ++ items.flatMap spell) rest (P (first :: items)) := by
  intro place
  obtain ⟨left, found, property⟩ := reads place
  have enough : items.length ≤ (items.flatMap spell ++ rest).length := by
    have items := length_le_flatMap filled items
    rw [List.length_append]
    omega
  have climbed := climb_reads (step ⟨text ++ items.flatMap spell ++ rest, place⟩) (stop _) items
    (fun a member others known left => each a member others known _ left) _ enough [first] left property
  obtain ⟨n, reading, all⟩ := climbed (place.afterAll text)
  refine ⟨n, ?_, all⟩
  unfold climbing
  rw [List.append_assoc, found]
  dsimp only
  rw [← List.append_assoc, reading, Place.afterAll_append]

-- No step at all, and a single one.
theorem reads_climbing {step : Cursor → Node → Rule Node} {Q : Node → Prop}
    (reads : one.Reads text rest Q) (stop : ∀ start left, (step start left).Refuses rest) :
    (climbing one step).Reads text rest Q := by
  intro place
  obtain ⟨left, found, property⟩ := reads place
  refine ⟨left, ?_, property⟩
  unfold climbing
  rw [found]
  exact climb_stop (stop _ _ _) _

theorem reads_climbing_once {step : Cursor → Node → Rule Node} {Q R : Node → Prop}
    (filled : more ≠ []) (stop : ∀ start left, (step start left).Refuses rest)
    (reads : one.Reads text (more ++ rest) Q)
    (once : ∀ start left, Q left → (step start left).Reads more rest R) :
    (climbing one step).Reads (text ++ more) rest R := by
  intro place
  obtain ⟨left, found, property⟩ := reads place
  obtain ⟨grown, grows, holds⟩ := once ⟨text ++ more ++ rest, place⟩ left property (place.afterAll text)
  refine ⟨grown, ?_, holds⟩
  have some : (more ++ rest).length ≠ 0 := by simp [filled]
  obtain ⟨fuel, positive⟩ := Nat.exists_eq_succ_of_ne_zero some
  unfold climbing
  rw [List.append_assoc, found]
  dsimp only
  rw [← List.append_assoc, climb_step grows, positive, climb_stop (stop _ _ _), Place.afterAll_append]

end Climbing

end Rule

end DeclSchema.Source
