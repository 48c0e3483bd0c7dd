import DeclSchema.Proofs.Source.Cursors

/-!
Well-formed trees. Whoever reads a tree relies on parts that nodes of certain kinds have: a name, a
first content, a spelling of a certain form, children that cover a template without a gap. A tree is
sound when all of its nodes have the parts that their kinds demand.
-/

namespace DeclSchema.Source

/-! ### Kinds and roles -/

-- Kinds that demand nothing of their nodes.
abbrev Kind.isPlain : Kind → Bool
  | .genericType => false
  | .propertySignature => false
  | .methodSignature => false
  | .enumAssignment => false
  | .arrayType => false
  | .parenthesizedType => false
  | .readonlyType => false
  | .unionType => false
  | .intersectionType => false
  | .lookupType => false
  | .number => false
  | .signedNumber => false
  | .escape => false
  | .template => false
  | _ => true

-- Kinds whose nodes must have some content.
abbrev Kind.isFilled : Kind → Bool
  | .arrayType => true
  | .parenthesizedType => true
  | .readonlyType => true
  | .unionType => true
  | .intersectionType => true
  | _ => false

abbrev Kind.isContent : Kind → Bool
  | .mark => false
  | .comment => false
  | _ => true

-- Roles that demand nothing of whoever plays them.
abbrev Role.isFree : Role → Bool
  | .typing => false
  | _ => true

/-! ### Spellings -/

def IsNumber (text : List Char) : Prop :=
  ∃ rest, 0 < Lexeme.number rest ∧ text = rest.take (Lexeme.number rest)

def isSign (c : Char) : Bool := c = '-' || c = '+'

-- A sign, a gap and a number.
def IsSigned (text : List Char) : Prop :=
  ∃ sign between number, text = sign :: (between ++ number) ∧ isSign sign = true ∧
    IsNumber number ∧ ∀ d ∈ (between.dropWhile (· = ' ')).head?, Lexeme.isBlank d = true ∨ d = '/'

def IsEscape (text : List Char) : Prop :=
  ∃ rest, 0 < Lexeme.escape rest ∧ text = rest.take (Lexeme.escape rest)

namespace Node

-- Nodes that lie one right behind the other and cover a text.
inductive Row : Place → List Char → List Node → Prop where
  | nil (place : Place) : Row place [] []
  | cons {n : Node} {rest : List Char} {more : List Node} :
      Row (n.place.afterAll n.text) rest more → Row n.place (n.text ++ rest) (n :: more)

theorem row_nil {place : Place} {text : List Char} (row : Row place text []) : text = [] := by
  generalize same : ([] : List Node) = nodes at row
  cases row with
  | nil => rfl
  | cons => cases same

theorem row_cons {n : Node} {place : Place} {text : List Char} {more : List Node}
    (row : Row place text (n :: more)) :
    place = n.place ∧ ∃ rest, text = n.text ++ rest ∧ Row (n.place.afterAll n.text) rest more := by
  cases row with
  | cons rest => exact ⟨rfl, _, rfl, rest⟩

structure IsQuote (n : Node) : Prop where
  kind : n.kind = .mark
  text : n.text = ['`']

-- A template is covered by its children, of which the first and the last are its marks.
def Tiled (n : Node) : Prop :=
  ∃ opening inside closing, n.children = opening :: (inside ++ [closing]) ∧
    opening.IsQuote ∧ closing.IsQuote ∧ Row n.place n.text n.children

/-! ### The parts of a node -/

def HasName (n : Node) : Prop := ∃ m ∈ n.children, m.role = some .name

-- The part that a node of its kind must have.
def Complete (n : Node) : Prop :=
  match n.kind with
  | .genericType => n.HasName
  | .propertySignature => n.HasName
  | .methodSignature => n.HasName
  | .enumAssignment => n.HasName
  | .arrayType => n.content ≠ []
  | .parenthesizedType => n.content ≠ []
  | .readonlyType => n.content ≠ []
  | .unionType => n.content ≠ []
  | .intersectionType => n.content ≠ []
  | .lookupType => n.content.length = 2
  | .number => IsNumber n.text
  | .signedNumber => IsSigned n.text
  | .escape => IsEscape n.text
  | .template => n.Tiled
  | _ => True

theorem complete_plain {n : Node} (plain : n.kind.isPlain = true) : n.Complete := by
  unfold Complete
  split <;> simp_all

theorem complete_filled {n : Node} (kind : n.kind.isFilled = true) (filled : n.content ≠ []) :
    n.Complete := by
  unfold Complete
  split <;> simp_all

theorem content_filled {n : Node} (kind : n.kind.isFilled = true) (complete : n.Complete) :
    n.content ≠ [] := by
  unfold Complete at complete
  unfold Kind.isFilled at kind
  split at kind <;> simp_all

inductive Sound : Node → Prop where
  | intro {n : Node} (complete : n.Complete) (typed : n.role = some .typing → n.content ≠ [])
      (inside : ∀ m ∈ n.children, Sound m) : Sound n

theorem Sound.complete {n : Node} : n.Sound → n.Complete
  | .intro complete _ _ => complete

theorem Sound.typed {n : Node} : n.Sound → n.role = some .typing → n.content ≠ []
  | .intro _ typed _ => typed

theorem Sound.inside {n : Node} : n.Sound → ∀ m ∈ n.children, m.Sound
  | .intro _ _ inside => inside

def AllSound (nodes : List Node) : Prop := ∀ n ∈ nodes, n.Sound

theorem allSound_nil : AllSound [] := by simp [AllSound]

theorem allSound_append {first second : List Node} (earlier : AllSound first)
    (later : AllSound second) : AllSound (first ++ second) := by
  intro n member
  rcases List.mem_append.mp member with left | right
  · exact earlier n left
  · exact later n right

theorem allSound_single {n : Node} (sound : n.Sound) : AllSound [n] := by simpa [AllSound] using sound

theorem content_of_kind {n : Node} (content : n.kind.isContent = true) : n.isContent = true := by
  unfold Node.isContent
  cases kind : n.kind <;> simp_all

-- What a rule for one node returns: a sound node that is neither a mark nor a comment.
structure Whole (n : Node) : Prop where
  sound : n.Sound
  content : n.isContent = true

theorem sound_of_plain {n : Node} (plain : n.kind.isPlain = true) (unplayed : n.role = none)
    (inside : AllSound n.children) : n.Sound :=
  .intro (complete_plain plain) (by simp [unplayed]) inside

theorem leaf_sound {kind : Kind} {place : Place} {text : List Char}
    (complete : (leaf kind place text).Complete) : (leaf kind place text).Sound :=
  .intro complete (by simp [leaf]) allSound_nil

theorem number_complete {rest : List Char} {size : Nat} (found : Lexeme.number rest = size + 1)
    (place : Place) : (leaf .number place (rest.take (size + 1))).Complete :=
  ⟨rest, by omega, by rw [found]; rfl⟩

-- A row of sound nodes one of which has the property.
structure Shows (property : Node → Prop) (nodes : List Node) : Prop where
  sound : AllSound nodes
  shown : ∃ n ∈ nodes, property n

theorem shows_before {property : Node → Prop} {first second : List Node} (shows : Shows property first)
    (later : AllSound second) : Shows property (first ++ second) := by
  obtain ⟨n, member, holds⟩ := shows.shown
  exact ⟨allSound_append shows.sound later, n, List.mem_append_left _ member, holds⟩

theorem shows_behind {property : Node → Prop} {first second : List Node} (earlier : AllSound first)
    (shows : Shows property second) : Shows property (first ++ second) := by
  obtain ⟨n, member, holds⟩ := shows.shown
  exact ⟨allSound_append earlier shows.sound, n, List.mem_append_right _ member, holds⟩

theorem content_shown {n : Node} (shows : Shows (·.isContent = true) n.children) : n.content ≠ [] := by
  obtain ⟨m, member, content⟩ := shows.shown
  exact List.ne_nil_of_mem (List.mem_filter.mpr ⟨member, content⟩)

/-! ### Roles -/

theorem playing_complete {n : Node} (r : Role) (complete : n.Complete) : (n.playing r).Complete := by
  cases n with
  | mk => exact complete

theorem playing_sound {n : Node} {r : Role} (free : r.isFree = true) (sound : n.Sound) :
    (n.playing r).Sound := by
  refine .intro (playing_complete r sound.complete) ?_ sound.inside
  intro same
  cases same
  cases free

theorem playing_typing {n : Node} (filled : n.content ≠ []) (sound : n.Sound) :
    (n.playing .typing).Sound :=
  .intro (playing_complete .typing sound.complete) (fun _ => filled) sound.inside

end Node

end DeclSchema.Source
