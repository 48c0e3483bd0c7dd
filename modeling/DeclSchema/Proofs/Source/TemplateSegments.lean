import DeclSchema.Proofs.Source.Escapes
import DeclSchema.Proofs.Source.Trees

/-!
Templates as rows of segments: text that stands for itself, escapes and substitutions. What is read
from a template is what its segments stand for, one after the other, and reading fails only at an
escape without a value.
-/

namespace DeclSchema.Source

open Node

/-! ### Segments -/

inductive Segment where
  | run (text : List Char)
  | escape (text : List Char)
  | hole (text : List Char)
deriving DecidableEq

namespace Segment

def text : Segment → List Char
  | run text => text
  | escape text => text
  | hole text => text

def value : Segment → Except Fault Points
  | run text => .ok (.ofChars text)
  | escape text => cookedEscape text
  | hole _ => .ok []

def textAll (segments : List Segment) : List Char := segments.flatMap text

def valueAll (segments : List Segment) : Except Fault Points :=
  (segments.mapM value).map List.flatten

theorem textAll_cons (segment : Segment) (rest : List Segment) :
    textAll (segment :: rest) = segment.text ++ textAll rest := List.flatMap_cons

theorem valueAll_cons (segment : Segment) (rest : List Segment) :
    valueAll (segment :: rest) = do
      let first ← segment.value
      let more ← valueAll rest
      return first ++ more := by
  rw [valueAll, List.mapM_cons, valueAll]
  cases segment.value with
  | error fault => rfl
  | ok first => cases rest.mapM value <;> rfl

-- Values come of all segments or of none: the first escape that has no value decides.
theorem valueAll_error {segments : List Segment} {fault : Fault}
    (failed : valueAll segments = .error fault) :
    ∃ text, .escape text ∈ segments ∧ cookedEscape text = .error fault := by
  induction segments with
  | nil => cases failed
  | cons segment rest ih =>
    rw [valueAll_cons] at failed
    cases first : segment.value with
    | error other =>
      rw [first] at failed
      cases failed
      cases segment with
      | escape text => exact ⟨text, List.mem_cons_self, first⟩
      | _ => cases first
    | ok value =>
      rw [first] at failed
      cases later : valueAll rest with
      | error other =>
        rw [later] at failed
        cases failed
        obtain ⟨text, member, faulty⟩ := ih later
        exact ⟨text, List.mem_cons_of_mem segment member, faulty⟩
      | ok more =>
        rw [later] at failed
        cases failed

theorem valueAll_ok {segments : List Segment} {value : Points} (found : valueAll segments = .ok value)
    {text : List Char} (member : .escape text ∈ segments) : ∃ value, cookedEscape text = .ok value := by
  induction segments generalizing value with
  | nil => cases member
  | cons segment rest ih =>
    rw [valueAll_cons] at found
    cases first : segment.value with
    | error other =>
      rw [first] at found
      cases found
    | ok own =>
      cases later : valueAll rest with
      | error other =>
        rw [first, later] at found
        cases found
      | ok more =>
        rcases List.mem_cons.mp member with rfl | below
        · exact ⟨own, first⟩
        · exact ih later below

end Segment

open Segment

-- An escape can be without a value; it is never badly cut.
theorem coded_formed (digits : List Char) : coded digits ≠ .error .malformed := by
  unfold coded
  split
  · intro failed
    cases failed
  · unfold characterOf
    intro failed
    split at failed
    · cases failed
    · split at failed <;> cases failed

theorem cookedEscape_formed (text : List Char) : cookedEscape text ≠ .error .malformed := by
  unfold cookedEscape cookedBody
  split
  · intro failed
    cases failed
  split
  · split <;> exact coded_formed _
  · exact coded_formed _
  · exact coded_formed _
  · intro failed
    cases failed

/-! ### Templates -/

namespace Node

-- The segment that a node stands for by itself.
def segment? (n : Node) : Option Segment :=
  match n.kind with
  | .escape => some (.escape n.text)
  | .substitution => some (.hole n.text)
  | _ => none

theorem segment_escape {n : Node} {text : List Char} (stands : n.segment? = some (.escape text)) :
    n.kind = .escape ∧ n.text = text := by
  unfold segment? at stands
  split at stands
  next kind =>
    cases stands
    exact ⟨kind, rfl⟩
  next => cases stands
  next => cases stands

theorem segment_cut {n : Node} {segment : Segment} (stands : n.segment? = some segment) :
    (n.kind = .escape || n.kind = .substitution) = true ∧ segment.text = n.text ∧
      segment.value = if n.kind = .escape then cookedEscape n.text else .ok [] := by
  unfold segment? at stands
  split at stands
  next kind =>
    cases stands
    exact ⟨by rw [kind]; rfl, rfl, by rw [if_pos kind]; rfl⟩
  next kind =>
    cases stands
    exact ⟨by rw [kind]; rfl, rfl, by rw [if_neg (by rw [kind]; decide)]; rfl⟩
  next => cases stands

theorem segment_none {n : Node} (stands : n.segment? = none) :
    (n.kind = .escape || n.kind = .substitution) = false := by
  unfold segment? at stands
  split at stands
  next => cases stands
  next => cases stands
  next noEscape noHole =>
    rw [Bool.or_eq_false_iff, decide_eq_false_iff_not, decide_eq_false_iff_not]
    exact ⟨noEscape, noHole⟩

-- The escapes and the substitutions among the nodes lie where the segments put them, the first
-- segment beginning at the offset. No other node matters, wherever it stands.
inductive Lie : Nat → List Segment → List Node → Prop where
  | nil (offset : Nat) : Lie offset [] []
  | run {offset : Nat} {text : List Char} {segments : List Segment} {nodes : List Node} :
      Lie (offset + Text.byteLength text) segments nodes → Lie offset (.run text :: segments) nodes
  | cut {offset : Nat} {n : Node} {segment : Segment} {segments : List Segment} {nodes : List Node} :
      n.segment? = some segment → n.place.offset = offset →
      Lie (offset + Text.byteLength n.text) segments nodes → Lie offset (segment :: segments) (n :: nodes)
  | other {offset : Nat} {n : Node} {segments : List Segment} {nodes : List Node} :
      n.segment? = none → Lie offset segments nodes → Lie offset segments (n :: nodes)

structure MadeOf (n : Node) (segments : List Segment) : Prop where
  text : n.text = '`' :: (textAll segments ++ ['`'])
  children : Lie (n.place.offset + 1) segments n.children

theorem lie_escape {offset : Nat} {segments : List Segment} {nodes : List Node}
    (lie : Lie offset segments nodes) {text : List Char} (member : .escape text ∈ segments) :
    ∃ n ∈ nodes, n.kind = .escape ∧ n.text = text := by
  induction lie with
  | nil => cases member
  | run _ ih =>
    rcases List.mem_cons.mp member with same | later
    · cases same
    · exact ih later
  | @cut offset n segment segments nodes stands _ _ ih =>
    rcases List.mem_cons.mp member with rfl | later
    · exact ⟨n, List.mem_cons_self, segment_escape stands⟩
    · obtain ⟨m, present, holds⟩ := ih later
      exact ⟨m, List.mem_cons_of_mem n present, holds⟩
  | @other offset n segments nodes _ _ ih =>
    obtain ⟨m, present, holds⟩ := ih member
    exact ⟨m, List.mem_cons_of_mem n present, holds⟩

end Node

/-! ### Cutting -/

theorem slice_between (before between behind : List Char) :
    slice (Text.byteLength before) (Text.byteLength (before ++ between)) (before ++ between ++ behind) =
      .ok between := by
  have size : Text.byteLength (before ++ between) - Text.byteLength before = Text.byteLength between := by
    rw [Text.byteLength_append]
    omega
  unfold slice Text.sliceBytes
  rw [size, List.append_assoc, Text.dropBytes_append]
  simp [Text.dropBytes_append, Text.takeBytes_append]

section

variable {origin : Nat} {done pending ahead : List Char} {child : Node} {more : List Node}

-- The text is cut into what has been dealt with, what waits for the next escape, substitution or
-- end, and what is ahead.
theorem cookedFrom_end :
    cookedFrom origin (done ++ pending ++ ['`']) (Text.byteLength done) [] =
      .ok (.ofChars pending) := by
  have size : Text.byteLength (done ++ pending ++ ['`']) - 1 = Text.byteLength (done ++ pending) := by
    rw [Text.byteLength_append]
    rfl
  rw [cookedFrom, size, slice_between]
  rfl

theorem cookedFrom_cut (cut : (child.kind = .escape || child.kind = .substitution) = true)
    (offset : child.place.offset = origin + Text.byteLength (done ++ pending)) :
    cookedFrom origin (done ++ pending ++ ahead) (Text.byteLength done) (child :: more) = do
      let value ← if child.kind = .escape then cookedEscape child.text else .ok []
      let others ← cookedFrom origin (done ++ pending ++ ahead)
        (Text.byteLength (done ++ pending ++ child.text)) more
      return .ofChars pending ++ value ++ others := by
  have start : child.place.offset - origin = Text.byteLength (done ++ pending) := by omega
  rw [cookedFrom, if_pos cut]
  dsimp only
  rw [start, slice_between, Text.byteLength_append _ child.text]
  rfl

end

theorem cookedFrom_lie {origin offset : Nat} {segments : List Segment} {nodes : List Node}
    (lie : Lie offset segments nodes) (done pending : List Char)
    (here : offset = origin + Text.byteLength (done ++ pending)) :
    cookedFrom origin (done ++ pending ++ (textAll segments ++ ['`'])) (Text.byteLength done) nodes =
      (valueAll segments).map (Points.ofChars pending ++ ·) := by
  induction lie generalizing done pending with
  | nil offset =>
    have nothing : (valueAll []).map (Points.ofChars pending ++ ·) =
        .ok (Points.ofChars pending ++ []) := rfl
    rw [nothing, List.append_nil]
    exact cookedFrom_end
  | @run offset text segments nodes _ ih =>
    have later := ih done (pending ++ text)
      (by rw [here, ← List.append_assoc, Text.byteLength_append _ text]; omega)
    rw [textAll_cons, valueAll_cons]
    simp only [Segment.text, Segment.value, List.append_assoc] at later ⊢
    rw [later]
    cases valueAll segments <;> simp [bind, Except.bind, pure, Except.pure, Except.map]
  | @cut offset n segment segments nodes stands place _ ih =>
    have later := ih (done ++ pending ++ n.text) []
      (by rw [here, List.append_nil, Text.byteLength_append _ n.text]; omega)
    obtain ⟨cut, text, value⟩ := segment_cut stands
    rw [List.append_nil, List.append_assoc (done ++ pending)] at later
    rw [textAll_cons, valueAll_cons, text, List.append_assoc n.text,
      cookedFrom_cut cut (place.trans here), later, value]
    split
    next =>
      cases cookedEscape n.text with
      | error fault => rfl
      | ok first => cases valueAll segments <;> simp [bind, Except.bind, pure, Except.pure, Except.map]
    next => cases valueAll segments <;> simp [bind, Except.bind, pure, Except.pure, Except.map]
  | @other offset n segments nodes stands _ ih =>
    rw [cookedFrom, if_neg (by simp [segment_none stands])]
    exact ih done pending here

theorem Node.MadeOf.cooked {n : Node} {segments : List Segment} (made : n.MadeOf segments) :
    n.cooked = valueAll segments := by
  have whole := cookedFrom_lie made.children ['`'] [] rfl
  have same : (valueAll segments).map (Points.ofChars [] ++ ·) = valueAll segments := by
    cases valueAll segments <;> rfl
  rw [same] at whole
  rw [Node.cooked, made.text]
  exact whole

/-! ### Templates of a source -/

-- A template that its children cover is made of segments: of the escapes and substitutions among
-- them, and of the text of all others.
theorem row_lie {inside : List Node} {closing : Node} (quote : closing.IsQuote) {place : Place}
    {text : List Char} (row : Row place text (inside ++ [closing])) :
    ∃ segments, text = textAll segments ++ ['`'] ∧ Lie place.offset segments (inside ++ [closing]) := by
  induction inside generalizing place text with
  | nil =>
    obtain ⟨-, rest, rfl, nothing⟩ := row_cons row
    refine ⟨[], by rw [row_nil nothing, quote.text]; rfl, .other ?_ (.nil _)⟩
    rw [segment?, quote.kind]
  | cons child more ih =>
    obtain ⟨rfl, rest, rfl, onward⟩ := row_cons row
    obtain ⟨segments, text, lie⟩ := ih onward
    rw [Place.afterAll_offset] at lie
    cases stands : child.segment? with
    | none =>
      refine ⟨.run child.text :: segments, ?_, .other stands (.run lie)⟩
      rw [textAll_cons, List.append_assoc, ← text]
      rfl
    | some segment =>
      refine ⟨segment :: segments, ?_, .cut stands rfl lie⟩
      rw [textAll_cons, List.append_assoc, ← text, (segment_cut stands).2.1]

theorem tiled_made {n : Node} (tiled : n.Tiled) : ∃ segments, n.MadeOf segments := by
  obtain ⟨opening, inside, closing, children, begins, ends, row⟩ := tiled
  rw [children] at row
  obtain ⟨place, rest, text, onward⟩ := row_cons row
  rw [begins.text] at text
  rw [begins.text, ← place] at onward
  obtain ⟨segments, same, lie⟩ := row_lie ends onward
  rw [Place.afterAll_offset] at lie
  refine ⟨segments, by rw [text, same]; rfl, ?_⟩
  rw [children]
  exact .other (by rw [segment?, begins.kind]) lie

theorem cooked_segments (n : Node) (segments : List Segment) (made : n.MadeOf segments) :
    n.cooked = (segments.mapM Segment.value).map List.flatten ∧
    ((∃ text, n.cooked = .ok text) ↔
      ∀ text, .escape text ∈ segments → ∃ value, cookedEscape text = .ok value) ∧
    (∀ fault, n.cooked = .error fault →
      ∃ text, .escape text ∈ segments ∧ cookedEscape text = .error fault) ∧
    n.cooked ≠ .error .malformed := by
  have fails : ∀ fault, n.cooked = .error fault →
      ∃ text, .escape text ∈ segments ∧ cookedEscape text = .error fault := by
    intro fault failed
    exact valueAll_error (made.cooked ▸ failed)
  refine ⟨made.cooked, ⟨?_, ?_⟩, fails, ?_⟩
  · rintro ⟨text, cooked⟩ other member
    exact valueAll_ok (made.cooked ▸ cooked) member
  · intro cookable
    cases cooked : n.cooked with
    | ok text => exact ⟨text, rfl⟩
    | error fault =>
      obtain ⟨text, member, failed⟩ := fails fault cooked
      obtain ⟨value, found⟩ := cookable text member
      rw [failed] at found
      cases found
  · intro cut
    obtain ⟨text, _, failed⟩ := fails .malformed cut
    exact cookedEscape_formed text failed

-- In the middle of a source: two escapes side by side behind a run of characters of two and four
-- bytes, a substitution that holds another template, and an escape at the very end.
def segmentedTemplate : Node :=
  let inner : Node := ⟨.template, none, ⟨27, 2, 17⟩, "`\\t`".toList, false,
    [.leaf .mark ⟨27, 2, 17⟩ ['`'], .leaf .escape ⟨28, 2, 18⟩ "\\t".toList,
      .leaf .mark ⟨30, 2, 20⟩ ['`']]⟩
  ⟨.template, some .arguments, ⟨13, 2, 3⟩, "`éa𝄞\\n\\`$\x7b`\\t`\x7d€\\u\x7b41\x7d`".toList, false,
    [.leaf .mark ⟨13, 2, 3⟩ ['`'], .leaf .fragment ⟨14, 2, 4⟩ "éa𝄞".toList,
      .leaf .escape ⟨21, 2, 11⟩ "\\n".toList, .leaf .escape ⟨23, 2, 13⟩ "\\`".toList,
      ⟨.substitution, none, ⟨25, 2, 15⟩, "$\x7b`\\t`\x7d".toList, false,
        [.leaf .mark ⟨25, 2, 15⟩ "$\x7b".toList, inner, .leaf .mark ⟨31, 2, 21⟩ ['\x7d']]⟩,
      .leaf .escape ⟨35, 2, 25⟩ "\\u\x7b41\x7d".toList, .leaf .mark ⟨41, 2, 31⟩ ['`']]⟩

def segmentsOfTemplate : List Segment :=
  [.run "éa𝄞".toList, .escape "\\n".toList, .escape "\\`".toList, .hole "$\x7b`\\t`\x7d".toList,
    .run ['€'], .escape "\\u\x7b41\x7d".toList]

theorem cooked_segments_nested :
    segmentedTemplate.MadeOf segmentsOfTemplate ∧
    segmentedTemplate.cooked = .ok "éa𝄞\n`€A" := by
  have made : segmentedTemplate.MadeOf segmentsOfTemplate := by
    refine ⟨rfl, ?_⟩
    refine .other rfl (.run (.other rfl ?_))
    exact .cut rfl rfl (.cut rfl rfl (.cut rfl rfl (.run (.cut rfl rfl (.other rfl (.nil _))))))
  obtain ⟨cooked, _⟩ := cooked_segments segmentedTemplate segmentsOfTemplate made
  exact ⟨made, cooked.trans (by rfl)⟩

end DeclSchema.Source
