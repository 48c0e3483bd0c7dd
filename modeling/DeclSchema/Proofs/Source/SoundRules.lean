import DeclSchema.Proofs.Source.Trees

/-!
Rules that read sound trees. Each way of putting rules together keeps soundness, and instances say
so: whether a rule of the grammar is sound is then found by going through its definition.
-/

namespace DeclSchema.Source

open Node

namespace Rule

variable {α β : Type}

-- Whatever the rule returns has the property, and its cursor stands behind what was read.
def Yields (p : Rule α) (P : α → Prop) : Prop :=
  ∀ c a next, p c = some (a, next) → c.Leads next ∧ P a

theorem yields_imp {p : Rule α} {P Q : α → Prop} (implies : ∀ a, P a → Q a) (yields : p.Yields P) :
    p.Yields Q := by
  intro c a next read
  obtain ⟨leads, property⟩ := yields c a next read
  exact ⟨leads, implies a property⟩

theorem yields_and {p : Rule α} {P Q : α → Prop} (first : p.Yields P) (second : p.Yields Q) :
    p.Yields fun a => P a ∧ Q a := by
  intro c a next read
  obtain ⟨leads, property⟩ := first c a next read
  exact ⟨leads, property, (second c a next read).2⟩

theorem yields_pure {P : α → Prop} {a : α} (property : P a) : (pure a : Rule α).Yields P := by
  intro c b next read
  cases read
  exact ⟨c.leads_refl, property⟩

theorem bind_some {p : Rule α} {f : α → Rule β} {c next : Cursor} {b : β}
    (read : (p >>= f) c = some (b, next)) :
    ∃ a middle, p c = some (a, middle) ∧ f a middle = some (b, next) := by
  rw [bind_run] at read
  obtain ⟨result, found, rest⟩ := Option.bind_eq_some_iff.mp read
  exact ⟨result.1, result.2, found, rest⟩

theorem yields_bind {p : Rule α} {f : α → Rule β} {P : α → Prop} {Q : β → Prop}
    (first : p.Yields P) (second : ∀ a, P a → (f a).Yields Q) : (p >>= f).Yields Q := by
  intro c b next read
  obtain ⟨a, middle, found, rest⟩ := bind_some read
  obtain ⟨earlier, property⟩ := first c a middle found
  obtain ⟨later, conclusion⟩ := second a property middle b next rest
  exact ⟨Cursor.leads_trans earlier later, conclusion⟩

theorem orElse_some {p q : Rule α} {c : Cursor} {result : α × Cursor}
    (read : (p <|> q) c = some result) : p c = some result ∨ q c = some result := by
  rw [orElse_run] at read
  cases found : p c with
  | none => exact .inr (by rwa [found, Option.none_or] at read)
  | some result => exact .inl (by rwa [found, Option.some_or] at read)

theorem yields_orElse {p q : Rule α} {P : α → Prop} (first : p.Yields P) (second : q.Yields P) :
    (p <|> q).Yields P := by
  intro c a next read
  rcases orElse_some read with left | right
  · exact first c a next left
  · exact second c a next right

theorem yields_guard (test : Cursor → Bool) : (guard test).Yields fun _ => True := by
  intro c a next read
  unfold guard at read
  split at read
  · cases read
    exact ⟨c.leads_refl, trivial⟩
  · cases read

theorem yields_guarded {p : Rule α} {P : α → Prop} (test : Cursor → Bool) (yields : p.Yields P) :
    (do guard test; p).Yields P :=
  yields_bind (yields_guard test) fun _ _ => yields

/-! ### Rules for rows of nodes -/

class Sound (p : Rule (List Node)) : Prop where
  yields : p.Yields AllSound

-- Rules for one node.
class Whole (p : Rule Node) : Prop where
  yields : p.Yields Node.Whole

-- A condition that holds by computation.
class Holds (condition : Bool) : Prop where
  eq : condition = true

instance : Holds true := ⟨rfl⟩

variable {p q : Rule (List Node)} {one other : Rule Node}

instance sound_pure : Sound (pure []) := ⟨yields_pure allSound_nil⟩

instance sound_orElse [Sound p] [Sound q] : Sound (p <|> q) :=
  ⟨yields_orElse Sound.yields Sound.yields⟩

instance whole_orElse [Whole one] [Whole other] : Whole (one <|> other) :=
  ⟨yields_orElse Whole.yields Whole.yields⟩

instance sound_guarded {test : Cursor → Bool} [Sound p] : Sound (do guard test; p) :=
  ⟨yields_guarded test Sound.yields⟩

instance sound_optional [Sound p] : Sound (optional p) := sound_orElse

theorem yields_followed {P Q R : List Node → Prop} (first : p.Yields P) (second : q.Yields Q)
    (both : ∀ a b, P a → Q b → R (a ++ b)) : (do return (← p) ++ (← q)).Yields R :=
  yields_bind first fun a left => yields_bind second fun b right => yields_pure (both a b left right)

instance sound_followed [Sound p] [Sound q] : Sound (do return (← p) ++ (← q)) :=
  ⟨yields_followed Sound.yields Sound.yields fun _ _ => allSound_append⟩

-- The second rule is tried only where the first one led to a cursor of the right kind.
instance sound_headed {test : Cursor → Bool} [Sound p] [Sound q] :
    Sound (do let found ← p; guard test; return found ++ (← q)) := by
  refine ⟨yields_bind Sound.yields fun first firstSound => yields_guarded test ?_⟩
  exact yields_bind Sound.yields fun second secondSound =>
    yields_pure (allSound_append firstSound secondSound)

-- Two ways on from the same beginning.
instance sound_branched {q' : Rule (List Node)} [Sound p] [Sound q] [Sound q'] :
    Sound (do
      let found ← p
      (do return found ++ (← q)) <|> (do return found ++ (← q'))) := by
  refine ⟨yields_bind Sound.yields fun first firstSound => yields_orElse ?_ ?_⟩
  · exact yields_bind Sound.yields fun second secondSound =>
      yields_pure (allSound_append firstSound secondSound)
  · exact yields_bind Sound.yields fun second secondSound =>
      yields_pure (allSound_append firstSound secondSound)

instance sound_checked {test : Cursor → Bool} [Sound p] :
    Sound (do let found ← p; guard test; return found) :=
  ⟨yields_bind Sound.yields fun _ sound => yields_guarded test (yields_pure sound)⟩

instance whole_checked {test : Cursor → Bool} [Whole one] :
    Whole (do let found ← one; guard test; return found) :=
  ⟨yields_bind Whole.yields fun _ whole => yields_guarded test (yields_pure whole)⟩

instance sound_seq_nil : Sound (seq []) := sound_pure

instance sound_seq_cons {rules : List (Rule (List Node))} [Sound p] [Sound (seq rules)] :
    Sound (seq (p :: rules)) := @sound_followed p (seq rules) _ _

theorem seq_some {rules : List (Rule (List Node))} {c next : Cursor} {nodes : List Node}
    (read : seq (p :: rules) c = some (nodes, next)) :
    ∃ first middle others, p c = some (first, middle) ∧
      seq rules middle = some (others, next) ∧ nodes = first ++ others := by
  obtain ⟨first, middle, found, reading⟩ := bind_some read
  obtain ⟨others, last, rest, final⟩ := bind_some reading
  cases final
  exact ⟨first, middle, others, found, rest, rfl⟩

section Shows

variable {property : Node → Prop} {rules : List (Rule (List Node))}

theorem seq_shows_first (shows : p.Yields (Shows property)) [Sound (seq rules)] :
    (seq (p :: rules)).Yields (Shows property) :=
  yields_followed (q := seq rules) shows Sound.yields fun _ _ => shows_before

theorem seq_shows_later [Sound p] (shows : (seq rules).Yields (Shows property)) :
    (seq (p :: rules)).Yields (Shows property) :=
  yields_followed (q := seq rules) Sound.yields shows fun _ _ => shows_behind

end Shows

theorem comments_leaf (c : Cursor) :
    ∀ n ∈ c.gap.comments, ∃ place text, n = leaf .comment place text := by
  fun_induction Cursor.gap c with
  | case1 => simp
  | case2 c blanks broken here n size more ih =>
    intro m member
    rcases List.mem_cons.mp member with rfl | later
    · exact ⟨_, _, rfl⟩
    · exact ih m later

theorem comments_sound (c : Cursor) : AllSound c.gap.comments := by
  intro n member
  obtain ⟨place, text, rfl⟩ := comments_leaf c n member
  exact leaf_sound (complete_plain rfl)

instance sound_gap : Sound gap := by
  refine ⟨fun c a next read => ?_⟩
  cases read
  exact ⟨c.gap_leads, comments_sound c⟩

-- A lexeme is a leaf behind a gap.
theorem lexeme_some {kind : Kind} {size : List Char → Nat} {c next : Cursor} {nodes : List Node}
    (read : lexeme kind size c = some (nodes, next)) :
    0 < size c.gap.after.rest ∧ next = c.gap.after.skip (size c.gap.after.rest) ∧
      nodes = c.gap.comments ++
        [leaf kind c.gap.after.place (c.gap.after.rest.take (size c.gap.after.rest))] := by
  unfold lexeme at read
  dsimp only at read
  split at read
  · cases read
  · rename_i n found
    cases read
    rw [found]
    exact ⟨Nat.succ_pos n, rfl, rfl⟩

theorem lexeme_yields (kind : Kind) (size : List Char → Nat) :
    (lexeme kind size).Yields fun nodes => ∃ c : Cursor, ∃ place rest,
      0 < size rest ∧ nodes = c.gap.comments ++ [leaf kind place (rest.take (size rest))] := by
  intro c a next read
  obtain ⟨positive, rfl, rfl⟩ := lexeme_some read
  exact ⟨Cursor.leads_trans c.gap_leads (Cursor.leads_skip _ _), c, _, _, positive, rfl⟩

theorem sound_lexeme_of {kind : Kind} {size : List Char → Nat}
    (complete : ∀ place rest, 0 < size rest →
      (leaf kind place (rest.take (size rest))).Complete) : Sound (lexeme kind size) := by
  refine ⟨yields_imp ?_ (lexeme_yields kind size)⟩
  rintro nodes ⟨c, place, rest, positive, rfl⟩
  exact allSound_append (comments_sound c)
    (allSound_single (leaf_sound (complete place rest positive)))

instance sound_lexeme {kind : Kind} {size : List Char → Nat} [plain : Holds kind.isPlain] :
    Sound (lexeme kind size) := sound_lexeme_of fun _ _ _ => complete_plain plain.eq

instance sound_number : Sound (lexeme .number Lexeme.number) :=
  sound_lexeme_of fun _ rest positive => ⟨rest, positive, rfl⟩

instance sound_mark {text : String} : Sound (mark text) := sound_lexeme

instance sound_markNot {text : String} {longer : List String} : Sound (markNot text longer) :=
  sound_lexeme

instance sound_word {text : String} : Sound (word text) := sound_lexeme

instance sound_wordOf {texts : List String} : Sound (wordOf texts) := sound_lexeme

instance sound_anyName {kind : Kind} [Holds kind.isPlain] : Sound (anyName kind) := sound_lexeme

-- One node behind a gap. In front of the node itself there is no gap left.
def YieldsSettled (p : Rule Node) (P : Node → Prop) : Prop :=
  ∀ c n next, c.Settled → p c = some (n, next) → c.Leads next ∧ P n

theorem item_yields {P : Node → Prop} (yields : one.YieldsSettled P) :
    (item one).Yields fun nodes => ∃ c : Cursor, ∃ n, P n ∧ nodes = c.gap.comments ++ [n] := by
  intro c a next read
  unfold item at read
  dsimp only at read
  split at read
  · cases read
  · rename_i n after found
    cases read
    obtain ⟨leads, property⟩ := yields _ _ _ c.gap_settled found
    exact ⟨Cursor.leads_trans c.gap_leads leads, c, n, property, rfl⟩

theorem itemAs_yields {P : Node → Prop} (r : Role) (yields : one.YieldsSettled P) :
    (itemAs r one).Yields fun nodes =>
      ∃ c : Cursor, ∃ n, P n ∧ nodes = c.gap.comments ++ [n.playing r] := by
  intro c a next read
  unfold itemAs at read
  dsimp only at read
  split at read
  · cases read
  · rename_i n after found
    cases read
    obtain ⟨leads, property⟩ := yields _ _ _ c.gap_settled found
    exact ⟨Cursor.leads_trans c.gap_leads leads, c, n, property, rfl⟩

-- Rules for one node in front of which no gap stands.
class WholeSettled (p : Rule Node) : Prop where
  yields : p.YieldsSettled Node.Whole

instance wholeSettled_whole [Whole one] : WholeSettled one :=
  ⟨fun c n next _ read => Whole.yields c n next read⟩

instance sound_item [WholeSettled one] : Sound (item one) := by
  refine ⟨yields_imp ?_ (item_yields WholeSettled.yields)⟩
  rintro nodes ⟨c, n, whole, rfl⟩
  exact allSound_append (comments_sound c) (allSound_single whole.sound)

theorem item_shows [WholeSettled one] : (item one).Yields (Shows (·.isContent = true)) := by
  refine yields_imp ?_ (item_yields WholeSettled.yields)
  rintro nodes ⟨c, n, whole, rfl⟩
  exact ⟨allSound_append (comments_sound c) (allSound_single whole.sound), n, by simp, whole.content⟩

instance sound_itemAs {r : Role} [free : Holds r.isFree] [WholeSettled one] :
    Sound (itemAs r one) := by
  refine ⟨yields_imp ?_ (itemAs_yields r WholeSettled.yields)⟩
  rintro nodes ⟨c, n, whole, rfl⟩
  refine allSound_append (comments_sound c) (allSound_single ?_)
  exact playing_sound free.eq whole.sound

theorem itemAs_shows (r : Role) [free : Holds r.isFree] [WholeSettled one] :
    (itemAs r one).Yields (Shows (·.role = some r)) := by
  refine yields_imp ?_ (itemAs_yields r WholeSettled.yields)
  rintro nodes ⟨c, n, whole, rfl⟩
  refine ⟨allSound_append (comments_sound c) (allSound_single ?_), n.playing r, by simp, rfl⟩
  exact playing_sound free.eq whole.sound

instance sound_role {r : Role} [free : Holds r.isFree] [Sound p] : Sound (role r p) := by
  refine ⟨fun c a next read => ?_⟩
  unfold role at read
  obtain ⟨⟨found, after⟩, reading, result⟩ := Option.map_eq_some_iff.mp read
  cases result
  obtain ⟨leads, all⟩ := Sound.yields _ _ _ reading
  refine ⟨leads, ?_⟩
  intro n member
  obtain ⟨before, present, rfl⟩ := List.mem_map.mp member
  split
  · exact playing_sound free.eq (all before present)
  · exact all before present

theorem manyLoop_yields [Sound p] (fuel : Nat) : (manyLoop p fuel).Yields AllSound := by
  induction fuel with
  | zero => exact yields_pure allSound_nil
  | succ fuel ih =>
    intro c a next read
    rw [manyLoop] at read
    cases found : p c with
    | none =>
      simp only [found] at read
      cases read
      exact ⟨c.leads_refl, allSound_nil⟩
    | some result =>
      obtain ⟨first, middle⟩ := result
      obtain ⟨earlier, firstSound⟩ := Sound.yields c first middle found
      simp only [found] at read
      split at read
      · cases read
        exact ⟨earlier, firstSound⟩
      · obtain ⟨⟨more, last⟩, reading, result⟩ := Option.map_eq_some_iff.mp read
        cases result
        obtain ⟨later, moreSound⟩ := ih middle more last reading
        exact ⟨Cursor.leads_trans earlier later, allSound_append firstSound moreSound⟩

instance sound_many [Sound p] : Sound (many p) :=
  ⟨fun c a next read => manyLoop_yields (c.rest.length + 1) c a next read⟩

instance sound_listed [Sound p] : Sound (listed p) := by
  unfold listed
  infer_instance

/-! ### Rules for one node -/

theorem grow_some {kind : Kind} {start : Cursor} {left : List Node} {c next : Cursor} {n : Node}
    (read : grow kind start left p c = some (n, next)) :
    ∃ children, p c = some (children, next) ∧
      n = ⟨kind, none, start.place, start.textTo next, false, left ++ children⟩ := by
  unfold grow at read
  split at read
  · cases read
  · rename_i children after found
    cases read
    exact ⟨children, found, rfl⟩

theorem grow_yields {P : List Node → Prop} (kind : Kind) (start : Cursor) (left : List Node)
    (yields : p.Yields P) :
    (grow kind start left p).Yields fun n =>
      n.kind = kind ∧ n.role = none ∧ ∃ children, P children ∧ n.children = left ++ children := by
  intro c n next read
  obtain ⟨children, found, rfl⟩ := grow_some read
  obtain ⟨leads, property⟩ := yields _ _ _ found
  exact ⟨leads, rfl, rfl, children, property, rfl⟩

theorem node_yields {P : List Node → Prop} (kind : Kind) (yields : p.Yields P) :
    (node kind p).Yields fun n =>
      n.kind = kind ∧ n.role = none ∧ P n.children := by
  intro c n next read
  obtain ⟨leads, sameKind, unplayed, children, property, same⟩ :=
    grow_yields kind c [] yields c n next read
  exact ⟨leads, sameKind, unplayed, by rwa [same]⟩

theorem whole_grow {kind : Kind} {start : Cursor} {left : List Node} [plain : Holds kind.isPlain]
    [content : Holds kind.isContent] [Sound p] (leftSound : AllSound left) :
    Whole (grow kind start left p) := by
  refine ⟨yields_imp ?_ (grow_yields kind start left Sound.yields)⟩
  rintro n ⟨rfl, unplayed, children, childrenSound, same⟩
  refine ⟨sound_of_plain plain.eq unplayed ?_, content_of_kind content.eq⟩
  rw [same]
  exact allSound_append leftSound childrenSound

instance whole_node {kind : Kind} [plain : Holds kind.isPlain] [content : Holds kind.isContent]
    [Sound p] : Whole (node kind p) := by
  refine ⟨yields_imp ?_ (node_yields kind Sound.yields)⟩
  rintro n ⟨rfl, unplayed, children⟩
  exact ⟨sound_of_plain plain.eq unplayed children, content_of_kind content.eq⟩

theorem climb_yields {step : Node → Rule Node} (steps : ∀ left, left.Whole → Whole (step left))
    (fuel : Nat) {left : Node} (whole : left.Whole) :
    (climb step fuel left).Yields Node.Whole := by
  induction fuel generalizing left with
  | zero => exact yields_pure whole
  | succ fuel ih =>
    intro c n next read
    rw [climb] at read
    cases found : step left c with
    | none =>
      simp only [found] at read
      cases read
      exact ⟨c.leads_refl, whole⟩
    | some result =>
      obtain ⟨grown, middle⟩ := result
      simp only [found] at read
      obtain ⟨earlier, grownWhole⟩ := (steps left whole).yields c grown middle found
      obtain ⟨later, property⟩ := ih grownWhole middle n next read
      exact ⟨Cursor.leads_trans earlier later, property⟩

theorem whole_climbing {step : Cursor → Node → Rule Node} [Whole one]
    (steps : ∀ start left, left.Whole → Whole (step start left)) : Whole (climbing one step) := by
  refine ⟨fun c n next read => ?_⟩
  unfold climbing at read
  split at read
  · cases read
  · rename_i left middle found
    obtain ⟨earlier, leftWhole⟩ := Whole.yields c left middle found
    obtain ⟨later, property⟩ := climb_yields (steps c) _ leftWhole middle n next read
    exact ⟨Cursor.leads_trans earlier later, property⟩

-- One step to the right, which need not be taken.
theorem whole_extended {kind : Kind} [Holds kind.isPlain] [Holds kind.isContent] [Whole one] [Sound p] :
    Whole fun c =>
      match one c with
      | none => none
      | some (left, next) =>
        match grow kind c [left] p next with
        | none => some (left, next)
        | grown => grown := by
  refine ⟨fun c n next read => ?_⟩
  split at read
  · cases read
  · rename_i left middle found
    obtain ⟨earlier, leftWhole⟩ := Whole.yields c left middle found
    split at read
    · cases read
      exact ⟨earlier, leftWhole⟩
    · have grown : Whole (grow kind c [left] p) := whole_grow (allSound_single leftWhole.sound)
      obtain ⟨later, whole⟩ := grown.yields middle n next read
      exact ⟨Cursor.leads_trans earlier later, whole⟩

end Rule

end DeclSchema.Source
