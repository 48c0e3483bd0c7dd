import DeclSchema.Proofs.Schema.Scanning

/-!
Names that are none. A text that is written where a name is expected, and that goes on with a
character which neither separates tokens nor opens anything, leaves a token behind that no
definition can be read past.
-/

namespace DeclSchema.Schema

/-! Characters and tokens. -/

-- Tokens that no definition goes on with behind a name or a type, and that no item begins with. A
-- bracket is one of them, since it stands in front of a type only.
def Token.isStray : Token → Bool
  | .symbol .dollar => true
  | .symbol .ampersand => true
  | .symbol .closeParen => true
  | .symbol .spread => true
  | .symbol .equals => true
  | .symbol .openBracket => true
  | .symbol .pipe => true
  | .integer _ => true
  | .float _ => true
  | .broken _ => true
  | _ => false

def Astray : List Token → Prop
  | [] => False
  | token :: _ => token.isStray = true

def isStray (c : Char) : Bool :=
  !isIgnored c && !isNamePart c && c != '#' && c != '"' &&
    match symbol? c with
    | none => true
    | some symbol => (Token.symbol symbol).isStray

-- Nothing stands behind the characters of the name, or something stray does.
def isLone (text : String) : Bool :=
  match text.toList.dropWhile isNamePart with
  | [] => !text.isEmpty
  | c :: _ => isStray c

theorem scanNumber_stray {text rest : Points} {token : Token}
    (scanned : scanNumber text = .ok (token, rest)) :
    token.isStray = true ∧ ∀ symbol, token ≠ .symbol symbol := by
  unfold scanNumber at scanned
  obtain ⟨_, _, scanned⟩ := bind_ok scanned
  obtain ⟨_, _, scanned⟩ := bind_ok scanned
  obtain ⟨_, _, scanned⟩ := bind_ok scanned
  obtain ⟨_, _, scanned⟩ := bind_ok scanned
  dsimp only at scanned
  split at scanned
  · cases scanned
    exact ⟨rfl, fun _ same => nomatch same⟩
  · cases scanned
    exact ⟨rfl, fun _ same => nomatch same⟩

theorem scanDots_spread {text rest : Points} {token : Token}
    (scanned : scanDots text = .ok (token, rest)) : token = .symbol .spread := by
  unfold scanDots at scanned
  split at scanned
  · cases scanned
    rfl
  · cases scanned
  · split at scanned <;> cases scanned

theorem scanQuotation_quoted {text rest : Points} {token : Token}
    (scanned : scanQuotation text = .ok (token, rest)) : ∀ symbol, token ≠ .symbol symbol := by
  unfold scanQuotation at scanned
  split at scanned
  · obtain ⟨_, _, done⟩ := bind_ok scanned
    cases done
    exact fun _ same => nomatch same
  · obtain ⟨_, _, done⟩ := bind_ok scanned
    cases done
    exact fun _ same => nomatch same

-- What does not begin a name or a quotation is stray, if it is no symbol or a stray one.
theorem scanToken_stray {c : Char} {text rest : Points} {token : Token}
    (scanned : scanToken c text = .ok (token, rest)) (start : isNameStart c = false) (quote : c ≠ '"')
    (symbols : ∀ symbol, symbol? c = some symbol → (Token.symbol symbol).isStray = true) :
    token.isStray = true := by
  unfold scanToken at scanned
  split at scanned
  · rename_i symbol found
    cases scanned
    exact symbols symbol found
  · simp only [start, quote, Bool.false_eq_true, if_false] at scanned
    split at scanned
    · exact (scanNumber_stray scanned).1
    · split at scanned
      · rw [scanDots_spread scanned]
        rfl
      · split at scanned <;> cases scanned

theorem astray_tokens {c : Char} (shown : isIgnored c = false) (text : c ≠ '#')
    (start : isNameStart c = false) (quote : c ≠ '"')
    (symbols : ∀ symbol, symbol? c = some symbol → (Token.symbol symbol).isStray = true)
    (rest : Points) : Astray (tokens (.char c :: rest)) := by
  rw [tokens_cons shown text]
  cases scanned : scanToken c rest with
  | error fault => rfl
  | ok result => exact scanToken_stray scanned start quote symbols

theorem stray_tokens {c : Char} (stray : isStray c = true) (rest : Points) :
    Astray (tokens (.char c :: rest)) := by
  simp only [isStray, Bool.and_eq_true, Bool.not_eq_true', bne_iff_ne, ne_eq] at stray
  obtain ⟨⟨⟨⟨shown, part⟩, text⟩, quote⟩, symbols⟩ := stray
  have start : isNameStart c = false := by
    rw [Bool.eq_false_iff]
    intro start
    rw [start_part start] at part
    cases part
  refine astray_tokens shown text start quote ?_ rest
  intro symbol found
  rwa [found] at symbols

theorem part_shown {c : Char} (part : isNamePart c = true) :
    isIgnored c = false ∧ c ≠ '#' ∧ c ≠ '"' ∧ symbol? c = none := by
  refine ⟨?_, ?_, ?_, ?_⟩
  · rw [Bool.eq_false_iff]
    intro ignored
    simp only [isIgnored, Bool.or_eq_true, decide_eq_true_eq] at ignored
    rcases ignored with ((((rfl | rfl) | rfl) | rfl) | rfl) | rfl <;> exact absurd part (by decide)
  · rintro rfl
    exact absurd part (by decide)
  · rintro rfl
    exact absurd part (by decide)
  · unfold symbol?
    split
    all_goals first
      | exact absurd part (by decide)
      | rfl

-- A digit begins a number, or nothing that can be read.
theorem digit_tokens {c : Char} (part : isNamePart c = true) (start : isNameStart c = false)
    (rest : Points) : Astray (tokens (.char c :: rest)) := by
  obtain ⟨shown, text, quote, plain⟩ := part_shown part
  refine astray_tokens shown text start quote ?_ rest
  intro symbol found
  rw [plain] at found
  cases found

/-! Lone texts. -/

-- The first token is stray, or it is a name with a stray token behind it.
def Wanders (tokens : List Token) : Prop :=
  Astray tokens ∨ ∃ word more, tokens = .name word :: more ∧ Astray more

theorem lone_wanders {text : String} (lone : isLone text = true) (other : isName text = false)
    (rest : Points) : Wanders (tokens (Points.of text ++ rest)) := by
  have shape : text.toList.takeWhile isNamePart ++ text.toList.dropWhile isNamePart = text.toList :=
    List.takeWhile_append_dropWhile
  have parts : ∀ c ∈ text.toList.takeWhile isNamePart, isNamePart c = true :=
    List.all_eq_true.mp List.all_takeWhile
  unfold isLone at lone
  generalize text.toList.takeWhile isNamePart = front at shape parts
  generalize text.toList.dropWhile isNamePart = behind at shape lone
  rw [Points.of, ← shape]
  cases front with
  | nil =>
    cases behind with
    | nil =>
      have empty : text = "" := String.toList_eq_nil_iff.mp shape.symm
      rw [empty] at lone
      cases lone
    | cons c more => exact .inl (stray_tokens lone _)
  | cons d run =>
    obtain ⟨first, later⟩ := List.forall_mem_cons.mp parts
    cases start : isNameStart d with
    | false => exact .inl (digit_tokens first start _)
    | true =>
      have named : isName (String.ofList (d :: run)) = true := by
        rw [isName, String.toList_ofList]
        simpa [start] using later
      cases behind with
      | nil =>
        have same : String.ofList (d :: run) = text := by
          rw [← String.ofList_toList (s := text), ← shape, List.append_nil]
        rw [same, other] at named
        cases named
      | cons c more =>
        have part : isNamePart c = false := by
          simp only [isStray, Bool.and_eq_true, Bool.not_eq_true'] at lone
          exact lone.1.1.1.2
        have read := tokens_name named (delimited_cons part (Points.ofChars more ++ rest))
        rw [Points.of_ofList] at read
        refine .inr ⟨String.ofList (d :: run), _, ?_, stray_tokens lone (Points.ofChars more ++ rest)⟩
        rw [Points.ofChars_append, List.append_assoc]
        exact read

theorem lone_shown {text : String} (lone : isLone text = true) :
    ∃ c more, text.toList = c :: more ∧ isIgnored c = false ∧ c ≠ '#' := by
  unfold isLone at lone
  cases shape : text.toList with
  | nil =>
    rw [shape, String.toList_eq_nil_iff.mp shape] at lone
    cases lone
  | cons c more =>
    refine ⟨c, more, rfl, ?_⟩
    by_cases part : isNamePart c = true
    · exact ⟨(part_shown part).1, (part_shown part).2.1⟩
    · rw [shape, List.dropWhile_cons_of_neg part] at lone
      simp only [isStray, Bool.and_eq_true, Bool.not_eq_true', bne_iff_ne, ne_eq] at lone
      exact ⟨lone.1.1.1.1, lone.1.1.2⟩

theorem scanToken_bracket {c : Char} {text rest : Points}
    (scanned : scanToken c text = .ok (.symbol .openBracket, rest)) : c = '[' := by
  unfold scanToken at scanned
  split at scanned
  · rename_i symbol found
    cases scanned
    unfold symbol? at found
    split at found
    all_goals first
      | rfl
      | cases found
  · split at scanned
    · cases scanned
    · split at scanned
      · exact absurd rfl ((scanNumber_stray scanned).2 .openBracket)
      · split at scanned
        · exact absurd rfl (scanQuotation_quoted scanned .openBracket)
        · split at scanned
          · cases scanDots_spread scanned
          · split at scanned <;> cases scanned

-- The first token is a bracket only where the text begins with one.
theorem lone_bracket {text : String} (lone : isLone text = true)
    (first : text.toList.head? ≠ some '[') (rest : Points) :
    (tokens (Points.of text ++ rest)).head? ≠ some (.symbol .openBracket) := by
  obtain ⟨c, more, shape, shown, plain⟩ := lone_shown lone
  rw [shape] at first
  rw [Points.of, shape, Points.ofChars_cons, List.cons_append, tokens_cons shown plain]
  intro next
  cases scanned : scanToken c (Points.ofChars more ++ rest) with
  | error fault =>
    rw [scanned] at next
    cases next
  | ok result =>
    obtain ⟨token, later⟩ := result
    rw [scanned] at next
    cases next
    exact first (by rw [scanToken_bracket scanned]; rfl)

end DeclSchema.Schema
