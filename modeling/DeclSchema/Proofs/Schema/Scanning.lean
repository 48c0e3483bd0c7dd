import DeclSchema.Schema.Scan

/-!
How a text falls into tokens. Every token takes characters of its own, so the scanner goes on with
what a token has left; blanks and comments leave no token, and a name ends where no part of a name
follows.
-/

namespace DeclSchema.Schema

theorem bind_ok {ε α β : Type} {x : Except ε α} {f : α → Except ε β} {b : β}
    (done : (x >>= f) = .ok b) : ∃ a, x = .ok a ∧ f a = .ok b := by
  cases x with
  | error fault => cases done
  | ok a => exact ⟨a, rfl, done⟩

/-! A token takes characters. -/

theorem dropWhile_length (p : Point → Bool) (text : Points) :
    (text.dropWhile p).length ≤ text.length := (List.dropWhile_sublist p).length_le

theorem scanDigits_shorter {text rest : Points} {digits : List Char}
    (scanned : scanDigits text = .ok (digits, rest)) : rest.length < text.length := by
  unfold scanDigits at scanned
  split at scanned
  · rename_i c later
    split at scanned
    · rename_i digit
      rw [Except.ok.injEq, Prod.mk.injEq] at scanned
      rw [← scanned.2, List.dropWhile_cons_of_pos (by exact digit)]
      exact Nat.lt_succ_of_le (dropWhile_length _ later)
    · cases scanned
  · cases scanned

theorem scanSign_length (signs : List Char) (text : Points) :
    (scanSign signs text).2.length ≤ text.length := by
  unfold scanSign
  split
  · split <;> simp
  · exact Nat.le_refl _

theorem scanWhole_shorter {text rest : Points} {whole : List Char}
    (scanned : scanWhole text = .ok (whole, rest)) : rest.length < text.length := by
  unfold scanWhole at scanned
  split at scanned
  · split at scanned
    · split at scanned
      · cases scanned
      · cases scanned
        simp
    · cases scanned
      simp
  · exact scanDigits_shorter scanned

theorem scanFraction_length {text rest : Points} {fraction : List Char}
    (scanned : scanFraction text = .ok (fraction, rest)) : rest.length ≤ text.length := by
  unfold scanFraction at scanned
  split at scanned
  · obtain ⟨⟨digits, later⟩, read, done⟩ := bind_ok scanned
    cases done
    exact Nat.le_of_lt (Nat.lt_succ_of_lt (scanDigits_shorter read))
  · cases scanned
    exact Nat.le_refl _

theorem scanExponent_length {text rest : Points} {exponent : List Char}
    (scanned : scanExponent text = .ok (exponent, rest)) : rest.length ≤ text.length := by
  unfold scanExponent at scanned
  split at scanned
  · rename_i c later
    split at scanned
    · obtain ⟨⟨digits, last⟩, read, done⟩ := bind_ok scanned
      cases done
      have shorter : rest.length < (scanSign ['+', '-'] later).2.length := scanDigits_shorter read
      have signed := scanSign_length ['+', '-'] later
      simp only [List.length_cons]
      omega
    · cases scanned
      exact Nat.le_refl _
  · cases scanned
    exact Nat.le_refl _

theorem scanNumber_shorter {text rest : Points} {token : Token}
    (scanned : scanNumber text = .ok (token, rest)) : rest.length < text.length := by
  unfold scanNumber at scanned
  obtain ⟨⟨whole, afterWhole⟩, wholeRead, scanned⟩ := bind_ok scanned
  obtain ⟨⟨fraction, afterFraction⟩, fractionRead, scanned⟩ := bind_ok scanned
  obtain ⟨⟨exponent, afterExponent⟩, exponentRead, scanned⟩ := bind_ok scanned
  obtain ⟨_, _, scanned⟩ := bind_ok scanned
  have last : afterExponent = rest := by
    dsimp only at scanned
    split at scanned <;> cases scanned <;> rfl
  subst last
  calc afterExponent.length ≤ afterFraction.length := scanExponent_length exponentRead
    _ ≤ afterWhole.length := scanFraction_length fractionRead
    _ < (scanSign ['-'] text).2.length := scanWhole_shorter wholeRead
    _ ≤ text.length := scanSign_length ['-'] text

theorem scanString_shorter {skip : Nat} {text value rest : Points}
    (scanned : scanString skip text = .ok (value, rest)) : rest.length < text.length := by
  fun_induction scanString skip text generalizing value with
  | case1 => cases scanned
  | case2 skip point later ih => exact Nat.lt_succ_of_lt (ih scanned)
  | case3 later =>
    cases scanned
    simp
  | case4 => cases scanned
  | case5 later _ _ ih =>
    obtain ⟨⟨escaped, size⟩, _, scanned⟩ := bind_ok scanned
    obtain ⟨⟨more, last⟩, read, done⟩ := bind_ok scanned
    cases done
    exact Nat.lt_succ_of_lt (ih size read)
  | case6 c later _ _ _ ih =>
    obtain ⟨⟨more, last⟩, read, done⟩ := bind_ok scanned
    cases done
    exact Nat.lt_succ_of_lt (ih read)
  | case7 a b later ih =>
    obtain ⟨⟨more, last⟩, read, done⟩ := bind_ok scanned
    cases done
    exact Nat.lt_succ_of_lt (Nat.lt_succ_of_lt (ih read))
  | case8 => cases scanned

theorem scanBlock_shorter {text value rest : Points}
    (scanned : scanBlock text = .ok (value, rest)) : rest.length < text.length := by
  fun_induction scanBlock text generalizing value with
  | case1 => cases scanned
  | case2 later =>
    cases scanned
    simp only [List.length_cons]
    omega
  | case3 later ih =>
    obtain ⟨⟨more, last⟩, read, done⟩ := bind_ok scanned
    cases done
    have shorter := ih read
    simp only [List.length_cons]
    omega
  | case4 later ih =>
    obtain ⟨⟨more, last⟩, read, done⟩ := bind_ok scanned
    cases done
    have shorter := ih read
    simp only [List.length_cons]
    omega
  | case5 c later _ _ _ ih =>
    obtain ⟨⟨more, last⟩, read, done⟩ := bind_ok scanned
    cases done
    exact Nat.lt_succ_of_lt (ih read)
  | case6 a b later ih =>
    obtain ⟨⟨more, last⟩, read, done⟩ := bind_ok scanned
    cases done
    exact Nat.lt_succ_of_lt (Nat.lt_succ_of_lt (ih read))
  | case7 => cases scanned

theorem scanQuotation_shorter {text rest : Points} {token : Token}
    (scanned : scanQuotation text = .ok (token, rest)) : rest.length < text.length := by
  unfold scanQuotation at scanned
  split at scanned
  · obtain ⟨⟨raw, last⟩, read, done⟩ := bind_ok scanned
    cases done
    exact Nat.lt_succ_of_lt (Nat.lt_succ_of_lt (scanBlock_shorter read))
  · obtain ⟨⟨value, last⟩, read, done⟩ := bind_ok scanned
    cases done
    exact scanString_shorter read

theorem scanDots_shorter {text rest : Points} {token : Token}
    (scanned : scanDots text = .ok (token, rest)) : rest.length < text.length := by
  unfold scanDots at scanned
  split at scanned
  · cases scanned
    simp only [List.length_cons]
    omega
  · cases scanned
  · split at scanned <;> cases scanned

theorem scanToken_length {c : Char} {text rest : Points} {token : Token}
    (scanned : scanToken c text = .ok (token, rest)) : rest.length ≤ text.length := by
  unfold scanToken at scanned
  split at scanned
  · cases scanned
    exact Nat.le_refl _
  · split at scanned
    · cases scanned
      exact dropWhile_length _ text
    · split at scanned
      · exact Nat.le_of_lt_succ (scanNumber_shorter scanned)
      · split at scanned
        · exact Nat.le_of_lt (scanQuotation_shorter scanned)
        · split at scanned
          · exact Nat.le_of_lt (scanDots_shorter scanned)
          · split at scanned <;> cases scanned

-- No token begins with a half.
theorem scanPoint_char {point : Point} {text rest : Points} {token : Token}
    (scanned : scanPoint point text = .ok (token, rest)) :
    ∃ c, point = .char c ∧ scanToken c text = .ok (token, rest) := by
  unfold scanPoint at scanned
  split at scanned
  · exact ⟨_, rfl, scanned⟩
  · cases scanned
  · cases scanned

-- What a token leaves is no longer than what stands behind its first character.
theorem scanPoint_length {point : Point} {text rest : Points} {token : Token}
    (scanned : scanPoint point text = .ok (token, rest)) : rest.length ≤ text.length := by
  obtain ⟨c, rfl, scanned⟩ := scanPoint_char scanned
  exact scanToken_length scanned

theorem skipIgnored_length (inComment : Bool) (text : Points) :
    (skipIgnored inComment text).length ≤ text.length := by
  fun_induction skipIgnored inComment text with
  | case1 c later ih => exact Nat.le_succ_of_le ih
  | case2 _ c later _ _ ih => exact Nat.le_succ_of_le ih
  | case3 _ later _ _ ih => exact Nat.le_succ_of_le ih
  | case4 => exact Nat.le_refl _
  | case5 a b later ih => exact Nat.le_succ_of_le (Nat.le_succ_of_le ih)
  | case6 => exact Nat.le_refl _
  | case7 => exact Nat.le_refl _

/-! All tokens of a text. -/

-- Steps beyond the length of a text change nothing.
theorem tokensWithin_enough {steps more : Nat} {text : Points} (enough : text.length ≤ steps)
    (least : text.length ≤ more) : tokensWithin steps text = tokensWithin more text := by
  induction steps generalizing more text with
  | zero =>
    have empty : text = [] := List.eq_nil_of_length_eq_zero (Nat.le_zero.mp enough)
    subst empty
    cases more <;> rfl
  | succ steps ih =>
    cases more with
    | zero =>
      have empty : text = [] := List.eq_nil_of_length_eq_zero (Nat.le_zero.mp least)
      subst empty
      rfl
    | succ more =>
      unfold tokensWithin
      have skipped := skipIgnored_length false text
      cases shown : skipIgnored false text with
      | nil => rfl
      | cons point later =>
        rw [shown, List.length_cons] at skipped
        cases scanned : scanPoint point later with
        | error fault => simp only [scanned]
        | ok result =>
          have shorter := scanPoint_length scanned
          have same := @ih more result.2 (by omega) (by omega)
          simp only [scanned, same]

theorem tokens_scan (text : Points) :
    tokens text =
      match skipIgnored false text with
      | [] => []
      | point :: rest =>
        match scanPoint point rest with
        | .ok (token, rest) => token :: tokens rest
        | .error fault => [.broken fault] := by
  have longer : tokens text = tokensWithin (text.length + 1) text :=
    tokensWithin_enough (Nat.le_refl _) (Nat.le_succ _)
  have skipped := skipIgnored_length false text
  rw [longer, tokensWithin]
  cases shown : skipIgnored false text with
  | nil => rfl
  | cons point later =>
    rw [shown, List.length_cons] at skipped
    cases scanned : scanPoint point later with
    | error fault => simp only [scanned]
    | ok result =>
      have shorter := scanPoint_length scanned
      have same : tokensWithin text.length result.2 = tokens result.2 :=
        tokensWithin_enough (by omega) (Nat.le_refl _)
      simp only [scanned, same]

/-! Blanks, comments, symbols and names. -/

theorem tokens_ignored {c : Char} (ignored : isIgnored c = true) (rest : Points) :
    tokens (.char c :: rest) = tokens rest := by
  have skipped : skipIgnored false (.char c :: rest) = skipIgnored false rest := by
    simp [skipIgnored, ignored]
  rw [tokens_scan, skipped, ← tokens_scan]

theorem tokens_blanks {blanks : String} (ignored : blanks.toList.all isIgnored = true)
    (rest : Points) : tokens (Points.of blanks ++ rest) = tokens rest := by
  rw [Points.of]
  generalize blanks.toList = chars at ignored
  induction chars with
  | nil => rfl
  | cons c later ih =>
    rw [List.all_cons, Bool.and_eq_true] at ignored
    rw [Points.ofChars_cons, List.cons_append, tokens_ignored ignored.1, ih ignored.2]

theorem tokens_space (rest : Points) : tokens (.char ' ' :: rest) = tokens rest :=
  tokens_ignored (by decide) rest

theorem tokens_feed (rest : Points) : tokens (.char '\n' :: rest) = tokens rest :=
  tokens_ignored (by decide) rest

theorem skipIgnored_comment {text : List Char} (unbroken : ∀ c ∈ text, isLineEnd c = false)
    (rest : Points) :
    skipIgnored true (Points.ofChars text ++ .char '\n' :: rest) = skipIgnored false rest := by
  induction text with
  | nil => rfl
  | cons c later ih =>
    obtain ⟨first, others⟩ := List.forall_mem_cons.mp unbroken
    rw [Points.ofChars_cons, List.cons_append, skipIgnored, if_pos rfl, first]
    exact ih others

-- A comment takes its line, whatever the line holds.
theorem tokens_comment {text : List Char} (unbroken : ∀ c ∈ text, isLineEnd c = false)
    (rest : Points) :
    tokens (.char '#' :: (Points.ofChars text ++ .char '\n' :: rest)) = tokens rest := by
  have skipped : skipIgnored false (.char '#' :: (Points.ofChars text ++ .char '\n' :: rest)) =
      skipIgnored false rest := skipIgnored_comment unbroken rest
  rw [tokens_scan, skipped, ← tokens_scan]

-- A character that begins a token.
theorem tokens_cons {c : Char} (shown : isIgnored c = false) (text : c ≠ '#') (rest : Points) :
    tokens (.char c :: rest) =
      match scanToken c rest with
      | .ok (token, rest) => token :: tokens rest
      | .error fault => [.broken fault] := by
  have kept : skipIgnored false (.char c :: rest) = .char c :: rest := by
    simp [skipIgnored, shown, text]
  rw [tokens_scan, kept]
  rfl

theorem symbol_shown {c : Char} {symbol : Symbol} (found : symbol? c = some symbol) :
    isIgnored c = false ∧ c ≠ '#' := by
  unfold symbol? at found
  split at found
  all_goals first
    | exact ⟨by decide, by decide⟩
    | cases found

theorem tokens_symbol {c : Char} {symbol : Symbol} (found : symbol? c = some symbol)
    (rest : Points) : tokens (.char c :: rest) = .symbol symbol :: tokens rest := by
  obtain ⟨shown, text⟩ := symbol_shown found
  have scanned : scanToken c rest = .ok (.symbol symbol, rest) := by
    unfold scanToken
    rw [found]
  rw [tokens_cons shown text, scanned]

theorem tokens_openBrace (rest : Points) :
    tokens (.char '\x7b' :: rest) = .symbol .openBrace :: tokens rest := tokens_symbol rfl rest

theorem tokens_closeBrace (rest : Points) :
    tokens (.char '\x7d' :: rest) = .symbol .closeBrace :: tokens rest := tokens_symbol rfl rest

-- The names of the schema language: letters, digits and underscores, no digit in front.
def isName (text : String) : Bool :=
  match text.toList with
  | c :: rest => isNameStart c && rest.all isNamePart
  | [] => false

-- What does not go on with a name that stands before it.
def Delimited (text : Points) : Prop := ∀ point ∈ text.head?, point.is isNamePart = false

theorem delimited_cons {c : Char} (other : isNamePart c = false) (rest : Points) :
    Delimited (.char c :: rest) := by
  intro point member
  rw [List.head?_cons, Option.mem_some_iff] at member
  exact member ▸ other

theorem delimited_ignored {c : Char} (ignored : isIgnored c = true) (rest : Points) :
    Delimited (.char c :: rest) := by
  refine delimited_cons ?_ rest
  simp only [isIgnored, Bool.or_eq_true, decide_eq_true_eq] at ignored
  rcases ignored with ((((rfl | rfl) | rfl) | rfl) | rfl) | rfl <;> decide

theorem delimited_blank {blanks : String} (present : blanks ≠ "")
    (ignored : blanks.toList.all isIgnored = true) (rest : Points) :
    Delimited (Points.of blanks ++ rest) := by
  rw [Points.of]
  cases shape : blanks.toList with
  | nil => exact absurd (String.toList_eq_nil_iff.mp shape) present
  | cons c more =>
    rw [shape, List.all_cons, Bool.and_eq_true] at ignored
    exact delimited_ignored ignored.1 _

theorem delimited_space (rest : Points) : Delimited (.char ' ' :: rest) :=
  delimited_ignored (by decide) rest

theorem delimited_feed (rest : Points) : Delimited (.char '\n' :: rest) :=
  delimited_ignored (by decide) rest

theorem nameStart_shown {c : Char} (start : isNameStart c = true) :
    isIgnored c = false ∧ c ≠ '#' ∧ symbol? c = none := by
  refine ⟨?_, ?_, ?_⟩
  · rw [Bool.eq_false_iff]
    intro ignored
    simp only [isIgnored, Bool.or_eq_true, decide_eq_true_eq] at ignored
    rcases ignored with ((((rfl | rfl) | rfl) | rfl) | rfl) | rfl <;> exact absurd start (by decide)
  · rintro rfl
    exact absurd start (by decide)
  · unfold symbol?
    split
    all_goals first
      | exact absurd start (by decide)
      | rfl

theorem start_part {c : Char} (start : isNameStart c = true) : isNamePart c = true := by
  simp only [isNameStart, isNamePart, Char.isAlphanum, Bool.or_eq_true] at start ⊢
  exact start.imp_left Or.inl

theorem name_split {word : String} (name : isName word = true) :
    ∃ c rest, word.toList = c :: rest ∧ isNameStart c = true ∧ ∀ d ∈ rest, isNamePart d = true := by
  unfold isName at name
  split at name
  · rename_i c rest shape
    rw [Bool.and_eq_true, List.all_eq_true] at name
    exact ⟨c, rest, shape, name⟩
  · cases name

theorem takeWhile_delimited {rest : Points} (delimited : Delimited rest) :
    rest.takeWhile (Point.is isNamePart) = [] ∧ rest.dropWhile (Point.is isNamePart) = rest := by
  cases rest with
  | nil => exact ⟨rfl, rfl⟩
  | cons point later =>
    have other := delimited point rfl
    simp [other]

theorem charsWhile_append {p : Char → Bool} {text : List Char} (pass : ∀ c ∈ text, p c = true)
    (rest : Points) : charsWhile p (Points.ofChars text ++ rest) = text ++ charsWhile p rest := by
  induction text with
  | nil => rfl
  | cons c later ih =>
    obtain ⟨first, others⟩ := List.forall_mem_cons.mp pass
    have shown := ih others
    unfold charsWhile at shown ⊢
    rw [Points.ofChars_cons, List.cons_append, List.takeWhile_cons_of_pos (by exact first),
      List.filterMap_cons_some (by rfl), shown, List.cons_append]

theorem dropWhile_ofChars {p : Char → Bool} {text : List Char} (pass : ∀ c ∈ text, p c = true)
    (rest : Points) :
    (Points.ofChars text ++ rest).dropWhile (Point.is p) = rest.dropWhile (Point.is p) := by
  refine List.dropWhile_append_of_pos fun point member => ?_
  obtain ⟨c, among, rfl⟩ := List.mem_map.mp member
  exact pass c among

-- A name is read to its end.
theorem tokens_name {word : String} (name : isName word = true) {rest : Points}
    (delimited : Delimited rest) : tokens (Points.of word ++ rest) = .name word :: tokens rest := by
  obtain ⟨c, later, shape, start, parts⟩ := name_split name
  obtain ⟨shown, text, plain⟩ := nameStart_shown start
  obtain ⟨taken, dropped⟩ := takeWhile_delimited delimited
  have none_more : charsWhile isNamePart rest = [] := by rw [charsWhile, taken]; rfl
  have scanned : scanToken c (Points.ofChars later ++ rest) = .ok (.name word, rest) := by
    unfold scanToken
    rw [plain, charsWhile_append parts, dropWhile_ofChars parts, none_more, dropped,
      List.append_nil, ← shape, String.ofList_toList]
    simp [start]
  rw [Points.of, shape, Points.ofChars_cons, List.cons_append, tokens_cons shown text, scanned]

end DeclSchema.Schema
