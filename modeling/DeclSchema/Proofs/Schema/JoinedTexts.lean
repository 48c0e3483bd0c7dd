import DeclSchema.Proofs.Schema.Scanning

/-!
Texts joined to one text. No token but a quotation goes on over the end of a line, and a comment
ends with its line. So a text that ends with a line and that can be scanned to its end keeps its
tokens, whatever text is put behind it, and leaves that text its own.
-/

namespace DeclSchema.Schema

/-! Texts that end with a line. -/

def Lined (text : Points) : Prop := text.getLast? = some (.char '\n')

theorem lined_present {text : Points} (lined : Lined text) : text ≠ [] := by
  rintro rfl
  cases lined

theorem lined_behind {point : Point} {rest : Points} (other : point ≠ .char '\n')
    (lined : Lined (point :: rest)) : Lined rest := by
  cases rest with
  | nil => exact absurd (Option.some.inj lined) other
  | cons next more => simpa [Lined] using lined

theorem lined_behind_char {c : Char} {rest : Points} (other : c ≠ '\n')
    (lined : Lined (.char c :: rest)) : Lined rest :=
  lined_behind (fun same => other (Point.char.inj same)) lined

theorem lined_suffix {text front rest : Points} (present : rest ≠ []) (shape : text = front ++ rest)
    (lined : Lined text) : Lined rest := by
  rw [shape, Lined, List.getLast?_append] at lined
  cases last : rest.getLast? with
  | none => exact absurd (List.getLast?_eq_none_iff.mp last) present
  | some point =>
    rw [last] at lined
    exact last.trans lined

theorem lined_rest {point : Point} {rest : Points} (present : rest ≠ [])
    (lined : Lined (point :: rest)) : Lined rest :=
  lined_suffix present (by rfl : point :: rest = [point] ++ rest) lined

section While

variable {p : Point → Bool} {text : Points}

theorem lined_dropWhile (stops : p (.char '\n') = false) (lined : Lined text) : Lined (text.dropWhile p) := by
  induction text with
  | nil => cases lined
  | cons point rest ih =>
    by_cases hit : p point = true
    · have other : point ≠ .char '\n' := by
        rintro rfl
        rw [stops] at hit
        cases hit
      rw [List.dropWhile_cons_of_pos hit]
      exact ih (lined_behind other lined)
    · rwa [List.dropWhile_cons_of_neg hit]

theorem takeWhile_joined (stops : p (.char '\n') = false) (lined : Lined text) (more : Points) :
    (text ++ more).takeWhile p = text.takeWhile p := by
  have present := lined_present (lined_dropWhile stops lined)
  rw [List.takeWhile_append, if_neg]
  intro all
  have split := congrArg List.length (List.takeWhile_append_dropWhile (p := p) (l := text))
  rw [List.length_append, all] at split
  exact present (List.eq_nil_of_length_eq_zero (by omega))

theorem dropWhile_joined (stops : p (.char '\n') = false) (lined : Lined text) (more : Points) :
    (text ++ more).dropWhile p = text.dropWhile p ++ more := by
  have present := lined_present (lined_dropWhile stops lined)
  rw [List.dropWhile_append, if_neg (by simpa using present)]

end While

theorem charsWhile_joined {p : Char → Bool} {text : Points} (stops : p '\n' = false)
    (lined : Lined text) (more : Points) : charsWhile p (text ++ more) = charsWhile p text := by
  rw [charsWhile, takeWhile_joined (by exact stops) lined]
  rfl

/-! Scanners. -/

-- What is scanned at the front of a text is scanned likewise when more text follows, and behind it
-- the text still ends with a line.
def Steady {α : Type} (scan : Points → Except ScanFault (α × Points)) : Prop :=
  ∀ {text rest a}, Lined text → scan text = .ok (a, rest) →
    Lined rest ∧ ∀ more, scan (text ++ more) = .ok (a, rest ++ more)

theorem scanDigits_steady : Steady scanDigits := by
  intro text rest digits lined scanned
  unfold scanDigits at scanned
  split at scanned
  · rename_i c later
    split at scanned
    · rename_i digit
      rw [Except.ok.injEq, Prod.mk.injEq] at scanned
      obtain ⟨rfl, rfl⟩ := scanned
      refine ⟨lined_dropWhile (by decide) lined, ?_⟩
      intro more
      rw [← charsWhile_joined (by decide) lined more, ← dropWhile_joined (by decide) lined more]
      simp only [scanDigits, List.cons_append, if_pos digit]
    · cases scanned
  · cases scanned

theorem scanSign_joined (signs : List Char) {text : Points} (other : '\n' ∉ signs)
    (lined : Lined text) :
    Lined (scanSign signs text).2 ∧ ∀ more, scanSign signs (text ++ more) =
      ((scanSign signs text).1, (scanSign signs text).2 ++ more) := by
  match text, lined with
  | .char c :: rest, lined =>
    by_cases sign : signs.contains c = true
    · have apart : c ≠ '\n' := by
        rintro rfl
        exact other (by simpa using sign)
      simp only [scanSign, List.cons_append, if_pos sign]
      exact ⟨lined_behind_char apart lined, fun _ => trivial⟩
    · simp only [scanSign, List.cons_append, if_neg sign]
      exact ⟨lined, fun _ => trivial⟩
  | .high bits :: rest, lined => exact ⟨lined, fun _ => rfl⟩
  | .low bits :: rest, lined => exact ⟨lined, fun _ => rfl⟩

theorem scanWhole_steady : Steady scanWhole := by
  intro text rest whole lined scanned
  unfold scanWhole at scanned
  split at scanned
  · rename_i later
    have lined := lined_behind_char (by decide) lined
    split at scanned
    · rename_i c last
      split at scanned
      · cases scanned
      · rename_i other
        cases scanned
        refine ⟨lined, ?_⟩
        intro more
        simp only [scanWhole, List.cons_append, if_neg other]
    · rename_i other
      cases scanned
      refine ⟨lined, ?_⟩
      intro more
      match rest, lined with
      | .char c :: last, _ => exact absurd rfl (other c last)
      | .high bits :: last, _ => rfl
      | .low bits :: last, _ => rfl
  · rename_i other
    obtain ⟨lined', steady⟩ := scanDigits_steady lined scanned
    refine ⟨lined', ?_⟩
    intro more
    rw [← steady more]
    cases text with
    | nil => cases lined
    | cons point later =>
      have zero : point ≠ .char '0' := by
        rintro rfl
        exact other later rfl
      unfold scanWhole
      split
      · rename_i shape
        simp only [List.cons_append, List.cons.injEq] at shape
        exact absurd shape.1 zero
      · rfl

theorem scanFraction_steady : Steady scanFraction := by
  intro text rest fraction lined scanned
  cases text with
  | nil => cases lined
  | cons point later =>
    by_cases dot : point = .char '.'
    · subst dot
      obtain ⟨⟨digits, last⟩, read, done⟩ := bind_ok scanned
      cases done
      obtain ⟨lined, steady⟩ := scanDigits_steady (lined_behind_char (by decide) lined) read
      refine ⟨lined, ?_⟩
      intro more
      simp only [scanFraction, List.cons_append, steady more]
      rfl
    · have none : ∀ text, scanFraction (point :: text) = .ok ([], point :: text) := by
        intro text
        unfold scanFraction
        split
        · rename_i shape
          exact absurd (List.cons.inj shape).1 dot
        · rfl
      rw [none] at scanned
      cases scanned
      exact ⟨lined, fun more => none _⟩

theorem scanExponent_steady : Steady scanExponent := by
  intro text rest exponent lined scanned
  match text, lined with
  | .high bits :: later, lined =>
    cases scanned
    exact ⟨lined, fun more => rfl⟩
  | .low bits :: later, lined =>
    cases scanned
    exact ⟨lined, fun more => rfl⟩
  | .char c :: later, lined =>
    simp only [scanExponent] at scanned
    split at scanned
    · rename_i letter
      have apart : c ≠ '\n' := by
        rintro rfl
        exact absurd letter (by decide)
      obtain ⟨signed, sign⟩ :=
        scanSign_joined ['+', '-'] (by decide) (lined_behind_char apart lined)
      obtain ⟨⟨digits, last⟩, read, done⟩ := bind_ok scanned
      cases done
      obtain ⟨lined, steady⟩ := scanDigits_steady signed read
      refine ⟨lined, ?_⟩
      intro more
      simp only [scanExponent, List.cons_append, if_pos letter, sign more, steady more]
      rfl
    · rename_i other
      cases scanned
      refine ⟨lined, ?_⟩
      intro more
      simp only [scanExponent, List.cons_append, if_neg other]

theorem endOfNumber_joined {text : Points} (lined : Lined text) (more : Points) :
    endOfNumber (text ++ more) = endOfNumber text := by
  match text, lined with
  | .char c :: rest, _ => rfl
  | .high bits :: rest, _ => rfl
  | .low bits :: rest, _ => rfl

theorem scanNumber_steady : Steady scanNumber := by
  intro text rest token lined scanned
  unfold scanNumber at scanned
  obtain ⟨lined, sign⟩ := scanSign_joined ['-'] (by decide) lined
  obtain ⟨⟨whole, afterWhole⟩, wholeRead, scanned⟩ := bind_ok scanned
  obtain ⟨lined, wholeSteady⟩ := scanWhole_steady lined wholeRead
  obtain ⟨⟨fraction, afterFraction⟩, fractionRead, scanned⟩ := bind_ok scanned
  obtain ⟨lined, fractionSteady⟩ := scanFraction_steady lined fractionRead
  obtain ⟨⟨exponent, afterExponent⟩, exponentRead, scanned⟩ := bind_ok scanned
  obtain ⟨lined, exponentSteady⟩ := scanExponent_steady lined exponentRead
  obtain ⟨_, ended, scanned⟩ := bind_ok scanned
  have last : afterExponent = rest := by
    dsimp only at scanned
    split at scanned <;> cases scanned <;> rfl
  subst last
  refine ⟨lined, ?_⟩
  intro more
  have ended' := (endOfNumber_joined lined more).trans ended
  dsimp only at scanned
  unfold scanNumber
  simp only [sign more, wholeSteady more, fractionSteady more, exponentSteady more, ended', bind,
    Except.bind]
  split at scanned
  · rename_i integer
    cases scanned
    rw [if_pos integer]
    rfl
  · rename_i float
    cases scanned
    rw [if_neg float]
    rfl

/-! Quotations. -/

theorem hexCode_joined {text : Points} {code : Nat} (found : hexCode? text = some code)
    (more : Points) : hexCode? (text ++ more) = some code ∧ 4 ≤ text.length := by
  unfold hexCode? at found
  split at found
  · refine ⟨found, by simp⟩
  · cases found

theorem bracedCode_joined {room code read : Nat} {text : Points} {result : Nat × Nat}
    (found : bracedCode room code read text = .ok result) (more : Points) :
    bracedCode room code read (text ++ more) = .ok result := by
  fun_induction bracedCode room code read text with
  | case1 => cases found
  | case2 code read room rest complete =>
    rw [List.cons_append, bracedCode, if_pos rfl, if_neg complete]
    exact found
  | case3 code read room c rest inside digit value ih =>
    rw [List.cons_append, bracedCode, if_neg inside, value]
    exact ih found
  | case4 => cases found
  | case5 => cases found
  | case6 => cases found

theorem scanUnicodeEscape_joined {text : Points} {result : Char × Nat}
    (found : scanUnicodeEscape text = .ok result) (more : Points) :
    scanUnicodeEscape (text ++ more) = .ok result := by
  unfold scanUnicodeEscape at found
  split at found
  · split at found
    · rename_i read
      cases found
      simp only [scanUnicodeEscape, List.cons_append, bracedCode_joined read more]
    · cases found
  · rename_i other
    dsimp only at found
    split at found
    · cases found
    · rename_i code value
      obtain ⟨joined, long⟩ := hexCode_joined value more
      have drop : (text ++ more).drop 4 = text.drop 4 ++ more := List.drop_append_of_le_length long
      have opens : ∀ rest, text ++ more ≠ .char '{' :: rest := by
        intro rest shape
        cases text with
        | nil => cases value
        | cons point later =>
          cases shape
          exact other later rfl
      unfold scanUnicodeEscape
      split
      · rename_i shape
        exact absurd shape (opens _)
      · simp only [joined, drop]
        split at found
        · rename_i scalar
          rw [if_pos scalar]
          exact found
        · rename_i surrogate
          rw [if_neg surrogate]
          split at found
          · rename_i later shape
            rw [shape]
            simp only [List.cons_append]
            split at found
            · rename_i low second
              simp only [(hexCode_joined second more).1]
              split at found
              · rename_i pair
                rw [if_pos pair]
                exact found
              · cases found
            · cases found
          · cases found

theorem scanEscape_plain {point : Point} (other : point ≠ .char 'u') (rest : Points) :
    scanEscape (point :: rest) =
      match point.char?.bind escapedChar? with
      | some value => .ok (value, 1)
      | none => .error (.escape ['\\', point]) := by
  unfold scanEscape
  split
  · rename_i shape
    exact absurd (List.cons.inj shape).1 other
  · rename_i shape
    cases shape
    rfl
  · rename_i shape
    cases shape

theorem scanEscape_joined {text : Points} {result : Char × Nat}
    (found : scanEscape text = .ok result) (more : Points) :
    scanEscape (text ++ more) = .ok result := by
  cases text with
  | nil => cases found
  | cons point rest =>
    by_cases code : point = .char 'u'
    · subst code
      exact scanUnicodeEscape_joined found more
    · rw [List.cons_append, scanEscape_plain code]
      rwa [scanEscape_plain code] at found

theorem scanString_joined {skip : Nat} {text value rest : Points}
    (scanned : scanString skip text = .ok (value, rest)) (more : Points) :
    scanString skip (text ++ more) = .ok (value, rest ++ more) := by
  fun_induction scanString skip text generalizing value with
  | case1 => cases scanned
  | case2 skip point later ih => exact ih scanned
  | case3 later =>
    cases scanned
    rfl
  | case4 => cases scanned
  | case5 later quote line ih =>
    obtain ⟨⟨escaped, size⟩, escape, scanned⟩ := bind_ok scanned
    obtain ⟨⟨others, last⟩, read, done⟩ := bind_ok scanned
    cases done
    rw [List.cons_append, scanString, if_neg quote, if_neg line, if_pos rfl,
      scanEscape_joined escape more]
    simp only [bind, Except.bind, ih size read]
    rfl
  | case6 c later quote line backslash ih =>
    obtain ⟨⟨others, last⟩, read, done⟩ := bind_ok scanned
    cases done
    rw [List.cons_append, scanString, if_neg quote, if_neg line, if_neg backslash]
    simp only [bind, Except.bind, ih read]
    rfl
  | case7 a b later ih =>
    obtain ⟨⟨others, last⟩, read, done⟩ := bind_ok scanned
    cases done
    rw [List.cons_append, List.cons_append, scanString]
    simp only [bind, Except.bind, ih read]
    rfl
  | case8 => cases scanned

-- The closing quotes are still to come.
theorem scanBlock_long {text value rest : Points} (scanned : scanBlock text = .ok (value, rest)) :
    3 ≤ text.length := by
  fun_induction scanBlock text generalizing value rest with
  | case1 => cases scanned
  | case2 => simp
  | case3 => simp
  | case4 later ih =>
    obtain ⟨⟨others, last⟩, read, _⟩ := bind_ok scanned
    have long := ih read
    simp only [List.length_cons]
    omega
  | case5 c later _ _ _ ih =>
    obtain ⟨⟨others, last⟩, read, _⟩ := bind_ok scanned
    have long := ih read
    simp only [List.length_cons]
    omega
  | case6 a b later ih =>
    obtain ⟨⟨others, last⟩, read, _⟩ := bind_ok scanned
    have long := ih read
    simp only [List.length_cons]
    omega
  | case7 => cases scanned

theorem scanBlock_joined {text value rest : Points} (scanned : scanBlock text = .ok (value, rest))
    (more : Points) : scanBlock (text ++ more) = .ok (value, rest ++ more) := by
  fun_induction scanBlock text generalizing value with
  | case1 => cases scanned
  | case2 later =>
    cases scanned
    rfl
  | case3 later ih =>
    obtain ⟨⟨others, last⟩, read, done⟩ := bind_ok scanned
    cases done
    simp only [List.cons_append, scanBlock, ih read, bind, Except.bind]
    rfl
  | case4 later ih =>
    obtain ⟨⟨others, last⟩, read, done⟩ := bind_ok scanned
    cases done
    simp only [List.cons_append, scanBlock, ih read, bind, Except.bind]
    rfl
  | case5 c later quotes escaped line ih =>
    obtain ⟨⟨others, last⟩, read, done⟩ := bind_ok scanned
    cases done
    -- Three more characters decide which case it is, and they stand in the text itself.
    have long := scanBlock_long read
    obtain ⟨x, y, z, later, rfl⟩ : ∃ x y z rest, later = x :: y :: z :: rest := by
      match later, long with
      | x :: y :: z :: rest, _ => exact ⟨x, y, z, rest, rfl⟩
    have again := ih read
    simp only [List.cons_append] at again ⊢
    rw [scanBlock.eq_5]
    · simp only [again, bind, Except.bind]
      rfl
    · intro rest shape quote
      cases shape
      exact quotes _ rfl quote
    · intro rest shape backslash
      cases shape
      exact escaped _ rfl backslash
    · intro rest shape carriage
      cases shape
      exact line _ rfl carriage
  | case6 a b later ih =>
    obtain ⟨⟨others, last⟩, read, done⟩ := bind_ok scanned
    cases done
    simp only [List.cons_append, scanBlock, ih read, bind, Except.bind]
    rfl
  | case7 => cases scanned

theorem scanString_behind {skip : Nat} {text value rest : Points}
    (scanned : scanString skip text = .ok (value, rest)) :
    ∃ front : Points, text = front ++ .char '"' :: rest := by
  fun_induction scanString skip text generalizing value with
  | case1 => cases scanned
  | case2 skip point later ih =>
    obtain ⟨front, shape⟩ := ih scanned
    exact ⟨point :: front, by rw [shape, List.cons_append]⟩
  | case3 later =>
    cases scanned
    exact ⟨[], rfl⟩
  | case4 => cases scanned
  | case5 later _ _ ih =>
    obtain ⟨⟨escaped, size⟩, _, scanned⟩ := bind_ok scanned
    obtain ⟨⟨others, last⟩, read, done⟩ := bind_ok scanned
    cases done
    obtain ⟨front, shape⟩ := ih size read
    exact ⟨.char '\\' :: front, by rw [shape, List.cons_append]⟩
  | case6 c later _ _ _ ih =>
    obtain ⟨⟨others, last⟩, read, done⟩ := bind_ok scanned
    cases done
    obtain ⟨front, shape⟩ := ih read
    exact ⟨.char c :: front, by rw [shape, List.cons_append]⟩
  | case7 a b later ih =>
    obtain ⟨⟨others, last⟩, read, done⟩ := bind_ok scanned
    cases done
    obtain ⟨front, shape⟩ := ih read
    exact ⟨.high a :: .low b :: front, by rw [shape]; rfl⟩
  | case8 => cases scanned

theorem scanBlock_behind {text value rest : Points}
    (scanned : scanBlock text = .ok (value, rest)) :
    ∃ front : Points, text = front ++ .char '"' :: rest := by
  fun_induction scanBlock text generalizing value with
  | case1 => cases scanned
  | case2 later =>
    cases scanned
    exact ⟨Points.of "\"\"", rfl⟩
  | case3 later ih =>
    obtain ⟨⟨others, last⟩, read, done⟩ := bind_ok scanned
    cases done
    obtain ⟨front, shape⟩ := ih read
    exact ⟨Points.of "\\\"\"\"" ++ front, by rw [shape]; rfl⟩
  | case4 later ih =>
    obtain ⟨⟨others, last⟩, read, done⟩ := bind_ok scanned
    cases done
    obtain ⟨front, shape⟩ := ih read
    exact ⟨Points.of "\r\n" ++ front, by rw [shape]; rfl⟩
  | case5 c later _ _ _ ih =>
    obtain ⟨⟨others, last⟩, read, done⟩ := bind_ok scanned
    cases done
    obtain ⟨front, shape⟩ := ih read
    exact ⟨.char c :: front, by rw [shape, List.cons_append]⟩
  | case6 a b later ih =>
    obtain ⟨⟨others, last⟩, read, done⟩ := bind_ok scanned
    cases done
    obtain ⟨front, shape⟩ := ih read
    exact ⟨.high a :: .low b :: front, by rw [shape]; rfl⟩
  | case7 => cases scanned

-- Behind a closing quote the text goes on, because it ends with a line.
theorem lined_quoted {text front rest : Points} (shape : text = front ++ .char '"' :: rest)
    (lined : Lined text) : Lined rest :=
  lined_behind (by decide) (lined_suffix (List.cons_ne_nil _ _) shape lined)

theorem scanQuotation_steady : Steady scanQuotation := by
  intro text rest token lined scanned
  unfold scanQuotation at scanned
  split at scanned
  · obtain ⟨⟨raw, last⟩, read, done⟩ := bind_ok scanned
    cases done
    obtain ⟨front, shape⟩ := scanBlock_behind read
    refine ⟨lined_quoted shape (lined_behind (by decide) (lined_behind (by decide) lined)), ?_⟩
    intro more
    simp only [scanQuotation, List.cons_append, scanBlock_joined read more, bind, Except.bind]
    rfl
  · rename_i single
    obtain ⟨⟨value, last⟩, read, done⟩ := bind_ok scanned
    cases done
    obtain ⟨front, shape⟩ := scanString_behind read
    refine ⟨lined_quoted shape lined, ?_⟩
    intro more
    have other : ∀ later, text ++ more ≠ .char '"' :: .char '"' :: later := by
      intro later joined
      match text, lined with
      | [point], lined =>
        cases lined
        cases joined
      | point :: next :: others, _ =>
        cases joined
        exact single others rfl
    unfold scanQuotation
    split
    · rename_i shape
      exact absurd shape (other _)
    · simp only [scanString_joined read more, bind, Except.bind]
      rfl

/-! All tokens. -/

theorem scanDots_steady : Steady scanDots := by
  intro text rest token lined scanned
  unfold scanDots at scanned
  split at scanned
  · cases scanned
    exact ⟨lined_behind (by decide) (lined_behind (by decide) lined), fun more => rfl⟩
  · cases scanned
  · split at scanned <;> cases scanned

theorem scanToken_joined {c : Char} {text rest : Points} {token : Token}
    (lined : Lined (.char c :: text)) (shown : isIgnored c = false)
    (scanned : scanToken c text = .ok (token, rest)) :
    Lined rest ∧ ∀ more, scanToken c (text ++ more) = .ok (token, rest ++ more) := by
  have behind : Lined text := by
    refine lined_behind_char ?_ lined
    rintro rfl
    cases shown
  unfold scanToken at scanned ⊢
  split at scanned
  · rename_i symbol found
    cases scanned
    exact ⟨behind, fun more => rfl⟩
  · split at scanned
    · rename_i start
      cases scanned
      refine ⟨lined_dropWhile (by decide) behind, ?_⟩
      intro more
      rw [if_pos start, charsWhile_joined (by decide) behind, dropWhile_joined (by decide) behind]
    · rename_i start
      simp only [if_neg start]
      split at scanned
      · rename_i number
        obtain ⟨last, steady⟩ := scanNumber_steady lined scanned
        refine ⟨last, ?_⟩
        intro more
        rw [if_pos number]
        exact steady more
      · rename_i number
        simp only [if_neg number]
        split at scanned
        · rename_i quote
          obtain ⟨last, steady⟩ := scanQuotation_steady behind scanned
          refine ⟨last, ?_⟩
          intro more
          rw [if_pos quote]
          exact steady more
        · rename_i quote
          simp only [if_neg quote]
          split at scanned
          · rename_i dot
            obtain ⟨last, steady⟩ := scanDots_steady behind scanned
            refine ⟨last, ?_⟩
            intro more
            rw [if_pos dot]
            exact steady more
          · split at scanned <;> cases scanned

-- A comment at the end of the text ends with the last line.
theorem skipIgnored_joined (inComment : Bool) {text : Points} (lined : Lined text)
    (more : Points) :
    skipIgnored inComment (text ++ more) =
      if skipIgnored inComment text = [] then skipIgnored false more
      else skipIgnored inComment text ++ more := by
  fun_induction skipIgnored inComment text with
  | case1 c later ih =>
    rw [List.cons_append, skipIgnored, if_pos rfl]
    by_cases last : later = []
    · subst last
      cases Option.some.inj lined
      rfl
    · exact ih (lined_rest last lined)
  | case2 inComment c later outside ignored ih =>
    rw [List.cons_append, skipIgnored, if_neg outside, if_pos ignored]
    by_cases last : later = []
    · subst last
      rfl
    · exact ih (lined_rest last lined)
  | case3 inComment later outside other ih =>
    rw [List.cons_append, skipIgnored, if_neg outside, if_neg other, if_pos rfl]
    exact ih (lined_behind_char (by decide) lined)
  | case4 inComment c later outside other comment =>
    rw [List.cons_append, skipIgnored, if_neg outside, if_neg other, if_neg comment,
      if_neg (List.cons_ne_nil _ _)]
  | case5 a b later ih =>
    rw [List.cons_append, List.cons_append, skipIgnored, if_pos rfl]
    exact ih (lined_behind (by simp) (lined_behind (by simp) lined))
  | case6 inComment a b later outside =>
    rw [List.cons_append, List.cons_append, skipIgnored, if_neg outside,
      if_neg (List.cons_ne_nil _ _)]
  | case7 inComment text other single =>
    cases text with
    | nil => cases lined
    | cons point later =>
      cases point with
      | char c => exact absurd rfl (other c later)
      | low bits => rfl
      | high bits =>
        cases later with
        | nil => cases lined
        | cons next later =>
          cases next with
          | char c => rfl
          | high more => rfl
          | low low => exact absurd rfl (single bits low later)

theorem skipIgnored_suffix (inComment : Bool) (text : Points) :
    ∃ front, text = front ++ skipIgnored inComment text := by
  fun_induction skipIgnored inComment text with
  | case1 c later ih =>
    obtain ⟨front, shape⟩ := ih
    exact ⟨.char c :: front, by rw [List.cons_append, ← shape]⟩
  | case2 _ c later _ _ ih =>
    obtain ⟨front, shape⟩ := ih
    exact ⟨.char c :: front, by rw [List.cons_append, ← shape]⟩
  | case3 _ later _ _ ih =>
    obtain ⟨front, shape⟩ := ih
    exact ⟨.char '#' :: front, by rw [List.cons_append, ← shape]⟩
  | case4 => exact ⟨[], rfl⟩
  | case5 a b later ih =>
    obtain ⟨front, shape⟩ := ih
    exact ⟨.high a :: .low b :: front, by rw [List.cons_append, List.cons_append, ← shape]⟩
  | case6 => exact ⟨[], rfl⟩
  | case7 => exact ⟨[], rfl⟩

theorem skipIgnored_shown {inComment : Bool} {text rest : Points} {c : Char}
    (skipped : skipIgnored inComment text = .char c :: rest) : isIgnored c = false ∧ c ≠ '#' := by
  fun_induction skipIgnored inComment text with
  | case1 d later ih => exact ih skipped
  | case2 _ d later _ _ ih => exact ih skipped
  | case3 _ later _ _ ih => exact ih skipped
  | case4 _ d later _ ignored comment =>
    cases skipped
    exact ⟨by simpa using ignored, comment⟩
  | case5 a b later ih => exact ih skipped
  | case6 => cases skipped
  | case7 _ text other => exact absurd skipped (other c rest)

def Token.isBroken : Token → Bool
  | .broken _ => true
  | _ => false

theorem tokens_joined {text : Points} (lined : Lined text)
    (unbroken : ∀ token ∈ tokens text, token.isBroken = false) (more : Points) :
    tokens (text ++ more) = tokens text ++ tokens more := by
  generalize size : text.length = n
  induction n using Nat.strongRecOn generalizing text with
  | _ n ih =>
    have skipped := skipIgnored_joined false lined more
    have scanned := tokens_scan text
    rw [tokens_scan (text ++ more), skipped]
    cases shown : skipIgnored false text with
    | nil =>
      rw [shown] at scanned
      rw [scanned, if_pos rfl, List.nil_append, ← tokens_scan]
    | cons point later =>
      obtain ⟨front, shape⟩ := skipIgnored_suffix false text
      rw [shown] at shape scanned
      have shorter : later.length < text.length := by
        rw [shape, List.length_append, List.length_cons]
        omega
      have lined := lined_suffix (List.cons_ne_nil _ _) shape lined
      rw [if_neg (List.cons_ne_nil _ _), List.cons_append]
      dsimp only at scanned ⊢
      cases found : scanPoint point later with
      | error fault =>
        rw [found] at scanned
        have broken := unbroken (.broken fault) (by rw [scanned]; exact List.mem_singleton_self _)
        cases broken
      | ok result =>
        obtain ⟨token, rest⟩ := result
        rw [found] at scanned
        obtain ⟨c, rfl, found⟩ := scanPoint_char found
        obtain ⟨lined, joined⟩ := scanToken_joined lined (skipIgnored_shown shown).1 found
        have within := scanToken_length found
        have others : ∀ token ∈ tokens rest, token.isBroken = false := by
          intro token member
          exact unbroken token (by rw [scanned]; exact List.mem_cons_of_mem _ member)
        simp only [scanPoint, joined more]
        rw [scanned, ih rest.length (by omega) lined others rfl, List.cons_append]

end DeclSchema.Schema
