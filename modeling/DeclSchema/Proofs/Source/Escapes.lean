import DeclSchema.Proofs.Source.Numerals
import DeclSchema.Source.Template

/-!
The values of escapes. Every escape that the grammar admits stands for some text, unless it names a
character beyond the last one.
-/

namespace DeclSchema.Source

open Number

-- A code in braces beyond the last character.
def IsBeyond (text : List Char) : Prop :=
  ∃ digits code, text = '\\' :: 'u' :: '{' :: (digits ++ ['}']) ∧ value 16 digits = some code ∧
    0x10FFFF < code

theorem hexadecimal_value {digits : List Char} (filled : digits ≠ [])
    (hex : ∀ c ∈ digits, Lexeme.isHexDigit c = true) :
    ∃ code : Nat, hexadecimal? digits = some (code : Int) ∧ value 16 digits = some code ∧
      code < Nat.pow 16 digits.length := by
  have all : AllIn 16 digits := fun c member => hexDigit_in (hex c member)
  have numeric : ∀ c ∈ digits, isNumeric c = true := fun c member =>
    (digitIn_numeric (by decide) (all c member)).1
  obtain ⟨code, found, less⟩ := value_some all
  refine ⟨code, ?_, found, less⟩
  have unsigned : signed digits = (false, digits) := by
    unfold signed
    split
    · exact absurd (hex '-' List.mem_cons_self) (by decide)
    · exact absurd (hex '+' List.mem_cons_self) (by decide)
    · rfl
  unfold hexadecimal?
  rw [trimmed_numeric numeric, unsigned]
  dsimp only
  have body : natural? 16 digits = some code := by
    rw [natural_value (by decide) (fun same => by cases same) filled all, found]
  split
  next c rest =>
    have other : markedBase c ≠ some 16 := by
      intro mark
      simp only [markedBase, Bool.or_eq_true, decide_eq_true_eq] at mark
      have digit := hex c (by simp)
      split at mark
      next sign =>
        rcases sign with rfl | rfl <;> cases digit
      · split at mark
        · cases mark
        · split at mark <;> cases mark
    rw [if_neg other, body]
    rfl
  next =>
    rw [body]
    rfl

-- Halves of surrogate pairs are told apart like characters.
theorem characterOf_small {code : Nat} (small : code ≤ 0x10FFFF) :
    ∃ point, characterOf (code : Int) = .ok point ∧ point.code = code := by
  refine ⟨.ofCode code, ?_, Point.code_ofCode small⟩
  unfold characterOf
  rw [if_neg (by simp; omega), if_neg (by simp; omega)]
  rfl

theorem coded_small {digits : List Char} (filled : digits ≠ [])
    (hex : ∀ c ∈ digits, Lexeme.isHexDigit c = true) :
    (∃ value, coded digits = .ok value) ∨ ∃ code, value 16 digits = some code ∧ 0x10FFFF < code := by
  obtain ⟨code, found, digitsValue, -⟩ := hexadecimal_value filled hex
  by_cases small : code ≤ 0x10FFFF
  · left
    obtain ⟨point, character, _⟩ := characterOf_small small
    exact ⟨[point], by rw [coded, found]; simp [character, Except.map]⟩
  · exact .inr ⟨code, digitsValue, by omega⟩

-- At most four digits name a character.
theorem coded_short {digits : List Char} (filled : digits ≠ [])
    (hex : ∀ c ∈ digits, Lexeme.isHexDigit c = true) (short : digits.length ≤ 4) :
    ∃ value, coded digits = .ok value := by
  rcases coded_small filled hex with found | ⟨code, found, beyond⟩
  · exact found
  · obtain ⟨other, -, same, less⟩ := hexadecimal_value filled hex
    rw [found, Option.some.injEq] at same
    have bound : Nat.pow 16 digits.length ≤ 65536 := Nat.pow_le_pow_right (by decide) short
    omega

-- An escape that begins with neither u nor x stands for something.
theorem cookedBody_other {c : Char} {rest : List Char} (notU : c ≠ 'u') (notX : c ≠ 'x') :
    ∃ value, cookedBody (c :: rest) = .ok value := by
  unfold cookedBody
  split
  · exact ⟨_, rfl⟩
  split
  next same => exact absurd (List.cons.inj same).1 notU
  next same => exact absurd (List.cons.inj same).1 notU
  next same => exact absurd (List.cons.inj same).1 notX
  next => exact ⟨_, rfl⟩

theorem cookedBody_braces (digits : List Char) :
    cookedBody ('u' :: '\x7b' :: (digits ++ ['\x7d'])) = coded digits := by
  change (if (digits ++ ['\x7d']).getLast? = some '\x7d' then coded (digits ++ ['\x7d']).dropLast
    else coded ('\x7b' :: (digits ++ ['\x7d']))) = coded digits
  rw [if_pos List.getLast?_concat, List.dropLast_concat]

theorem cookedBody_digits {c : Char} (plain : c ≠ '\x7b') (rest : List Char) :
    cookedBody ('u' :: c :: rest) = coded (c :: rest) := by
  have letter : letterEscape ('u' :: c :: rest) = none := rfl
  unfold cookedBody
  rw [letter]
  dsimp only
  split
  next same => exact absurd (List.cons.inj (List.cons.inj same).2).1 plain
  next same =>
    cases same
    rfl
  next same => cases same
  next other _ => exact absurd rfl (other c rest)

theorem cookedBody_byte (c : Char) (rest : List Char) :
    cookedBody ('x' :: c :: rest) = coded (c :: rest) := rfl

theorem escape_other {c : Char} (notX : c ≠ 'x') (notU : c ≠ 'u') (rest : List Char) :
    2 ≤ Lexeme.escape ('\\' :: c :: rest) := by
  simp only [Lexeme.escape, notX, notU, if_false]
  split
  · omega
  split
  · split
    · split <;> omega
    · omega
  · omega

theorem codePoint_cooked {rest : List Char} (positive : 0 < Lexeme.codePoint rest) :
    (∃ value, cookedBody ('u' :: rest.take (Lexeme.codePoint rest)) = .ok value) ∨
      IsBeyond ('\\' :: 'u' :: rest.take (Lexeme.codePoint rest)) := by
  unfold Lexeme.codePoint at positive ⊢
  split at positive
  next more =>
    dsimp only at positive ⊢
    split at positive
    next closed =>
      rw [if_pos closed]
      rw [Bool.and_eq_true, decide_eq_true_eq, decide_eq_true_eq] at closed
      obtain ⟨some, last⟩ := closed
      have digits : more.take (Lexeme.runOf Lexeme.isHexDigit more + 1) =
          more.takeWhile Lexeme.isHexDigit ++ ['}'] := by
        rw [List.take_add, Cursor.runOf_take]
        cases after : more.drop (Lexeme.runOf Lexeme.isHexDigit more) with
        | nil => simp [after] at last
        | cons d others =>
          rw [after, List.head?_cons, Option.some.injEq] at last
          subst last
          rfl
      rw [List.take_succ_cons, digits]
      have filled : more.takeWhile Lexeme.isHexDigit ≠ [] := List.ne_nil_of_length_pos some
      rcases coded_small filled (fun c member => List.all_eq_true.mp List.all_takeWhile c member)
        with ⟨value, found⟩ | ⟨code, found, beyond⟩
      · left
        exact ⟨value, (cookedBody_braces _).trans found⟩
      · exact .inr ⟨_, code, rfl, found, beyond⟩
    next => cases positive
  next a b c d _ _ =>
    split at positive
    next hex =>
      rw [if_pos hex]
      simp only [Bool.and_eq_true] at hex
      left
      have all : ∀ e ∈ [a, b, c, d], Lexeme.isHexDigit e = true := by simp [hex]
      obtain ⟨value, found⟩ := coded_short (by simp) all (by simp)
      have plain : a ≠ '\x7b' := by
        rintro rfl
        cases all _ List.mem_cons_self
      exact ⟨value, (cookedBody_digits plain _).trans found⟩
    next => cases positive
  next => cases positive

theorem escape_backslash {text : List Char} (positive : 0 < Lexeme.escape text) :
    ∃ c rest, text = '\\' :: c :: rest := by
  unfold Lexeme.escape at positive
  split at positive
  · exact ⟨_, _, rfl⟩
  · cases positive

theorem escape_cooked {text : List Char} (escape : IsEscape text) :
    (∃ value, cookedEscape text = .ok value) ∨ IsBeyond text := by
  obtain ⟨whole, positive, rfl⟩ := escape
  obtain ⟨c, rest, rfl⟩ := escape_backslash positive
  by_cases isX : c = 'x'
  · subst isX
    left
    simp only [Lexeme.escape, if_true] at positive ⊢
    split at positive
    next a b more =>
      split at positive
      next hex =>
        simp only [hex, if_true]
        rw [Bool.and_eq_true] at hex
        have all : ∀ e ∈ [a, b], Lexeme.isHexDigit e = true := by simp [hex]
        obtain ⟨value, found⟩ := coded_short (by simp) all (by simp)
        exact ⟨value, (cookedBody_byte _ _).trans found⟩
      next => cases positive
    next => cases positive
  by_cases isU : c = 'u'
  · subst isU
    cases code : Lexeme.codePoint rest with
    | zero => simp [Lexeme.escape, code] at positive
    | succ n =>
      have some : 0 < Lexeme.codePoint rest := by omega
      have total : Lexeme.escape ('\\' :: 'u' :: rest) = Lexeme.codePoint rest + 2 := by
        simp [Lexeme.escape, code]
      rw [total]
      exact codePoint_cooked some
  · left
    obtain ⟨n, size⟩ := Nat.exists_eq_add_of_le' (escape_other isX isU rest)
    rw [size]
    exact cookedBody_other isU isX

end DeclSchema.Source
