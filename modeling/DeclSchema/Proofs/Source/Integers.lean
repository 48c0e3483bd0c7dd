import DeclSchema.Proofs.Source.Numerals
import Mathlib.Data.Nat.Digits.Defs

/-!
Integers and their spellings: decimal digits without a zero in front of others, or digits of base
two, eight or sixteen behind the mark of their base. Underscores and spaces may stand anywhere in a
spelling, and marks of a big integer behind it. What is read is the number that the digits denote,
never a fraction.
-/

namespace DeclSchema.Source

open Number

/-! ### Spellings -/

-- A digit of a base; a letter may be of either case.
def IsDigitOf (base : Nat) (c : Char) (digit : Nat) : Prop :=
  digit < base ∧ (c = Nat.digitChar digit ∨ c = (Nat.digitChar digit).toUpper)

-- Digits from the highest place down, and the number that they denote by their places.
def Denotes (base : Nat) (digits : List Char) (n : Nat) : Prop :=
  ∃ values, List.Forall₂ (IsDigitOf base) digits values ∧ Nat.ofDigits base values.reverse = n

def baseMarks : List (Char × Nat) :=
  [('x', 16), ('X', 16), ('o', 8), ('O', 8), ('b', 2), ('B', 2)]

-- Only decimal digits are limited in their number.
inductive Magnitude : List Char → Nat → Prop where
  | decimal {digits : List Char} {n : Nat} : Denotes 10 digits n → digits ≠ [] →
      (digits.head? = some '0' → digits = ['0']) → digits.length ≤ 4300 → Magnitude digits n
  | marked {mark : Char} {base : Nat} {digits : List Char} {n : Nat} : (mark, base) ∈ baseMarks →
      Denotes base digits n → digits ≠ [] → Magnitude ('0' :: mark :: digits) n

inductive Spells : List Char → Int → Prop where
  | unsigned {body : List Char} {n : Nat} : Magnitude body n → Spells body n
  | negative {body : List Char} {n : Nat} : Magnitude body n → Spells ('-' :: body) (-n)

-- The same text with underscores and spaces let in.
inductive Spread : List Char → List Char → Prop where
  | done : Spread [] []
  | letter {core text : List Char} (c : Char) : Spread core text → Spread (c :: core) (c :: text)
  | gap {core text : List Char} (c : Char) : c = '_' ∨ c = ' ' → Spread core text →
      Spread core (c :: text)

/-! ### Digits and what they denote -/

theorem digit_value {base digit : Nat} {c : Char} (small : base ≤ 16)
    (written : IsDigitOf base c digit) : digitIn base c = some digit := by
  obtain ⟨less, spelled⟩ := written
  have known : ∀ d < 16, digitIn 16 (Nat.digitChar d) = some d ∧
      digitIn 16 (Nat.digitChar d).toUpper = some d := by decide
  have wide : digitIn 16 c = some digit := by
    rcases spelled with rfl | rfl
    · exact (known digit (by omega)).1
    · exact (known digit (by omega)).2
  -- The base only bounds the digits; what a character is worth does not depend on it.
  simp only [digitIn, Option.ite_none_right_eq_some, Option.some.injEq] at wide ⊢
  obtain ⟨-, worth⟩ := wide
  exact ⟨worth ▸ less, worth⟩

theorem denoted_digits {base n : Nat} {digits : List Char} (small : base ≤ 16)
    (denoted : Denotes base digits n) : AllIn base digits := by
  obtain ⟨values, written, -⟩ := denoted
  induction written with
  | nil => exact List.forall_mem_nil _
  | cons digit _ ih =>
    refine List.forall_mem_cons.mpr ⟨?_, ih⟩
    rw [digit_value small digit]
    rfl

-- The sum so far moves up by one place for each digit that is still to come.
theorem value_from_denoted {base : Nat} {digits : List Char} {values : List Nat}
    (small : base ≤ 16) (written : List.Forall₂ (IsDigitOf base) digits values) (sum : Nat) :
    digits.foldlM (fun sum c => (digitIn base c).map (sum * base + ·)) sum =
      some (sum * base ^ values.length + Nat.ofDigits base values.reverse) := by
  induction written generalizing sum with
  | nil => simp
  | @cons c d rest values digit _ ih =>
    have places : (sum * base + d) * base ^ values.length + Nat.ofDigits base values.reverse =
        sum * base ^ (d :: values).length + Nat.ofDigits base (d :: values).reverse := by
      rw [Nat.ofDigits_reverse_cons, List.length_cons, Nat.pow_succ, Nat.add_mul, Nat.mul_assoc,
        Nat.mul_comm base, Nat.mul_comm d]
      omega
    rw [List.foldlM_cons, digit_value small digit, ← places]
    exact ih _

theorem denoted_value {base n : Nat} {digits : List Char} (small : base ≤ 16)
    (denoted : Denotes base digits n) : value base digits = some n := by
  obtain ⟨values, written, rfl⟩ := denoted
  have found := value_from_denoted small written 0
  rwa [Nat.zero_mul, Nat.zero_add] at found

-- The zero put in front is there for the number zero, which would have no digits.
theorem denotes_some {base : Nat} (atLeastTwo : 1 < base) (n : Nat) :
    ∃ digits, digits ≠ [] ∧ Denotes base digits n := by
  have written (values : List Nat) (less : ∀ d ∈ values, d < base) :
      List.Forall₂ (IsDigitOf base) (values.map Nat.digitChar) values := by
    induction values with
    | nil => exact .nil
    | cons d rest ih =>
      obtain ⟨first, others⟩ := List.forall_mem_cons.mp less
      exact .cons ⟨first, .inl rfl⟩ (ih others)
  refine ⟨(0 :: (Nat.digits base n).reverse).map Nat.digitChar, by simp, _, written _ ?_, ?_⟩
  · refine List.forall_mem_cons.mpr ⟨by omega, fun d member => ?_⟩
    exact Nat.digits_lt_base atLeastTwo (List.mem_reverse.mp member)
  · rw [Nat.ofDigits_reverse_zero_cons, List.reverse_reverse, Nat.ofDigits_digits]

theorem spells_some (z : Int) : ∃ core, Spells core z := by
  have ⟨digits, filled, denoted⟩ : ∃ digits, digits ≠ [] ∧ Denotes 16 digits z.natAbs :=
    denotes_some (by decide) _
  have magnitude : Magnitude ('0' :: 'x' :: digits) z.natAbs := .marked (by decide) denoted filled
  rcases Int.natAbs_eq z with positive | negative
  · rw [positive]
    exact ⟨_, .unsigned magnitude⟩
  · rw [negative]
    exact ⟨_, .negative magnitude⟩

/-! ### Bodies -/

theorem baseMark_known {mark : Char} {base : Nat} (known : (mark, base) ∈ baseMarks) :
    markedBase mark = some base := by
  simp only [baseMarks, List.mem_cons, Prod.mk.injEq, List.not_mem_nil, or_false] at known
  rcases known with ⟨rfl, rfl⟩ | ⟨rfl, rfl⟩ | ⟨rfl, rfl⟩ | ⟨rfl, rfl⟩ | ⟨rfl, rfl⟩ | ⟨rfl, rfl⟩ <;> rfl

theorem decimal_marked {digits : List Char} (first : digits.head? = some '0' → digits = ['0']) :
    marked? digits = natural? 10 digits := by
  unfold marked?
  split
  next c rest => cases first rfl
  next => rfl

theorem magnitude_value {body : List Char} {n : Nat} (magnitude : Magnitude body n) :
    marked? body = some n := by
  cases magnitude with
  | decimal denoted filled first short =>
    have all := denoted_digits (by decide) denoted
    rw [decimal_marked first, natural_value (by decide) (fun _ => short) filled all]
    exact denoted_value (by decide) denoted
  | marked known denoted filled =>
    have found := baseMark_known known
    obtain ⟨small, -, -⟩ := markedBase_some found
    rw [marked_value found filled (denoted_digits small denoted)]
    exact denoted_value small denoted

theorem decimal_shown {c : Char} (digit : (digitIn 10 c).isSome = true) : c.isDigit = true := by
  by_contra letter
  simp only [digitIn, if_neg letter, Option.isSome_ite] at digit
  split at digit
  next => omega
  split at digit
  next => omega
  next => omega

theorem magnitude_unsigned {body : List Char} {n : Nat} (magnitude : Magnitude body n) :
    IsUnsigned body := by
  cases magnitude with
  | decimal denoted filled _ _ =>
    right
    rw [← List.append_nil body]
    have all := denoted_digits (by decide) denoted
    exact .whole filled (fun c member => decimal_shown (all c member)) .none
  | marked known denoted filled =>
    have found := baseMark_known known
    obtain ⟨small, -, -⟩ := markedBase_some found
    exact .inl ⟨_, _, _, rfl, found, filled, denoted_digits small denoted⟩

/-! ### Underscores and spaces -/

theorem spread_kept {core text : List Char} (spread : Spread core text) : kept text = kept core := by
  induction spread with
  | done => rfl
  | @letter core text c _ ih =>
    change kept ([c] ++ text) = kept ([c] ++ core)
    rw [kept_append, kept_append, ih]
  | gap c blank _ ih =>
    rw [← ih]
    rcases blank with rfl | rfl <;> rfl

theorem digits_kept {base : Nat} {digits : List Char} (small : base ≤ 16) (all : AllIn base digits) :
    kept digits = digits := by
  refine List.filter_eq_self.mpr fun c member => ?_
  obtain ⟨numeric, line⟩ := digitIn_numeric small (all c member)
  have space : c ≠ ' ' := by
    rintro rfl
    cases numeric
  simp [line, space]

theorem magnitude_kept {body : List Char} {n : Nat} (magnitude : Magnitude body n) :
    kept body = body := by
  cases magnitude with
  | decimal denoted _ _ _ => exact digits_kept (by decide) (denoted_digits (by decide) denoted)
  | @marked mark base digits _ known denoted _ =>
    have found := baseMark_known known
    obtain ⟨small, -, -⟩ := markedBase_some found
    change kept (['0', mark] ++ digits) = ['0', mark] ++ digits
    rw [kept_append, mark_kept found, digits_kept small (denoted_digits small denoted)]

/-! ### Values -/

theorem magnitude_read {sign body text : List Char} {n count : Nat}
    (known : sign ∈ [[], ['-'], ['+']]) (magnitude : Magnitude body n)
    (spread : Spread (sign ++ body ++ List.replicate count 'n') text) :
    Numeral.read? text = some (.integer (withSign (decide (sign = ['-'])) n)) := by
  have marksKept : kept (List.replicate count 'n') = List.replicate count 'n' := by
    simp [kept]
  have left : kept text = sign ++ body ++ List.replicate count 'n' := by
    rw [spread_kept spread, kept_append, kept_append, sign_kept known, magnitude_kept magnitude,
      marksKept]
  have marks : ∀ c ∈ List.replicate count 'n', c = 'n' := fun c => List.eq_of_mem_replicate
  rw [read_spelled left known (magnitude_unsigned magnitude) marks, magnitude_value magnitude,
    Option.map_some, Option.some_or]

theorem spelled_read {core text : List Char} {z : Int} {count : Nat} (spelled : Spells core z)
    (spread : Spread (core ++ List.replicate count 'n') text) :
    Numeral.read? text = some (.integer z) := by
  cases spelled with
  | unsigned magnitude => exact @magnitude_read [] _ _ _ _ (by decide) magnitude spread
  | negative magnitude => exact @magnitude_read ['-'] _ _ _ _ (by decide) magnitude spread

theorem readLiteral_number {whole : List Char} {children : List Node} {n : Node} {value : Literal}
    (first : children.find? Node.isContent = some n)
    (numeric : n.kind = .number ∨ n.kind = .signedNumber) (read : readNumeral n.text = .ok value) :
    readLiteral whole children = .ok (.literal value) := by
  unfold readLiteral
  rw [first]
  rcases numeric with kind | kind
  · simp [kind, read, Except.map]
  · simp [kind, read, Except.map]

-- Every integer can be spelled, and every spelling of it is read as it, also where it is the
-- number of a literal type.
theorem integers_exact (z : Int) :
    (∃ core, Spells core z) ∧
      ∀ (core text : List Char) (count : Nat), Spells core z →
        Spread (core ++ List.replicate count 'n') text →
          Numeral.read? text = some (.integer z) ∧
            ∀ (whole : List Char) (children : List Node) (n : Node),
              children.find? Node.isContent = some n →
                n.kind = .number ∨ n.kind = .signedNumber → n.text = text →
                  readLiteral whole children = .ok (.literal (.integer z)) := by
  refine ⟨spells_some z, fun core text count spelled spread => ?_⟩
  have read := spelled_read spelled spread
  refine ⟨read, fun whole children n first numeric same => ?_⟩
  apply readLiteral_number first numeric
  rw [readNumeral, same, read]

theorem integers_exact_spread :
    Spells ['-', '0', 'X', '0', 'f', 'F'] (-255) ∧
      Spread (['-', '0', 'X', '0', 'f', 'F'] ++ List.replicate 2 'n')
        ['-', ' ', '0', '_', '_', 'X', '0', 'f', ' ', 'F', 'n', '_', 'n', ' '] ∧
      Numeral.read? ['-', ' ', '0', '_', '_', 'X', '0', 'f', ' ', 'F', 'n', '_', 'n', ' '] =
        some (.integer (-255)) ∧
      readLiteral []
          [.leaf .comment .origin [], .leaf .signedNumber .origin
            ['-', ' ', '0', '_', '_', 'X', '0', 'f', ' ', 'F', 'n', '_', 'n', ' ']] =
        .ok (.literal (.integer (-255))) := by
  have denoted : Denotes 16 ['0', 'f', 'F'] 255 :=
    ⟨[0, 15, 15], .cons ⟨by decide, .inl rfl⟩ (.cons ⟨by decide, .inl rfl⟩
      (.cons ⟨by decide, .inr rfl⟩ .nil)), by decide⟩
  have spelled : Spells ['-', '0', 'X', '0', 'f', 'F'] (-255) :=
    .negative (.marked (by decide) denoted (by decide))
  have spread : Spread (['-', '0', 'X', '0', 'f', 'F'] ++ List.replicate 2 'n')
      ['-', ' ', '0', '_', '_', 'X', '0', 'f', ' ', 'F', 'n', '_', 'n', ' '] :=
    .letter _ (.gap _ (.inr rfl) (.letter _ (.gap _ (.inl rfl) (.gap _ (.inl rfl) (.letter _
      (.letter _ (.letter _ (.gap _ (.inr rfl) (.letter _ (.letter _ (.gap _ (.inl rfl) (.letter _
        (.gap _ (.inr rfl) .done)))))))))))))
  obtain ⟨read, literal⟩ := (integers_exact (-255)).2 _ _ 2 spelled spread
  exact ⟨spelled, spread, read, literal _ _ _ rfl (.inr rfl) rfl⟩

end DeclSchema.Source
