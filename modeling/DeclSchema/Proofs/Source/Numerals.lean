import DeclSchema.Proofs.Number.Values
import DeclSchema.Proofs.Source.Trees
import DeclSchema.Source.ShapeReading

/-!
The values of numbers. Every number that the grammar admits has a value; a signed one has none when
more than spaces stands behind its sign.
-/

namespace DeclSchema.Source

open Number

/-! ### Digits -/

-- What is left of a number's text when its value is read.
def kept (text : List Char) : List Char := text.filter fun c => c != '_' && c != ' '

theorem kept_append (first second : List Char) : kept (first ++ second) = kept first ++ kept second :=
  List.filter_append ..

theorem mem_kept {c : Char} {text : List Char} (member : c ∈ kept text) : c ∈ text ∧ c ≠ '_' := by
  simp only [kept, List.mem_filter, Bool.and_eq_true, bne_iff_ne] at member
  exact ⟨member.1, member.2.1⟩

-- Digits with single underscores between them.
def digitPiece (isDigit : Char → Bool) : List Char → Nat
  | '_' :: d :: _ => if isDigit d then 2 else 0
  | d :: _ => if isDigit d then 1 else 0
  | [] => 0

theorem digitPiece_some {isDigit : Char → Bool} {d : Char} {rest : List Char} {n : Nat}
    (size : digitPiece isDigit (d :: rest) = n + 1) :
    (d = '_' ∧ n = 1 ∧ ∀ e ∈ rest.head?, isDigit e = true) ∨ (isDigit d = true ∧ n = 0) := by
  unfold digitPiece at size
  split at size
  next e more same =>
    cases same
    split at size
    next digit => exact .inl ⟨rfl, by omega, by simpa using digit⟩
    next => cases size
  next same =>
    cases same
    split at size
    next digit => exact .inr ⟨digit, by omega⟩
    next => cases size
  next same => cases same

-- Inside of a piece of two characters the second one is a digit.
theorem digitPiece_run {isDigit : Char → Bool} (pending : Nat) (text : List Char)
    (begun : pending = 0 ∨ pending = 1 ∧ ∀ d ∈ text.head?, isDigit d = true) :
    ∀ c ∈ text.take (Lexeme.run (digitPiece isDigit) pending text), isDigit c = true ∨ c = '_' := by
  induction text generalizing pending with
  | nil => simp
  | cons d rest ih =>
    rcases begun with rfl | ⟨rfl, first⟩
    · rw [Lexeme.run]
      split
      · simp
      rename_i n size
      rw [Nat.add_comm, List.take_succ_cons, List.forall_mem_cons]
      rcases digitPiece_some size with ⟨rfl, rfl, digit⟩ | ⟨digit, rfl⟩
      · exact ⟨.inr rfl, ih 1 (.inr ⟨rfl, digit⟩)⟩
      · exact ⟨.inl digit, ih 0 (.inl rfl)⟩
    · rw [Lexeme.run, Nat.add_comm, List.take_succ_cons, List.forall_mem_cons]
      exact ⟨.inl (first d rfl), ih 0 (.inl rfl)⟩

theorem digits_cons (isDigit : Char → Bool) (c : Char) (rest : List Char) :
    Lexeme.digits isDigit (c :: rest) =
      if isDigit c then Lexeme.run (digitPiece isDigit) 0 (c :: rest) else 0 := rfl

theorem digits_all (isDigit : Char → Bool) (text : List Char) :
    ∀ c ∈ kept (text.take (Lexeme.digits isDigit text)), isDigit c = true := by
  intro c member
  obtain ⟨within, other⟩ := mem_kept member
  cases text with
  | nil => simp at within
  | cons d rest =>
    rw [digits_cons] at within
    split at within
    · exact (digitPiece_run 0 (d :: rest) (.inl rfl) c within).resolve_right other
    · simp at within

theorem kept_filled {c : Char} {rest : List Char} {n : Nat} (positive : 0 < n) (line : c ≠ '_')
    (space : c ≠ ' ') : kept ((c :: rest).take n) ≠ [] := by
  obtain ⟨n, rfl⟩ := Nat.exists_eq_succ_of_ne_zero (Nat.ne_of_gt positive)
  simp [kept, line, space]

theorem digits_filled {isDigit : Char → Bool} {text : List Char} (line : isDigit '_' = false)
    (space : isDigit ' ' = false) (positive : 0 < Lexeme.digits isDigit text) :
    kept (text.take (Lexeme.digits isDigit text)) ≠ [] := by
  cases text with
  | nil => simp [Lexeme.digits] at positive
  | cons c rest =>
    have first : isDigit c = true := by
      rw [digits_cons] at positive
      split at positive
      · assumption
      · cases positive
    refine kept_filled positive ?_ ?_
    · rintro rfl
      simp [line] at first
    · rintro rfl
      simp [space] at first

theorem decimalDigits_filled {text : List Char} (positive : 0 < Lexeme.digits Char.isDigit text) :
    kept (text.take (Lexeme.digits Char.isDigit text)) ≠ [] := digits_filled rfl rfl positive

/-! ### Numbers -/

-- A number without sign, and the mark of a big integer.
def IsNumeral (text : List Char) : Prop :=
  ∃ body mark, kept text = body ++ mark ∧ IsUnsigned body ∧ mark ∈ [[], ['n']]

theorem numeral_of_unsigned {text : List Char} (spelled : IsUnsigned (kept text)) : IsNumeral text :=
  ⟨kept text, [], (List.append_nil _).symm, spelled, by simp⟩

theorem digit_kept {c : Char} (digit : c.isDigit = true) (rest : List Char) :
    kept (c :: rest) = c :: kept rest := by
  have line : c ≠ '_' := by
    rintro rfl
    cases digit
  have space : c ≠ ' ' := by
    rintro rfl
    cases digit
  simp [kept, line, space]

theorem separated_digits (rest : List Char) :
    AllDigits (kept (rest.take (Lexeme.integerPart.separated rest))) := by
  unfold Lexeme.integerPart.separated
  split
  next more =>
    split
    next => simp [AllDigits, kept]
    next n size =>
      rw [List.take_succ_cons]
      have all := digits_all Char.isDigit more
      simpa [AllDigits, kept] using all
  next => exact digits_all Char.isDigit rest

theorem integerPart_digits (text : List Char) :
    AllDigits (kept (text.take (Lexeme.integerPart text))) := by
  have front {c : Char} (digit : c.isDigit = true) {rest : List Char} {n : Nat}
      (all : AllDigits (kept (rest.take n))) : AllDigits (kept ((c :: rest).take (1 + n))) := by
    rw [Nat.add_comm, List.take_succ_cons, digit_kept digit]
    exact List.forall_mem_cons.mpr ⟨digit, all⟩
  unfold Lexeme.integerPart
  split
  next c rest =>
    split
    next digit =>
      rw [Bool.and_eq_true] at digit
      rw [Nat.add_assoc 1 1]
      exact front (by decide) (front digit.2 (separated_digits rest))
    next => exact front (n := 0) (by decide) (by simp [AllDigits, kept])
  next c rest _ =>
    split
    next zero => exact front (n := 0) (zero ▸ by decide) (by simp [AllDigits, kept])
    split
    next digit => exact front digit (separated_digits rest)
    next => simp [AllDigits, kept]
  next => simp [AllDigits, kept]

theorem integerPart_filled {text : List Char} (positive : 0 < Lexeme.integerPart text) :
    kept (text.take (Lexeme.integerPart text)) ≠ [] := by
  cases text with
  | nil => cases positive
  | cons c rest =>
    have digit : c.isDigit = true := by
      unfold Lexeme.integerPart at positive
      split at positive
      next same =>
        cases same
        rfl
      next same =>
        cases same
        split at positive
        next zero => exact zero ▸ rfl
        split at positive
        next => assumption
        next => cases positive
      next same => cases same
    obtain ⟨n, size⟩ := Nat.exists_eq_succ_of_ne_zero (Nat.ne_of_gt positive)
    rw [size, List.take_succ_cons, digit_kept digit]
    simp

def signSize (rest : List Char) : Nat :=
  match rest with
  | '+' :: _ => 1
  | '-' :: _ => 1
  | _ => 0

theorem sign_taken (rest : List Char) : rest.take (signSize rest) ∈ [[], ['-'], ['+']] := by
  unfold signSize
  split <;> simp

theorem sign_kept {sign : List Char} (known : sign ∈ [[], ['-'], ['+']]) : kept sign = sign := by
  simp only [List.mem_cons, List.not_mem_nil, or_false] at known
  rcases known with rfl | rfl | rfl <;> rfl

theorem exponent_cons (e : Char) (rest : List Char) :
    Lexeme.exponent (e :: rest) =
      if e = 'e' || e = 'E' then
        if Lexeme.digits Char.isDigit (rest.drop (signSize rest)) = 0 then 0
        else 1 + signSize rest + Lexeme.digits Char.isDigit (rest.drop (signSize rest))
      else 0 := by
  unfold Lexeme.exponent
  dsimp only
  split
  · split
    next none => exact (if_pos none).symm
    next some => exact (if_neg some).symm
  · rfl

theorem exponent_some {text : List Char} (positive : 0 < Lexeme.exponent text) :
    ∃ e rest, text = e :: rest ∧ (e = 'e' ∨ e = 'E') ∧
      0 < Lexeme.digits Char.isDigit (rest.drop (signSize rest)) ∧
      Lexeme.exponent text =
        1 + signSize rest + Lexeme.digits Char.isDigit (rest.drop (signSize rest)) := by
  cases text with
  | nil => cases positive
  | cons e rest =>
    rw [exponent_cons] at positive ⊢
    split at positive
    next letter =>
      rw [if_pos letter]
      refine ⟨e, rest, rfl, by simpa using letter, ?_⟩
      split at positive
      · cases positive
      next other => exact ⟨Nat.pos_of_ne_zero other, if_neg other⟩
    next => cases positive

theorem exponent_scale (text : List Char) : IsScale (kept (text.take (Lexeme.exponent text))) := by
  by_cases positive : 0 < Lexeme.exponent text
  · obtain ⟨e, rest, rfl, letter, filled, size⟩ := exponent_some positive
    have sign := sign_taken rest
    have first : kept [e] = [e] := by rcases letter with rfl | rfl <;> rfl
    rw [size, Nat.add_assoc, Nat.add_comm 1, List.take_succ_cons, ← List.singleton_append,
      List.take_add, kept_append, kept_append, sign_kept sign, first]
    exact @IsScale.some e (rest.take (signSize rest)) _ letter sign (decimalDigits_filled filled)
      (digits_all _ _)
  · rw [Nat.eq_zero_of_not_pos positive]
    exact .none

-- A property of the greater of two sizes, which is one of them.
theorem max_cases {P : Nat → Prop} {a b : Nat} (left : 0 < a → P a) (right : 0 < b → P b)
    (positive : 0 < max a b) : P (max a b) := by
  rcases Nat.le_total a b with less | less
  · rw [Nat.max_eq_right less] at positive ⊢
    exact right positive
  · rw [Nat.max_eq_left less] at positive ⊢
    exact left positive

def pointedSize (text : List Char) : Nat :=
  match text.drop (Lexeme.integerPart text) with
  | '.' :: rest =>
    if Lexeme.integerPart text > 0 || Lexeme.digits Char.isDigit rest > 0 then
      Lexeme.integerPart text + 1 + Lexeme.digits Char.isDigit rest +
        Lexeme.exponent (rest.drop (Lexeme.digits Char.isDigit rest))
    else 0
  | _ => 0

def scaledSize (text : List Char) : Nat :=
  if Lexeme.integerPart text > 0 then
    match Lexeme.exponent (text.drop (Lexeme.integerPart text)) with
    | 0 => 0
    | n => Lexeme.integerPart text + n
  else 0

theorem decimal_sizes (text : List Char) :
    Lexeme.decimal text =
      max (pointedSize text) (max (scaledSize text) (Lexeme.digits Char.isDigit text)) := rfl

theorem pointed_decimal {text : List Char} (positive : 0 < pointedSize text) :
    IsDecimal (kept (text.take (pointedSize text))) := by
  unfold pointedSize at positive ⊢
  split at positive
  next rest after =>
    split at positive
    next filled =>
      have cut : text.take (Lexeme.integerPart text + 1 + Lexeme.digits Char.isDigit rest +
            Lexeme.exponent (rest.drop (Lexeme.digits Char.isDigit rest))) =
          text.take (Lexeme.integerPart text) ++ ['.'] ++
            (rest.take (Lexeme.digits Char.isDigit rest) ++
              (rest.drop (Lexeme.digits Char.isDigit rest)).take
                (Lexeme.exponent (rest.drop (Lexeme.digits Char.isDigit rest)))) := by
        rw [Nat.add_assoc, Nat.add_assoc, List.take_add, after, Nat.add_comm 1, List.take_succ_cons,
          List.take_add, List.append_assoc, List.singleton_append]
      have point : kept ['.'] = ['.'] := rfl
      rw [if_pos filled, cut, kept_append, kept_append, kept_append, point, List.append_assoc,
        List.singleton_append]
      rw [Bool.or_eq_true, decide_eq_true_eq, decide_eq_true_eq] at filled
      refine .pointed ?_ (integerPart_digits text) (digits_all _ _) (exponent_scale _)
      exact filled.imp integerPart_filled decimalDigits_filled
    next => cases positive
  next => cases positive

theorem scaled_decimal {text : List Char} (positive : 0 < scaledSize text) :
    IsDecimal (kept (text.take (scaledSize text))) := by
  unfold scaledSize at positive ⊢
  split at positive
  next whole =>
    rw [if_pos whole]
    split at positive
    · cases positive
    next =>
      rw [List.take_add, kept_append]
      exact .whole (integerPart_filled whole) (integerPart_digits text) (exponent_scale _)
  next => cases positive

theorem decimal_unsigned {text : List Char} (positive : 0 < Lexeme.decimal text) :
    IsUnsigned (kept (text.take (Lexeme.decimal text))) := by
  right
  rw [decimal_sizes] at positive ⊢
  refine max_cases (P := fun n => IsDecimal (kept (text.take n))) pointed_decimal ?_ positive
  refine max_cases (P := fun n => IsDecimal (kept (text.take n))) scaled_decimal ?_
  intro digits
  rw [← List.append_nil (kept _)]
  exact .whole (decimalDigits_filled digits) (digits_all _ _) .none

theorem hexDigit_in {c : Char} (digit : Lexeme.isHexDigit c = true) :
    (digitIn 16 c).isSome = true := by
  have order (a b : Char) : a ≤ b ↔ a.toNat ≤ b.toNat := Iff.rfl
  simp only [Lexeme.isHexDigit, Bool.or_eq_true, Bool.and_eq_true, decide_eq_true_eq, order,
    Char.isDigit_iff_toNat, Char.reduceToNat] at digit
  simp only [digitIn, Option.isSome_ite, Char.isDigit_iff_toNat, Bool.and_eq_true,
    decide_eq_true_eq, order, Char.reduceToNat]
  split
  next => omega
  split
  next => omega
  split
  next => omega
  next => omega

theorem octal_in {c : Char} (digit : Lexeme.isOctal c = true) : (digitIn 8 c).isSome = true := by
  have order (a b : Char) : a ≤ b ↔ a.toNat ≤ b.toNat := Iff.rfl
  simp only [Lexeme.isOctal, Bool.and_eq_true, decide_eq_true_eq, order, Char.reduceToNat] at digit
  simp only [digitIn, Option.isSome_ite, Char.isDigit_iff_toNat, Char.reduceToNat]
  rw [if_pos (by omega)]
  omega

theorem binary_in {c : Char} (digit : Lexeme.isBinary c = true) : (digitIn 2 c).isSome = true := by
  simp only [Lexeme.isBinary, Bool.or_eq_true, decide_eq_true_eq] at digit
  rcases digit with rfl | rfl <;> rfl

theorem mark_kept {mark : Char} {base : Nat} (found : markedBase mark = some base) :
    kept ['0', mark] = ['0', mark] := by
  have line : mark ≠ '_' := by
    rintro rfl
    cases found
  have space : mark ≠ ' ' := by
    rintro rfl
    cases found
  simp [kept, line, space]

-- Digits behind the mark of their base.
theorem based_marked {mark : Char} {base : Nat} {isDigit : Char → Bool} {rest : List Char}
    (found : markedBase mark = some base)
    (digits : ∀ c, isDigit c = true → (digitIn base c).isSome = true)
    (positive : 0 < Lexeme.based isDigit rest) :
    IsMarked (kept (('0' :: mark :: rest).take (Lexeme.based isDigit rest))) := by
  obtain ⟨small, -, -⟩ := markedBase_some found
  have line : isDigit '_' = false := by
    refine Bool.eq_false_iff.mpr fun digit => ?_
    exact (digitIn_numeric small (digits '_' digit)).2 rfl
  have space : isDigit ' ' = false := by
    refine Bool.eq_false_iff.mpr fun digit => ?_
    exact absurd (digitIn_numeric small (digits ' ' digit)).1 (by decide)
  cases size : Lexeme.digits isDigit rest with
  | zero => simp [Lexeme.based, size] at positive
  | succ n =>
    have total : Lexeme.based isDigit rest = 2 + Lexeme.digits isDigit rest := by
      simp only [Lexeme.based, size]
      omega
    rw [total, List.take_add, kept_append]
    have filled : 0 < Lexeme.digits isDigit rest := by omega
    refine ⟨mark, base, _, ?_, found, digits_filled line space filled, fun c member => ?_⟩
    · exact congrArg (· ++ _) (mark_kept found)
    · exact digits c (digits_all isDigit rest c member)

theorem integer_unsigned {text : List Char} (positive : 0 < Lexeme.integer text) :
    IsUnsigned (kept (text.take (Lexeme.integer text))) := by
  have plain (digits : 0 < Lexeme.digits Char.isDigit text) :
      IsUnsigned (kept (text.take (Lexeme.digits Char.isDigit text))) := by
    right
    rw [← List.append_nil (kept _)]
    exact .whole (decimalDigits_filled digits) (digits_all _ _) .none
  unfold Lexeme.integer at positive ⊢
  split at positive
  next m rest =>
    split at positive
    next sign =>
      rw [if_pos sign]
      exact .inl (based_marked (by rw [markedBase, if_pos sign]) (fun _ => hexDigit_in) positive)
    next notHex =>
    rw [if_neg notHex]
    split at positive
    next sign =>
      rw [if_pos sign]
      exact .inl (based_marked (by rw [markedBase, if_neg notHex, if_pos sign]) (fun _ => octal_in) positive)
    next notOctal =>
    rw [if_neg notOctal]
    split at positive
    next sign =>
      rw [if_pos sign]
      exact .inl (based_marked (by rw [markedBase, if_neg notHex, if_neg notOctal, if_pos sign])
        (fun _ => binary_in) positive)
    next notBinary =>
      rw [if_neg notBinary]
      exact plain positive
  next => exact plain positive

theorem number_numeral {text : List Char} (number : IsNumber text) : IsNumeral text := by
  obtain ⟨rest, positive, rfl⟩ := number
  refine max_cases (P := fun n => IsNumeral (rest.take n)) ?_ ?_ positive
  · intro big
    split at big
    next marked =>
      rw [if_pos marked]
      rw [Bool.and_eq_true, decide_eq_true_eq, decide_eq_true_eq] at marked
      obtain ⟨whole, mark⟩ := marked
      refine ⟨_, ['n'], ?_, integer_unsigned whole, by simp⟩
      rw [List.take_add, kept_append]
      cases after : rest.drop (Lexeme.integer rest) with
      | nil => simp [after] at mark
      | cons c more =>
        rw [after, List.head?_cons, Option.some.injEq] at mark
        subst mark
        rfl
    next plain =>
      rw [if_neg plain]
      exact numeral_of_unsigned (integer_unsigned big)
  · intro decimal
    exact numeral_of_unsigned (decimal_unsigned decimal)

/-! ### Values of numbers -/

theorem readNumeral_some {text : List Char} (found : (Numeral.read? text).isSome = true) :
    ∃ value, readNumeral text = .ok value := by
  obtain ⟨numeral, same⟩ := Option.isSome_iff_exists.mp found
  cases numeral with
  | integer n => exact ⟨.integer n, by rw [readNumeral, same]⟩
  | float x => exact ⟨.float x, by rw [readNumeral, same]⟩

theorem number_read {text : List Char} (number : IsNumber text) :
    ∃ value, readNumeral text = .ok value := by
  obtain ⟨body, mark, same, spelled, big⟩ := number_numeral number
  exact readNumeral_some (@read_some text [] body mark same (by simp) spelled big)

-- A sign behind which, and behind its spaces, comes a blank of another kind or a comment.
def IsParted (text : List Char) : Prop :=
  ∃ sign rest, text = sign :: rest ∧ isSign sign = true ∧
    ∃ d ∈ (rest.dropWhile (· = ' ')).head?, Lexeme.isBlank d = true ∨ d = '/'

theorem signed_read {text : List Char} (signed : IsSigned text) :
    (∃ value, readNumeral text = .ok value) ∨ IsParted text := by
  obtain ⟨sign, between, number, rfl, isSign, spelled, shown⟩ := signed
  cases behind : between.dropWhile (· = ' ') with
  | nil =>
    left
    have spaces : kept between = [] := by
      have same := List.takeWhile_append_dropWhile (p := (· = ' ')) (l := between)
      rw [behind, List.append_nil] at same
      simp only [kept, List.filter_eq_nil_iff]
      intro c member
      have space := List.all_eq_true.mp List.all_takeWhile c (same ▸ member)
      rw [of_decide_eq_true space]
      decide
    obtain ⟨body, mark, same, unsigned, big⟩ := number_numeral spelled
    simp only [Source.isSign, Bool.or_eq_true, decide_eq_true_eq] at isSign
    have front : kept [sign] = [sign] := by rcases isSign with rfl | rfl <;> rfl
    refine readNumeral_some (@read_some _ [sign] body mark ?_ ?_ unsigned big)
    · change kept ([sign] ++ (between ++ number)) = [sign] ++ body ++ mark
      rw [kept_append, kept_append, front, spaces, same, List.nil_append, List.append_assoc]
    · rcases isSign with rfl | rfl <;> simp
  | cons d more =>
    right
    rw [behind] at shown
    refine ⟨sign, _, rfl, isSign, d, ?_, shown d rfl⟩
    simp [List.dropWhile_append, behind]

end DeclSchema.Source
