import DeclSchema.Number.Numeral

/-!
Which spellings have a value. Digits behind the mark of a base do, and so do decimal fractions with
or without a scale; a sign in front and the mark of a big integer behind take nothing away from it.
-/

namespace DeclSchema.Number

/-! ### Characters -/

-- No blank, no character beyond ASCII, and not the mark of a big integer.
def isNumeric (c : Char) : Bool := 0x21 ≤ c.toNat && c.toNat < 0x7F && c != 'n'

theorem numeric_plain {c : Char} (numeric : isNumeric c = true) :
    plain c = c ∧ isSpace c = false := by
  simp only [isNumeric, Bool.and_eq_true, decide_eq_true_eq] at numeric
  have notSpace : c ≠ ' ' := by
    rintro rfl
    exact absurd numeric.1.1 (by decide)
  refine ⟨by rw [plain, if_pos (by omega)], ?_⟩
  simp only [isSpace, notSpace, decide_false, Bool.false_or, Bool.and_eq_false_iff,
    decide_eq_false_iff_not]
  omega

theorem dropWhile_none {p : Char → Bool} {text : List Char} (none : ∀ c ∈ text, p c = false) :
    text.dropWhile p = text := by
  cases text with
  | nil => rfl
  | cons c rest => simp [none c]

theorem trimmed_numeric {text : List Char} (numeric : ∀ c ∈ text, isNumeric c = true) :
    trimmed text = text := by
  have same : text.map plain = text :=
    (List.map_congr_left fun c member => (numeric_plain (numeric c member)).1).trans (List.map_id' text)
  have shown : ∀ c ∈ text, isSpace c = false := fun c member =>
    (numeric_plain (numeric c member)).2
  rw [trimmed, same, dropWhile_none shown,
    dropWhile_none fun c member => shown c (List.mem_reverse.mp member), List.reverse_reverse]

/-! ### Digits -/

def AllIn (base : Nat) (text : List Char) : Prop := ∀ c ∈ text, (digitIn base c).isSome = true

theorem digitIn_lt {base digit : Nat} {c : Char} (found : digitIn base c = some digit) :
    digit < base := by
  simp only [digitIn, Option.ite_none_right_eq_some, Option.some.injEq] at found
  obtain ⟨less, rfl⟩ := found
  exact less

theorem digitIn_numeric {base : Nat} {c : Char} (small : base ≤ 16)
    (digit : (digitIn base c).isSome = true) : isNumeric c = true ∧ c ≠ '_' := by
  have within : (0x30 ≤ c.toNat ∧ c.toNat ≤ 0x39) ∨ (0x61 ≤ c.toNat ∧ c.toNat ≤ 0x66) ∨
      (0x41 ≤ c.toNat ∧ c.toNat ≤ 0x46) := by
    have order (a b : Char) : a ≤ b ↔ a.toNat ≤ b.toNat := Iff.rfl
    simp only [digitIn, Option.isSome_ite, Char.isDigit_iff_toNat, Bool.and_eq_true,
      decide_eq_true_eq, order, Char.reduceToNat] at digit
    split at digit
    next => left; assumption
    split at digit
    next => right; left; omega
    split at digit
    next => right; right; omega
    next => omega
  have notMark : c ≠ 'n' := by
    rintro rfl
    exact absurd within (by decide)
  have notLine : c ≠ '_' := by
    rintro rfl
    exact absurd within (by decide)
  refine ⟨?_, notLine⟩
  simp only [isNumeric, bne_iff_ne, Bool.and_eq_true, decide_eq_true_eq]
  exact ⟨by omega, notMark⟩

theorem digitIn_decimal {c : Char} (digit : c.isDigit = true) : (digitIn 10 c).isSome = true := by
  have within := Char.isDigit_iff_toNat.mp digit
  simp only [Char.reduceToNat] at within
  simp only [digitIn, digit, if_true, Option.isSome_ite]
  omega

theorem value_from {base : Nat} {text : List Char} (digits : AllIn base text) (sum : Nat) :
    ∃ n, text.foldlM (fun sum c => (digitIn base c).map (sum * base + ·)) sum = some n ∧
      n < (sum + 1) * Nat.pow base text.length := by
  induction text generalizing sum with
  | nil => exact ⟨sum, rfl, by simp⟩
  | cons c rest ih =>
    obtain ⟨digit, found⟩ := Option.isSome_iff_exists.mp (digits c List.mem_cons_self)
    have bound := digitIn_lt found
    obtain ⟨n, result, less⟩ := ih (fun d member => digits d (List.mem_cons_of_mem c member))
      (sum * base + digit)
    refine ⟨n, by simpa [found] using result, Nat.lt_of_lt_of_le less ?_⟩
    have longer : Nat.pow base (c :: rest).length = Nat.pow base rest.length * base := rfl
    calc (sum * base + digit + 1) * Nat.pow base rest.length
        ≤ ((sum + 1) * base) * Nat.pow base rest.length := by
          apply Nat.mul_le_mul_right
          rw [Nat.add_mul]
          omega
      _ = (sum + 1) * Nat.pow base (c :: rest).length := by
          rw [longer, Nat.mul_assoc, Nat.mul_comm base]

theorem value_some {base : Nat} {text : List Char} (digits : AllIn base text) :
    ∃ n, value base text = some n ∧ n < Nat.pow base text.length := by
  obtain ⟨n, found, less⟩ := value_from digits 0
  exact ⟨n, found, by rwa [Nat.zero_add, Nat.one_mul] at less⟩

theorem unseparated_self {text : List Char} (none : '_' ∉ text) : unseparated text = some text := by
  fun_induction unseparated text with
  | case1 => rfl
  | case2 => simp at none
  | case3 => simp at none
  | case4 => simp at none
  | case5 c rest _ _ _ ih => simp_all

theorem natural_value {base : Nat} {text : List Char} (small : base ≤ 16)
    (short : base = 10 → text.length ≤ longestDecimal) (filled : text ≠ [])
    (digits : AllIn base text) : natural? base text = value base text := by
  have none : '_' ∉ text := fun member => (digitIn_numeric small (digits '_' member)).2 rfl
  have first : text.head? ≠ some '_' := fun head => none (List.mem_of_head? head)
  have within : ¬(base = 10 ∧ longestDecimal < text.length) := fun ⟨same, long⟩ =>
    Nat.not_lt.mpr (short same) long
  unfold natural?
  rw [if_neg first, unseparated_self none]
  simp [filled, within]

/-! ### Spellings -/

def IsMarked (text : List Char) : Prop :=
  ∃ mark base digits, text = '0' :: mark :: digits ∧ markedBase mark = some base ∧
    digits ≠ [] ∧ AllIn base digits

def AllDigits (text : List Char) : Prop := ∀ c ∈ text, c.isDigit = true

inductive IsScale : List Char → Prop where
  | none : IsScale []
  | some {e : Char} {sign digits : List Char} : e = 'e' ∨ e = 'E' →
      sign ∈ [[], ['-'], ['+']] → digits ≠ [] → AllDigits digits → IsScale (e :: (sign ++ digits))

inductive IsDecimal : List Char → Prop where
  | whole {digits scale : List Char} : digits ≠ [] → AllDigits digits → IsScale scale →
      IsDecimal (digits ++ scale)
  | pointed {digits places scale : List Char} : digits ≠ [] ∨ places ≠ [] → AllDigits digits →
      AllDigits places → IsScale scale → IsDecimal (digits ++ '.' :: (places ++ scale))

def IsUnsigned (text : List Char) : Prop := IsMarked text ∨ IsDecimal text

theorem markedBase_some {mark : Char} {base : Nat} (found : markedBase mark = some base) :
    base ≤ 16 ∧ base ≠ 10 ∧ isNumeric mark = true := by
  simp only [markedBase, Bool.or_eq_true, decide_eq_true_eq] at found
  split at found
  next sign => rcases sign with rfl | rfl <;> cases found <;> decide
  split at found
  next sign => rcases sign with rfl | rfl <;> cases found <;> decide
  split at found
  next sign => rcases sign with rfl | rfl <;> cases found <;> decide
  next => cases found

theorem marked_value {mark : Char} {base : Nat} {digits : List Char}
    (found : markedBase mark = some base) (filled : digits ≠ []) (all : AllIn base digits) :
    marked? ('0' :: mark :: digits) = value base digits := by
  obtain ⟨small, other, -⟩ := markedBase_some found
  have unmarked : afterMark digits = digits := by
    unfold afterMark
    split
    next more => exact absurd rfl (digitIn_numeric small (all '_' List.mem_cons_self)).2
    next => rfl
  simp only [marked?, found, unmarked]
  exact natural_value small (fun same => absurd same other) filled all

theorem marked_some {text : List Char} (spelled : IsMarked text) : (marked? text).isSome = true := by
  obtain ⟨mark, base, digits, rfl, found, filled, all⟩ := spelled
  obtain ⟨n, result, -⟩ := value_some all
  rw [marked_value found filled all, result]
  rfl

/-! ### Decimal fractions -/

theorem takeWhile_front {p : Char → Bool} {front rest : List Char} (all : ∀ c ∈ front, p c = true)
    (stop : ∀ c ∈ rest.head?, p c = false) :
    (front ++ rest).takeWhile p = front ∧ (front ++ rest).dropWhile p = rest := by
  rw [List.takeWhile_append_of_pos all, List.dropWhile_append_of_pos all]
  cases rest with
  | nil => simp
  | cons c more => simp [stop c rfl]

theorem scale_head {scale : List Char} (spelled : IsScale scale) :
    ∀ c ∈ scale.head?, c.isDigit = false ∧ c ≠ '.' := by
  cases spelled with
  | none => simp
  | some letter =>
    rcases letter with rfl | rfl
    · simp
    · simp

theorem signed_digits {sign digits : List Char} (known : sign ∈ [[], ['-'], ['+']])
    (unsigned : ∀ c ∈ digits.head?, c ≠ '-' ∧ c ≠ '+') :
    signed (sign ++ digits) = (decide (sign = ['-']), digits) := by
  simp only [List.mem_cons, List.not_mem_nil, or_false] at known
  rcases known with rfl | rfl | rfl
  · rw [List.nil_append]
    unfold signed
    split
    · exact absurd rfl (unsigned '-' rfl).1
    · exact absurd rfl (unsigned '+' rfl).2
    · rfl
  · rfl
  · rfl

theorem digits_value {text : List Char} (digits : AllDigits text) : (value 10 text).isSome = true := by
  have all : AllIn 10 text := fun c member => digitIn_decimal (digits c member)
  obtain ⟨n, result, -⟩ := value_some all
  rw [result]
  rfl

-- The digits behind a point, and what follows them.
def fraction (rest : List Char) : List Char × List Char :=
  match rest with
  | '.' :: more => (more.takeWhile Char.isDigit, more.dropWhile Char.isDigit)
  | _ => ([], rest)

-- The power of ten that a scale stands for.
def power (scale : List Char) : Option Int :=
  match scale with
  | [] => some 0
  | e :: more =>
    if (e = 'e' || e = 'E') && !(signed more).2.isEmpty && (signed more).2.all Char.isDigit then
      (value 10 (signed more).2).map (withSign (signed more).1)
    else none

theorem unsignedFloat_parts (negative : Bool) (text : List Char) :
    unsignedFloat? negative text =
      (let whole := text.takeWhile Char.isDigit
      let parts := fraction (text.dropWhile Char.isDigit)
      if whole.isEmpty && parts.1.isEmpty then none
      else do
        let scale ← power parts.2
        let digits ← value 10 (whole ++ parts.1)
        return Double.ofDecimal negative digits (scale - parts.1.length)) := rfl

theorem power_some {scale : List Char} (spelled : IsScale scale) : (power scale).isSome = true := by
  cases spelled with
  | none => rfl
  | @some e sign digits letter known filled all =>
    have behind : (signed (sign ++ digits)).2 = digits := by
      rw [signed_digits known fun c head => ?_]
      have digit := all c (List.mem_of_head? head)
      constructor
      · rintro rfl
        cases digit
      · rintro rfl
        cases digit
    rw [power, behind, if_pos]
    · simpa using digits_value all
    · simp [letter, filled]
      exact all

theorem fraction_scale {scale : List Char} (spelled : IsScale scale) : fraction scale = ([], scale) := by
  unfold fraction
  split
  · exact absurd rfl (scale_head spelled '.' rfl).2
  · rfl

theorem fraction_point {places scale : List Char} (all : AllDigits places) (spelled : IsScale scale) :
    fraction ('.' :: (places ++ scale)) = (places, scale) := by
  obtain ⟨taken, left⟩ := takeWhile_front all fun c head => (scale_head spelled c head).1
  rw [fraction, taken, left]

-- A fraction has a value when the digits in front of its point and behind it are not both missing.
theorem float_some {text : List Char} (spelled : IsDecimal text) (negative : Bool) :
    (unsignedFloat? negative text).isSome = true := by
  have parts {digits rest places scale : List Char} (all : AllDigits digits)
      (stop : ∀ c ∈ rest.head?, c.isDigit = false) (cut : fraction rest = (places, scale))
      (placesAll : AllDigits places) (behind : IsScale scale) (filled : digits ≠ [] ∨ places ≠ []) :
      (unsignedFloat? negative (digits ++ rest)).isSome = true := by
    obtain ⟨taken, left⟩ := takeWhile_front all stop
    obtain ⟨scaled, found⟩ := Option.isSome_iff_exists.mp (power_some behind)
    have both : AllDigits (digits ++ places) := fun c member =>
      (List.mem_append.mp member).elim (all c) (placesAll c)
    obtain ⟨n, number⟩ := Option.isSome_iff_exists.mp (digits_value both)
    rw [unsignedFloat_parts, taken, left, cut]
    dsimp only
    rw [if_neg (by rcases filled with front | behind <;> simp [*]), found]
    simp [number]
  cases spelled with
  | whole filled all behind =>
    exact parts all (fun c head => (scale_head behind c head).1) (fraction_scale behind) (by simp [AllDigits])
      behind (.inl filled)
  | pointed filled all placesAll behind =>
    exact parts all (by simp) (fraction_point placesAll behind) placesAll behind filled

/-! ### Numerals -/

theorem digits_numeric {text : List Char} (digits : AllDigits text) :
    ∀ c ∈ text, isNumeric c = true := fun c member =>
  (digitIn_numeric (by decide) (digitIn_decimal (digits c member))).1

theorem scale_numeric {scale : List Char} (spelled : IsScale scale) :
    ∀ c ∈ scale, isNumeric c = true := by
  cases spelled with
  | none => simp
  | some letter known filled all =>
    simp only [List.forall_mem_cons, List.forall_mem_append]
    refine ⟨?_, ?_, digits_numeric all⟩
    · rcases letter with rfl | rfl <;> decide
    · simp only [List.mem_cons, List.not_mem_nil, or_false] at known
      rcases known with rfl | rfl | rfl
      · exact List.forall_mem_nil _
      · exact List.forall_mem_singleton.mpr rfl
      · exact List.forall_mem_singleton.mpr rfl

theorem unsigned_numeric {text : List Char} (spelled : IsUnsigned text) :
    ∀ c ∈ text, isNumeric c = true := by
  rcases spelled with ⟨mark, base, digits, rfl, found, filled, all⟩ | decimal
  · obtain ⟨small, -, numeric⟩ := markedBase_some found
    simp only [List.forall_mem_cons]
    exact ⟨by decide, numeric, fun c member => (digitIn_numeric small (all c member)).1⟩
  · cases decimal with
    | whole filled all behind =>
      rw [List.forall_mem_append]
      exact ⟨digits_numeric all, scale_numeric behind⟩
    | pointed filled all places behind =>
      simp only [List.forall_mem_append, List.forall_mem_cons]
      exact ⟨digits_numeric all, by decide, digits_numeric places, scale_numeric behind⟩

theorem unsigned_head {text : List Char} (spelled : IsUnsigned text) :
    ∃ c rest, text = c :: rest ∧ c ≠ '-' ∧ c ≠ '+' := by
  have digit {c : Char} (shown : c.isDigit = true) : c ≠ '-' ∧ c ≠ '+' := by
    constructor
    · rintro rfl
      cases shown
    · rintro rfl
      cases shown
  rcases spelled with ⟨mark, base, digits, rfl, -, -, -⟩ | decimal
  · exact ⟨_, _, rfl, by decide, by decide⟩
  · cases decimal with
    | @whole digits scale filled all behind =>
      cases digits with
      | nil => exact absurd rfl filled
      | cons c more => exact ⟨c, _, rfl, digit (all c List.mem_cons_self)⟩
    | @pointed digits places scale filled all placesAll behind =>
      cases digits with
      | nil => exact ⟨'.', _, rfl, by decide, by decide⟩
      | cons c more => exact ⟨c, _, rfl, digit (all c List.mem_cons_self)⟩

theorem sign_numeric {sign : List Char} (known : sign ∈ [[], ['-'], ['+']]) :
    ∀ c ∈ sign, isNumeric c = true := by
  simp only [List.mem_cons, List.not_mem_nil, or_false] at known
  rcases known with rfl | rfl | rfl
  · exact List.forall_mem_nil _
  · exact List.forall_mem_singleton.mpr rfl
  · exact List.forall_mem_singleton.mpr rfl

-- The marks of a big integer go, and nothing that stands in front of them.
theorem marks_dropped {text marks : List Char} (numeric : ∀ c ∈ text, isNumeric c = true)
    (big : ∀ c ∈ marks, c = 'n') : ((text ++ marks).reverse.dropWhile (· = 'n')).reverse = text := by
  have behind : ∀ c ∈ marks.reverse, decide (c = 'n') = true := fun c member =>
    decide_eq_true (big c (List.mem_reverse.mp member))
  rw [List.reverse_append, List.dropWhile_append_of_pos behind, dropWhile_none fun c member => ?_,
    List.reverse_reverse]
  have shown := numeric c (List.mem_reverse.mp member)
  simp only [isNumeric, Bool.and_eq_true, bne_iff_ne] at shown
  exact decide_eq_false shown.2

theorem signed_spelled {sign body : List Char} (known : sign ∈ [[], ['-'], ['+']])
    (spelled : IsUnsigned body) :
    signed (trimmed (sign ++ body)) = (decide (sign = ['-']), body) := by
  rw [trimmed_numeric (List.forall_mem_append.mpr ⟨sign_numeric known, unsigned_numeric spelled⟩)]
  obtain ⟨c, rest, rfl, front⟩ := unsigned_head spelled
  exact signed_digits known fun d head => by cases head; exact front

theorem integer_spelled {sign body : List Char} (known : sign ∈ [[], ['-'], ['+']])
    (spelled : IsUnsigned body) :
    integer? (sign ++ body) = (marked? body).map (withSign (decide (sign = ['-']))) := by
  simp only [integer?, signed_spelled known spelled]

-- An integer if it has the value of one, and a fraction if not.
theorem read_spelled {text sign body marks : List Char}
    (kept : text.filter (fun c => c != '_' && c != ' ') = sign ++ body ++ marks)
    (known : sign ∈ [[], ['-'], ['+']]) (spelled : IsUnsigned body) (big : ∀ c ∈ marks, c = 'n') :
    Numeral.read? text =
      ((marked? body).map fun n => .integer (withSign (decide (sign = ['-'])) n)).or
        ((float? (sign ++ body)).map .float) := by
  have numeric : ∀ c ∈ sign ++ body, isNumeric c = true :=
    List.forall_mem_append.mpr ⟨sign_numeric known, unsigned_numeric spelled⟩
  unfold Numeral.read?
  dsimp only
  rw [kept, marks_dropped numeric big, integer_spelled known spelled]
  cases marked? body with
  | none => rfl
  | some n => rfl

theorem read_some {text sign body mark : List Char}
    (kept : text.filter (fun c => c != '_' && c != ' ') = sign ++ body ++ mark)
    (known : sign ∈ [[], ['-'], ['+']]) (spelled : IsUnsigned body) (big : mark ∈ [[], ['n']]) :
    (Numeral.read? text).isSome = true := by
  have marks : ∀ c ∈ mark, c = 'n' := by
    simp only [List.mem_cons, List.not_mem_nil, or_false] at big
    rcases big with rfl | rfl
    · exact List.forall_mem_nil _
    · exact List.forall_mem_singleton.mpr rfl
  rw [read_spelled kept known spelled marks, Option.isSome_or, Bool.or_eq_true, Option.isSome_map,
    Option.isSome_map]
  rcases spelled with marked | decimal
  · exact .inl (marked_some marked)
  right
  unfold float?
  dsimp only
  rw [signed_spelled known (.inr decimal)]
  split
  · rfl
  split
  · rfl
  · exact float_some decimal _

end DeclSchema.Number
