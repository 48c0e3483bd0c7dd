import DeclSchema.Text.Blank

/-!
Texts as rows of code points. Sources, arguments and files hold characters only; an escape of a
source can also stand for one half of a surrogate pair, and a text with a half in it has no bytes.
-/

namespace DeclSchema

-- A high and a low half carry ten bits each.
inductive Point where
  | char (c : Char)
  | high (bits : Fin 1024)
  | low (bits : Fin 1024)
deriving DecidableEq

abbrev Points := List Point

namespace Point

instance : Coe Char Point := ⟨char⟩

def code : Point → Nat
  | char c => c.toNat
  | high bits => 0xD800 + bits.val
  | low bits => 0xDC00 + bits.val

-- The code point of a number, which is not beyond the last one.
def ofCode (n : Nat) : Point :=
  if 0xD800 ≤ n && n < 0xDC00 then high (Fin.ofNat 1024 (n - 0xD800))
  else if 0xDC00 ≤ n && n < 0xE000 then low (Fin.ofNat 1024 (n - 0xDC00))
  else char (Char.ofNat n)

-- The character that two halves make together.
def pairCode (high low : Fin 1024) : Nat := 0x10000 + high.val * 0x400 + low.val

def char? : Point → Option Char
  | char c => some c
  | _ => none

def is (p : Char → Bool) : Point → Bool
  | char c => p c
  | _ => false

theorem code_ofCode {n : Nat} (small : n ≤ 0x10FFFF) : (ofCode n).code = n := by
  unfold ofCode
  split
  next high =>
    rw [Bool.and_eq_true, decide_eq_true_eq, decide_eq_true_eq] at high
    simp only [code, Fin.ofNat]
    omega
  next notHigh =>
    split
    next low =>
      rw [Bool.and_eq_true, decide_eq_true_eq, decide_eq_true_eq] at low
      simp only [code, Fin.ofNat]
      omega
    next notLow =>
      simp only [Bool.and_eq_true, decide_eq_true_eq, not_and] at notHigh notLow
      have valid : n.isValidChar := by
        unfold Nat.isValidChar
        omega
      rw [code, Char.ofNat, dif_pos valid]
      rfl

end Point

namespace Points

def ofChars (text : List Char) : Points := text.map Point.char

def of (text : String) : Points := ofChars text.toList

instance : Coe String Points := ⟨of⟩

-- The characters of a text in which no half stands.
def chars? (text : Points) : Option (List Char) := text.mapM Point.char?

def string? (text : Points) : Option String := (chars? text).map String.ofList

-- Halves are no white space.
def allBlank (text : Points) : Bool := text.all (Point.is Text.isBlank)

@[simp] theorem ofChars_append (text more : List Char) :
    ofChars (text ++ more) = ofChars text ++ ofChars more := List.map_append

@[simp] theorem ofChars_cons (c : Char) (rest : List Char) :
    ofChars (c :: rest) = .char c :: ofChars rest := rfl

@[simp] theorem ofChars_nil : ofChars [] = [] := rfl

@[simp] theorem of_empty : of "" = [] := rfl

@[simp] theorem of_append (text more : String) : of (text ++ more) = of text ++ of more := by
  rw [of, String.toList_append, ofChars_append]
  rfl

@[simp] theorem of_ofList (text : List Char) : of (String.ofList text) = ofChars text := by
  rw [of, String.toList_ofList]

@[simp] theorem of_eq_nil {text : String} : of text = [] ↔ text = "" := by
  rw [of, ofChars, List.map_eq_nil_iff, String.toList_eq_nil_iff]

@[simp] theorem mem_ofChars {c : Char} {text : List Char} : .char c ∈ ofChars text ↔ c ∈ text := by
  simp [ofChars]

theorem ofChars_injective {text other : List Char} (same : ofChars text = ofChars other) :
    text = other := (List.map_inj_right fun _ _ => Point.char.inj).mp same

@[simp] theorem of_inj {text other : String} : of text = of other ↔ text = other :=
  ⟨fun same => String.toList_inj.mp (ofChars_injective same), congrArg of⟩

theorem ofChars_intercalate (separator : List Char) (texts : List (List Char)) :
    ofChars (separator.intercalate texts) =
      (ofChars separator).intercalate (texts.map ofChars) := by
  induction texts with
  | nil => rfl
  | cons first others ih =>
    cases others with
    | nil => simp
    | cons second others =>
      rw [List.intercalate_cons_cons, ofChars_append, ofChars_append, ih]
      exact List.intercalate_cons_cons.symm

theorem of_intercalate (separator : String) (texts : List String) :
    of (separator.intercalate texts) = List.intercalate (of separator) (texts.map of) := by
  rw [of, String.toList_intercalate, ofChars_intercalate, List.map_map]
  rfl

theorem chars_ofChars (text : List Char) : chars? (ofChars text) = some text := by
  induction text with
  | nil => rfl
  | cons c rest ih =>
    rw [chars?] at ih ⊢
    rw [ofChars_cons, List.mapM_cons, ih]
    rfl

theorem chars_some {text : Points} {chars : List Char} (found : chars? text = some chars) :
    text = ofChars chars := by
  induction text generalizing chars with
  | nil =>
    cases found
    rfl
  | cons point rest ih =>
    rw [chars?, List.mapM_cons] at found
    cases point with
    | char c =>
      cases later : rest.mapM Point.char? with
      | none => simp [later, Point.char?] at found
      | some more =>
        simp [later, Point.char?] at found
        rw [← found, ih later]
        rfl
    | high bits => cases found
    | low bits => cases found

-- A text has bytes if it is one of characters.
theorem string_some {text : Points} {found : String} :
    text.string? = some found ↔ text = of found := by
  unfold string?
  constructor
  · intro whole
    obtain ⟨chars, listed, rfl⟩ := Option.map_eq_some_iff.mp whole
    rw [of_ofList]
    exact chars_some listed
  · rintro rfl
    rw [of, chars_ofChars, Option.map_some, String.ofList_toList]

end Points

end DeclSchema
