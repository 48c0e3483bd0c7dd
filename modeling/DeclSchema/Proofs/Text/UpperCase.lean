import DeclSchema.Text.UpperCase

/-!
No text in upper case has a small ASCII letter in it, whatever script it was written in.
-/

namespace DeclSchema.Text

-- Not the code point of a small letter.
def Other (n : Nat) : Prop := n < 97 ∨ 122 < n

instance (n : Nat) : Decidable (Other n) := inferInstanceAs (Decidable (_ ∨ _))

theorem other_isLower {c : Char} (other : Other c.toNat) : c.isLower = false := by
  have same : c.isLower = (decide (97 ≤ c.toNat) && decide (c.toNat ≤ 122)) := rfl
  rw [same, Bool.and_eq_false_iff, decide_eq_false_iff_not, decide_eq_false_iff_not]
  exact other.imp Nat.not_le_of_lt Nat.not_le_of_lt

-- What is no code point becomes U+0000.
theorem ofNat_isLower {n : Nat} (other : Other n) : (Char.ofNat n).isLower = false := by
  apply other_isLower
  by_cases valid : n.isValidChar
  · rw [Char.ofNat, dif_pos valid]
    exact other
  · rw [Char.ofNat, dif_neg valid]
    exact .inl (by decide)

theorem ascii_isLower : ∀ n < 0x80, (Char.ofNat n).toUpper.isLower = false := by decide

theorem expansions_other : ∀ expansion ∈ upperExpansions, ∀ n ∈ expansion.2, Other n := by decide

-- A run lies wholly on one side of the small letters after its shift.
theorem runs_other :
    ∀ r ∈ upperRuns, (r.last : Int) + r.shift < 97 ∨ 122 < (r.first : Int) + r.shift := by
  decide +kernel

theorem shifted_other {n : Nat} (outside : 0x80 ≤ n) : Other (shifted upperRuns n) := by
  unfold shifted Other
  cases found : upperRuns.find? (·.covers n) with
  | none =>
    change n < 97 ∨ 122 < n
    omega
  | some r =>
    have covers : r.covers n = true := List.find?_some (p := (Run.covers · n)) found
    have side := runs_other r (List.mem_of_find?_eq_some found)
    simp only [Run.covers, Bool.and_eq_true, decide_eq_true_eq] at covers
    change ((n : Int) + r.shift).toNat < 97 ∨ 122 < ((n : Int) + r.shift).toNat
    omega

theorem upperChar_isLower {c d : Char} (member : d ∈ upperChar c) : d.isLower = false := by
  unfold upperChar at member
  split at member
  · rename_i ascii
    have upper := ascii_isLower c.toNat ascii
    rw [Char.ofNat_toNat] at upper
    rw [List.mem_singleton.mp member]
    exact upper
  · rename_i outside
    cases found : upperExpansions.find? (·.1 = c.toNat) with
    | some expansion =>
      rw [found] at member
      obtain ⟨n, listed, rfl⟩ := List.mem_map.mp member
      exact ofNat_isLower (expansions_other expansion (List.mem_of_find?_eq_some found) n listed)
    | none =>
      rw [found] at member
      rw [List.mem_singleton.mp member]
      exact ofNat_isLower (shifted_other (Nat.le_of_not_lt outside))

theorem upper_isLower {text : String} {c : Char} (member : c ∈ (toUpper text).toList) :
    c.isLower = false := by
  rw [toUpper, String.toList_ofList] at member
  obtain ⟨written, _, upper⟩ := List.mem_flatMap.mp member
  exact upperChar_isLower upper

end DeclSchema.Text
