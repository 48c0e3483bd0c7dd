/-!
Byte offsets in a text. A character takes as many bytes as its UTF-8 form, and an offset can be
used for cutting only where a character begins.
-/

namespace DeclSchema.Text

def byteLength : List Char → Nat
  | [] => 0
  | c :: rest => c.utf8Size + byteLength rest

-- The longest run of whole characters that fits into the given number of bytes.
def takeBytes : Nat → List Char → List Char
  | 0, _ => []
  | _, [] => []
  | n + 1, c :: rest => if c.utf8Size ≤ n + 1 then c :: takeBytes (n + 1 - c.utf8Size) rest else []

-- What follows the given number of bytes; none when the cut would split a character or lies
-- beyond the end.
def dropBytes : Nat → List Char → Option (List Char)
  | 0, text => some text
  | _ + 1, [] => none
  | n + 1, c :: rest => if c.utf8Size ≤ n + 1 then dropBytes (n + 1 - c.utf8Size) rest else none

-- The characters between two offsets; none when a cut splits a character, and nothing at all
-- when the second offset does not lie behind the first.
def sliceBytes (start stop : Nat) (text : List Char) : Option (List Char) := do
  let tail ← dropBytes start text
  let _ ← dropBytes (stop - start) tail
  return takeBytes (stop - start) tail

@[simp] theorem byteLength_nil : byteLength [] = 0 := rfl

@[simp] theorem byteLength_cons (c : Char) (rest : List Char) :
    byteLength (c :: rest) = c.utf8Size + byteLength rest := rfl

@[simp] theorem byteLength_append (a b : List Char) :
    byteLength (a ++ b) = byteLength a + byteLength b := by
  induction a with
  | nil => simp
  | cons c rest ih => simp [ih, Nat.add_assoc]

theorem takeBytes_append (a b : List Char) : takeBytes (byteLength a) (a ++ b) = a := by
  induction a with
  | nil => simp [takeBytes]
  | cons c rest ih =>
    have positive := c.utf8Size_pos
    obtain ⟨n, size⟩ : ∃ n, byteLength (c :: rest) = n + 1 :=
      ⟨byteLength (c :: rest) - 1, by simp only [byteLength_cons]; omega⟩
    rw [size, List.cons_append, takeBytes, ← size]
    simp [ih]

theorem dropBytes_append (a b : List Char) : dropBytes (byteLength a) (a ++ b) = some b := by
  induction a with
  | nil => simp [dropBytes]
  | cons c rest ih =>
    have positive := c.utf8Size_pos
    obtain ⟨n, size⟩ : ∃ n, byteLength (c :: rest) = n + 1 :=
      ⟨byteLength (c :: rest) - 1, by simp only [byteLength_cons]; omega⟩
    rw [size, List.cons_append, dropBytes, ← size]
    simp [ih]

end DeclSchema.Text
