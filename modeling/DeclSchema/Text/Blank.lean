/-!
Blank characters and the trimming of texts. Blank are the white space of Unicode and the four
separators U+001C to U+001F; U+200B and U+FEFF are not.
-/

namespace DeclSchema.Text

def isBlank (c : Char) : Bool :=
  let n := c.toNat
  (9 ≤ n && n ≤ 13) || (0x1C ≤ n && n ≤ 0x20) || n = 0x85 || n = 0xA0 || n = 0x1680 ||
    (0x2000 ≤ n && n ≤ 0x200A) || n = 0x2028 || n = 0x2029 || n = 0x202F || n = 0x205F ||
    n = 0x3000

def trimStart (text : List Char) : List Char := text.dropWhile isBlank

def trimEnd (text : List Char) : List Char := (text.reverse.dropWhile isBlank).reverse

def trim (text : List Char) : List Char := trimEnd (trimStart text)

def allBlank (text : List Char) : Bool := text.all isBlank

theorem trimEnd_subset (text : List Char) : trimEnd text ⊆ text := by
  intro c member
  have kept := (List.dropWhile_sublist _).mem (List.mem_reverse.mp member)
  exact List.mem_reverse.mp kept

theorem trimEnd_cons {c : Char} (shown : isBlank c = false) (text : List Char) :
    trimEnd (c :: text) = c :: trimEnd text := by
  rw [trimEnd, trimEnd, List.reverse_cons, List.dropWhile_append]
  by_cases blank : text.reverse.dropWhile isBlank = []
  · simp [blank, shown]
  · rw [if_neg (by simpa using blank), List.reverse_append]
    rfl

end DeclSchema.Text
