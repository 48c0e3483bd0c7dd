/-!
Runs of code points whose case mapping adds one and the same number.
-/

namespace DeclSchema.Text

structure Run where
  first : Nat
  last : Nat
  stride : Nat
  shift : Int

def Run.covers (r : Run) (n : Nat) : Bool :=
  r.first ≤ n && n ≤ r.last && (n - r.first) % r.stride = 0

def shifted (runs : List Run) (n : Nat) : Nat :=
  match runs.find? (·.covers n) with
  | some r => ((n : Int) + r.shift).toNat
  | none => n

end DeclSchema.Text
