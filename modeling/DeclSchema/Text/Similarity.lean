/-!
How much two texts have in common: the longest block of characters that both hold, and the blocks
that the parts before it and the parts after it hold in turn.
-/

namespace DeclSchema.Text

variable {α : Type} [DecidableEq α]

-- The number of items that two lists begin with in common.
def commonStart : List α → List α → Nat
  | a :: xs, b :: ys => if a = b then commonStart xs ys + 1 else 0
  | _, _ => 0

structure Block where
  first : Nat
  second : Nat
  size : Nat

-- The longest block that starts at the front of the first list; of several the one that comes
-- first in the second list.
def blockAt (offset : Nat) (xs : List α) (position : Nat) (best : Block) : List α → Block
  | [] => best
  | b :: ys =>
    let size := commonStart xs (b :: ys)
    let best := if best.size < size then ⟨offset, position, size⟩ else best
    blockAt offset xs (position + 1) best ys

def longestBlockFrom (offset : Nat) (best : Block) (ys : List α) : List α → Block
  | [] => best
  | a :: xs => longestBlockFrom (offset + 1) (blockAt offset (a :: xs) 0 best ys) ys xs

def longestBlock (xs ys : List α) : Block := longestBlockFrom 0 ⟨0, 0, 0⟩ ys xs

-- The number of items in common. `rounds` bounds how often the lists can be divided.
def commonItems : Nat → List α → List α → Nat
  | 0, _, _ => 0
  | rounds + 1, xs, ys =>
    let block := longestBlock xs ys
    if block.size = 0 then 0
    else
      block.size + commonItems rounds (xs.take block.first) (ys.take block.second) +
        commonItems rounds (xs.drop (block.first + block.size))
          (ys.drop (block.second + block.size))

-- Similar are texts with at least three fifths of their items in common.
def isSimilar (xs ys : List α) : Bool :=
  3 * (xs.length + ys.length) ≤ 10 * commonItems xs.length xs ys

end DeclSchema.Text
