import MutationTesting.Text.Bands

/-! Sets of characters, as the increasing code points at which membership changes. -/
namespace MutationTesting.Regex

abbrev Charset := List Nat

namespace Charset

def contains (s : Charset) (c : Char) : Bool := Text.inBands s c.toNat

def empty : Charset := []

def full : Charset := [0]

def range (lo hi : Nat) : Charset := [lo, hi + 1]

def single (c : Char) : Charset := range c.toNat c.toNat

def complement : Charset → Charset
  | 0 :: rest => rest
  | s => 0 :: s

/-- The change points of the set whose membership is `f` of the memberships in two sets. The flags
say whether the sweep is inside the first, the second and the resulting set. -/
def sweep (f : Bool → Bool → Bool) : (inA inB inC : Bool) → Charset → Charset → Charset
  | _, _, _, [], [] => []
  | inA, inB, inC, a :: as, [] =>
    let now := f (!inA) inB
    if now == inC then sweep f (!inA) inB inC as [] else a :: sweep f (!inA) inB now as []
  | inA, inB, inC, [], b :: bs =>
    let now := f inA (!inB)
    if now == inC then sweep f inA (!inB) inC [] bs else b :: sweep f inA (!inB) now [] bs
  | inA, inB, inC, a :: as, b :: bs =>
    if a < b then
      let now := f (!inA) inB
      if now == inC then sweep f (!inA) inB inC as (b :: bs)
      else a :: sweep f (!inA) inB now as (b :: bs)
    else if b < a then
      let now := f inA (!inB)
      if now == inC then sweep f inA (!inB) inC (a :: as) bs
      else b :: sweep f inA (!inB) now (a :: as) bs
    else
      let now := f (!inA) (!inB)
      if now == inC then sweep f (!inA) (!inB) inC as bs
      else a :: sweep f (!inA) (!inB) now as bs
termination_by _ _ _ as bs => as.length + bs.length

def union (a b : Charset) : Charset := sweep (· || ·) false false false a b

def inter (a b : Charset) : Charset := sweep (· && ·) false false false a b

def diff (a b : Charset) : Charset := sweep (fun x y => x && !y) false false false a b

def symmDiff (a b : Charset) : Charset := sweep (fun x y => x != y) false false false a b

def unionAll (ss : List Charset) : Charset := ss.foldl union empty

def isAscii (s : Charset) : Bool := (diff s (range 0 127)).isEmpty

end Charset
end MutationTesting.Regex
