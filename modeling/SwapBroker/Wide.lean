import SwapBroker.Quantity

/-!
# Wide numbers

Prices are multiplied and divided in unsigned numbers of 512 bits, which hold the product of any two
quantities. Their products wrap, powers of ten are taken of an exponent of 32 bits, and smaller
numbers are cut out of their words, so that only a bound says that nothing is lost.
-/

namespace SwapBroker

abbrev Wide := BitVec 512

namespace Wide

def limit : Nat := quantityLimit * quantityLimit

def ofQuantity (q : Quantity) : Wide :=
  (BitVec.ofNat 256 q.toNat).setWidth 512

/-- The words of 64 bits, with the lowest at 0. -/
def word (x : Wide) (i : Nat) : BitVec 64 :=
  x.extractLsb' (64 * i) 64

def toQuantity? (x : Wide) : Option Quantity :=
  if ∀ i ∈ [4, 5, 6, 7], x.word i = 0 then
    let low := x.word 3 ++ (x.word 2 ++ (x.word 1 ++ x.word 0))
    some ⟨low.toNat, low.isLt⟩
  else none

def low (x : Wide) : BitVec 128 :=
  (x.word 0).setWidth 128 ||| (x.word 1).setWidth 128 <<< 64

def tenPow (exponent : UInt32) : Wide :=
  go exponent.toNat
where
  go : Nat → Wide
    | 0 => 1
    | n + 1 => go n * 10

def timesTen (q : Quantity) (e : Int) : Wide :=
  let power := tenPow (UInt32.ofNat e.natAbs)
  if 0 ≤ e then ofQuantity q * power else ofQuantity q / power

end Wide

end SwapBroker
