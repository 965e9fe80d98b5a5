import SwapBroker.Digest.Words

/-!
# BLAKE2b

The digest of 64 bytes without a key, over blocks of 128 bytes. SS58 addresses carry its first two
bytes.
-/

namespace SwapBroker.Digest.Blake2b

def initial : Vector UInt64 8 :=
  #v[0x6a09e667f3bcc908, 0xbb67ae8584caa73b, 0x3c6ef372fe94f82b, 0xa54ff53a5f1d36f1,
    0x510e527fade682d1, 0x9b05688c2b3e6c1f, 0x1f83d9abfb41bd6b, 0x5be0cd19137e2179]

def permutations : List (List Nat) :=
  [[0, 1, 2, 3, 4, 5, 6, 7, 8, 9, 10, 11, 12, 13, 14, 15],
    [14, 10, 4, 8, 9, 15, 13, 6, 1, 12, 0, 2, 11, 7, 5, 3],
    [11, 8, 12, 0, 5, 2, 15, 13, 10, 14, 3, 6, 7, 1, 9, 4],
    [7, 9, 3, 1, 13, 12, 11, 14, 2, 6, 5, 10, 4, 0, 15, 8],
    [9, 0, 5, 7, 2, 4, 10, 15, 14, 1, 11, 12, 6, 8, 3, 13],
    [2, 12, 6, 10, 0, 11, 8, 3, 4, 13, 7, 5, 15, 14, 1, 9],
    [12, 5, 1, 15, 14, 13, 4, 10, 0, 7, 6, 3, 9, 2, 8, 11],
    [13, 11, 7, 14, 12, 1, 3, 9, 5, 0, 15, 4, 8, 6, 2, 10],
    [6, 15, 14, 9, 11, 3, 0, 8, 12, 2, 13, 7, 1, 4, 10, 5],
    [10, 2, 8, 4, 7, 6, 1, 5, 15, 11, 9, 14, 3, 12, 13, 0],
    [0, 1, 2, 3, 4, 5, 6, 7, 8, 9, 10, 11, 12, 13, 14, 15],
    [14, 10, 4, 8, 9, 15, 13, 6, 1, 12, 0, 2, 11, 7, 5, 3]]

abbrev Work := Vector UInt64 16

/-- The four places mixed in each of the eight steps of a round: the columns, then the diagonals. -/
def steps : List (Fin 16 × Fin 16 × Fin 16 × Fin 16) :=
  [(0, 4, 8, 12), (1, 5, 9, 13), (2, 6, 10, 14), (3, 7, 11, 15),
    (0, 5, 10, 15), (1, 6, 11, 12), (2, 7, 8, 13), (3, 4, 9, 14)]

def mix (v : Work) (places : Fin 16 × Fin 16 × Fin 16 × Fin 16) (x y : UInt64) : Work :=
  let (i, j, k, l) := places
  let a := v.get i + v.get j + x
  let d := rotateRight64 (v.get l ^^^ a) 32
  let c := v.get k + d
  let b := rotateRight64 (v.get j ^^^ c) 24
  let a := a + b + y
  let d := rotateRight64 (d ^^^ a) 16
  let c := c + d
  let b := rotateRight64 (b ^^^ c) 63
  (((v.set i a i.isLt).set j b j.isLt).set k c k.isLt).set l d l.isLt

def round (words : List UInt64) (v : Work) (order : List Nat) : Work :=
  let word (n : Nat) : UInt64 := words.getD (order.getD n 0) 0
  ((List.range 8).zip steps).foldl
    (fun v (n, places) => mix v places (word (2 * n)) (word (2 * n + 1))) v

/-- Takes in one block, after which `count` bytes of the message have been taken in. -/
def compress (h : Vector UInt64 8) (block : Bytes) (count : Nat) (isLast : Bool) :
    Vector UInt64 8 :=
  let words := (List.range 16).map fun i => word64 (part 8 i block)
  let start : Work := h ++ initial
  let start := start.set 12 (start.get 12 ^^^ UInt64.ofNat count)
  let start := start.set 13 (start.get 13 ^^^ UInt64.ofNat (count / UInt64.size))
  let start := if isLast then start.set 14 (~~~ start.get 14) else start
  let v := permutations.foldl (round words) start
  Vector.ofFn fun i =>
    h.get i ^^^ v.get ⟨i.val, by omega⟩ ^^^ v.get ⟨i.val + 8, by omega⟩

def digest (message : Bytes) : Bytes :=
  let blocks := max 1 ((message.length + 127) / 128)
  let first := initial.set 0 (initial.get 0 ^^^ 0x01010040)
  let h := (List.range blocks).foldl
    (fun h i =>
      let block := part 128 i message
      let isLast := i + 1 == blocks
      let count := if isLast then message.length else 128 * (i + 1)
      compress h (block ++ List.replicate (128 - block.length) 0) count isLast)
    first
  h.toList.flatMap bytesOf64

end SwapBroker.Digest.Blake2b
