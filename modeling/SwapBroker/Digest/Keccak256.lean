import SwapBroker.Digest.Words

/-!
# Keccak-256

The sponge over the permutation of 25 lanes of 64 bits, with a rate of 136 bytes and the padding
that starts with the byte `0x01`. It gives Ethereum addresses their letter case.
-/

namespace SwapBroker.Digest.Keccak256

abbrev State := Vector UInt64 25

/-- The lane in column `x` and row `y`, both counted in circles of five. -/
def lane (s : State) (x y : Nat) : UInt64 :=
  s.get ⟨x % 5 + 5 * (y % 5), by omega⟩

def ofLanes (f : Nat → Nat → UInt64) : State :=
  Vector.ofFn fun i => f (i.val % 5) (i.val / 5)

def rotations : State :=
  #v[0, 1, 62, 28, 27,
    36, 44, 6, 55, 20,
    3, 10, 43, 25, 39,
    41, 45, 15, 21, 8,
    18, 2, 61, 56, 14]

def roundConstants : List UInt64 :=
  [0x0000000000000001, 0x0000000000008082, 0x800000000000808a, 0x8000000080008000,
    0x000000000000808b, 0x0000000080000001, 0x8000000080008081, 0x8000000000008009,
    0x000000000000008a, 0x0000000000000088, 0x0000000080008009, 0x000000008000000a,
    0x000000008000808b, 0x800000000000008b, 0x8000000000008089, 0x8000000000008003,
    0x8000000000008002, 0x8000000000000080, 0x000000000000800a, 0x800000008000000a,
    0x8000000080008081, 0x8000000000008080, 0x0000000080000001, 0x8000000080008008]

def mixColumns (s : State) : State :=
  let parity : Vector UInt64 5 := Vector.ofFn fun x =>
    lane s x 0 ^^^ lane s x 1 ^^^ lane s x 2 ^^^ lane s x 3 ^^^ lane s x 4
  let at_ (x : Nat) : UInt64 := parity.get ⟨x % 5, by omega⟩
  ofLanes fun x y => lane s x y ^^^ at_ (x + 4) ^^^ rotateLeft64 (at_ (x + 1)) 1

def moveLanes (s : State) : State :=
  ofLanes fun x y => rotateLeft64 (lane s (x + 3 * y) x) (lane rotations (x + 3 * y) x)

def mixRows (s : State) : State :=
  ofLanes fun x y => lane s x y ^^^ (~~~ lane s (x + 1) y &&& lane s (x + 2) y)

def round (s : State) (constant : UInt64) : State :=
  let s := mixRows (moveLanes (mixColumns s))
  s.set 0 (s[0] ^^^ constant)

def permute (s : State) : State :=
  roundConstants.foldl round s

def rate : Nat := 136

/-- The message followed by a byte 1, zeros, and a final bit in the last byte of the block. -/
def pad (message : Bytes) : Bytes :=
  let free := rate - message.length % rate
  message ++
    if free = 1 then [0x81] else 0x01 :: List.replicate (free - 2) 0 ++ [0x80]

def absorb (s : State) (block : Bytes) : State :=
  permute (Vector.ofFn fun i =>
    if i.val < rate / 8 then s.get i ^^^ word64 (part 8 i.val block) else s.get i)

def digest (message : Bytes) : Bytes :=
  let padded := pad message
  let s := (List.range (padded.length / rate)).foldl
    (fun s i => absorb s (part rate i padded)) (Vector.replicate 25 0)
  (s.toList.take 4).flatMap bytesOf64

end SwapBroker.Digest.Keccak256
