import SwapBroker.Bytes

/-!
# Machine words of a digest

Words as bytes in either order, rotations, and messages cut into blocks.
-/

namespace SwapBroker.Digest

def rotateLeft64 (x : UInt64) (k : UInt64) : UInt64 :=
  (x <<< k) ||| (x >>> (64 - k))

def rotateRight64 (x : UInt64) (k : UInt64) : UInt64 :=
  (x >>> k) ||| (x <<< (64 - k))

def rotateRight32 (x : UInt32) (k : UInt32) : UInt32 :=
  (x >>> k) ||| (x <<< (32 - k))

/-- The word whose low byte comes first. -/
def word64 (bytes : Bytes) : UInt64 :=
  bytes.foldr (fun b w => (w <<< 8) ||| b.toUInt64) 0

def bytesOf64 (w : UInt64) : Bytes :=
  (List.range 8).map fun i => (w >>> (UInt64.ofNat (8 * i))).toUInt8

@[simp] theorem length_bytesOf64 (w : UInt64) : (bytesOf64 w).length = 8 := rfl

/-- The word whose high byte comes first. -/
def word32 (bytes : Bytes) : UInt32 :=
  bytes.foldl (fun w b => (w <<< 8) ||| b.toUInt32) 0

def bytesOf32 (w : UInt32) : Bytes :=
  (List.range 4).map fun i => (w >>> (UInt32.ofNat (24 - 8 * i))).toUInt8

def part (size i : Nat) (bytes : Bytes) : Bytes :=
  (bytes.drop (size * i)).take size

end SwapBroker.Digest
