/-!
# Numbers in the binary format

A natural number is written in base 128, the least significant digit first, every byte but the last
having its high bit set. Fixed-width numbers are written in little-endian order.
-/

namespace NetImport.Descriptor.Wire

/-- The bytes of a natural number in base 128. -/
def varint (number : Nat) : List UInt8 :=
  if number < 128 then [UInt8.ofNat number]
  else UInt8.ofNat (number % 128 + 128) :: varint (number / 128)
termination_by number
decreasing_by omega

/-- Reads a number in base 128 that takes at most a given count of bytes; returns what follows. -/
def readVarint : Nat → List UInt8 → Option (Nat × List UInt8)
  | 0, _ => none
  | _ + 1, [] => none
  | limit + 1, byte :: rest =>
    if byte.toNat < 128 then some (byte.toNat, rest)
    else do
      let (high, rest) ← readVarint limit rest
      return (byte.toNat % 128 + 128 * high, rest)

/-- The bytes of a number in a fixed width, the least significant byte first. -/
def littleEndian : Nat → Nat → List UInt8
  | 0, _ => []
  | width + 1, number => UInt8.ofNat (number % 256) :: littleEndian width (number / 256)

/-- The number that bytes denote, the least significant byte first. -/
def ofLittleEndian (bytes : List UInt8) : Nat :=
  bytes.foldr (fun byte number => byte.toNat + 256 * number) 0

/-- Splits off a count of bytes, if there are that many. -/
def readBlock (count : Nat) (bytes : List UInt8) : Option (List UInt8 × List UInt8) :=
  let block := bytes.take count
  if block.length = count then some (block, bytes.drop count) else none

end NetImport.Descriptor.Wire
