/-!
Variable-length integers: groups of seven bits, the lowest first, each but the last with its high
bit set. Numbers have 64 bits, so ten bytes are enough.
-/
namespace ServiceCli.Wire

abbrev Bytes := List UInt8

/-- A number in at most `groups` bytes. -/
def varintGroups : Nat → Nat → Bytes
  | 0, _ => []
  | groups + 1, n =>
    if n < 128 then [n.toUInt8] else (n % 128 + 128).toUInt8 :: varintGroups groups (n / 128)

def varint (n : Nat) : Bytes := varintGroups 10 n

/-- Reads a number of at most `groups` bytes. The last of ten bytes has room for one bit only. -/
def readVarintGroups : Nat → Bytes → Option (Nat × Bytes)
  | 0, _ => none
  | _ + 1, [] => none
  | groups + 1, b :: rest =>
    if b < 128 then
      if groups = 0 ∧ 2 ≤ b then none else some (b.toNat, rest)
    else
      (readVarintGroups groups rest).map fun (n, rest) => (b.toNat - 128 + 128 * n, rest)

/-- The number at the start of a text of bytes, and the bytes after it. -/
def readVarint (bytes : Bytes) : Option (Nat × Bytes) := readVarintGroups 10 bytes

end ServiceCli.Wire
