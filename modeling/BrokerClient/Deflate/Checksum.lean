import BrokerClient.Text.Utf8

/-!
# Checksums

The two checksums that stand behind compressed data: `crc32`, the remainder of the data as a polynomial
over two elements, and `adler32`, a pair of running sums. Both are folds over the bytes, and a number is
written behind the data in either byte order.
-/

namespace BrokerClient.Deflate

/-- One bit of the division by the reversed polynomial. -/
def crcBit (c : UInt32) : UInt32 := if c &&& 1 = 1 then (c >>> 1) ^^^ 0xEDB88320 else c >>> 1

def crcByte (c : UInt32) (b : UInt8) : UInt32 :=
  crcBit (crcBit (crcBit (crcBit (crcBit (crcBit (crcBit (crcBit (c ^^^ b.toUInt32))))))))

def crc32 (bytes : Bytes) : UInt32 := bytes.foldl crcByte 0xFFFFFFFF ^^^ 0xFFFFFFFF

/-- The greatest prime below 2 ^ 16. -/
def adlerModulus : Nat := 65521

def adlerByte (sums : Nat × Nat) (b : UInt8) : Nat × Nat :=
  let a := (sums.1 + b.toNat) % adlerModulus
  (a, (sums.2 + a) % adlerModulus)

def adler32 (bytes : Bytes) : UInt32 :=
  let (a, b) := bytes.foldl adlerByte (1, 0)
  (b * 65536 + a).toUInt32

/-! ## Numbers as four bytes -/

/-- The least significant byte first. -/
def littleEndian (n : UInt32) : Bytes :=
  [n.toUInt8, (n >>> 8).toUInt8, (n >>> 16).toUInt8, (n >>> 24).toUInt8]

/-- The most significant byte first. -/
def bigEndian (n : UInt32) : Bytes := (littleEndian n).reverse

end BrokerClient.Deflate
