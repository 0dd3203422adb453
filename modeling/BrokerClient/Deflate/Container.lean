import BrokerClient.Deflate.Compress
import BrokerClient.ByteStream.Source

/-!
# Containers

Compressed data travels in one of two containers, which say what it is and check what comes out: a short
header and the sums of the bytes behind, or a longer header with optional fields, and behind it the
remainder and the number of bytes. Unpacking gives the portions of bytes that come out before the first
failure, and that failure.
-/

namespace BrokerClient.Deflate

open ByteStream (IoError Fault)

/-- The bytes that can be had from a container, and what comes after them unless it is their end. -/
structure Unpacked where
  portions : List Portion
  fault : Option Fault := none
deriving DecidableEq, Repr

def Unpacked.bytes (u : Unpacked) : Bytes := (u.portions.map (·.bytes)).flatten

def corruptData : IoError := ⟨.invalidInput, "corrupt deflate stream"⟩

def incompleteData : IoError := ⟨.unexpectedEof, "incomplete deflate stream"⟩

def endOfFile : IoError := ⟨.unexpectedEof, "unexpected end of file"⟩

def invalidHeader : IoError := ⟨.invalidInput, "invalid gzip header"⟩

def fieldTooLong : IoError := ⟨.invalidInput, "gzip header field too long"⟩

/-- What is met behind a failure that was no more than reported. -/
def otherError : IoError := ⟨.other, "other error"⟩

def checksumMismatch : IoError := ⟨.invalidInput, "corrupt gzip stream does not have a matching checksum"⟩

/-- Data that turns out wrong: what came out since the last pause is lost. -/
def Unpacked.corrupt (o : Outlet) : Unpacked := ⟨(o.portions .rests).dropLast, some (.lasting corruptData)⟩

/-- Data that ends too early. -/
def Unpacked.incomplete (o : Outlet) : Unpacked := ⟨o.portions .givesUp, some (.lasting incompleteData)⟩

/-- Unpacks data whose container ends as `close` says of what came out and what follows. -/
def unpackWith (close : Outlet → BitSource → Unpacked) (s : BitSource) (o : Outlet) : Unpacked :=
  match inflate s o with
  | ⟨o, .error .corrupt⟩ => .corrupt o
  | ⟨o, .error .truncated⟩ => .incomplete o
  | ⟨o, .ok s⟩ => close o s.align

/-! ## The short container -/

/-- The header of data with a window of full size and no dictionary. -/
def zlibHeader : Bytes := [0x78, 0x9C]

/-- Whether two bytes are a header: the right method, no larger window, no dictionary, and together a
multiple of 31. -/
def isZlibHeader (a b : Nat) : Bool :=
  (a * 256 + b) % 31 == 0 && a % 16 == 8 && a / 16 ≤ 7 && b / 32 % 2 == 0

/-- The sums behind the data. -/
def closeZlib (o : Outlet) (s : BitSource) : Unpacked :=
  let sums := s.bytes.take 4
  if sums.length < 4 then .incomplete o.exhaust
  else
    let o := o.await (s.taken + 32)
    if sums = bigEndian (adler32 o.out.toList) then ⟨o.portions .rests, none⟩ else .corrupt o

def unpackZlib (data : Bytes) : Unpacked :=
  let o := Outlet.start (8 * data.length) 0 0
  match data with
  | a :: b :: _ =>
    if isZlibHeader a.toNat b.toNat then unpackWith closeZlib ((BitSource.ofBytes data).dropBytes 2) o
    else .corrupt o
  | _ => .incomplete o

/-! ## The long container -/

/-- The header of data without optional fields. -/
def gzipHeader : Bytes := [0x1F, 0x8B, 8, 0, 0, 0, 0, 0, 0, 0xFF]

/-- What stands behind the data: the remainder and the number of the bytes. -/
def gzipTrailer (bytes : Bytes) : Bytes :=
  littleEndian (crc32 bytes) ++ littleEndian bytes.length.toUInt32

/-- The header bytes read so far, last first, and those to come. -/
structure HeaderScan where
  read : Bytes
  rest : Bytes

/-- A step of reading a header. -/
abbrev HeaderStep := StateT HeaderScan (Except IoError)

/-- The next `n` bytes of a header. -/
def headerBytes (n : Nat) : HeaderStep Bytes := fun s =>
  let taken := s.rest.take n
  if taken.length < n then .error endOfFile else .ok (taken, ⟨taken.reverse ++ s.read, s.rest.drop n⟩)

/-- The most bytes that a text in a header may have. -/
def maxField : Nat := 65535

/-- Passes over a text that ends with a zero byte. -/
def headerText : HeaderStep Unit := fun s =>
  let text := s.rest.takeWhile (· ≠ 0)
  if maxField < text.length then .error fieldTooLong
  else match s.rest.drop text.length with
    | [] => .error endOfFile
    | zero :: rest => .ok ((), ⟨zero :: text.reverse ++ s.read, rest⟩)

/-- A number in two bytes, the lower one first. -/
def headerNumber : HeaderStep Nat := do
  return match ← headerBytes 2 with
    | [a, b] => a.toNat + 256 * b.toNat
    | _ => 0

/-- Passes over the lower half of the remainder of the header before it. -/
def headerCheck : HeaderStep Unit := do
  let sum := (crc32 (← get).read.reverse).toNat % 65536
  if (← headerNumber) ≠ sum then throw checksumMismatch

/-- Passes over a field of bytes that says its length, and gives where the first piece of data begins that
is handed over behind it: a field that ends behind the second piece is taken at once, and the next piece
begins at its end. -/
def headerField : HeaderStep Nat := do
  discard (headerBytes (← headerNumber))
  let read := (← get).read.length
  return if read < 2 * windowSize then 0 else read

/-- Passes over a header with the fields that its flags announce, and gives where the first piece of data
begins. -/
def gzipHead : HeaderStep Nat := do
  let fixed := (← headerBytes 10).map UInt8.toNat
  let flags := fixed.getD 3 0
  let has (bit : Nat) : Bool := flags / bit % 2 == 1
  if fixed.take 3 ≠ [0x1F, 0x8B, 8] ∨ 32 ≤ flags then throw invalidHeader
  let origin ← if has 4 then headerField else pure 0
  if has 8 then headerText
  if has 16 then headerText
  if has 2 then headerCheck
  return origin

def closeGzip (o : Outlet) (s : BitSource) : Unpacked :=
  let trailer := s.bytes.take 8
  let fault :=
    if trailer.length < 8 then some (.lasting endOfFile)
    else if trailer = gzipTrailer o.out.toList then none
    else some ⟨checksumMismatch, none⟩
  ⟨o.portions .rests, fault⟩

def unpackGzip (data : Bytes) : Unpacked :=
  match gzipHead ⟨[], data⟩ with
  | .error e => ⟨[], some ⟨e, some otherError⟩⟩
  | .ok (origin, s) =>
    let header := s.read.length
    let o := Outlet.start (8 * data.length) (8 * origin) (8 * header)
    unpackWith closeGzip ((BitSource.ofBytes data).dropBytes header) o

end BrokerClient.Deflate
