import SketchScreen.Image

/-!
# Picture Files

An image as the octets of a PNG file.  Pixels have three octets and are stored
without compression.

## Main Definitions

- `Png.crc`, `Png.adler`: the two checksums of the format.
- `Png.chunk`, `Png.deflate`: its parts.
- `Image.toPng`: the octets of an image.
-/

namespace SketchScreen

namespace Png

/-- A number as four octets, the greatest first. -/
def word (n : Nat) : ByteArray :=
  ⟨#[UInt8.ofNat (n / 0x1000000), UInt8.ofNat (n / 0x10000), UInt8.ofNat (n / 0x100),
    UInt8.ofNat n]⟩

/-- A number as two octets, the least first. -/
def half (n : Nat) : ByteArray := ⟨#[UInt8.ofNat n, UInt8.ofNat (n / 0x100)]⟩

/-- One bit of the cyclic checksum. -/
def crcShift (c : UInt32) : UInt32 :=
  if c &&& 1 == 1 then (c >>> 1) ^^^ 0xEDB88320 else c >>> 1

/-- The remainders of all octets. -/
def crcTable : Array UInt32 :=
  Array.ofFn fun i : Fin 256 => Nat.repeat crcShift 8 (UInt32.ofNat i)

/-- The cyclic checksum of a chunk. -/
def crc (data : ByteArray) : UInt32 :=
  let last := data.foldl (fun c b =>
    (crcTable[((c ^^^ b.toUInt32) &&& 0xFF).toNat]?.getD 0) ^^^ (c >>> 8)) 0xFFFFFFFF
  last ^^^ 0xFFFFFFFF

/-- The checksum of a compressed stream: sums modulo the greatest prime below `2 ^ 16`. -/
def adler (data : ByteArray) : Nat :=
  let (a, b) := data.foldl (fun (sums : Nat × Nat) octet =>
    let a := (sums.1 + octet.toNat) % 65521
    (a, (sums.2 + a) % 65521)) (1, 0)
  b * 0x10000 + a

/-- A chunk with its length, name and checksum. -/
def chunk (name : String) (data : ByteArray) : ByteArray :=
  let body := name.toUTF8 ++ data
  word data.size ++ body ++ word (crc body).toNat

/-- The greatest number of octets in a block. -/
def blockSize : Nat := 65535

/-- The block with the given number in a stream of blocks that are stored as they are. -/
def block (data : ByteArray) (count i : Nat) : ByteArray :=
  let part := data.extract (i * blockSize) ((i + 1) * blockSize)
  let final := if i + 1 = count then 1 else 0
  (⟨#[final]⟩ : ByteArray) ++ half part.size ++ half (blockSize - part.size) ++ part

/-- A compressed stream in which nothing is compressed. -/
def deflate (data : ByteArray) : ByteArray :=
  let count := max 1 ((data.size + blockSize - 1) / blockSize)
  let body := (List.range count).foldl (fun out i => out ++ block data count i)
    ⟨#[0x78, 0x01]⟩
  body ++ word (adler data)

/-- The first octets of every file. -/
def signature : ByteArray := ⟨#[0x89, 0x50, 0x4E, 0x47, 0x0D, 0x0A, 0x1A, 0x0A]⟩

/-- Adds the octets of a row: a mark that it is not filtered, and three octets
for each pixel. -/
def pushRow (out : ByteArray) (row : Array Color) : ByteArray :=
  row.foldl (fun out c => ((out.push (UInt8.ofNat c.r.toNat)).push
    (UInt8.ofNat c.g.toNat)).push (UInt8.ofNat c.b.toNat)) (out.push 0)

end Png

/-- The octets of an image. -/
def Image.toPng (image : Image) : ByteArray :=
  let header := Png.word image.width ++ Png.word image.height ++ ⟨#[8, 2, 0, 0, 0]⟩
  Png.signature ++ Png.chunk "IHDR" header
    ++ Png.chunk "IDAT" (Png.deflate (image.rows.foldl Png.pushRow ⟨#[]⟩))
    ++ Png.chunk "IEND" ⟨#[]⟩

end SketchScreen
