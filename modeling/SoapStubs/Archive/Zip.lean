import SoapStubs.FileTree

/-!
# Archives as bytes

An archive in the zip format, with its entries as they are.

* `crc32` is the checksum of bytes;
* `zip` writes entries one after another and then a directory of them;
* `Content.toBytes` are the bytes of a file.
-/

namespace SoapStubs.Zip

/-- A number as `n` bytes, the lowest first. -/
def little : (n : Nat) → Nat → List UInt8
  | 0, _ => []
  | n + 1, x => UInt8.ofNat (x % 256) :: little n (x / 256)

/-- One step of the checksum for each bit of a byte. -/
def crcBits : (n : Nat) → UInt32 → UInt32
  | 0, c => c
  | n + 1, c => crcBits n (if c &&& 1 == 1 then (c >>> 1) ^^^ 0xedb88320 else c >>> 1)

/-- The checksum of bytes. -/
def crc32 (b : List UInt8) : Nat :=
  let c := b.foldl (fun c x => crcBits 8 (c ^^^ x.toUInt32)) 0xffffffff
  (c ^^^ 0xffffffff).toNat

/-- The first day of the format's calendar. -/
def firstDay : Nat := 0x21

/-- What is said of an entry both before it and in the directory. -/
def facts (name data : List UInt8) : List UInt8 :=
  little 2 20 ++ little 2 0x800 ++ little 2 0 ++ little 2 0 ++ little 2 firstDay ++
    little 4 (crc32 data) ++ little 4 data.length ++ little 4 data.length ++
    little 2 name.length ++ little 2 0

/-- An entry with what stands before it. -/
def localEntry (name data : List UInt8) : List UInt8 :=
  little 4 0x04034b50 ++ facts name data ++ name ++ data

def directoryEntry (name data : List UInt8) (offset : Nat) : List UInt8 :=
  little 4 0x02014b50 ++ little 2 20 ++ facts name data ++ little 2 0 ++ little 2 0 ++
    little 2 0 ++ little 4 0 ++ little 4 offset ++ name

/-- The entries of the directory, for entries from an offset on. -/
def directory : (offset : Nat) → List (List UInt8 × List UInt8) → List UInt8
  | _, [] => []
  | offset, (name, data) :: rest =>
    directoryEntry name data offset ++
      directory (offset + (localEntry name data).length) rest

/-- The bytes of an archive. -/
def zip (entries : List (List UInt8 × List UInt8)) : List UInt8 :=
  let body := entries.flatMap fun (name, data) => localEntry name data
  let listed := directory 0 entries
  body ++ listed ++ little 4 0x06054b50 ++ little 2 0 ++ little 2 0 ++ little 2 entries.length ++
    little 2 entries.length ++ little 4 listed.length ++ little 4 body.length ++ little 2 0

def textBytes (s : String) : List UInt8 := s.toUTF8.toList

end SoapStubs.Zip

namespace SoapStubs.Content

mutual

/-- The bytes of a file. -/
def toBytes : Content → List UInt8
  | .text s => Zip.textBytes s
  | .bytes b => b
  | .archive entries => Zip.zip (entryBytes entries)

/-- The names and bytes of the entries of an archive. -/
def entryBytes : List (String × Content) → List (List UInt8 × List UInt8)
  | [] => []
  | (name, c) :: rest => (Zip.textBytes name, c.toBytes) :: entryBytes rest

end

end SoapStubs.Content
