import ProofDriver.Bytes
/-!
# Canonical CBOR

The items that a proof envelope is made of, written as `cbor2` documents its canonical form: with
the shortest heads and definite lengths. The keys of a map are sorted by whoever gives the map.
-/

namespace ProofDriver

inductive Cbor where
  | uint (n : Nat)
  | bytes (data : Bytes)
  | text (s : String)
  | array (items : List Cbor)
  | map (entries : List (Cbor × Cbor))
  deriving Repr

namespace Cbor

/-- The kind of an item and a number: in the first byte itself if it is small, else in the fewest of
one, two, four and eight bytes after it. -/
def head (kind n : Nat) : Bytes :=
  if n < 24 then [UInt8.ofNat (32 * kind + n)]
  else if n < 256 then UInt8.ofNat (32 * kind + 24) :: Bytes.bigEndian 1 n
  else if n < 65536 then UInt8.ofNat (32 * kind + 25) :: Bytes.bigEndian 2 n
  else if n < 4294967296 then UInt8.ofNat (32 * kind + 26) :: Bytes.bigEndian 4 n
  else UInt8.ofNat (32 * kind + 27) :: Bytes.bigEndian 8 n

mutual

/-- Entries of a map stand in the order given, which has to be that of their keys. -/
def encode : Cbor → Bytes
  | uint n => head 0 n
  | bytes data => head 2 data.length ++ data
  | text s => head 3 s.toUTF8.size ++ s.toUTF8.toList
  | array items => head 4 items.length ++ encodeItems items
  | map entries => head 5 entries.length ++ encodeEntries entries

def encodeItems : List Cbor → Bytes
  | [] => []
  | item :: rest => item.encode ++ encodeItems rest

def encodeEntries : List (Cbor × Cbor) → Bytes
  | [] => []
  | (key, item) :: rest => key.encode ++ item.encode ++ encodeEntries rest

end

end Cbor

end ProofDriver
