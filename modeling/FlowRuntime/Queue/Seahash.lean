/-!
The SeaHash digest of a byte string: four lanes of 64 bits take the input eight
bytes at a time, lowest byte first, in rotation; a short last word is filled with
zeros, and the length is mixed in at the end. All arithmetic wraps.
-/
namespace FlowRuntime.Seahash

def diffuse (x : UInt64) : UInt64 :=
  let y := x * 0x6eed0e9da4d94a4f
  (y ^^^ ((y >>> 32) >>> (y >>> 60))) * 0x6eed0e9da4d94a4f

structure Lanes where
  a : UInt64
  b : UInt64
  c : UInt64
  d : UInt64

def Lanes.start : Lanes :=
  ⟨0x16f11fe89b0d677c, 0xb480a793d8e6c86c, 0x6fe2e5aaf078ebc9, 0x14f994a4c5259381⟩

def Lanes.take (l : Lanes) (word : UInt64) : Lanes :=
  ⟨l.b, l.c, l.d, diffuse (l.a ^^^ word)⟩

def Lanes.finish (l : Lanes) (length : UInt64) : UInt64 :=
  diffuse (l.a ^^^ l.b ^^^ l.c ^^^ l.d ^^^ length)

def littleEndian (bytes : List UInt8) : UInt64 :=
  bytes.foldr (fun byte word => word <<< 8 ||| byte.toUInt64) 0

def words : List UInt8 → List UInt64
  | a :: b :: c :: d :: e :: f :: g :: h :: rest =>
    littleEndian [a, b, c, d, e, f, g, h] :: words rest
  | [] => []
  | short => [littleEndian short]

def digest (bytes : List UInt8) : UInt64 :=
  ((words bytes).foldl Lanes.take Lanes.start).finish (UInt64.ofNat bytes.length)

def ofText (s : String) : UInt64 := digest s.toUTF8.toList

end FlowRuntime.Seahash
