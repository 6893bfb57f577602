import GrantKeeper.Digest.Blocks

/-! The digest SHA-1, which names stored credentials. -/
namespace GrantKeeper.Sha1

open Digest

structure State where
  a : UInt32
  b : UInt32
  c : UInt32
  d : UInt32
  e : UInt32

def initial : State := ⟨0x67452301, 0xEFCDAB89, 0x98BADCFE, 0x10325476, 0xC3D2E1F0⟩

/-- The function and constant of a round. -/
def mix (round : Nat) (s : State) : UInt32 × UInt32 :=
  if round < 20 then ((s.b &&& s.c) ||| (~~~s.b &&& s.d), 0x5A827999)
  else if round < 40 then (s.b ^^^ s.c ^^^ s.d, 0x6ED9EBA1)
  else if round < 60 then ((s.b &&& s.c) ||| (s.b &&& s.d) ||| (s.c &&& s.d), 0x8F1BBCDC)
  else (s.b ^^^ s.c ^^^ s.d, 0xCA62C1D6)

def step (s : State) (entry : UInt32 × Nat) : State :=
  let (f, k) := mix entry.2 s
  ⟨rotateLeft s.a 5 + f + s.e + k + entry.1, s.a, rotateLeft s.b 30, s.c, s.d⟩

def expand (block : List UInt32) : List UInt32 :=
  (schedule (fun ws => rotateLeft (back ws 3 ^^^ back ws 8 ^^^ back ws 14 ^^^ back ws 16) 1) 64
    block.toArray).toList

def absorb (s : State) (block : List UInt32) : State :=
  let t := (expand block).zipIdx.foldl step s
  ⟨s.a + t.a, s.b + t.b, s.c + t.c, s.d + t.d, s.e + t.e⟩

def digest (message : List UInt8) : List UInt8 :=
  let s := (messageBlocks message).foldl absorb initial
  [s.a, s.b, s.c, s.d, s.e].flatMap wordBytes

end GrantKeeper.Sha1
