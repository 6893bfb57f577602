/-! What the SHA digests share: big-endian words of 32 bits, and messages filled up to whole
blocks of 64 bytes with a one bit, zeros, and the length in bits. -/
namespace GrantKeeper.Digest

def word (a b c d : UInt8) : UInt32 :=
  a.toUInt32 <<< 24 ||| b.toUInt32 <<< 16 ||| c.toUInt32 <<< 8 ||| d.toUInt32

def wordBytes (w : UInt32) : List UInt8 :=
  [(w >>> 24).toUInt8, (w >>> 16).toUInt8, (w >>> 8).toUInt8, w.toUInt8]

def words : List UInt8 → List UInt32
  | a :: b :: c :: d :: rest => word a b c d :: words rest
  | _ => []

/-- The last eight bytes of the last block: the length in bits. -/
def lengthBytes (count : Nat) : List UInt8 :=
  let bits := count * 8
  wordBytes (UInt32.ofNat (bits / 0x100000000)) ++ wordBytes (UInt32.ofNat bits)

def padded (message : List UInt8) : List UInt8 :=
  let count := message.length
  message ++ 0x80 :: List.replicate ((119 - count % 64) % 64) 0 ++ lengthBytes count

def blocks (ws : List UInt32) : List (List UInt32) :=
  if ws.isEmpty then [] else ws.take 16 :: blocks (ws.drop 16)
termination_by ws.length
decreasing_by
  cases ws with
  | nil => simp at *
  | cons w rest => simp only [List.length_drop, List.length_cons]; omega

def messageBlocks (message : List UInt8) : List (List UInt32) := blocks (words (padded message))

def rotateLeft (w : UInt32) (count : UInt32) : UInt32 := w <<< count ||| w >>> (32 - count)

def rotateRight (w : UInt32) (count : UInt32) : UInt32 := w >>> count ||| w <<< (32 - count)

/-- Extends the words of a block by `count` more, each computed from the words before it, which
are given last first. -/
def schedule (next : Array UInt32 → UInt32) : Nat → Array UInt32 → Array UInt32
  | 0, ws => ws
  | count + 1, ws => schedule next count (ws.push (next ws))

def back (ws : Array UInt32) (places : Nat) : UInt32 := ws.getD (ws.size - places) 0

end GrantKeeper.Digest
