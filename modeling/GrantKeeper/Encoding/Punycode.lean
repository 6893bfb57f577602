/-! Punycode: text beyond ASCII written in ASCII letters, digits and hyphens. The characters are
taken in the order of their code points, each as the distance from the one before it, in a
number system whose digits adapt to the distances seen. -/
namespace GrantKeeper.Punycode

def digit (value : Nat) : Char :=
  if value < 26 then Char.ofNat (97 + value) else Char.ofNat (48 + (value - 26))

def digitValue? (c : Char) : Option Nat :=
  let n := c.toNat
  if 97 ≤ n ∧ n ≤ 122 then some (n - 97)
  else if 65 ≤ n ∧ n ≤ 90 then some (n - 65)
  else if 48 ≤ n ∧ n ≤ 57 then some (n - 48 + 26)
  else none

/-- The least value that is not the last digit of a number, at a position. -/
def threshold (position bias : Nat) : Nat :=
  if position ≤ bias then 1 else if bias + 26 ≤ position then 26 else position - bias

theorem threshold_bounds (position bias : Nat) :
    1 ≤ threshold position bias ∧ threshold position bias ≤ 26 := by
  unfold threshold
  split
  · omega
  · split <;> omega

def digits (bias position n : Nat) : List Char :=
  let t := threshold position bias
  if n < t then [digit n]
  else digit (t + (n - t) % (36 - t)) :: digits bias (position + 36) ((n - t) / (36 - t))
termination_by n
decreasing_by
  have bounds := threshold_bounds position bias
  calc (n - threshold position bias) / (36 - threshold position bias)
      ≤ n - threshold position bias := Nat.div_le_self _ _
    _ < n := by omega

/-- How often a distance is divided before it is small, and what is left of it. -/
def reduce (distance : Nat) : Nat × Nat :=
  if 455 < distance then
    let (times, rest) := reduce (distance / 35)
    (times + 1, rest)
  else (0, distance)
termination_by distance
decreasing_by exact Nat.div_lt_self (by omega) (by omega)

def adapt (distance count : Nat) (first : Bool) : Nat :=
  let scaled := if first then distance / 700 else distance / 2
  let (times, rest) := reduce (scaled + scaled / count)
  36 * times + 36 * rest / (rest + 38)

/-- A writer: what is written, the distance so far, the bias and the characters handled. -/
structure Writer where
  written : List Char
  distance : Nat := 0
  bias : Nat := 72
  handled : Nat

def pass (basic current : Nat) (w : Writer) (c : Char) : Writer :=
  if c.toNat < current then { w with distance := w.distance + 1 }
  else if c.toNat = current then
    { written := w.written ++ digits w.bias 36 w.distance
      distance := 0
      bias := adapt w.distance (w.handled + 1) (w.handled == basic)
      handled := w.handled + 1 }
  else w

def writeAll (text : List Char) (basic : Nat) : Nat → List Nat → Writer → Writer
  | _, [], w => w
  | reached, current :: rest, w =>
    let w := { w with distance := w.distance + (current - reached) * (w.handled + 1) }
    let w := text.foldl (pass basic current) w
    writeAll text basic (current + 1) rest { w with distance := w.distance + 1 }

def insertOnce (n : Nat) : List Nat → List Nat
  | [] => [n]
  | m :: rest => if n < m then n :: m :: rest else if n = m then m :: rest else m :: insertOnce n rest

def encode (text : List Char) : List Char :=
  let basic := text.filter fun c => c.toNat < 128
  let beyond := (text.filter fun c => 128 ≤ c.toNat).foldr (fun c found => insertOnce c.toNat found) []
  let start := if basic.isEmpty then [] else basic ++ ['-']
  (writeAll text basic.length 128 beyond ⟨start, 0, 72, basic.length⟩).written

/-- Reads the digits of a number from a position on: the number, and what follows it. -/
def readNumber (bias : Nat) : Nat → Nat → Nat → List Char → Option (Nat × List Char)
  | _, _, _, [] => none
  | position, weight, sum, c :: rest => do
    let value ← digitValue? c
    let sum := sum + value * weight
    let t := threshold position bias
    if value < t then some (sum, rest)
    else readNumber bias (position + 36) (weight * (36 - t)) sum rest

structure TextReader where
  text : List Char
  current : Nat := 128
  place : Nat := 0
  bias : Nat := 72

def TextReader.step? (r : TextReader) (first : Bool) (distance : Nat) : Option TextReader :=
  let count := r.text.length + 1
  let reached := r.place + distance
  let current := r.current + reached / count
  let place := reached % count
  if current.isValidChar then
    some ⟨r.text.take place ++ Char.ofNat current :: r.text.drop place, current, place + 1,
      adapt distance count first⟩
  else none

/-- Reads the characters beyond ASCII, of which there are at most so many. -/
def readAll (first : Bool) : Nat → TextReader → List Char → Option (List Char)
  | _, r, [] => some r.text
  | 0, _, _ :: _ => none
  | most + 1, r, written => do
    let (distance, rest) ← readNumber r.bias 36 1 0 written
    readAll false most (← r.step? first distance) rest

/-- The text that is written so in ASCII. A hyphen with nothing before it separates nothing. -/
def decode? (written : List Char) : Option (List Char) :=
  let back := written.reverse.takeWhile (· != '-')
  let basic := written.take (written.length - back.length - 1)
  if basic.all (·.toNat < 128) then
    readAll true written.length ⟨basic, 128, 0, 72⟩
      (if basic.isEmpty then written else back.reverse)
  else none

end GrantKeeper.Punycode
