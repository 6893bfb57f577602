import GrantKeeper.Encoding.Hex

/-! Sets and maps of code points as they stand in tables: entries apart by spaces or line ends, with
numbers in hexadecimal. -/
namespace GrantKeeper.Text

/-- The number that digits stand for; without digits it is zero. -/
def codeNumber (digits : String) : Nat := (Hex.number? digits.toList).getD 0

def codeParts (table : String) : List String :=
  ((table.splitOn "\n").flatMap (·.splitOn " ")).filter (!·.isEmpty)

structure CodeSet where
  ranges : List (Nat × Nat)

def codeRange (entry : String) : Nat × Nat :=
  match entry.splitOn "-" with
  | [first, last] => (codeNumber first, codeNumber last)
  | _ => (codeNumber entry, codeNumber entry)

def CodeSet.ofText (table : String) : CodeSet := ⟨(codeParts table).map codeRange⟩

def CodeSet.contains (set : CodeSet) (c : Char) : Bool :=
  set.ranges.any fun range => range.1 ≤ c.toNat && c.toNat ≤ range.2

structure CodeMap where
  entries : List (Char × List Char)

/-- The distances from a code point to the others up to the end in `last` or `last+step`. -/
def codeDistances (first last : String) : List Nat :=
  let (last, step) := match last.splitOn "+" with
    | [last, step] => (codeNumber last, codeNumber step)
    | _ => (codeNumber last, 1)
  (List.range ((last - codeNumber first) / step + 1)).map (· * step)

/-- The entries that one part of a table stands for. After a single code point come the texts of
it and its successors, as in `fb00:66.66,66.69`; after several, as in `100-12e+2:101`, the first of
their images, which are spaced as they are. -/
def codeEntries (part : String) : List (Char × List Char) :=
  match part.splitOn ":" with
  | [keys, images] =>
    match keys.splitOn "-" with
    | [first, last] =>
      (codeDistances first last).map fun distance =>
        (Char.ofNat (codeNumber first + distance), [Char.ofNat (codeNumber images + distance)])
    | _ =>
      (images.splitOn ",").zipIdx.map fun (image, i) =>
        (Char.ofNat (codeNumber keys + i),
          (image.splitOn ".").map fun digits => Char.ofNat (codeNumber digits))
  | _ => []

def CodeMap.ofText (table : String) : CodeMap := ⟨(codeParts table).flatMap codeEntries⟩

def CodeMap.get? (map : CodeMap) (c : Char) : Option (List Char) := map.entries.lookup c

end GrantKeeper.Text
