/-! White space in the sense of the Unicode property White_Space, and trimming by it. -/
namespace GrantKeeper.Text

/-- The characters with the property White_Space. -/
def isBlank (c : Char) : Bool :=
  let n := c.toNat
  (9 ≤ n && n ≤ 13) || n == 0x20 || n == 0x85 || n == 0xA0 || n == 0x1680 ||
    (0x2000 ≤ n && n ≤ 0x200A) || n == 0x2028 || n == 0x2029 || n == 0x202F || n == 0x205F ||
    n == 0x3000

def trimStart (text : List Char) : List Char := text.dropWhile isBlank

def trim (text : String) : String :=
  String.ofList ((trimStart (trimStart text.toList).reverse).reverse)

def trimEndOf (c : Char) (text : String) : String :=
  String.ofList (text.toList.reverse.dropWhile (· == c)).reverse

def trimStartOf (c : Char) (text : String) : String :=
  String.ofList (text.toList.dropWhile (· == c))

def stripFront? : List Char → List Char → Option (List Char)
  | [], text => some text
  | _ :: _, [] => none
  | p :: front, c :: text => if p = c then stripFront? front text else none

def after? (front text : String) : Option String :=
  (stripFront? front.toList text.toList).map String.ofList

def beginsWith (front text : String) : Bool := (stripFront? front.toList text.toList).isSome

def before? (back text : String) : Option String :=
  (stripFront? back.toList.reverse text.toList.reverse).map (fun r => String.ofList r.reverse)

/-- The two sides of the first copy of a character. -/
def splitFirst (c : Char) (text : String) : Option (String × String) :=
  match text.toList.span (· != c) with
  | (_, []) => none
  | (front, _ :: back) => some (String.ofList front, String.ofList back)

/-- The pieces of a text between the copies of a character. -/
def pieces (c : Char) : List Char → List (List Char)
  | [] => [[]]
  | d :: rest =>
    if d = c then [] :: pieces c rest
    else match pieces c rest with
      | [] => [[d]]
      | piece :: more => (d :: piece) :: more

end GrantKeeper.Text
