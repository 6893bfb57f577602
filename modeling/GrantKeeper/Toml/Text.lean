import GrantKeeper.Encoding.Hex

/-! Quoted texts in TOML: with escapes between double quotation marks, as they stand between
single ones, and over several lines between three of either. Each reader starts behind the
opening marks and gives the text and what follows the closing ones. -/
namespace GrantKeeper.Toml

def isPlain (c : Char) : Bool := c = '\t' || (' ' ≤ c && c ≠ '\x7F')

/-- The character of a code, which must not be a surrogate. -/
def scalar? (digits : List Char) : Option Char := do
  let code ← Hex.number? digits
  if code.isValidChar then some (Char.ofNat code) else none

def escape? : Char → Option Char
  | 'b' => some '\x08'
  | 't' => some '\t'
  | 'n' => some '\n'
  | 'f' => some '\x0C'
  | 'r' => some '\r'
  | 'e' => some '\x1B'
  | '"' => some '"'
  | '\\' => some '\\'
  | _ => none

/-- What a reader of a quoted text gives: the text and what follows. -/
abbrev Quotation := Option (List Char × List Char)

def Quotation.after (c : Option Char) (quotation : Quotation) : Quotation := do
  let c ← c
  let (text, rest) ← quotation
  some (c :: text, rest)

def basic : List Char → Quotation
  | '"' :: rest => some ([], rest)
  | '\\' :: 'x' :: a :: b :: rest => (basic rest).after (scalar? [a, b])
  | '\\' :: 'u' :: a :: b :: c :: d :: rest => (basic rest).after (scalar? [a, b, c, d])
  | '\\' :: 'U' :: a :: b :: c :: d :: e :: f :: g :: h :: rest =>
    (basic rest).after (scalar? [a, b, c, d, e, f, g, h])
  | '\\' :: c :: rest => (basic rest).after (escape? c)
  | c :: rest => if isPlain c then (basic rest).after (some c) else none
  | [] => none

def literal : List Char → Quotation
  | '\'' :: rest => some ([], rest)
  | c :: rest => if isPlain c then (literal rest).after (some c) else none
  | [] => none

/-- Where a reader of lines stands to a backslash at the end of one, which joins the line to
the next text. -/
inductive Joint
  | none
  /-- Only blanks may come before the line ends. -/
  | open
  /-- Blanks and line ends are skipped. -/
  | made

def basicLines : Joint → List Char → Quotation
  | .open, '\n' :: rest => basicLines .made rest
  | .open, '\r' :: '\n' :: rest => basicLines .made rest
  | .open, c :: rest => if c = ' ' || c = '\t' then basicLines .open rest else failure
  | .made, ' ' :: rest => basicLines .made rest
  | .made, '\t' :: rest => basicLines .made rest
  | .made, '\n' :: rest => basicLines .made rest
  | .made, '\r' :: '\n' :: rest => basicLines .made rest
  | _, '"' :: '"' :: '"' :: '"' :: '"' :: rest => some (['"', '"'], rest)
  | _, '"' :: '"' :: '"' :: '"' :: rest => some (['"'], rest)
  | _, '"' :: '"' :: '"' :: rest => some ([], rest)
  | _, '\n' :: rest => (basicLines .none rest).after (some '\n')
  | _, '\r' :: '\n' :: rest => ((basicLines .none rest).after (some '\n')).after (some '\r')
  | _, '\\' :: 'x' :: a :: b :: rest => (basicLines .none rest).after (scalar? [a, b])
  | _, '\\' :: 'u' :: a :: b :: c :: d :: rest =>
    (basicLines .none rest).after (scalar? [a, b, c, d])
  | _, '\\' :: 'U' :: a :: b :: c :: d :: e :: f :: g :: h :: rest =>
    (basicLines .none rest).after (scalar? [a, b, c, d, e, f, g, h])
  | _, '\\' :: '\n' :: rest => basicLines .made rest
  | _, '\\' :: '\r' :: '\n' :: rest => basicLines .made rest
  | _, '\\' :: c :: rest =>
    if c = ' ' || c = '\t' then basicLines .open rest else (basicLines .none rest).after (escape? c)
  | _, c :: rest => if isPlain c then (basicLines .none rest).after (some c) else failure
  | _, [] => failure

def literalLines : List Char → Quotation
  | '\'' :: '\'' :: '\'' :: '\'' :: '\'' :: rest => some (['\'', '\''], rest)
  | '\'' :: '\'' :: '\'' :: '\'' :: rest => some (['\''], rest)
  | '\'' :: '\'' :: '\'' :: rest => some ([], rest)
  | '\n' :: rest => (literalLines rest).after (some '\n')
  | '\r' :: '\n' :: rest => ((literalLines rest).after (some '\n')).after (some '\r')
  | c :: rest => if isPlain c then (literalLines rest).after (some c) else none
  | [] => none

def dropLineEnd : List Char → List Char
  | '\n' :: rest => rest
  | '\r' :: '\n' :: rest => rest
  | rest => rest

def quoted : List Char → Quotation
  | '"' :: '"' :: '"' :: rest => basicLines .none (dropLineEnd rest)
  | '\'' :: '\'' :: '\'' :: rest => literalLines (dropLineEnd rest)
  | '"' :: rest => basic rest
  | '\'' :: rest => literal rest
  | _ => none

end GrantKeeper.Toml
