/-! The values of a TOML document. -/
namespace GrantKeeper.Toml

inductive Value
  | text (value : String)
  | integer (value : Int)
  /-- A number with a fraction or an exponent: the size of its digits, and the power of ten
  that they are counted in. -/
  | decimal (digits : Nat) (exponent : Int)
  /-- A number that is infinite or none. -/
  | unbounded
  | bool (value : Bool)
  /-- A date, a time, or both. -/
  | moment
  | array (items : List Value)
  | table (members : List (String × Value))
deriving Inhabited

/-- The least size that double precision rounds to infinity. -/
def overflow : Nat := Nat.pow 2 1024 - Nat.pow 2 970

/-- Whether a decimal is below what double precision can hold. Sizes that are far off are told
by the number of digits. -/
def isFinite (digits : Nat) (exponent : Int) : Bool :=
  let magnitude := exponent + (toString digits).length
  if digits = 0 ∨ magnitude < 300 then true
  else if 320 < magnitude then false
  else if 0 ≤ exponent then digits * Nat.pow 10 exponent.toNat < overflow
  else digits < overflow * Nat.pow 10 (-exponent).toNat

mutual
/-- Whether every number in a value fits its kind: 128 bits with or without a sign for integers,
double precision for the others. -/
def Value.fits : Value → Bool
  | .integer value => -(Nat.pow 2 127 : Nat) ≤ value && value < (Nat.pow 2 128 : Nat)
  | .decimal digits exponent => isFinite digits exponent
  | .array items => fitItems items
  | .table members => fitMembers members
  | .text _ | .unbounded | .bool _ | .moment => true

def fitItems : List Value → Bool
  | [] => true
  | value :: rest => value.fits && fitItems rest

def fitMembers : List (String × Value) → Bool
  | [] => true
  | (_, value) :: rest => value.fits && fitMembers rest
end

end GrantKeeper.Toml
