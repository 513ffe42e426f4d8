namespace ThingWorld.Text

def isDigit (c : Char) : Bool :=
  '0' ≤ c && c ≤ '9'

-- Leading zeros are allowed, an empty run is not.
def digits? (cs : List Char) : Option Nat :=
  if cs.isEmpty then none
  else if cs.all isDigit then some (Nat.ofDigitChars 10 cs 0)
  else none

def nat? : List Char → Option Nat
  | '+' :: r => digits? r
  | cs => digits? cs

def int? : List Char → Option Int
  | '+' :: r => (digits? r).map Int.ofNat
  | '-' :: r => (digits? r).map fun n => -(n : Int)
  | cs => (digits? cs).map Int.ofNat

-- The number of words of 64 bits, and of those that are not negative when words are signed.
def wordSize : Nat := 18446744073709551616

def halfSize : Int := 9223372036854775808

def word? (cs : List Char) : Option Nat :=
  (nat? cs).filter (· < wordSize)

def uint64? (s : String) : Option UInt64 :=
  (word? s.toList).map UInt64.ofNat

def index? (s : String) : Option Nat :=
  word? s.toList

def fitsInt64 (n : Int) : Bool :=
  -halfSize ≤ n && n < halfSize

def int64? (s : String) : Option Int64 :=
  ((int? s.toList).filter fitsInt64).map Int64.ofInt

-- Moves an integer to the nearest signed 64-bit word.
def saturate (n : Int) : Int64 :=
  if n < -halfSize then Int64.minValue
  else if halfSize ≤ n then Int64.maxValue
  else Int64.ofInt n

def hexValue? (c : Char) : Option Nat :=
  if '0' ≤ c && c ≤ '9' then some (c.toNat - 48)
  else if 'a' ≤ c && c ≤ 'f' then some (c.toNat - 87)
  else if 'A' ≤ c && c ≤ 'F' then some (c.toNat - 55)
  else none

def showNat (n : Nat) : String :=
  String.ofList (Nat.toDigits 10 n)

def showInt (n : Int) : String :=
  if n < 0 then "-" ++ showNat n.natAbs else showNat n.natAbs

def showInt64 (n : Int64) : String :=
  showInt n.toInt

end ThingWorld.Text
