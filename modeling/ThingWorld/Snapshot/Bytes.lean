namespace ThingWorld

abbrev Bytes := List UInt8

namespace Snapshot

abbrev Reader (α : Type) := Bytes → Option (α × Bytes)

-- The `width` low bytes of `n`, lowest first.
def writeWord : Nat → Nat → Bytes
  | 0, _ => []
  | width + 1, n => UInt8.ofNat (n % 256) :: writeWord width (n / 256)

def readWord : Nat → Reader Nat
  | 0, bytes => some (0, bytes)
  | _ + 1, [] => none
  | width + 1, b :: bytes => do
    let (high, bytes) ← readWord width bytes
    some (b.toNat + 256 * high, bytes)

def writeUInt64 (n : UInt64) : Bytes := writeWord 8 n.toNat

def readUInt64 : Reader UInt64 := fun bytes => do
  let (n, bytes) ← readWord 8 bytes
  some (UInt64.ofNat n, bytes)

-- Signed words in two's complement.
def writeInt64 (n : Int64) : Bytes := writeUInt64 n.toUInt64

def readInt64 : Reader Int64 := fun bytes => do
  let (n, bytes) ← readUInt64 bytes
  some (n.toInt64, bytes)

def writeUInt8 (n : UInt8) : Bytes := [n]

def readUInt8 : Reader UInt8
  | [] => none
  | b :: bytes => some (b, bytes)

def writeTag (n : Nat) : Bytes := writeWord 4 n

def readTag : Reader Nat := readWord 4

def writeFlag (b : Bool) : Bytes := [if b then 1 else 0]

-- Only 0 and 1 are flags.
def readFlag : Reader Bool
  | 0 :: bytes => some (false, bytes)
  | 1 :: bytes => some (true, bytes)
  | _ => none

def writeLength (n : Nat) : Bytes := writeWord 8 n

def readLength : Reader Nat := readWord 8

def writeText (s : String) : Bytes :=
  let bytes := s.toByteArray.data.toList
  writeLength bytes.length ++ bytes

def readText : Reader String := fun bytes => do
  let (n, bytes) ← readLength bytes
  let content := bytes.take n
  if content.length = n then
    let s ← String.fromUTF8? ⟨content.toArray⟩
    some (s, bytes.drop n)
  else none

def writeOption {α : Type} (write : α → Bytes) : Option α → Bytes
  | none => [0]
  | some a => 1 :: write a

def readOption {α : Type} (read : Reader α) : Reader (Option α)
  | 0 :: bytes => some (none, bytes)
  | 1 :: bytes => do
    let (a, bytes) ← read bytes
    some (some a, bytes)
  | _ => none

def writeMany {α : Type} (write : α → Bytes) (items : List α) : Bytes :=
  writeLength items.length ++ items.flatMap write

def readTimes {α : Type} (read : Reader α) : Nat → Reader (List α)
  | 0, bytes => some ([], bytes)
  | n + 1, bytes => do
    let (a, bytes) ← read bytes
    let (rest, bytes) ← readTimes read n bytes
    some (a :: rest, bytes)

def readMany {α : Type} (read : Reader α) : Reader (List α) := fun bytes => do
  let (n, bytes) ← readLength bytes
  readTimes read n bytes

def writePair {α β : Type} (first : α → Bytes) (second : β → Bytes) (pair : α × β) : Bytes :=
  first pair.1 ++ second pair.2

def readPair {α β : Type} (first : Reader α) (second : Reader β) : Reader (α × β) := fun bytes => do
  let (a, bytes) ← first bytes
  let (b, bytes) ← second bytes
  some ((a, b), bytes)

end Snapshot
end ThingWorld
