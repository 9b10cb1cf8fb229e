namespace SecretSync.Text

abbrev Bytes := List UInt8

namespace Utf8

def encode (s : String) : Bytes := s.toList.flatMap String.utf8EncodeChar

/-- Where a reader stands: between characters, or inside one whose next byte has bounds. -/
inductive State where
  | start
  | inside (left low high bits : Nat)
  deriving DecidableEq, Repr

/-- The effect of a byte between characters. `none` in the output marks a broken part. -/
def first (b : Nat) : List (Option Char) × State :=
  if b < 0x80 then ([some (Char.ofNat b)], .start)
  else if b < 0xC2 then ([none], .start)
  else if b < 0xE0 then ([], .inside 0 0x80 0xBF (b - 0xC0))
  else if b = 0xE0 then ([], .inside 1 0xA0 0xBF 0)
  else if b = 0xED then ([], .inside 1 0x80 0x9F 0xD)
  else if b < 0xF0 then ([], .inside 1 0x80 0xBF (b - 0xE0))
  else if b = 0xF0 then ([], .inside 2 0x90 0xBF 0)
  else if b < 0xF4 then ([], .inside 2 0x80 0xBF (b - 0xF0))
  else if b = 0xF4 then ([], .inside 2 0x80 0x8F 4)
  else ([none], .start)

/-- A byte out of bounds breaks off the character and is read again as a first byte. -/
def next : State → Nat → List (Option Char) × State
  | .start, b => first b
  | .inside left low high bits, b =>
    if low ≤ b ∧ b ≤ high then
      match left with
      | 0 => ([some (Char.ofNat (bits * 64 + b % 64))], .start)
      | left + 1 => ([], .inside left 0x80 0xBF (bits * 64 + b % 64))
    else (none :: (first b).1, (first b).2)

def scan : State → Bytes → List (Option Char)
  | .start, [] => []
  | .inside .., [] => [none]
  | s, b :: rest => (next s b.toNat).1 ++ scan (next s b.toNat).2 rest

/-- The characters of a text and `none` for every longest part that begins no character. -/
def units (bytes : Bytes) : List (Option Char) := scan .start bytes

def decode? (bytes : Bytes) : Option String := ((units bytes).mapM id).map String.ofList

/-- Puts U+FFFD for every broken part. -/
def decodeLossy (bytes : Bytes) : String :=
  String.ofList ((units bytes).map fun u => u.getD '\uFFFD')

end Utf8

end SecretSync.Text
