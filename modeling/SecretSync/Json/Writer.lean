import SecretSync.Json.Basic
import SecretSync.Text.Decimal

namespace SecretSync.Json

def hexDigits (n : Nat) : List Char :=
  let s := Nat.toDigits 16 n
  List.replicate (4 - s.length) '0' ++ s

def escapeChar (c : Char) : List Char :=
  if c = '"' then ['\\', '"']
  else if c = '\\' then ['\\', '\\']
  else if c = '\x08' then ['\\', 'b']
  else if c = '\x0c' then ['\\', 'f']
  else if c = '\n' then ['\\', 'n']
  else if c = '\r' then ['\\', 'r']
  else if c = '\t' then ['\\', 't']
  else if c.toNat < 0x20 then '\\' :: 'u' :: hexDigits c.toNat
  else [c]

def writeString (s : String) : String := String.ofList ('"' :: s.toList.flatMap escapeChar ++ ['"'])

/-- Decimal digits with one before the point, and the exponent with its sign. -/
def scientific (digits : Nat) (exponent : Int) : String :=
  let s := (toString digits).toList
  let place := exponent + s.length - 1
  let fraction := if s.length ≤ 1 then [] else '.' :: s.drop 1
  String.ofList (s.take 1 ++ fraction ++ ['e', if place < 0 then '-' else '+']) ++
    toString place.natAbs

/-- The fewest digits that read back, with an exponent below 10^-5 and from 10^16 on, and always
with a point or an exponent. -/
def writeReal : Binary64 → String
  | .infinite s => (Binary64.infinite s).display
  | .finite s m e =>
    let (digits, exponent) := if m = 0 then (0, 0) else Binary64.shortest .even m e
    let place := exponent + (toString digits).length
    let body :=
      if -5 < place ∧ place ≤ 16 then
        let text := Binary64.positional digits exponent
        if text.toList.contains '.' then text else text ++ ".0"
      else scientific digits exponent
    if s then "-" ++ body else body

mutual

def write : Json → String
  | .null => "null"
  | .unreadable => "null"
  | .bool b => if b then "true" else "false"
  | .whole n => toString n
  | .real x => writeReal x
  | .string s => writeString s
  | .array items => "[" ++ ",".intercalate (writeItems items) ++ "]"
  | .object members => "\x7b" ++ ",".intercalate (writeMembers members) ++ "\x7d"

def writeItems : List Json → List String
  | [] => []
  | j :: rest => j.write :: writeItems rest

def writeMembers : List (String × Json) → List String
  | [] => []
  | (k, j) :: rest => (writeString k ++ ":" ++ j.write) :: writeMembers rest

end

end SecretSync.Json
