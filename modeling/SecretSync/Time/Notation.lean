import SecretSync.Text.Blank
import SecretSync.Time.Span

namespace SecretSync.Span

open Text (NumberError isDecimalDigit readDigits trimChars)

inductive NotationError where
  | blank
  | malformed (text : String)
  | badNumber (number text : String) (cause : NumberError)
  | zero (text : String)
  | tooLong (text : String)
  deriving DecidableEq, Repr

def NotationError.message : NotationError → String
  | .blank => "Duration string cannot be empty"
  | .malformed text =>
    "Invalid duration format '" ++ text ++
      "'. Expected format: <number><unit> (e.g., '30s', '1m', '1h')"
  | .badNumber number text cause =>
    "Invalid duration number '" ++ number ++ "' in '" ++ text ++ "': " ++ cause.message
  | .zero text => "Duration number must be greater than 0, got '" ++ text ++ "'"
  | .tooLong text => "Duration '" ++ text ++ "' is too large"

def unitSeconds? (c : Char) : Option Nat :=
  if c = 's' ∨ c = 'S' then some 1
  else if c = 'm' ∨ c = 'M' then some 60
  else if c = 'h' ∨ c = 'H' then some 3600
  else if c = 'd' ∨ c = 'D' then some 86400
  else none

/-- The digits and the seconds of the unit, if the text has that form in any script. -/
def split? (text : List Char) : Option (List Char × Nat) := do
  let unit ← text.getLast?
  let seconds ← unitSeconds? unit
  let number := text.dropLast
  if !number.isEmpty && number.all isDecimalDigit then some (number, seconds) else none

def parse (s : String) : Except NotationError Span :=
  let chars := trimChars s.toList
  let text := String.ofList chars
  if chars.isEmpty then .error .blank
  else
    match split? chars with
    | none => .error (.malformed text)
    | some (number, seconds) =>
      match readDigits UInt64.size 0 number with
      | .error cause => .error (.badNumber (String.ofList number) text cause)
      | .ok n =>
        if n = 0 then .error (.zero text)
        else if h : n * seconds < UInt64.size then
          .ok ⟨n * seconds * 1000000000, Nat.mul_lt_mul_of_pos_right h (by decide)⟩
        else .error (.tooLong text)

end SecretSync.Span
