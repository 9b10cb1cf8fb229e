import SecretSync.Json.Basic

/-!
Reading JSON text. A text is cut into tokens, and a stack of open arrays and objects turns the
tokens into one value. Both are single passes over their input. What has the form of a value but
stands for none is kept as unreadable, so that it only matters to those who look at it.
-/
namespace SecretSync.Json

/-- A string is `none` when half a surrogate pair is in it. -/
inductive Token where
  | openObject
  | closeObject
  | openArray
  | closeArray
  | colon
  | comma
  | literal (j : Json)
  | text (s : Option String)

namespace Lexer

/-- What has been read of the token at hand, last character first. A string is read as numbers,
because an escape may stand for half of a character. -/
inductive State where
  | idle
  | word (read : List Char)
  | number (read : List Char)
  | text (read : List Nat)
  | escape (read : List Nat)
  | unit (read : List Nat) (count value : Nat)

def isNumberPart (c : Char) : Bool :=
  c.isDigit || c == '-' || c == '+' || c == '.' || c == 'e' || c == 'E'

def hexValue? (c : Char) : Option Nat :=
  if c.isDigit then some (c.toNat - 48)
  else if 'a' ≤ c ∧ c ≤ 'f' then some (c.toNat - 87)
  else if 'A' ≤ c ∧ c ≤ 'F' then some (c.toNat - 55)
  else none

def digitsValue (cs : List Char) : Nat := cs.foldl (fun n c => n * 10 + (c.toNat - 48)) 0

/-- Digits that count into a significand of 64 bits, and how many do not. -/
def significand (value : Nat) : List Char → Nat × Nat
  | [] => (value, 0)
  | c :: rest =>
    if value * 10 + (c.toNat - 48) < UInt64.size then significand (value * 10 + (c.toNat - 48)) rest
    else (value, rest.length + 1)

/-- A power of ten, or the greatest one that is a number. -/
def power (exponent : Nat) : Binary64 := Binary64.ofNat (Nat.pow 10 exponent)

/-- Divides by powers of ten up to the greatest one, as often as needed. -/
def shrink (x : Binary64) : Nat → Nat → Binary64
  | 0, _ => x
  | rounds + 1, exponent =>
    if exponent ≤ 308 then x.div (power exponent)
    else if x.isZero then x
    else shrink (x.div (power 308)) rounds (exponent - 308)

def scaled (x : Binary64) (exponent : Int) : Option Binary64 :=
  if 0 ≤ exponent then
    if exponent ≤ 308 then
      match x.mul (power exponent.toNat) with
      | .infinite _ => none
      | y => some y
    else if x.isZero then some x else none
  else some (shrink x 16 (-exponent).toNat)

/-- A number with a fraction or an exponent, from the digits around the point. When some of those on
the left are dropped, those on the right still follow the ones that were kept, while they fit. -/
def real (negative : Bool) (whole fraction : List Char) (exponent : Int) : Json :=
  let (value, dropped) := significand 0 whole
  let (value, left) := significand value fraction
  match scaled (Binary64.ofNat value) (exponent + dropped + left - fraction.length) with
  | some x => .real (if negative then x.neg else x)
  | none => .unreadable

def whole (negative : Bool) (digits : List Char) : Json :=
  let n := digitsValue digits
  if negative then
    if n = 0 then .real Binary64.zero.neg
    else if n ≤ Nat.pow 2 63 then .whole (-n)
    else real true digits [] 0
  else if n < UInt64.size then .whole n
  else real false digits [] 0

def exponentSign : List Char → Bool × List Char
  | '-' :: rest => (true, rest)
  | '+' :: rest => (false, rest)
  | rest => (false, rest)

/-- A number: sign, digits without a leading zero, then a fraction and an exponent if there are. -/
def number? (cs : List Char) : Option Json :=
  let (negative, cs) := match cs with
    | '-' :: rest => (true, rest)
    | rest => (false, rest)
  let digits := cs.takeWhile Char.isDigit
  let cs := cs.dropWhile Char.isDigit
  let (fraction, cs) := match cs with
    | '.' :: rest => (some (rest.takeWhile Char.isDigit), rest.dropWhile Char.isDigit)
    | rest => (none, rest)
  let (exponent, cs) := match cs with
    | c :: rest =>
      if c == 'e' || c == 'E' then
        let (minus, rest) := exponentSign rest
        (some (minus, rest.takeWhile Char.isDigit), rest.dropWhile Char.isDigit)
      else (none, c :: rest)
    | [] => (none, [])
  let leadingZero := digits.head? == some '0' && 1 < digits.length
  if digits.isEmpty || leadingZero || fraction == some [] || !cs.isEmpty then none
  else
    match fraction, exponent with
    | none, none => some (whole negative digits)
    | f, none => some (real negative digits (f.getD []) 0)
    | f, some (minus, power) =>
      if power.isEmpty then none
      else
        let e : Int := min (digitsValue power) (Nat.pow 2 31)
        some (real negative digits (f.getD []) (if minus then -e else e))

def word? (cs : List Char) : Option Json :=
  if cs = ['n', 'u', 'l', 'l'] then some .null
  else if cs = ['t', 'r', 'u', 'e'] then some (.bool true)
  else if cs = ['f', 'a', 'l', 's', 'e'] then some (.bool false)
  else none

/-- The effect of a character between tokens. -/
def start (c : Char) : Option (List Token × State) :=
  if c == ' ' || c == '\n' || c == '\t' || c == '\r' then some ([], .idle)
  else if c == '\x7b' then some ([.openObject], .idle)
  else if c == '\x7d' then some ([.closeObject], .idle)
  else if c == '[' then some ([.openArray], .idle)
  else if c == ']' then some ([.closeArray], .idle)
  else if c == ':' then some ([.colon], .idle)
  else if c == ',' then some ([.comma], .idle)
  else if c == '"' then some ([], .text [])
  else if isNumberPart c then some ([], .number [c])
  else if c.isLower then some ([], .word [c])
  else none

def simpleEscape? (c : Char) : Option Char :=
  if c == '"' || c == '\\' || c == '/' then some c
  else if c == 'b' then some '\x08'
  else if c == 'f' then some '\x0c'
  else if c == 'n' then some '\n'
  else if c == 'r' then some '\r'
  else if c == 't' then some '\t'
  else none

def isHigh (u : Nat) : Bool := 0xD800 ≤ u && u < 0xDC00

def isLow (u : Nat) : Bool := 0xDC00 ≤ u && u < 0xE000

def joined (high low : Nat) : Char :=
  Char.ofNat (0x10000 + (high - 0xD800) * 0x400 + (low - 0xDC00))

/-- The characters of a string, before those that are known, from its numbers in reverse. Every half
of a surrogate pair needs its other half. -/
def characters? (found : List Char) : List Nat → Option (List Char)
  | [] => some found
  | u :: rest =>
    if isLow u then
      match rest with
      | high :: rest => if isHigh high then characters? (joined high u :: found) rest else none
      | [] => none
    else if isHigh u then none
    else characters? (Char.ofNat u :: found) rest

def step (s : State) (c : Char) : Option (List Token × State) :=
  match s with
  | .idle => start c
  | .word read =>
    if c.isLower then some ([], .word (c :: read))
    else do
      let j ← word? read.reverse
      let (tokens, s) ← start c
      some (.literal j :: tokens, s)
  | .number read =>
    if isNumberPart c then some ([], .number (c :: read))
    else do
      let j ← number? read.reverse
      let (tokens, s) ← start c
      some (.literal j :: tokens, s)
  | .text read =>
    if c == '\\' then some ([], .escape read)
    else if c == '"' then some ([.text ((characters? [] read).map String.ofList)], .idle)
    else if c.toNat < 0x20 then none
    else some ([], .text (c.toNat :: read))
  | .escape read =>
    if c == 'u' then some ([], .unit read 0 0)
    else (simpleEscape? c).map fun d => ([], .text (d.toNat :: read))
  | .unit read count value => do
    let h ← hexValue? c
    if count = 3 then some ([], .text ((value * 16 + h) :: read))
    else some ([], .unit read (count + 1) (value * 16 + h))

def finish : State → Option (List Token)
  | .idle => some []
  | .word read => (word? read.reverse).map fun j => [.literal j]
  | .number read => (number? read.reverse).map fun j => [.literal j]
  | _ => none

/-- The tokens of a text, after those already found in reverse. -/
def run (s : State) (found : List Token) : List Char → Option (List Token)
  | [] => (finish s).map fun tokens => found.reverse ++ tokens
  | c :: rest =>
    match step s c with
    | none => none
    | some (tokens, s) => run s (tokens.reverse ++ found) rest

end Lexer

namespace Parser

abbrev Member := Option String × Json

/-- An open array or object, its content last first, or an object that waits for a value. -/
inductive Frame where
  | array (done : List Json)
  | object (done : List Member) (key : Option String)

/-- What may come next. -/
inductive Mode where
  | value
  | item
  | itemEnd (done : List Json)
  | key (done : List Member) (closable : Bool)
  | colon (done : List Member) (key : Option String)
  | memberEnd (done : List Member)
  | finished (j : Json)

structure State where
  stack : List Frame
  mode : Mode

/-- Puts a whole value where it was waited for. -/
def settle (j : Json) : List Frame → State
  | [] => ⟨[], .finished j⟩
  | .array done :: rest => ⟨rest, .itemEnd (j :: done)⟩
  | .object done key :: rest => ⟨rest, .memberEnd ((key, j) :: done)⟩

/-- An array inside of others. At most `depth` arrays and objects can be read inside each other. -/
def closeArray (depth : Nat) (stack : List Frame) (done : List Json) : State :=
  settle (if stack.length < depth then .array done.reverse else .unreadable) stack

/-- An object inside of others, which needs names that can be read. -/
def closeObject (depth : Nat) (stack : List Frame) (done : List Member) : State :=
  let members := done.reverse.mapM fun m => m.1.map (·, m.2)
  settle
    (match members with
      | some members => if stack.length < depth then .object members else .unreadable
      | none => .unreadable)
    stack

def beginValue (stack : List Frame) : Token → Option State
  | .openObject => some ⟨stack, .key [] true⟩
  | .openArray => some ⟨stack, .item⟩
  | .literal j => some (settle j stack)
  | .text (some s) => some (settle (.string s) stack)
  | .text none => some (settle .unreadable stack)
  | _ => none

def step (depth : Nat) (s : State) (t : Token) : Option State :=
  match s.mode, t with
  | .value, t => beginValue s.stack t
  | .item, .closeArray => some (closeArray depth s.stack [])
  | .item, t => beginValue (.array [] :: s.stack) t
  | .itemEnd done, .comma => some ⟨.array done :: s.stack, .value⟩
  | .itemEnd done, .closeArray => some (closeArray depth s.stack done)
  | .key done _, .text k => some ⟨s.stack, .colon done k⟩
  | .key done true, .closeObject => some (closeObject depth s.stack done)
  | .colon done k, .colon => some ⟨.object done k :: s.stack, .value⟩
  | .memberEnd done, .comma => some ⟨s.stack, .key done false⟩
  | .memberEnd done, .closeObject => some (closeObject depth s.stack done)
  | _, _ => none

def run (depth : Nat) (s : State) : List Token → Option Json
  | [] =>
    match s.mode with
    | .finished j => some j
    | _ => none
  | t :: rest =>
    match step depth s t with
    | none => none
    | some s => run depth s rest

end Parser

/-- Reads a text that is one JSON value. Of arrays and objects inside each other 127 can be read. -/
def read? (text : String) : Option Json := do
  let tokens ← Lexer.run .idle [] text.toList
  Parser.run 127 ⟨[], .value⟩ tokens

end SecretSync.Json
