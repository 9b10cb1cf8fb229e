import SecretSync.Json.Writer

namespace SecretSync.Json.Yaml

def indicators : List Char :=
  ['-', '?', ':', ',', '[', ']', '\x7b', '\x7d', '#', '&', '*', '!', '|', '>', '\'', '"', '%', '@',
   '\x60']

/-- Whether a text would read as another kind of value. -/
def ambiguous (s : String) : Bool :=
  ["", "~", "null", "Null", "NULL", "true", "True", "TRUE", "false", "False", "FALSE"].contains s ||
    s.toList.all fun c => c.isDigit || c == '.' || c == '-' || c == '+' || c == 'e' || c == 'E'

/-- Whether a colon would end a key here, or a number sign begin a comment. -/
def breaksPlain : List Char → Bool
  | [] => false
  | [':'] => true
  | ':' :: ' ' :: _ => true
  | ' ' :: '#' :: _ => true
  | _ :: rest => breaksPlain rest

def isPlain (s : String) : Bool :=
  match s.toList with
  | [] => false
  | c :: rest =>
    !ambiguous s && !indicators.contains c && c != ' ' && (c :: rest).getLast? != some ' ' &&
      !breaksPlain (c :: rest) && (c :: rest).all fun c => 0x20 ≤ c.toNat && c.toNat != 0x7F

def singleQuoted (s : String) : String :=
  let inside := s.toList.flatMap fun c => if c = '\'' then ['\'', '\''] else [c]
  String.ofList ('\'' :: inside ++ ['\''])

def linesOf : List Char → List (List Char)
  | [] => [[]]
  | c :: rest =>
    if c = '\n' then [] :: linesOf rest
    else
      match linesOf rest with
      | [] => [[c]]
      | l :: ls => (c :: l) :: ls

def blanks (depth : Nat) : String := String.ofList (List.replicate (2 * depth) ' ')

/-- A literal block after its key. -/
def literal (depth : Nat) (s : String) : String :=
  "|-\n" ++ "\n".intercalate ((linesOf s.toList).map fun l =>
    if l.isEmpty then "" else blanks depth ++ String.ofList l)

def scalar (depth : Nat) (s : String) : String :=
  if s.toList.contains '\n' then literal depth s
  else if isPlain s then s
  else singleQuoted s

mutual

/-- A value after its key or its dash, at the depth of its own block. -/
def value (depth : Nat) (inItem : Bool) : Json → String
  | .null => " null\n"
  | .unreadable => " null\n"
  | .bool b => (if b then " true" else " false") ++ "\n"
  | .whole n => " " ++ toString n ++ "\n"
  | .real x => " " ++ writeReal x ++ "\n"
  | .string s => " " ++ scalar depth s ++ "\n"
  | .array [] => " []\n"
  | .array (j :: rest) => "\n" ++ items (if inItem then depth else depth - 1) (j :: rest)
  | .object [] => " \x7b\x7d\n"
  | .object (m :: rest) =>
    if inItem then " " ++ members depth false (m :: rest)
    else "\n" ++ members depth true (m :: rest)

def items (depth : Nat) : List Json → String
  | [] => ""
  | j :: rest => blanks depth ++ "-" ++ value (depth + 1) true j ++ items depth rest

/-- Members one under the other; the first may stand on a line that has begun. -/
def members (depth : Nat) (indent : Bool) : List (String × Json) → String
  | [] => ""
  | (k, j) :: rest =>
    (if indent then blanks depth else "") ++ scalar depth k ++ ":" ++ value (depth + 1) false j ++
      members depth true rest

end

def write : Json → String
  | .object (m :: rest) => members 0 true (m :: rest)
  | .array (j :: rest) => items 0 (j :: rest)
  | .object [] => "\x7b\x7d\n"
  | .array [] => "[]\n"
  | j => String.ofList ((value 0 false j).toList.drop 1)

end SecretSync.Json.Yaml
