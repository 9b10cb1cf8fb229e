/-!
Targets of requests. A target is a path, a star, a host, or an address: a scheme, a host and a path.
A path may have a query; what follows a number sign is not sent.
-/
namespace SecretSync

/-- Why a request cannot be made. -/
inductive RequestError where
  | method
  | empty
  | tooLong
  | character
  | authority
  | scheme
  | format
  deriving DecidableEq, Repr

def RequestError.message : RequestError → String
  | .method => "invalid HTTP method"
  | .empty => "empty string"
  | .tooLong => "uri too long"
  | .character => "invalid uri character"
  | .authority => "invalid authority"
  | .scheme => "scheme too long"
  | .format => "invalid format"

/-- What is sent of a target. A query has its question mark. -/
structure Uri where
  path : String
  query : String
  deriving DecidableEq, Repr

namespace Uri

def nowhere : Uri := ⟨"", ""⟩

def between (low high n : Nat) : Bool := low ≤ n && n ≤ high

/-- A character that may stand in a path as it is. -/
def inPath (c : Char) : Bool :=
  let n := c.toNat
  n == 0x21 || n == 0x22 || between 0x24 0x3B n || n == 0x3D || between 0x40 0x5F n ||
    between 0x61 0x7E n || 0x80 ≤ n

/-- A character that may stand in a query as it is. -/
def inQuery (c : Char) : Bool :=
  let n := c.toNat
  n == 0x21 || between 0x24 0x3B n || n == 0x3D || between 0x3F 0x7E n || 0x80 ≤ n

/-- A path with a query. -/
def route (cs : List Char) : Except RequestError Uri :=
  let sent := cs.takeWhile (· ≠ '#')
  let path := sent.takeWhile (· ≠ '?')
  let query := sent.drop path.length
  if path.all inPath && (query.drop 1).all inQuery then
    .ok ⟨String.ofList path, String.ofList query⟩
  else .error .character

/-- A character of the name of a scheme. -/
def inScheme (c : Char) : Bool := c.isAlphanum || c = '+' || c = '-' || c = '.' || c = '~'

/-- What follows a scheme, if there is one. -/
def afterScheme? (cs : List Char) : Except RequestError (Option (List Char)) :=
  let name := cs.takeWhile inScheme
  match cs.drop name.length with
  | ':' :: '/' :: '/' :: rest => if 64 < name.length then .error .scheme else .ok (some rest)
  | _ => .ok none

/-- A character that needs no other look in a host and what comes with it. -/
def inHost (c : Char) : Bool := c.isAlphanum || "!$&'()*+,-.;=_~".toList.contains c

/-- What has been seen of a host. Colons and percent signs count from the last at sign or the end of
the brackets. -/
structure Scan where
  colons : Nat
  percent : Bool
  opened : Bool
  closed : Bool

def Scan.step (s : Scan) (c : Char) : Except RequestError Scan :=
  if c = ':' then
    if s.colons < 8 then .ok { s with colons := s.colons + 1 } else .error .authority
  else if c = '[' then
    if s.percent || s.opened then .error .authority else .ok { s with opened := true }
  else if c = ']' then
    if !s.opened || s.closed then .error .authority
    else .ok { s with closed := true, colons := 0, percent := false }
  else if c = '@' then .ok { s with colons := 0, percent := false }
  else if c = '%' then .ok { s with percent := true }
  else if inHost c then .ok s
  else .error .character

/-- A host, with a user before it and a port after it if there are. -/
def checkHost (cs : List Char) : Except RequestError Unit := do
  let s ← cs.foldlM Scan.step ⟨0, false, false, false⟩
  if s.opened ≠ s.closed ∨ 1 < s.colons ∨ cs.getLast? = some '@' ∨ s.percent = true then
    .error .authority
  else .ok ()

/-- An address, or a host alone, which has no path. -/
def address (cs : List Char) : Except RequestError Uri := do
  let rest? ← afterScheme? cs
  let rest := rest?.getD cs
  let host := rest.takeWhile fun c => c ≠ '/' && c ≠ '?' && c ≠ '#'
  checkHost host
  match rest? with
  | none => if host.length = rest.length then .ok nowhere else .error .format
  | some _ => if host.isEmpty then .error .format else route (rest.drop host.length)

/-- The bytes that a target has at most. -/
def longest : Nat := 65534

def parse (s : String) : Except RequestError Uri :=
  if longest < s.utf8ByteSize then .error .tooLong
  else
    match s.toList with
    | [] => .error .empty
    | ['*'] => .ok ⟨"*", ""⟩
    | ['?'] => .error .character
    | ['#'] => .error .character
    | '/' :: rest => route ('/' :: rest)
    | cs => address cs

def sent (u : Uri) : String := u.path ++ u.query

end Uri

/-- A name of a method: any of the characters that tokens are made of. -/
def isMethod (s : String) : Bool :=
  !s.isEmpty && s.toList.all fun c => c.isAlphanum || "!#$%&'*+-.^_`|~".toList.contains c

end SecretSync
