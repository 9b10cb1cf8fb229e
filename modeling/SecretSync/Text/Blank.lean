namespace SecretSync.Text

def isBlank (c : Char) : Bool :=
  let n := c.toNat
  (9 ≤ n && n ≤ 13) || n == 0x20 || n == 0x85 || n == 0xA0 || n == 0x1680 ||
    (0x2000 ≤ n && n ≤ 0x200A) || n == 0x2028 || n == 0x2029 || n == 0x202F || n == 0x205F ||
    n == 0x3000

def dropBlankEnd (cs : List Char) : List Char := (cs.reverse.dropWhile isBlank).reverse

/-- Without blanks at both ends. -/
def trimChars (cs : List Char) : List Char := dropBlankEnd (cs.dropWhile isBlank)

def trim (s : String) : String := String.ofList (trimChars s.toList)

end SecretSync.Text
