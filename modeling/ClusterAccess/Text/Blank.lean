/-!
Character classes that do not depend on a language: white space and control characters as
Unicode defines them, and letter case of the ASCII letters.
-/

namespace ClusterAccess.Text

/-- The characters of the property White_Space. -/
def isBlank (c : Char) : Bool :=
  let n := c.toNat
  (0x9 ≤ n && n ≤ 0xD) || n == 0x20 || n == 0x85 || n == 0xA0 || n == 0x1680 ||
  (0x2000 ≤ n && n ≤ 0x200A) || n == 0x2028 || n == 0x2029 || n == 0x202F || n == 0x205F ||
  n == 0x3000

/-- The characters of the general category Cc. -/
def isControl (c : Char) : Bool :=
  c.toNat < 0x20 || (0x7F ≤ c.toNat && c.toNat < 0xA0)

def trimChars (cs : List Char) : List Char :=
  ((cs.dropWhile isBlank).reverse.dropWhile isBlank).reverse

def trim (s : String) : String := String.ofList (trimChars s.toList)

/-- The text with the letters `A` to `Z` in lower case and all else as it is. -/
def lowerAscii (s : String) : String := String.ofList (s.toList.map Char.toLower)

/-- The text without the mark that some files begin with. -/
def withoutByteOrderMark : List Char → List Char
  | '\uFEFF' :: rest => rest
  | cs => cs

/-- The text after one leading occurrence of `head`, or the whole text if it has none. -/
def withoutLeading (head s : String) : String :=
  if head.toList.isPrefixOf s.toList then String.ofList (s.toList.drop head.toList.length) else s

end ClusterAccess.Text
