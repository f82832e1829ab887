/-!
# White space

The White_Space property of the Unicode character database, and what hangs on it.
-/

namespace ServiceContract.Text

def isWhite (c : Char) : Bool :=
  let n := c.toNat
  (9 ≤ n && n ≤ 13) || n = 0x20 || n = 0x85 || n = 0xA0 || n = 0x1680 ||
    (0x2000 ≤ n && n ≤ 0x200A) || n = 0x2028 || n = 0x2029 || n = 0x202F || n = 0x205F ||
    n = 0x3000

/-- A list without the white space at its ends. -/
def trimmed (cs : List Char) : List Char :=
  ((cs.dropWhile isWhite).reverse.dropWhile isWhite).reverse

/-- A text without the white space at its ends. -/
def trim (s : String) : String := String.ofList (trimmed s.toList)

/-- Whether a text is empty or all white space. -/
def isBlank (s : String) : Bool := s.toList.all isWhite

end ServiceContract.Text
