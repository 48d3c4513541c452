import MailGateway.Text.Basic

/-!
# Blank characters and line ends

Blank characters are the white space of Unicode together with the four information separators of
ASCII.  Trimming removes them at the ends of a text.
-/

namespace MailGateway.Text

def isBlank (c : Char) : Bool :=
  let n := c.toNat
  (0x09 ≤ n && n ≤ 0x0d) || (0x1c ≤ n && n ≤ 0x20) || n == 0x85 || n == 0xa0 || n == 0x1680 ||
    (0x2000 ≤ n && n ≤ 0x200a) || n == 0x2028 || n == 0x2029 || n == 0x202f || n == 0x205f ||
    n == 0x3000

def isLineEnd (c : Char) : Bool :=
  let n := c.toNat
  (0x0a ≤ n && n ≤ 0x0d) || (0x1c ≤ n && n ≤ 0x1e) || n == 0x85 || n == 0x2028 || n == 0x2029

/-- Drop elements that satisfy `p` at the end. -/
def dropTail (p : α → Bool) (text : List α) : List α :=
  (text.reverse.dropWhile p).reverse

/-- Drop elements that satisfy `p` at both ends. -/
def trimBy (p : α → Bool) (text : List α) : List α :=
  dropTail p (text.dropWhile p)

def trimLeft (text : Text) : Text :=
  text.dropWhile isBlank

def trim (text : Text) : Text :=
  trimBy isBlank text

/-- The lines of a text without their ends.  Carriage return and line feed together end one line,
and an end at the very end of the text starts no further line. -/
def lines : Text → List Text
  | [] => []
  | '\r' :: '\n' :: rest => [] :: lines rest
  | c :: rest =>
    if isLineEnd c then [] :: lines rest
    else match lines rest with
      | [] => [[c]]
      | line :: more => (c :: line) :: more

end MailGateway.Text
