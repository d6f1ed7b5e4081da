/-!
# Lines and words

A text is cut into lines at line feeds and a line into words at white space, where white space is
meant in the sense of Unicode.

## Main definitions

* `Text.isBlank` — the characters that separate words.
* `Text.lines` — the lines of a text, without their ends.
* `Text.words` — the words of a line.
* `Text.fields` — the parts of a text between separators.
-/

namespace OverlayStack.Text

/-- The characters with the Unicode property `White_Space`. -/
def isBlank (c : Char) : Bool :=
  let n := c.toNat
  (0x9 ≤ n && n ≤ 0xd) || n == 0x20 || n == 0x85 || n == 0xa0 || n == 0x1680 ||
    (0x2000 ≤ n && n ≤ 0x200a) || n == 0x2028 || n == 0x2029 || n == 0x202f || n == 0x205f ||
    n == 0x3000

/-- A piece of text collected back to front, or nothing if none was collected. -/
def collected : List Char → List (List Char)
  | [] => []
  | cs => [cs.reverse]

/-- The content of a line that was ended by a line feed, collected back to front: a carriage return
before the line feed belongs to the line end. -/
def endedLine : List Char → List Char
  | '\r' :: cs => cs.reverse
  | cs => cs.reverse

/-- The lines of a text whose first line starts with the collected characters. -/
def linesFrom (current : List Char) : List Char → List (List Char)
  | [] => collected current
  | c :: cs =>
    if c = '\n' then endedLine current :: linesFrom [] cs else linesFrom (c :: current) cs

/-- The lines of a text.  A line ends at a line feed, with or without a carriage return before it;
a last line may lack its end, and is then no line if it is empty. -/
def lines (text : List Char) : List (List Char) :=
  linesFrom [] text

/-- The words of a line whose first word starts with the collected characters. -/
def wordsFrom (current : List Char) : List Char → List (List Char)
  | [] => collected current
  | c :: cs =>
    if isBlank c then collected current ++ wordsFrom [] cs else wordsFrom (c :: current) cs

/-- The words of a line: the longest runs of characters that are not white space. -/
def words (line : List Char) : List (List Char) :=
  wordsFrom [] line

/-- The parts of a text between separators.  There is one part more than there are separators, and
parts may be empty. -/
def fields (separator : Char) : List Char → List (List Char)
  | [] => [[]]
  | c :: cs =>
    match fields separator cs with
    | [] => [[c]]
    | part :: parts => if c = separator then [] :: part :: parts else (c :: part) :: parts

end OverlayStack.Text
