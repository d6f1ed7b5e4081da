import OverlayStack.Text.Number
import OverlayStack.Text.Unshown

/-!
# Quoted text

Messages that repeat a piece of input put it between quotation marks, so that its ends and its
invisible characters can be seen.

## Main definitions

* `Text.escaped` — one character as it stands between quotation marks.
* `Text.quoted` — a text in quotation marks.
-/

namespace OverlayStack.Text

/-- One character of quoted text.  The quotation mark, the backslash and the usual control
characters have short forms, and a character without a glyph is written by its code point. -/
def escaped (c : Char) : String :=
  if c = '"' then "\\\""
  else if c = '\\' then "\\\\"
  else if c = '\n' then "\\n"
  else if c = '\r' then "\\r"
  else if c = '\t' then "\\t"
  else if c = Char.ofNat 0 then "\\0"
  else if isUnshown c then "\\u\x7b" ++ hex c.toNat ++ "\x7d"
  else c.toString

/-- A text in quotation marks. -/
def quoted (text : List Char) : String :=
  "\"" ++ String.join (text.map escaped) ++ "\""

end OverlayStack.Text
