/-
  Blank characters and trimming.

  A configured name, address, URL or namespace counts as absent when nothing but blanks is in it.
  "Blank" is the Unicode property White_Space — 25 characters, the ideographic space and the
  no-break space among them — and NOT the six of ASCII.
-/
import Muster.Text.Cut

namespace Muster.Text

/-- **White_Space**, as the Unicode standard lists it. -/
def isBlank (c : Char) : Bool :=
  let n := c.toNat
  (9 ≤ n && n ≤ 13) || n == 0x20 || n == 0x85 || n == 0xA0 || n == 0x1680 ||
    (0x2000 ≤ n && n ≤ 0x200A) || n == 0x2028 || n == 0x2029 || n == 0x202F ||
    n == 0x205F || n == 0x3000

/-- The text without blanks at its ends. -/
def trimmed (s : String) : String := String.ofList (trim isBlank s.toList)

/-- The trimmed text, unless nothing is left of it. -/
def nonBlank? (s : String) : Option String :=
  let t := trimmed s
  if t = "" then none else some t

end Muster.Text
