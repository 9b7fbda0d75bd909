import TrackingPlan.Text.CharSet

/-!
# White space, trimmed text, lines

What counts as blank is the Unicode property *White_Space*.  A text is trimmed of it at both ends,
and a text of nothing else counts as no text at all.
-/

namespace TrackingPlan.Text

/-- The ranges of the property *White_Space*. -/
def blankRanges : CharSet := [
  (0x09, 0x0D), (0x20, 0x20), (0x85, 0x85), (0xA0, 0xA0), (0x1680, 0x1680), (0x2000, 0x200A),
  (0x2028, 0x2029), (0x202F, 0x202F), (0x205F, 0x205F), (0x3000, 0x3000)]

/-- Whether the character is white space. -/
def isBlank (c : Char) : Bool :=
  blankRanges.contains c

/-- The characters without the blank ones at either end. -/
def trimChars (cs : List Char) : List Char :=
  ((cs.dropWhile isBlank).reverse.dropWhile isBlank).reverse

/-- The text without the blanks at either end. -/
def trim (s : String) : String :=
  String.ofList (trimChars s.toList)

/-- Whether the text holds nothing but blanks. -/
def isBlankText (s : String) : Bool :=
  s.toList.all isBlank

/-- The lines from here on, the characters of the current line in reverse: a line ends at a line
feed, and nothing after the last feed is no line. -/
def linesFrom : List Char → List Char → List (List Char)
  | [], [] => []
  | current, [] => [current.reverse]
  | current, '\n' :: rest => current.reverse :: linesFrom [] rest
  | current, c :: rest => linesFrom (c :: current) rest

/-- The lines of a text, without the feeds that end them. -/
def lines (s : String) : List String :=
  (linesFrom [] s.toList).map String.ofList

end TrackingPlan.Text
