import SlidePress.Story.Flowable
import SlidePress.Text.Blank
import SlidePress.Text.Lines

/-!
# `SlidePress.Story.Lines` — how many lines a paragraph has

The words of a paragraph are put on a line as long as they fit, and a word that fits on no line is cut.
-/

namespace SlidePress

open Text

/-! ## The text of a paragraph -/

/-- What the characters between `&` and `;` stand for. -/
def entityText (name : List Char) : List Char :=
  if name = "amp".toList then ['&']
  else if name = "lt".toList then ['<']
  else if name = "gt".toList then ['>']
  else '&' :: name ++ [';']

/-- What a tag stands for in the text: a line break is one, and every other tag is nothing. -/
def tagText (tag : List Char) : List Char := if tag = "br/".toList then ['\n'] else []

/-- Where the reading of a markup stands. -/
inductive MarkupPlace
  | text
  /-- In a tag, its characters so far, the last one first. -/
  | tag (seen : List Char)
  /-- In an entity, its characters so far, the last one first. -/
  | entity (seen : List Char)
deriving DecidableEq, Repr

/-- The text of a markup, read on from a place. -/
def markupTextFrom : MarkupPlace → List Char → List Char
  | .text, [] => []
  | .tag _, [] => []
  | .entity seen, [] => '&' :: seen.reverse
  | .text, c :: rest =>
    if c = '<' then markupTextFrom (.tag []) rest
    else if c = '&' then markupTextFrom (.entity []) rest
    else c :: markupTextFrom .text rest
  | .tag seen, c :: rest =>
    if c = '>' then tagText seen.reverse ++ markupTextFrom .text rest else markupTextFrom (.tag (c :: seen)) rest
  | .entity seen, c :: rest =>
    if c = ';' then entityText seen.reverse ++ markupTextFrom .text rest else markupTextFrom (.entity (c :: seen)) rest

/-- The text of a markup, without its tags. -/
def markupText (markup : String) : List Char := markupTextFrom .text markup.toList

/-- Whether a markup has line breaks. -/
def hasBreaks (markup : String) : Bool :=
  (splitOn '<' markup.toList).any fun part => "br/>".toList.isPrefixOf part

/-! ## Filling lines -/

/-- The widths that the lines of a paragraph are broken with. -/
structure Measuring where
  /-- The width of a text. -/
  width : List Char → Float
  /-- The width of the first line. -/
  first : Float
  /-- The width of every other line. -/
  other : Float

/-- The width of a space. -/
def Measuring.space (m : Measuring) : Float := m.width [' ']

/-- The line that is being filled. -/
structure LineState where
  /-- How many lines are full. -/
  full : Nat := 0
  /-- How far it is filled; an empty line is filled to a space before its beginning. -/
  filled : Float
  /-- How many words are on it. -/
  words : Nat := 0

/-- How much narrower spaces may become, as a share of their width. -/
def shrinkage : Float := 0.05

/-- The size of bullets. -/
def bulletSize : Float := 10

namespace LineState

/-- An empty line. -/
def fresh (m : Measuring) (full : Nat) : LineState := { full, filled := -m.space }

/-- The width of the line. -/
def room (m : Measuring) (line : LineState) : Float := if line.full = 0 then m.first else m.other

/-- Whether a word of some width goes on the line, whose spaces may become narrower for it. -/
def fits (m : Measuring) (line : LineState) (width : Float) : Bool :=
  line.filled + m.space + width ≤ line.room m + shrinkage * m.space * Float.ofNat line.words

/-- A word of some width put on the line if it fits or the line is empty, and else on the next one. -/
def place (m : Measuring) (line : LineState) (width : Float) : LineState :=
  if line.fits m width || line.words = 0 then
    { line with filled := line.filled + m.space + width, words := line.words + 1 }
  else { full := line.full + 1, filled := width, words := 1 }

/-- A long word put on the line character by character from a position on; where a character would not fit the line
ends, and what is left of the word at the end goes on the last line like a word. `taken` holds the characters since the
last end of a line, the last one first. -/
def cutFrom (m : Measuring) (line : LineState) (position : Float) (taken : List Char) : List Char → LineState
  | [] => line.place m (m.width taken.reverse)
  | c :: rest =>
    let width := m.width [c]
    if line.room m < position + width && (!taken.isEmpty || width ≤ m.other) then
      cutFrom m (fresh m (line.full + 1)) width [c] rest
    else cutFrom m line (position + width) (c :: taken) rest

/-- A word put on the line; one that does not fit and is wider than the line is cut. -/
def add (m : Measuring) (line : LineState) (word : List Char) : LineState :=
  let width := m.width word
  if !line.fits m width && line.room m < width then line.cutFrom m (line.filled + m.space) [] word
  else line.place m width

end LineState

/-- How many lines the words of a text take. -/
def lineCount (m : Measuring) (text : List Char) : Nat :=
  match words text with
  | [] => 0
  | ws => (ws.foldl (LineState.add m) (LineState.fresh m 0)).full + 1

/-! ## Paragraphs -/

/-- How far a bullet reaches into the first line of a paragraph. -/
def bulletOverlap (style : ParagraphStyle) (bullet : Option String) : Float :=
  match bullet with
  | none => 0
  | some text =>
    let reach := style.bulletIndent + sansMetrics.textWidth bulletSize text + 0.6 * bulletSize
    if style.leftIndent < reach then reach - style.leftIndent else 0

/-- The widths that a paragraph is broken with in a frame of some width. -/
def measuringFor (metrics : Metrics) (style : ParagraphStyle) (bullet : Option String) (frameWidth : Float) :
    Measuring :=
  let width := frameWidth - style.leftIndent - style.rightIndent
  { width := fun text => metrics.textWidth style.fontSize (String.ofList text)
    first := width - bulletOverlap style bullet
    other := width }

/-- A number, but at least one. -/
def atLeastOne (n : Nat) : Nat := if n = 0 then 1 else n

/-- How many lines a paragraph has in a frame of some width. Where its text has line breaks, every part has at least
one line. -/
def paragraphLines (metrics : Metrics) (frameWidth : Float) (style : ParagraphStyle) (markup : String)
    (bullet : Option String) : Nat :=
  let m := measuringFor metrics style bullet frameWidth
  let text := markupText markup
  if hasBreaks markup then ((splitOn '\n' text).map fun part => atLeastOne (lineCount m part)).foldl (· + ·) 0
  else lineCount m text

/-- The least width that a frame can have. -/
def leastWidth : Float := 1e-6

/-- The height of a paragraph in a frame that is too narrow for any. -/
def unboundedHeight : Float := 2147483647

/-- The height of a paragraph without a bullet: that of its lines, however high the frame is. -/
def paragraphHeight (metrics : String → Metrics) : Wrap := fun style markup frameWidth _ =>
  if frameWidth < leastWidth then unboundedHeight
  else Float.ofNat (paragraphLines (metrics style.fontName) frameWidth style markup none) * style.leading

/-- The lines without those at either end that are blank. -/
def trimLines (lines : List (List Char)) : List (List Char) :=
  let blank (line : List Char) : Bool := line.all isBlank
  (((lines.dropWhile blank).reverse).dropWhile blank).reverse

/-- The lines of a text that keeps them, without those at either end that are blank. -/
def verbatimLines (text : String) : List (List Char) := trimLines (splitOn '\n' text.toList)

/-- Leaving out blank lines leaves no more lines than there were. -/
theorem length_trimLines_le (lines : List (List Char)) : (trimLines lines).length ≤ lines.length := by
  have h (p : List Char → Bool) (ls : List (List Char)) : (ls.dropWhile p).length ≤ ls.length :=
    (List.dropWhile_sublist p).length_le
  simp only [trimLines, List.length_reverse]
  exact Nat.le_trans (h _ _) (by simpa using h _ lines)

end SlidePress
