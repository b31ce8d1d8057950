import SlidePress.Text.Blank
import SlidePress.Text.Digit

/-!
# `SlidePress.Markdown.Line` — the forms of a line

A line of markdown, without its trailing white space, has one of nine forms. They are tried in a fixed order: fences
and formulas first, then headings, blank lines, list items and quotes, and plain text last.
-/

namespace SlidePress.Markdown

open Text

/-- The text of a heading: the hashes at its end are left out together with the white space before them, if there is
white space before them. -/
def closedHeading (body : List Char) : List Char :=
  let hashes := body.reverse.takeWhile (· = '#')
  let before := (body.reverse.dropWhile (· = '#')).reverse
  if hashes.isEmpty || before.isEmpty || !((before.getLast?.map isBlank).getD false) then body
  else trimRight before

/-- A heading: one to six hashes at the start of the line, then the end of the line or white space and a text. -/
def heading? (line : List Char) : Option (Nat × List Char) :=
  let depth := (line.takeWhile (· = '#')).length
  match line.dropWhile (· = '#') with
  | [] => if 1 ≤ depth ∧ depth ≤ 6 then some (depth, []) else none
  | c :: rest =>
    if 1 ≤ depth ∧ depth ≤ 6 ∧ isBlank c then some (depth, closedHeading (trimLeft rest)) else none

/-- The text after a sign and the white space that has to follow it. -/
def afterSign? : List Char → Option (List Char)
  | c :: rest => if isBlank c then some (trimLeft rest) else none
  | [] => none

/-- A list item with a sign: a hyphen, an asterisk or a plus sign, white space, and a text. -/
def bullet? (line : List Char) : Option (List Char) :=
  match trimLeft line with
  | c :: rest => if c = '-' ∨ c = '*' ∨ c = '+' then afterSign? rest else none
  | [] => none

/-- A numbered list item: decimal digits, a point or a closing bracket, white space, and a text. The digits are
those of any script. -/
def numbered? (line : List Char) : Option (List Char × List Char) :=
  let body := trimLeft line
  let digits := body.takeWhile isDigit
  match body.dropWhile isDigit with
  | c :: rest =>
    if !digits.isEmpty ∧ (c = '.' ∨ c = ')') then (afterSign? rest).map (digits, ·) else none
  | [] => none

/-- A quoted line: a greater-than sign, and after it the text, less one character of white space at its start. -/
def quote? (line : List Char) : Option (List Char) :=
  match trimLeft line with
  | '>' :: c :: rest => some (if isBlank c then rest else c :: rest)
  | ['>'] => some []
  | _ => none

/-- A formula on one line: something between two pairs of dollar signs. -/
def formula? (trimmed : List Char) : Option (List Char) :=
  match trimmed with
  | '$' :: '$' :: rest =>
    match rest.reverse with
    | '$' :: '$' :: inner => if inner.isEmpty then none else some (trim inner.reverse)
    | _ => none
  | _ => none

/-- Three backticks open and close a block of code. -/
def codeDelimiter : List Char := ['`', '`', '`']

/-- Two dollar signs open and close a block of mathematics. -/
def mathDelimiter : List Char := ['$', '$']

/-- The forms of a line outside of fences. -/
inductive LineForm
  /-- Opens a block of code. -/
  | codeFence
  /-- Opens a block of mathematics. -/
  | mathFence
  /-- A formula on one line. -/
  | formula (text : List Char)
  /-- A heading of some depth. -/
  | heading (depth : Nat) (text : List Char)
  /-- Nothing but white space. -/
  | blank
  /-- A list item with a sign. -/
  | bullet (text : List Char)
  /-- A list item with a number. -/
  | numbered (digits text : List Char)
  /-- A quoted line. -/
  | quote (text : List Char)
  /-- Anything else. -/
  | plain (text : List Char)
deriving DecidableEq, Repr

/-- The form of a line, which has no white space at its end. -/
def LineForm.of (line : List Char) : LineForm :=
  let trimmed := trim line
  if codeDelimiter.isPrefixOf trimmed then .codeFence
  else if trimmed = mathDelimiter then .mathFence
  else if let some text := formula? trimmed then .formula text
  else if let some (depth, text) := heading? line then .heading depth text
  else if trimmed.isEmpty then .blank
  else if let some text := bullet? line then .bullet text
  else if let some (digits, text) := numbered? line then .numbered digits text
  else if let some text := quote? line then .quote text
  else .plain trimmed

end SlidePress.Markdown
