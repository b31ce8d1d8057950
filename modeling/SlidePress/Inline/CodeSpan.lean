import SlidePress.Text.Digit

/-!
# `SlidePress.Inline.CodeSpan` — code spans, set aside and put back

Emphasis is not looked for inside code. Code spans are therefore taken out of a text first, each leaving its number
between two NUL characters, and are put back when everything else is done.
-/

namespace SlidePress.Inline

open Text

/-- A part of an authored text. -/
inductive Piece
  | plain (c : Char)
  | code (content : List Char)
deriving DecidableEq, Repr

/-- The pieces of a text. After a backtick the characters since are kept until it is known whether another backtick
makes a span of them; two backticks with nothing between them are none, and the second may open a span. -/
def piecesFrom : Option (List Char) → List Char → List Piece
  | none, [] => []
  | none, c :: rest => if c = '`' then piecesFrom (some []) rest else .plain c :: piecesFrom none rest
  | some seen, [] => .plain '`' :: seen.reverse.map .plain
  | some seen, c :: rest =>
    if c = '`' then
      if seen.isEmpty then .plain '`' :: piecesFrom (some []) rest
      else .code seen.reverse :: piecesFrom none rest
    else piecesFrom (some (c :: seen)) rest

/-- The pieces of a text. -/
def pieces (text : List Char) : List Piece := piecesFrom none text

/-- The contents of the code spans among some pieces, in order. -/
def codeSpans (ps : List Piece) : List (List Char) :=
  ps.filterMap fun
    | .code content => some content
    | .plain _ => none

/-- What stands for the span with a number. -/
def placeholder (number : Nat) : List Char := '\x00' :: Nat.toDigits 10 number ++ ['\x00']

/-- The pieces as a text again, with a placeholder for each span; the first span has the given number. -/
def withPlaceholders : Nat → List Piece → List Char
  | _, [] => []
  | number, .plain c :: rest => c :: withPlaceholders number rest
  | number, .code _ :: rest => placeholder number ++ withPlaceholders (number + 1) rest

/-! ## Putting the spans back -/

/-- Why a placeholder cannot be replaced. -/
inductive FillError
  /-- No span has this number. -/
  | noSpan (number : Nat)
  /-- The number has too many digits. -/
  | numeralTooLong (numeral : NumeralTooLong)
deriving DecidableEq, Repr

/-- What a placeholder with these digits stands for. -/
def spanFor (spans : List (List Char)) (digits : List Char) : Except FillError (List Char) :=
  match numeral digits with
  | .error long => .error (.numeralTooLong long)
  | .ok number =>
    match spans[number]? with
    | some span => .ok span
    | none => .error (.noSpan number)

/-- The text with every placeholder replaced by its span. After a NUL the digits since are kept until it is known
whether another NUL makes a placeholder of them. -/
def fillFrom (spans : List (List Char)) : Option (List Char) → List Char → Except FillError (List Char)
  | none, [] => .ok []
  | none, c :: rest =>
    if c = '\x00' then fillFrom spans (some []) rest else (fillFrom spans none rest).map (c :: ·)
  | some seen, [] => .ok ('\x00' :: seen.reverse)
  | some seen, c :: rest =>
    if c = '\x00' then
      if seen.isEmpty then (fillFrom spans (some []) rest).map ('\x00' :: ·)
      else
        match spanFor spans seen.reverse with
        | .error e => .error e
        | .ok span => (fillFrom spans none rest).map (span ++ ·)
    else if isDigit c then fillFrom spans (some (c :: seen)) rest
    else (fillFrom spans none rest).map ('\x00' :: seen.reverse ++ c :: ·)

/-- The text with every placeholder replaced by its span. -/
def fill (spans : List (List Char)) (text : List Char) : Except FillError (List Char) := fillFrom spans none text

end SlidePress.Inline
