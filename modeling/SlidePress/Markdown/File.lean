import SlidePress.Markdown.Reader

/-!
# `SlidePress.Markdown.File` — blocks from a file

A file is read as UTF-8 text, with every kind of newline as a line feed.
-/

namespace SlidePress.Markdown

open Text

/-- The text of a file: its bytes as UTF-8, with every kind of newline as a line feed. -/
def fileText? (bytes : ByteArray) : Option String :=
  (String.fromUTF8? bytes).map fun text => String.ofList (normalizeNewlines text.toList)

/-- Why a file gives no blocks. -/
inductive ReadError
  /-- There is no such file. -/
  | noFile
  /-- Its bytes are not UTF-8. -/
  | notUtf8
  /-- The number of a list item has too many digits. -/
  | numeralTooLong (numeral : NumeralTooLong)
deriving DecidableEq, Repr

/-- The blocks of a file, given by its bytes if it exists. -/
def blocksInFile (bytes? : Option ByteArray) : Except ReadError (List Block) :=
  match bytes? with
  | none => .error .noFile
  | some bytes =>
    match fileText? bytes with
    | none => .error .notUtf8
    | some text => (read text).mapError .numeralTooLong

/-- What is reported about reading a file: its path, and then what is reported about its text. -/
def fileJournal (path : String) (bytes? : Option ByteArray) : Journal :=
  ⟨.info, s!"Reading {path}"⟩ ::
    match bytes?.bind fileText? with
    | none => []
    | some text => readJournal text

end SlidePress.Markdown
