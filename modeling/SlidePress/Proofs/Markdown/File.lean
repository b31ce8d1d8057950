import SlidePress.Markdown.File
import SlidePress.Proofs.Config.Loading
import SlidePress.Proofs.Markdown.Reuse
import SlidePress.Proofs.Text.Lines

/-!
# `SlidePress.Proofs.Markdown.File` — blocks from a file and from its text

Blocks are read from a text, and from a file that holds one. The two ways cut the text differently: in a file every
carriage return, with or without a line feed behind it, is written as a line feed before anything is cut, while a text
is cut as it is, at ten kinds of break, one of them of two characters. Both give the same lines
(`Text.splitLines_normalizeNewlines`), for any mixture of breaks, and the reader sees nothing but lines. So a file gives
the blocks of its text, or the same refusal (`blocksInFile_toUTF8`).
-/

namespace SlidePress.Markdown

open Text

variable {text other : String}

/-! ## Texts with the same lines -/

/-- The blocks of a text depend on its lines only. -/
theorem read_congr (h : splitLines text.toList = splitLines other.toList) : read text = read other := by
  rw [read_eq, read_eq, h]

/-- And so does what is reported about it. -/
theorem readJournal_congr (h : splitLines text.toList = splitLines other.toList) :
    readJournal text = readJournal other := by
  unfold readJournal
  rw [read_congr h, h]

/-! ## Files -/

/-- The text of a file that holds a text has line feeds only. -/
theorem fileText?_toUTF8 (text : String) :
    fileText? text.toUTF8 = some (String.ofList (normalizeNewlines text.toList)) := by
  rw [fileText?, fromUTF8?_eq_some_iff.mpr rfl, Option.map_some]

theorem splitLines_normalized (text : String) :
    splitLines (String.ofList (normalizeNewlines text.toList)).toList = splitLines text.toList := by
  rw [String.toList_ofList, splitLines_normalizeNewlines]

/-- **A file that holds a text** gives the blocks of the text, or is refused for the same number, and the same is reported
about it, after its path. -/
theorem blocksInFile_toUTF8 (path text : String) :
    blocksInFile (some text.toUTF8) = (read text).mapError .numeralTooLong ∧
      fileJournal path (some text.toUTF8) = ⟨.info, s!"Reading {path}"⟩ :: readJournal text := by
  have lines := splitLines_normalized text
  constructor
  · unfold blocksInFile
    dsimp only
    rw [fileText?_toUTF8, ← read_congr lines]
  · unfold fileJournal
    rw [Option.bind_some, fileText?_toUTF8, ← readJournal_congr lines]

end SlidePress.Markdown
