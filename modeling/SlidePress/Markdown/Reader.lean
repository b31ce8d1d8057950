import SlidePress.Block
import SlidePress.Log
import SlidePress.Markdown.Line
import SlidePress.Text.Lines

/-!
# `SlidePress.Markdown.Reader` — text into blocks

The reader goes through the lines of a text once. Between blocks, inside a paragraph, list item or quote, and inside a
fence it is in different modes, and every line moves it from one mode to another and may emit blocks. A reader is used
for one text after the other: it keeps its mode in fields of its own, and adds blocks to a stream that is also known to
whoever asked for it.
-/

namespace SlidePress.Markdown

open Text

/-- The two kinds of fenced blocks. -/
inductive Fence
  | code
  | math
deriving DecidableEq, Repr

/-- What closes a fence. -/
def Fence.delimiter : Fence → List Char
  | .code => codeDelimiter
  | .math => mathDelimiter

/-- The kind of content inside a fence. -/
def Fence.kind : Fence → ContentKind
  | .code => .code
  | .math => .math

/-- A paragraph, list item or quote that further lines may continue. -/
structure Pending where
  kind : ContentKind
  number : Nat := 0
  /-- Its lines so far, the last one first. -/
  lines : List (List Char)
deriving DecidableEq, Repr

/-- The block that pending lines make: those that are not empty, with a space between them. -/
def Pending.block (pending : Pending) : Block :=
  let parts := pending.lines.reverse.filter fun line => !line.isEmpty
  .content pending.kind (String.ofList (joinWith [' '] parts)) (.int pending.number)

/-- Where the reader stands. -/
inductive Mode
  /-- Between blocks. -/
  | idle
  /-- In a block that further lines may continue. -/
  | pending (block : Pending)
  /-- In a fence, with its lines so far, the last one first. -/
  | fenced (fence : Fence) (lines : List (List Char))
deriving DecidableEq, Repr

/-- The block inside a fence: its lines as they are. -/
def fencedBlock (fence : Fence) (lines : List (List Char)) : Block :=
  .content fence.kind (String.ofList (joinWith ['\n'] lines.reverse)) 0

/-- The blocks that the end of the text emits. -/
def Mode.close : Mode → List Block
  | .idle => []
  | .pending block => [block.block]
  | .fenced fence lines => [fencedBlock fence lines]

/-- The marker of a heading; below the fourth depth it is a paragraph. -/
def headingBlock (depth : Nat) (text : String) : Block :=
  match depth with
  | 1 => .sectionMark text
  | 2 => .topicMark text
  | 3 => .slideMark text
  | 4 => .subheading text
  | _ => .content .paragraph text 0

/-- A block that begins with this line. -/
def Mode.starting (kind : ContentKind) (text : List Char) (number : Nat := 0) : Mode :=
  .pending { kind, number, lines := [trim text] }

/-- One line outside of fences: the mode after it and the blocks it emits. -/
def Mode.stepForm (mode : Mode) : LineForm → Except NumeralTooLong (Mode × List Block)
  | .codeFence => .ok (.fenced .code [], mode.close)
  | .mathFence => .ok (.fenced .math [], mode.close)
  | .formula text => .ok (.idle, mode.close ++ [.content .math (String.ofList text) 0])
  | .heading depth text => .ok (.idle, mode.close ++ [headingBlock depth (String.ofList text)])
  | .blank => .ok (.idle, mode.close)
  | .bullet text => .ok (.starting .bullet text, mode.close)
  | .numbered digits text => (numeral digits).map fun n => (.starting .numbered text n, mode.close)
  | .quote text =>
    match mode with
    | .pending block =>
      if block.kind = .quote then .ok (.pending { block with lines := text :: block.lines }, [])
      else .ok (.starting .quote text, mode.close)
    | _ => .ok (.starting .quote text, mode.close)
  | .plain text =>
    match mode with
    | .pending block => .ok (.pending { block with lines := text :: block.lines }, [])
    | _ => .ok (.starting .paragraph text, mode.close)

/-- One line: the mode after it and the blocks it emits. Inside a fence everything but the closing delimiter is taken
as it is, and outside the form of the line decides. -/
def Mode.step (mode : Mode) (rawLine : List Char) : Except NumeralTooLong (Mode × List Block) :=
  let line := trimRight rawLine
  match mode with
  | .fenced fence lines =>
    if fence.delimiter.isPrefixOf (trim line) then .ok (.idle, [fencedBlock fence lines])
    else .ok (.fenced fence (line :: lines), [])
  | mode => mode.stepForm (LineForm.of line)

/-- The blocks of a list of lines, read from a mode on. -/
def blocksFrom (mode : Mode) : List (List Char) → Except NumeralTooLong (List Block)
  | [] => .ok mode.close
  | line :: lines =>
    match mode.step line with
    | .error e => .error e
    | .ok (next, emitted) => (blocksFrom next lines).map (emitted ++ ·)

/-! ## A reader that is used again -/

/-- A reader, with what the last text left in it, and the streams of blocks that it has begun. A stream is known by its
place among them, and whoever knows the place sees what is added to the stream later. -/
structure Reader where
  /-- The streams in the order in which they were begun, each with its last block first. -/
  streams : List (List Block) := [[]]
  /-- The place of the stream that is filled. -/
  place : Nat := 0
  /-- The kind of the block that further lines may continue, if there is one. -/
  kind? : Option ContentKind := none
  /-- The number of that block. -/
  number : Nat := 0
  /-- Its lines so far, the last one first. -/
  lines : List (List Char) := []
deriving DecidableEq, Repr

/-- A fence that is open, with its lines so far, the last one first. -/
structure OpenFence where
  fence : Fence
  lines : List (List Char) := []
deriving DecidableEq, Repr

namespace Reader

/-- The blocks of the stream at a place, as they are now. -/
def blocks (reader : Reader) (place : Nat) : List Block := ((reader.streams[place]?).getD []).reverse

/-- The reader with a block added to the stream that is filled. -/
def emit (reader : Reader) (block : Block) : Reader :=
  { reader with streams := reader.streams.modify reader.place (block :: ·) }

/-- The reader with nothing pending; what was is emitted. -/
def flush (reader : Reader) : Reader :=
  let flushed := match reader.kind? with
    | some kind => reader.emit (Pending.block { kind, number := reader.number, lines := reader.lines })
    | none => reader
  { flushed with kind? := none, number := 0, lines := [] }

/-- The reader with a block begun by this line; what was pending is emitted. -/
def start (reader : Reader) (kind : ContentKind) (text : List Char) (number : Nat := 0) : Reader :=
  { reader.flush with kind? := some kind, number, lines := [trim text] }

/-- The reader with a line added to what is pending. -/
def extend (reader : Reader) (text : List Char) : Reader := { reader with lines := text :: reader.lines }

/-- One line outside of fences: the reader after it, and the fence that it opens. -/
def stepForm (reader : Reader) : LineForm → Except NumeralTooLong (Reader × Option OpenFence)
  | .codeFence => .ok (reader.flush, some { fence := .code })
  | .mathFence => .ok (reader.flush, some { fence := .math })
  | .formula text => .ok (reader.flush.emit (.content .math (String.ofList text) 0), none)
  | .heading depth text => .ok (reader.flush.emit (headingBlock depth (String.ofList text)), none)
  | .blank => .ok (reader.flush, none)
  | .bullet text => .ok (reader.start .bullet text, none)
  | .numbered digits text => (numeral digits).map fun n => (reader.start .numbered text n, none)
  | .quote text => .ok (if reader.kind? = some .quote then reader.extend text else reader.start .quote text, none)
  | .plain text => .ok (if reader.kind? = none then reader.start .paragraph text else reader.extend text, none)

/-- One line, inside of a fence or outside: the reader after it, and the fence that is open then. -/
def step (reader : Reader) (fence? : Option OpenFence) (rawLine : List Char) :
    Except NumeralTooLong (Reader × Option OpenFence) :=
  let line := trimRight rawLine
  match fence? with
  | some opened =>
    if opened.fence.delimiter.isPrefixOf (trim line) then .ok (reader.emit (fencedBlock opened.fence opened.lines), none)
    else .ok (reader, some { opened with lines := line :: opened.lines })
  | none => reader.stepForm (LineForm.of line)

/-- The reader at the end of a text: a fence that is still open is emitted, and what is pending is. -/
def finish (reader : Reader) : Option OpenFence → Reader
  | some opened => (reader.emit (fencedBlock opened.fence opened.lines)).flush
  | none => reader.flush

/-- The lines of a text, read on from the state of the reader: the reader after them, and the place of their stream. Where
a line is refused the reader keeps the state that it had before that line. -/
def readLines (reader : Reader) (fence? : Option OpenFence) : List (List Char) → Reader × Except NumeralTooLong Nat
  | [] => (reader.finish fence?, .ok (reader.finish fence?).place)
  | line :: lines =>
    match reader.step fence? line with
    | .error e => (reader, .error e)
    | .ok (next, nextFence?) => next.readLines nextFence? lines

/-- The reader before a text: a stream is begun, and nothing is pending. -/
def reset (reader : Reader) : Reader :=
  { streams := reader.streams ++ [[]], place := reader.streams.length, kind? := none, number := 0, lines := [] }

/-- A text, read afresh: the reader after it, and the place of the stream that has its blocks. -/
def read (reader : Reader) (text : String) : Reader × Except NumeralTooLong Nat :=
  reader.reset.readLines none (splitLines text.toList)

/-- Several texts, read one after the other by one reader: the reader after them, and the place for each. -/
def readEach (reader : Reader) : List String → Reader × List (Except NumeralTooLong Nat)
  | [] => (reader, [])
  | text :: texts =>
    let (next, outcome) := reader.read text
    let (last, outcomes) := next.readEach texts
    (last, outcome :: outcomes)

/-- Several texts, read one after the other by one reader: the blocks of each, seen after the last of them is read. -/
def readAll (reader : Reader) (texts : List String) : List (Except NumeralTooLong (List Block)) :=
  let (last, outcomes) := reader.readEach texts
  outcomes.map fun outcome => outcome.map last.blocks

end Reader

/-- The blocks of a text, read by a reader that has read nothing before. -/
def read (text : String) : Except NumeralTooLong (List Block) :=
  let (reader, outcome) := ({} : Reader).read text
  outcome.map reader.blocks

/-! ## What is reported -/

/-- The mode at the end of a list of lines, if no line is refused. -/
def modeAfter (mode : Mode) : List (List Char) → Option Mode
  | [] => some mode
  | line :: lines =>
    match mode.step line with
    | .error _ => none
    | .ok (next, _) => modeAfter next lines

/-- What is reported about reading a text: a fence that was not closed, and the number of blocks; nothing when the text
is refused. -/
def readJournal (text : String) : Journal :=
  match read text with
  | .error _ => []
  | .ok blocks =>
    (match modeAfter .idle (splitLines text.toList) with
      | some (.fenced fence _) =>
        [⟨.warning, s!"Unterminated {fence.kind.name} block closed at end of input"⟩]
      | _ => []) ++
    [⟨.debug, s!"Read {blocks.length} blocks"⟩]

end SlidePress.Markdown
