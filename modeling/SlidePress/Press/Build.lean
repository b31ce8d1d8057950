import SlidePress.Deck.Compile
import SlidePress.Markdown.File
import SlidePress.Press.Typeset

/-!
# `SlidePress.Press.Build` — from authored text to a document

Authored text is read, compiled and checked; the style is worked out from the configuration; and the deck is printed.
-/

namespace SlidePress

/-- Why a build gives no document. -/
inductive BuildError
  | read (cause : Markdown.ReadError)
  | inconsistent (cause : Deck.Inconsistent)
  | config (cause : ConfigError)
  | press (cause : PressError PassError)
deriving DecidableEq, Repr

/-- What a build that gives no document is reported as: a kind and a text. Errors without such a report end the
program. -/
def BuildError.report? : BuildError → Option (String × String)
  | .read _ => none
  | .inconsistent cause => some ("ContractValidationError", cause.message)
  | .config cause => some ("ConfigError", cause.message)
  | .press (.measure cause) => some ("MeasurementError", cause.message)
  | .press (.pass (.measure cause)) => some ("MeasurementError", cause.message)
  | .press (.pass cause) => some ("LayoutError", cause.message)
  | .press (.pagesDiffer provisional final) => some ("PaginationError", pagesDifferMessage provisional final)
  | .press .uncounted | .press (.noPages _) | .press (.files _) => none

/-- What comes of a build. -/
structure BuildRun where
  tree : FileTree
  journal : Journal
  /-- The running headers that were drawn, in both passes. -/
  headers : List Header := []
  outcome : Except BuildError Printed

/-- The run with records before its own. -/
def BuildRun.after (journal : Journal) (run : BuildRun) : BuildRun := { run with journal := journal ++ run.journal }

/-- What a build depends on. -/
structure Builder where
  config : Config
  /-- Whether content before the first slide is warned about. -/
  warnDropped : Bool := true
  /-- The measure for header and footer, where it is not that of their font. -/
  measure : Option (Measure Float) := none
  library : PressLibrary := .usual

namespace Builder

/-- What is reported when a builder is set up. -/
def journal (builder : Builder) : Journal :=
  [⟨.info, s!"DeckAgent initialized: {builder.config.aspectRatio.name}, title={Text.quoted builder.config.title}"⟩]

/-- What is reported about a style before pages are made with it. -/
def styleJournal (style : Style) : Journal :=
  let width := Decimal.fixedText 0 style.pageWidth
  let height := Decimal.fixedText 0 style.pageHeight
  [⟨.info, s!"DeckPDFRenderer initialized: {width}x{height}pt"⟩]

/-- What a deck is set with in a style. -/
def typeset (builder : Builder) (style : Style) (fonts : FontRegistry) (deck : Deck) : Typeset :=
  let chrome := Chrome.ofStyle style fonts builder.library.toStyleLibrary
  { chrome := { chrome with measure := builder.measure.getD chrome.measure }
    wrap := builder.library.wrap fonts
    slides := deck.slides
    layout := builder.library.layout fonts }

/-- A compiled deck, printed. -/
def printDeck (builder : Builder) (deck : Deck) (target : Path) (tree : FileTree) : BuildRun :=
  let desk : Desk := { fonts := builder.library.registered }
  match builder.config.resolveOn desk builder.library.toStyleLibrary with
  | (.error cause, desk) => { tree, journal := desk.journal, outcome := .error (.config cause) }
  | (.ok style, desk) =>
    let run := (builder.typeset style desk.fonts deck).press.print target [] tree
    { tree := run.tree, journal := desk.journal ++ styleJournal style ++ run.journal, headers := run.state
      outcome := run.outcome.mapError .press }

/-- A stream of blocks as a consistent deck. -/
def compile (blocks : List Block) : Except BuildError Deck := (compileDeck blocks).check.mapError .inconsistent

/-- A stream of blocks, compiled and printed, with what is reported between the two. -/
def printBlocks (builder : Builder) (blocks : List Block) (between : Journal) (target : Path) (tree : FileTree) :
    BuildRun :=
  let compiled := compileJournal builder.warnDropped blocks
  match compile blocks with
  | .error cause => { tree, journal := compiled, outcome := .error cause }
  | .ok deck => (builder.printDeck deck target tree).after (compiled ++ between)

/-- The document of an authored text. -/
def buildText (builder : Builder) (text : String) (target : Path) (tree : FileTree) : BuildRun :=
  match Markdown.read text with
  | .error cause =>
    { tree, journal := builder.journal ++ Markdown.readJournal text, outcome := .error (.read (.numeralTooLong cause)) }
  | .ok blocks =>
    (builder.printBlocks blocks [] target tree).after (builder.journal ++ Markdown.readJournal text)

/-- What is reported about a document that was made. -/
def printedJournal (outcome : Except BuildError Printed) : Journal :=
  match outcome with
  | .error _ => []
  | .ok printed => [⟨.info, s!"Output: {printed.path.text} ({printed.count.total} pages)"⟩]

/-- The document of an authored file, with a report of every step. -/
def buildFile (builder : Builder) (source target : Path) (tree : FileTree) : BuildRun :=
  let bytes? := tree.file? source
  let opening := builder.journal ++ ⟨.info, "Step 1: Reading source..."⟩ :: Markdown.fileJournal source.text bytes?
  match Markdown.blocksInFile bytes? with
  | .error cause => { tree, journal := opening, outcome := .error (.read cause) }
  | .ok blocks =>
    let run := builder.printBlocks blocks [⟨.info, "Step 3: Rendering..."⟩] target tree
    let run := run.after (opening ++ [⟨.info, "Step 2: Compiling slides..."⟩])
    { run with journal := run.journal ++ printedJournal run.outcome }

end Builder

end SlidePress
