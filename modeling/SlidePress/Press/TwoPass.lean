import SlidePress.Decimal.Fixed
import SlidePress.Files.Tree
import SlidePress.Log
import SlidePress.Page.Pass

/-!
# `SlidePress.Press.TwoPass` — a document in two passes

The footer of a page names the number of all pages, which is known only when the pages are made. A document is therefore
made twice: in a first pass without footers, which counts the pages, and in a second one, which is written. The second
pass writes to a temporary file that takes the place of the document only when everything has succeeded.
-/

namespace SlidePress

/-- What a pass that has succeeded says about its document. -/
structure PassStats where
  pages : Int
  outline : List OutlineEntry := []
  placements : List (FooterPlacement Float) := []
deriving DecidableEq, Repr

/-- What comes of a pass, with the error `ε` where it fails. -/
structure PassOutcome (ε : Type) where
  /-- What it has written, also where it fails. -/
  document : ByteArray
  journal : Journal := []
  stats : Except ε PassStats

/-- A way to make passes, which may depend on a state `σ` and change it. -/
structure Press (σ ε : Type) where
  /-- The measure for the page labels. -/
  measure : Measure Float
  /-- A pass, with footers if their metrics are given. -/
  pass : Option (FooterMetrics Float) → σ → PassOutcome ε × σ
  /-- How a file takes the place of another one. -/
  replace : FileTree → Path → Path → Except FileTree.Failure FileTree := FileTree.move

/-- Why there is no document. -/
inductive PressError (ε : Type)
  /-- The pages have not been counted. -/
  | uncounted
  /-- The first pass has made no page. -/
  | noPages (cause : NoPages)
  /-- A file or directory cannot be made. -/
  | files (cause : FileTree.Failure)
  /-- The page labels cannot be measured. -/
  | measure (cause : MeasureError)
  /-- A pass has failed. -/
  | pass (cause : ε)
  /-- The second pass has not made the pages that were counted. -/
  | pagesDiffer (provisional : Nat) (final : Int)
deriving DecidableEq, Repr

/-- What is said when the second pass is asked for without a page count. -/
def uncountedMessage : String := "render_pass() needs the PageCount returned by layout_pass()"

/-- What is said of passes that make different numbers of pages. -/
def pagesDifferMessage (provisional : Nat) (final : Int) : String :=
  s!"Pagination did not converge: provisional pass produced {provisional} pages, " ++
    s!"final pass produced {Decimal.wholeText final}"

/-- A document that was made. -/
structure Printed where
  path : Path
  count : PageCount
  labelWidth : Float
  placements : List (FooterPlacement Float)
  outline : List OutlineEntry
deriving DecidableEq, Repr

/-- What is told about a document; the width of the page labels has three places. -/
def Printed.members (printed : Printed) : Members :=
  [("output_path", .str printed.path.text), ("pages", .num printed.count.total),
    ("label_width", .num (.float (Decimal.roundTo 3 printed.labelWidth))),
    ("outline", .arr (printed.outline.map fun entry =>
      .arr [.num entry.level, .str entry.title, .num (.int entry.page)]))]

/-- What comes of working with a press: its state, the files, the journal, and the result. -/
structure PressRun (σ ε α : Type) where
  state : σ
  tree : FileTree
  journal : Journal
  outcome : Except (PressError ε) α

/-- How the names of temporary files end. -/
def temporaryEnding : String := ".pdf.part"

namespace Press

variable {σ ε : Type}

/-- The first pass, whose document is not kept: it counts the pages. -/
def layoutPass (press : Press σ ε) (state : σ) (tree : FileTree) : PressRun σ ε PageCount :=
  let (outcome, state) := press.pass none state
  match outcome.stats with
  | .error cause => { state, tree, journal := outcome.journal, outcome := .error (.pass cause) }
  | .ok stats =>
    match PageCount.ofInt stats.pages with
    | .error cause => { state, tree, journal := outcome.journal, outcome := .error (.noPages cause) }
    | .ok count =>
      { state, tree, journal := outcome.journal ++ [⟨.info, s!"Provisional layout: {count.total} pages"⟩]
        outcome := .ok count }

/-- The second pass into a temporary file, which then becomes the document; where anything fails the temporary file is
removed. -/
def writePass (press : Press σ ε) (metrics : FooterMetrics Float) (target : Path) (state : σ) (tree : FileTree) :
    PressRun σ ε Printed :=
  let temporary := tree.freshName target.parent temporaryEnding
  let (outcome, state) := press.pass (some metrics) state
  let written := (tree.write temporary ByteArray.empty).write temporary outcome.document
  let failed (cause : PressError ε) : PressRun σ ε Printed :=
    { state, tree := written.remove temporary, journal := outcome.journal, outcome := .error cause }
  match outcome.stats with
  | .error cause => failed (.pass cause)
  | .ok stats =>
    if stats.pages ≠ metrics.count.total then failed (.pagesDiffer metrics.count.total stats.pages)
    else
      match press.replace written temporary target with
      | .error cause => failed (.files cause)
      | .ok moved =>
        { state, tree := moved, journal := outcome.journal ++ [⟨.info, s!"PDF saved: {target.text}"⟩]
          outcome := .ok { path := target, count := metrics.count, labelWidth := metrics.labelWidth
                           placements := stats.placements, outline := stats.outline } }

/-- The second pass. The directories of the document are made first, and the page labels are measured before anything is
written. -/
def renderPass (press : Press σ ε) (count? : Option PageCount) (target : Path) (state : σ) (tree : FileTree) :
    PressRun σ ε Printed :=
  match count? with
  | none => { state, tree, journal := [], outcome := .error .uncounted }
  | some count =>
    match tree.makeDirectories target.parent with
    | .error cause => { state, tree, journal := [], outcome := .error (.files cause) }
    | .ok tree =>
      match FooterMetrics.ofCount count press.measure with
      | .error cause => { state, tree, journal := [], outcome := .error (.measure cause) }
      | .ok metrics =>
        let run := press.writePass metrics target state tree
        let width := Decimal.fixedText 2 metrics.labelWidth
        { run with journal := ⟨.info, s!"Page label box: {width}pt for {count.total} pages"⟩ :: run.journal }

/-- Both passes in order. -/
def print (press : Press σ ε) (target : Path) (state : σ) (tree : FileTree) : PressRun σ ε Printed :=
  let first := press.layoutPass state tree
  match first.outcome with
  | .error cause => { first with outcome := .error cause }
  | .ok count =>
    let second := press.renderPass (some count) target first.state first.tree
    { second with journal := first.journal ++ second.journal }

end Press

end SlidePress
