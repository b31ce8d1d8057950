import SlidePress.Press.TwoPass
import SlidePress.Proofs.Outcome

/-!
# `SlidePress.Proofs.Press.AllOrNothing` — a document, or the files as they were

The second pass changes files in several steps: it makes directories, writes a temporary file, and moves it to its
place. It can fail between any two of them, and for several reasons. Wherever it fails, all files are as they were
before, also a document that was there already; and where it succeeds, the document holds what the pass has written and
nothing else has changed.

This does not depend on what a pass writes or when it fails, nor on how labels are measured. The temporary file is under
a path that no file had, so removing it undoes everything that was written (`file?_discarded`). Of the last step only
this is used, that it moves the file or changes nothing (`Moves`).
-/

namespace SlidePress

/-- **A file takes the place of another one**: where that succeeds, the file is under its new path only, and all others
are as they were. -/
def Moves (replace : FileTree → Path → Path → Except FileTree.Failure FileTree) : Prop :=
  ∀ {tree moved : FileTree} {source target : Path}, replace tree source target = .ok moved → ∀ path,
    moved.file? path = if path = target then tree.file? source else if path = source then none else tree.file? path

theorem moves_move : Moves FileTree.move := fun moved path => FileTree.file?_move moved path

namespace Press

variable {σ ε : Type}

/-! ## The temporary file -/

/-- The path that a document is written to before it is complete. -/
def temporary (target : Path) (tree : FileTree) : Path := tree.freshName target.parent temporaryEnding

/-- The files when a document has been written and is not in its place yet. -/
def written (target : Path) (tree : FileTree) (document : ByteArray) : FileTree :=
  (tree.write (temporary target tree) ByteArray.empty).write (temporary target tree) document

section

variable (target : Path) (tree : FileTree) (document : ByteArray)

theorem file?_written (path : Path) :
    (written target tree document).file? path =
      if path = temporary target tree then some document else tree.file? path := by
  rw [written, FileTree.file?_write, FileTree.file?_write]
  split
  · rfl
  · rfl

/-- **Removing the temporary file undoes everything.** -/
theorem file?_discarded (path : Path) :
    ((written target tree document).remove (temporary target tree)).file? path = tree.file? path := by
  rw [FileTree.file?_remove, file?_written]
  split
  · next same =>
      rw [same]
      exact (FileTree.file?_freshName tree target.parent temporaryEnding).symm
  · rfl

end

/-! ## Writing a document -/

/-- **What can come of writing a document** when a pass has come to its end: the files and the result, for each point
where it can fail, and where it does not. -/
inductive Writes (press : Press σ ε) (metrics : FooterMetrics Float) (target : Path) (tree : FileTree)
    (out : PassOutcome ε) : FileTree → Except (PressError ε) Printed → Prop
  /-- The pass has failed. -/
  | passFailed {cause : ε} : out.stats = .error cause →
      Writes press metrics target tree out ((written target tree out.document).remove (temporary target tree))
        (.error (.pass cause))
  /-- The pass has made other pages than were counted. -/
  | pagesDiffer {stats : PassStats} : out.stats = .ok stats → stats.pages ≠ metrics.count.total →
      Writes press metrics target tree out ((written target tree out.document).remove (temporary target tree))
        (.error (.pagesDiffer metrics.count.total stats.pages))
  /-- The document cannot take its place. -/
  | notMoved {stats : PassStats} {cause : FileTree.Failure} : out.stats = .ok stats →
      stats.pages = metrics.count.total →
      press.replace (written target tree out.document) (temporary target tree) target = .error cause →
      Writes press metrics target tree out ((written target tree out.document).remove (temporary target tree))
        (.error (.files cause))
  /-- The document takes its place. -/
  | moved {stats : PassStats} {moved : FileTree} : out.stats = .ok stats → stats.pages = metrics.count.total →
      press.replace (written target tree out.document) (temporary target tree) target = .ok moved →
      Writes press metrics target tree out moved
        (.ok { path := target, count := metrics.count, labelWidth := metrics.labelWidth
               placements := stats.placements, outline := stats.outline })

variable (press : Press σ ε)

theorem writePass_writes (metrics : FooterMetrics Float) (target : Path) (state : σ) (tree : FileTree) :
    Writes press metrics target tree (press.pass (some metrics) state).1
      (press.writePass metrics target state tree).tree (press.writePass metrics target state tree).outcome := by
  unfold writePass
  generalize press.pass (some metrics) state = made
  obtain ⟨⟨document, journal, stats⟩, after⟩ := made
  cases stats with
  | error cause => exact .passFailed rfl
  | ok stats =>
      by_cases pages : stats.pages = metrics.count.total
      · simp only [if_neg (not_not_intro pages)]
        cases replaced : press.replace (written target tree document) (temporary target tree) target with
        | error cause =>
            have notMoved : Writes press metrics target tree ⟨document, journal, .ok stats⟩ _ _ :=
              .notMoved rfl pages replaced
            unfold written temporary at replaced
            rw [replaced]
            exact notMoved
        | ok moved =>
            have isMoved : Writes press metrics target tree ⟨document, journal, .ok stats⟩ _ _ :=
              .moved rfl pages replaced
            unfold written temporary at replaced
            rw [replaced]
            exact isMoved
      · simp only [if_pos pages]
        exact .pagesDiffer rfl pages

/-! ## The second pass -/

/-- **What can come of the second pass**: it ends before anything is written, or writes a document. -/
inductive Renders (press : Press σ ε) (count? : Option PageCount) (target : Path) (state : σ) (tree : FileTree) :
    FileTree → Except (PressError ε) Printed → Prop
  /-- The pages have not been counted. -/
  | uncounted : count? = none → Renders press count? target state tree tree (.error .uncounted)
  /-- The directories of the document cannot be made. -/
  | noDirectories {cause : FileTree.Failure} : tree.makeDirectories target.parent = .error cause →
      Renders press count? target state tree tree (.error (.files cause))
  /-- The page labels cannot be measured. -/
  | unmeasured {count : PageCount} {made : FileTree} {cause : MeasureError} : count? = some count →
      tree.makeDirectories target.parent = .ok made → FooterMetrics.ofCount count press.measure = .error cause →
      Renders press count? target state tree made (.error (.measure cause))
  /-- A document is written. -/
  | writes {count : PageCount} {made : FileTree} {metrics : FooterMetrics Float} {files : FileTree}
      {outcome : Except (PressError ε) Printed} : count? = some count →
      tree.makeDirectories target.parent = .ok made → FooterMetrics.ofCount count press.measure = .ok metrics →
      Writes press metrics target made (press.pass (some metrics) state).1 files outcome →
      Renders press count? target state tree files outcome

theorem renderPass_renders (count? : Option PageCount) (target : Path) (state : σ) (tree : FileTree) :
    Renders press count? target state tree (press.renderPass count? target state tree).tree
      (press.renderPass count? target state tree).outcome := by
  cases count? with
  | none => exact .uncounted rfl
  | some count =>
      unfold renderPass
      cases directories : tree.makeDirectories target.parent with
      | error cause => exact .noDirectories directories
      | ok made =>
          cases measured : FooterMetrics.ofCount count press.measure with
          | error cause =>
              simp only [measured]
              exact .unmeasured rfl directories measured
          | ok metrics =>
              simp only [measured]
              exact .writes rfl directories measured (writePass_writes press metrics target state made)

variable {press}

/-- **A document that is not made** leaves all files as they were. -/
theorem Writes.error {metrics : FooterMetrics Float} {target : Path} {tree files : FileTree} {out : PassOutcome ε}
    {outcome : Except (PressError ε) Printed} (h : Writes press metrics target tree out files outcome)
    {cause : PressError ε} (failed : outcome = .error cause) (path : Path) : files.file? path = tree.file? path := by
  cases h with
  | passFailed _ => exact file?_discarded target tree out.document path
  | pagesDiffer _ _ => exact file?_discarded target tree out.document path
  | notMoved _ _ _ => exact file?_discarded target tree out.document path
  | moved _ _ _ => cases failed

/-- **A document that is made** holds what the pass has written, and has the pages that were counted. -/
theorem Writes.ok (moves : Moves press.replace) {metrics : FooterMetrics Float} {target : Path}
    {tree files : FileTree} {out : PassOutcome ε} {outcome : Except (PressError ε) Printed}
    (h : Writes press metrics target tree out files outcome) {printed : Printed} (made : outcome = .ok printed) :
    (∃ stats, out.stats = .ok stats ∧ stats.pages = metrics.count.total) ∧
      ∀ path, files.file? path = if path = target then some out.document else tree.file? path := by
  cases h with
  | passFailed _ => cases made
  | pagesDiffer _ _ => cases made
  | notMoved _ _ _ => cases made
  | @moved stats _ isStats pages replaced =>
      refine ⟨⟨stats, isStats, pages⟩, ?_⟩
      intro path
      rw [moves replaced path, file?_written, file?_written, if_pos rfl]
      -- the temporary file is gone, and there was no file under its path before
      by_cases place : path = target
      · rw [if_pos place, if_pos place]
      · rw [if_neg place, if_neg place]
        split
        · next same =>
            rw [same]
            exact (FileTree.file?_freshName tree target.parent temporaryEnding).symm
        · rfl

end Press

/-- **A document, or the files as they were.** Whatever a pass does and however labels are measured, a second pass that
fails leaves all files as they were before it: none is changed, and none is new. One that succeeds has made the pages
that were counted; the document holds what the pass has written, and all other files are as they were. -/
theorem renderPass_allOrNothing {σ ε : Type} (press : Press σ ε) (moves : Moves press.replace)
    (count? : Option PageCount) (target : Path) (state : σ) (tree : FileTree) :
    (∀ cause, (press.renderPass count? target state tree).outcome = .error cause →
        ∀ path, (press.renderPass count? target state tree).tree.file? path = tree.file? path) ∧
      ∀ printed, (press.renderPass count? target state tree).outcome = .ok printed →
        ∃ count metrics stats, count? = some count ∧ FooterMetrics.ofCount count press.measure = .ok metrics ∧
          (press.pass (some metrics) state).1.stats = .ok stats ∧ stats.pages = count.total ∧
          ∀ path, (press.renderPass count? target state tree).tree.file? path =
            if path = target then some (press.pass (some metrics) state).1.document else tree.file? path := by
  have renders := Press.renderPass_renders press count? target state tree
  generalize (press.renderPass count? target state tree).tree = files at renders
  generalize (press.renderPass count? target state tree).outcome = outcome at renders
  constructor
  · intro cause failed path
    cases renders with
    | uncounted _ => rfl
    | noDirectories _ => rfl
    | unmeasured _ directories _ => exact FileTree.file?_makeDirectories directories path
    | writes _ directories _ writes =>
        rw [writes.error failed path]
        exact FileTree.file?_makeDirectories directories path
  · intro printed made
    cases renders with
    | uncounted _ => cases made
    | noDirectories _ => cases made
    | unmeasured _ _ _ => cases made
    | @writes count _ metrics _ _ counted directories measured writes =>
        obtain ⟨⟨stats, isStats, pages⟩, holds⟩ := writes.ok moves made
        have sameCount : metrics.count = count := by
          obtain ⟨labelWidth, -, rfl⟩ := exists_of_map_eq_ok measured
          rfl
        refine ⟨count, metrics, stats, counted, measured, isStats, ?_, ?_⟩
        · rw [pages, sameCount]
        · intro path
          rw [holds path, FileTree.file?_makeDirectories directories path]

/-- A press whose documents have two pages, whatever was counted. -/
def twoPages : Press Unit Unit where
  measure := fun label => .ok label.length.toFloat
  pass := fun _ state => ({ document := "two pages".toUTF8, stats := .ok { pages := 2 } }, state)

/-- A document stays where other pages were counted than a new one has, and gives way where they are the same. -/
theorem renderPass_allOrNothing_over_document :
    let target := Path.parse "out/deck.pdf"
    let tree : FileTree := { files := [(target, "old".toUTF8)] }
    let refused := twoPages.renderPass (some ⟨3, by decide⟩) target () tree
    let printed := twoPages.renderPass (some ⟨2, by decide⟩) target () tree
    Moves twoPages.replace ∧
      (refused.outcome = .error (.pagesDiffer 3 2) ∧ ∀ path, refused.tree.file? path = tree.file? path) ∧
      (∃ document, printed.outcome = .ok document) ∧ printed.tree.file? target = some "two pages".toUTF8 := by
  intro target tree refused printed
  have refuses : refused.outcome = .error (.pagesDiffer 3 2) := by rfl
  have prints : ∃ document, printed.outcome = .ok document := by
    have succeeds : printed.outcome.toOption.isSome = true := by decide +kernel
    obtain ⟨document, found⟩ := Option.isSome_iff_exists.mp succeeds
    exact ⟨document, ok_of_toOption found⟩
  obtain ⟨document, made⟩ := prints
  obtain ⟨_, _, _, _, _, _, _, holds⟩ :=
    (renderPass_allOrNothing twoPages moves_move (some ⟨2, by decide⟩) target () tree).2 document made
  refine ⟨moves_move, ⟨refuses, ?_⟩, ⟨document, made⟩, ?_⟩
  · exact (renderPass_allOrNothing twoPages moves_move (some ⟨3, by decide⟩) target () tree).1 _ refuses
  · exact (holds target).trans (if_pos rfl)

end SlidePress
