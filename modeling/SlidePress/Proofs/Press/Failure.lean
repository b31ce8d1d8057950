import SlidePress.Press.Build
import SlidePress.Proofs.Press.PageCount

/-!
# `SlidePress.Proofs.Press.Failure` — the failures of a build

A build fails for many reasons, and most of them are reported: what is wrong with the configuration, with the deck or
with its layout. Once the blocks of a file are read, all of them are, as long as the document can be put in its place:
the pages are counted before they are needed, there is a page at least, and the temporary file is there to be moved.
-/

namespace SlidePress

theorem FileTree.move_ok {tree : FileTree} {source target : Path} {bytes : ByteArray}
    (free : tree.isDirectory target = false) (found : tree.file? source = some bytes) :
    tree.move source target = .ok ((tree.remove source).write target bytes) := by
  unfold FileTree.move
  rw [free, found]
  rfl

/-- A press that fails is reported, whatever its pass says. -/
theorem PassError.report?_isSome (cause : PassError) :
    (BuildError.press (.pass cause)).report?.isSome = true := by
  cases cause <;> rfl

namespace Typeset

/-- **A deck that cannot be printed** is reported, where its document can be put in its place. -/
theorem print_reported {set : Typeset} (numbers : set.NumbersPages) {target : Path} {headers : List Header}
    {tree made : FileTree} (directories : tree.makeDirectories target.parent = .ok made)
    (free : made.isDirectory target = false) {cause : PressError PassError}
    (failed : (set.press.print target headers tree).outcome = .error cause) :
    (BuildError.press cause).report?.isSome = true := by
  have first := Press.layoutPass_cases set.press (press_numbersPages numbers) headers tree
  rcases Press.print_cases set.press target headers tree with ⟨other, refused, outcome, -⟩ |
      ⟨total, later, counted, outcome, -⟩
  · obtain rfl := Except.error.inj (failed.symm.trans outcome)
    rcases first with ⟨passError, -, isError⟩ | ⟨count, -, isCount⟩
    · obtain rfl := Except.error.inj (refused.symm.trans isError)
      exact passError.report?_isSome
    · cases refused.symm.trans isCount
  · have renders := Press.renderPass_renders set.press (some total) target later tree
    generalize (set.press.renderPass (some total) target later tree).tree = files at renders
    rw [outcome.symm.trans failed] at renders
    cases renders with
    | uncounted none_ => cases none_
    | noDirectories refused => cases refused.symm.trans directories
    | unmeasured => rfl
    | @writes _ _ metrics _ _ _ directories' _ writes =>
        obtain rfl := Except.ok.inj (directories.symm.trans directories')
        cases writes with
        | passFailed => exact PassError.report?_isSome _
        | pagesDiffer => rfl
        | notMoved _ _ refused =>
            -- the temporary file has just been written, and no directory is in its way
            have there := Press.file?_written target made (set.press.pass (some metrics) later).1.document
              (Press.temporary target made)
            rw [if_pos rfl] at there
            cases refused.symm.trans (FileTree.move_ok free there)

end Typeset

namespace Builder

theorem buildFile_unreadable (builder : Builder) {source : Path} (target : Path) {tree : FileTree} {cause : Markdown.ReadError}
    (unreadable : Markdown.blocksInFile (tree.file? source) = .error cause) :
    (builder.buildFile source target tree).outcome = .error (.read cause) := by
  unfold buildFile
  simp only [unreadable]

/-- A deck is printed in a style, unless the style cannot be resolved. -/
theorem printDeck_cases (builder : Builder) (deck : Deck) (target : Path) (tree : FileTree) :
    (∃ cause, (builder.printDeck deck target tree).outcome = .error (.config cause)) ∨
      ∃ style fonts, (builder.printDeck deck target tree).outcome =
        ((builder.typeset style fonts deck).press.print target [] tree).outcome.mapError .press := by
  unfold printDeck
  dsimp only
  rcases builder.config.resolveOn { fonts := builder.library.registered } builder.library.toStyleLibrary with
    ⟨cause | style, desk⟩
  · exact Or.inl ⟨cause, rfl⟩
  · exact Or.inr ⟨style, desk.fonts, rfl⟩

theorem outcome_after (journal : Journal) (run : BuildRun) : (run.after journal).outcome = run.outcome := rfl

/-- Blocks are printed as the deck that they are compiled to, unless that is inconsistent. -/
theorem printBlocks_cases (builder : Builder) (blocks : List Block) (between : Journal) (target : Path)
    (tree : FileTree) :
    (∃ cause, (builder.printBlocks blocks between target tree).outcome = .error (.inconsistent cause)) ∨
      ∃ deck, (builder.printBlocks blocks between target tree).outcome = (builder.printDeck deck target tree).outcome := by
  unfold printBlocks compile
  cases (compileDeck blocks).check with
  | error cause => exact Or.inl ⟨cause, rfl⟩
  | ok deck =>
      refine Or.inr ⟨deck, ?_⟩
      dsimp only [Except.mapError]
      rw [outcome_after]

/-- **A build that fails on a file that can be read** is reported, where its document can be put in its place. -/
theorem buildFile_reported {builder : Builder} (numbers : builder.library.NumbersPages) {source target : Path}
    {tree made : FileTree}
    (directories : tree.makeDirectories target.parent = .ok made) (free : made.isDirectory target = false)
    {blocks : List Block} (readable : Markdown.blocksInFile (tree.file? source) = .ok blocks) {cause : BuildError}
    (failed : (builder.buildFile source target tree).outcome = .error cause) : cause.report?.isSome = true := by
  have printed : ∃ between, (builder.buildFile source target tree).outcome =
      (builder.printBlocks blocks between target tree).outcome := by
    unfold buildFile
    simp only [readable]
    exact ⟨_, rfl⟩
  obtain ⟨between, outcome⟩ := printed
  rw [outcome] at failed
  rcases builder.printBlocks_cases blocks between target tree with ⟨other, inconsistent⟩ | ⟨deck, outcome'⟩
  · obtain rfl := Except.error.inj (failed.symm.trans inconsistent)
    rfl
  · rw [outcome'] at failed
    rcases builder.printDeck_cases deck target tree with ⟨other, unstyled⟩ | ⟨style, fonts, outcome''⟩
    · obtain rfl := Except.error.inj (failed.symm.trans unstyled)
      rfl
    · rw [outcome''] at failed
      cases result : ((builder.typeset style fonts deck).press.print target [] tree).outcome with
      | ok printed =>
          rw [result] at failed
          cases failed
      | error refused =>
          rw [result] at failed
          obtain rfl : cause = .press refused := (Except.error.inj failed).symm
          exact Typeset.print_reported (Typeset.numbersPages_of_library numbers rfl) directories free result

end Builder

end SlidePress
