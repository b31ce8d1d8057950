import SlidePress.Press.Typeset
import SlidePress.Proofs.Page.Labels
import SlidePress.Proofs.Press.AllOrNothing

/-!
# `SlidePress.Proofs.Press.PageCount` — every page is counted and labelled

A document is made in two passes, and three things have to agree: the pages that the first pass counts, the pages that
the second one makes, and the labels of its footers, which name the number that was counted.

What a pass says of its pages is right by itself (`MakesPages.stats`), whoever sets the story: it needs only that the
pages that end are numbered one by one. The first pass then always has a page count, since there is a page at least; the
second pass is refused exactly if it makes another number of pages; and if it is not refused, its labels go up to the
number of pages that the document has.
-/

namespace SlidePress

namespace Press

variable {σ ε : Type}

/-! ## Passes over numbered pages -/

/-- **A pass over numbered pages** succeeds, after pages with the numbers 1, 2, 3 and so on have ended, at least one. -/
def MakesPages (press : Press σ ε) (footer : Option (FooterMetrics Float)) (state : σ) (count : Nat) : Prop :=
  1 ≤ count ∧ ∃ chrome events final calls, endedPages 1 events = pageNumbers count ∧
    ({ chrome, footer } : Pass).run {} events = (final, calls, .ok ()) ∧
    (press.pass footer state).1.stats =
      .ok { pages := final.pages, outline := final.outline, placements := final.placements }

/-- **A press that numbers its pages**: all its passes that succeed are passes over numbered pages. How many pages a pass
makes may depend on the footer and on the state. -/
def NumbersPages (press : Press σ ε) : Prop :=
  ∀ footer state stats, (press.pass footer state).1.stats = .ok stats → ∃ count, press.MakesPages footer state count

variable {press : Press σ ε} {footer : Option (FooterMetrics Float)} {state : σ} {count : Nat}

/-- **What a pass says of its pages**: how many there are, and their labels. -/
theorem MakesPages.stats (h : press.MakesPages footer state count) :
    ∃ stats, (press.pass footer state).1.stats = .ok stats ∧ stats.pages = count ∧
      ∀ metrics, footer = some metrics →
        stats.placements.map FooterPlacement.shown = (pageNumbers count).map fun page => (page, metrics.count.label page) := by
  obtain ⟨_, chrome, events, final, calls, numbered, run, isStats⟩ := h
  exact ⟨_, isStats, Pass.run_counted numbered run, (Pass.run_labels numbered run).2⟩

/-- A pass of a press that numbers its pages says how many there are, and their labels. -/
theorem NumbersPages.exists_count (numbers : press.NumbersPages) {stats : PassStats}
    (isStats : (press.pass footer state).1.stats = .ok stats) :
    ∃ count, press.MakesPages footer state count ∧ stats.pages = count ∧
      ∀ metrics, footer = some metrics →
        stats.placements.map FooterPlacement.shown = (pageNumbers count).map fun page => (page, metrics.count.label page) := by
  obtain ⟨count, makes⟩ := numbers footer state stats isStats
  obtain ⟨stats', isStats', pages, labels⟩ := makes.stats
  obtain rfl := Except.ok.inj (isStats'.symm.trans isStats)
  exact ⟨count, makes, pages, labels⟩

/-! ## The two passes -/

/-- **What can come of the first pass**: it fails, or has made no page, or counts its pages. -/
inductive Counts (press : Press σ ε) (state : σ) : Except (PressError ε) PageCount → Prop
  /-- The pass has failed. -/
  | passFailed {cause : ε} : (press.pass none state).1.stats = .error cause → Counts press state (.error (.pass cause))
  /-- There is no page. -/
  | noPages {stats : PassStats} {cause : NoPages} : (press.pass none state).1.stats = .ok stats →
      PageCount.ofInt stats.pages = .error cause → Counts press state (.error (.noPages cause))
  /-- The pages are counted. -/
  | counted {stats : PassStats} {count : PageCount} : (press.pass none state).1.stats = .ok stats →
      PageCount.ofInt stats.pages = .ok count → Counts press state (.ok count)

theorem layoutPass_counts (press : Press σ ε) (state : σ) (tree : FileTree) :
    Counts press state (press.layoutPass state tree).outcome := by
  unfold layoutPass
  rcases made : press.pass none state with ⟨out, after⟩
  have isOut : (press.pass none state).1 = out := by rw [made]
  cases isStats : out.stats with
  | error cause =>
      simp only [isStats]
      exact .passFailed (by rw [isOut, isStats])
  | ok stats =>
      have passed : (press.pass none state).1.stats = .ok stats := by rw [isOut, isStats]
      cases counted : PageCount.ofInt stats.pages with
      | error cause =>
          simp only [isStats, counted]
          exact .noPages passed counted
      | ok count =>
          simp only [isStats, counted]
          exact .counted passed counted

/-- **The first pass** of a press that numbers its pages fails only as its pass does, and has a page count otherwise,
which is the number of its pages. -/
theorem layoutPass_cases (press : Press σ ε) (numbers : press.NumbersPages) (state : σ) (tree : FileTree) :
    (∃ cause, (press.pass none state).1.stats = .error cause ∧
        (press.layoutPass state tree).outcome = .error (.pass cause)) ∨
      ∃ count : PageCount, press.MakesPages none state count.total ∧ (press.layoutPass state tree).outcome = .ok count := by
  have counts := layoutPass_counts press state tree
  generalize (press.layoutPass state tree).outcome = outcome at counts ⊢
  cases counts with
  | passFailed failed => exact Or.inl ⟨_, failed, rfl⟩
  | @noPages stats cause isStats none_ =>
      obtain ⟨count, makes, pages, -⟩ := numbers.exists_count isStats
      -- a pass over numbered pages has made one at least
      have positive : 1 ≤ stats.pages := by
        have atLeast := makes.1
        omega
      rw [PageCount.ofInt, dif_pos positive] at none_
      cases none_
  | @counted stats total isStats isTotal =>
      obtain ⟨count, makes, pages, -⟩ := numbers.exists_count isStats
      have same := PageCount.ofInt_total isTotal
      obtain rfl : total.total = count := by omega
      exact Or.inr ⟨total, makes, rfl⟩

/-- **The second pass is refused** exactly if it makes another number of pages than was counted. -/
theorem renderPass_pagesDiffer_iff {total : PageCount} {target : Path} {tree made : FileTree}
    {metrics : FooterMetrics Float} {stats : PassStats} (directories : tree.makeDirectories target.parent = .ok made)
    (measured : FooterMetrics.ofCount total press.measure = .ok metrics)
    (isStats : (press.pass (some metrics) state).1.stats = .ok stats) :
    (press.renderPass (some total) target state tree).outcome = .error (.pagesDiffer total.total stats.pages) ↔
      stats.pages ≠ total.total := by
  have sameTotal : metrics.count = total := by
    obtain ⟨labelWidth, -, rfl⟩ := exists_of_map_eq_ok measured
    rfl
  have renders := renderPass_renders press (some total) target state tree
  generalize (press.renderPass (some total) target state tree).tree = files at renders
  generalize (press.renderPass (some total) target state tree).outcome = outcome at renders
  cases renders with
  | uncounted none_ => cases none_
  | noDirectories failed => cases failed.symm.trans directories
  | unmeasured isTotal _ failed =>
      cases isTotal
      cases failed.symm.trans measured
  | @writes _ _ metrics' _ _ isTotal _ measured' writes =>
      cases isTotal
      obtain rfl := Except.ok.inj (measured'.symm.trans measured)
      cases writes with
      | passFailed failed => cases failed.symm.trans isStats
      | pagesDiffer isStats' differ =>
          obtain rfl := Except.ok.inj (isStats'.symm.trans isStats)
          rw [sameTotal] at differ ⊢
          exact ⟨fun _ => differ, fun _ => rfl⟩
      | notMoved isStats' same _ =>
          obtain rfl := Except.ok.inj (isStats'.symm.trans isStats)
          rw [sameTotal] at same
          exact ⟨fun refused => (by cases refused), fun differ => absurd same differ⟩
      | moved isStats' same _ =>
          obtain rfl := Except.ok.inj (isStats'.symm.trans isStats)
          rw [sameTotal] at same
          exact ⟨fun refused => (by cases refused), fun differ => absurd same differ⟩

theorem layoutPass_tree (press : Press σ ε) (state : σ) (tree : FileTree) :
    (press.layoutPass state tree).tree = tree := by
  unfold layoutPass
  dsimp only
  split
  · rfl
  · split <;> rfl

/-- **Both passes**: the first one fails, or the second one decides, with the count of the first. -/
theorem print_cases (press : Press σ ε) (target : Path) (state : σ) (tree : FileTree) :
    (∃ cause, (press.layoutPass state tree).outcome = .error cause ∧
        (press.print target state tree).outcome = .error cause ∧ (press.print target state tree).tree = tree) ∨
      ∃ (total : PageCount) (later : σ), (press.layoutPass state tree).outcome = .ok total ∧
        (press.print target state tree).outcome = (press.renderPass (some total) target later tree).outcome ∧
        (press.print target state tree).tree = (press.renderPass (some total) target later tree).tree := by
  have sameTree := layoutPass_tree press state tree
  unfold print
  dsimp only
  cases counted : (press.layoutPass state tree).outcome with
  | error cause => exact Or.inl ⟨cause, rfl, rfl, sameTree⟩
  | ok total =>
      refine Or.inr ⟨total, (press.layoutPass state tree).state, rfl, ?_, ?_⟩
      · dsimp only
        rw [sameTree]
      · dsimp only
        rw [sameTree]

/-- **A document that is made** is that of a pass which has made the pages that were counted, and its labels are those of
its pages. -/
theorem labels_of_print (numbers : press.NumbersPages) (moves : Moves press.replace) {target : Path} {tree : FileTree}
    {printed : Printed} (made : (press.print target state tree).outcome = .ok printed) :
    ∃ (metrics : FooterMetrics Float) (later : σ), metrics.count = printed.count ∧
      press.MakesPages (some metrics) later printed.count.total ∧
      (press.print target state tree).tree.file? target = some (press.pass (some metrics) later).1.document ∧
      printed.placements.map FooterPlacement.shown =
        (pageNumbers printed.count.total).map fun page => (page, printed.count.label page) := by
  rcases print_cases press target state tree with ⟨cause, -, failed, -⟩ | ⟨total, later, -, rendered, sameTree⟩
  · rw [failed] at made
    cases made
  · rw [rendered] at made
    rw [sameTree]
    have renders := renderPass_renders press (some total) target later tree
    generalize (press.renderPass (some total) target later tree).tree = files at renders
    rw [made] at renders
    cases renders with
    | @writes _ _ metrics _ _ _ _ _ writes =>
        have holds := (writes.ok moves rfl).2 target
        rw [if_pos rfl] at holds
        cases writes with
        | @moved stats _ isStats samePages _ =>
            obtain ⟨count, makes, pages, labels⟩ := numbers.exists_count isStats
            obtain rfl : metrics.count.total = count := by omega
            exact ⟨metrics, later, rfl, makes, holds, labels metrics rfl⟩

end Press

/-! ## The press for decks -/

/-- **A library numbers the pages** of every story that it sets: they end one after another, and there is one at least. -/
def PressLibrary.NumbersPages (library : PressLibrary) : Prop :=
  ∀ fonts frame story events, story ≠ [] → library.layout fonts frame story = (events, none) →
    ∃ count, 1 ≤ count ∧ endedPages 1 events = pageNumbers count

/-- A library that fills the pages line by line numbers them. -/
theorem PressLibrary.filling_numbersPages (library : StyleLibrary) : (PressLibrary.filling library).NumbersPages := by
  intro fonts frame story events _ layout
  unfold filling at layout
  rcases filled : flow fonts.metrics frame story with ⟨placed, failure⟩
  simp only [filled, Prod.mk.injEq, Option.map_eq_none_iff] at layout
  obtain ⟨rfl, rfl⟩ := layout
  exact flow_numbered filled

theorem Chrome.story_ne_nil {chrome : Chrome} {wrap : Wrap} {slides : List Slide} {story : List Flowable}
    (made : chrome.story wrap slides = .ok story) : story ≠ [] := by
  unfold Chrome.story at made
  obtain ⟨later, -, rfl⟩ := exists_of_map_eq_ok made
  intro nothing
  cases (List.append_eq_nil_iff.mp nothing).1

namespace Typeset

/-- **A layout that numbers its pages**: those that it fills end one after another, and there is one at least. -/
def NumbersPages (set : Typeset) : Prop :=
  ∀ story events, set.chrome.story set.wrap set.slides = .ok story →
    set.layout set.chrome.frame story = (events, none) → ∃ count, 1 ≤ count ∧ endedPages 1 events = pageNumbers count

/-- The layout of a library that numbers the pages numbers those of a deck. -/
theorem numbersPages_of_library {set : Typeset} {library : PressLibrary} (numbers : library.NumbersPages)
    {fonts : FontRegistry} (layout : set.layout = library.layout fonts) : set.NumbersPages := by
  intro story events isStory filled
  rw [layout] at filled
  exact numbers fonts set.chrome.frame story events (Chrome.story_ne_nil isStory) filled

/-- **A pass that succeeds** is a run over the pages that the layout fills, and its document is what is drawn there. -/
theorem exists_run_of_stats {set : Typeset} {footer : Option (FooterMetrics Float)} {headers : List Header}
    {stats : PassStats} (isStats : (set.pass footer headers).1.stats = .ok stats) :
    ∃ story events final calls, set.chrome.story set.wrap set.slides = .ok story ∧
      set.layout set.chrome.frame story = (events, none) ∧
      ({ chrome := set.chrome, footer } : Pass).run {} events = (final, calls, .ok ()) ∧
      stats = { pages := final.pages, outline := final.outline, placements := final.placements } ∧
      (set.pass footer headers).1.document = document calls := by
  unfold pass at isStats ⊢
  cases isStory : set.chrome.story set.wrap set.slides with
  | error cause =>
      rw [isStory] at isStats
      cases isStats
  | ok story =>
      rw [isStory] at isStats
      rcases layout : set.layout set.chrome.frame story with ⟨events, failure⟩
      rcases run : ({ chrome := set.chrome, footer } : Pass).run {} events with ⟨final, calls, drawn⟩
      simp only [setStory, layout, run] at isStats ⊢
      cases drawn with
      | error cause => cases isStats
      | ok _ =>
          cases failure with
          | some cause => cases isStats
          | none => exact ⟨story, events, final, calls, rfl, layout, run, (Except.ok.inj isStats).symm, rfl⟩

/-- **The press for decks** numbers its pages if its layout does. -/
theorem press_numbersPages {set : Typeset} (numbers : set.NumbersPages) : set.press.NumbersPages := by
  intro footer headers stats isStats
  obtain ⟨story, events, final, calls, isStory, layout, run, rfl, -⟩ := exists_run_of_stats isStats
  obtain ⟨count, positive, numbered⟩ := numbers story events isStory layout
  exact ⟨count, positive, set.chrome, events, final, calls, numbered, run, isStats⟩

end Typeset

/-! ## The labels of a pass and of a document -/

/-- What a pass says of its pages, as many as were numbered. -/
structure PassLabelled (pass : Pass) (events : List PassEvent) (count : Nat) : Prop where
  /-- It fails only where a date has to be measured and cannot be. -/
  succeeds : (pass.run {} events).2.2 = .ok () ↔
    (pass.footer ≠ none → pass.chrome.style.date = "" ∨ ∃ width, pass.chrome.measure pass.chrome.style.date = .ok width)
  pages : (pass.run {} events).2.2 = .ok () → (pass.run {} events).1.pages = count
  unlabelled : (pass.run {} events).2.2 = .ok () → pass.footer = none → (pass.run {} events).1.placements = []
  labels : (pass.run {} events).2.2 = .ok () → ∀ metrics, pass.footer = some metrics →
    (pass.run {} events).1.placements.map FooterPlacement.shown =
      (pageNumbers count).map fun page => (page, metrics.count.label page)

/-- What the passes of a press say of their pages. -/
structure PressLabelled {σ ε : Type} (press : Press σ ε) : Prop where
  /-- The first pass fails as its pass does, or counts its pages. -/
  counts : ∀ state tree,
    (∃ cause, (press.pass none state).1.stats = .error cause ∧
        (press.layoutPass state tree).outcome = .error (.pass cause)) ∨
      ∃ count : PageCount, press.MakesPages none state count.total ∧ (press.layoutPass state tree).outcome = .ok count
  /-- The second pass is refused for its pages exactly if there are not as many as were counted. -/
  refuses : ∀ (total : PageCount) target state (tree made : FileTree) metrics stats,
    tree.makeDirectories target.parent = .ok made → FooterMetrics.ofCount total press.measure = .ok metrics →
    (press.pass (some metrics) state).1.stats = .ok stats →
    ∃ count, press.MakesPages (some metrics) state count ∧
      ((press.renderPass (some total) target state tree).outcome = .error (.pagesDiffer total.total count) ↔
        count ≠ total.total)
  /-- A document that is made has the pages that were counted, and each of them has its label. -/
  labels : ∀ target state tree printed, (press.print target state tree).outcome = .ok printed →
    ∃ (metrics : FooterMetrics Float) (later : σ), metrics.count = printed.count ∧
      press.MakesPages (some metrics) later printed.count.total ∧
      (press.print target state tree).tree.file? target = some (press.pass (some metrics) later).1.document ∧
      printed.placements.map FooterPlacement.shown =
        (pageNumbers printed.count.total).map fun page => (page, printed.count.label page)

theorem passLabelled_of_numbered (pass : Pass) {events : List PassEvent} {count : Nat} (positive : 1 ≤ count)
    (numbered : endedPages 1 events = pageNumbers count) : PassLabelled pass events count := by
  have complete (ok : (pass.run {} events).2.2 = .ok ()) :
      pass.run {} events = ((pass.run {} events).1, (pass.run {} events).2.1, .ok ()) := by
    rw [← ok]
  refine ⟨?_, ?_, ?_, ?_⟩
  · have page : endedPages 1 events ≠ [] := by
      rw [numbered]
      intro none_
      have length : (pageNumbers count).length = 0 := by
        rw [none_]
        rfl
      simp only [pageNumbers, List.length_map, List.length_range] at length
      omega
    rw [← Pass.footerOutcome_eq_ok_iff, Pass.run_eq_ok_iff]
    exact or_iff_left page
  · intro ok
    exact Pass.run_counted numbered (complete ok)
  · intro ok noFooter
    exact (Pass.run_labels numbered (complete ok)).1 noFooter
  · intro ok metrics footer
    exact (Pass.run_labels numbered (complete ok)).2 metrics footer

theorem pressLabelled_of_numbersPages {σ ε : Type} {press : Press σ ε} (numbers : press.NumbersPages)
    (moves : Moves press.replace) : PressLabelled press where
  counts := press.layoutPass_cases numbers
  refuses := by
    intro total target state tree made metrics stats directories measured isStats
    obtain ⟨count, makes, pages, -⟩ := numbers.exists_count isStats
    refine ⟨count, makes, ?_⟩
    have refused := Press.renderPass_pagesDiffer_iff directories measured isStats
    rw [pages] at refused
    rw [refused]
    omega
  labels := fun _ _ _ _ made => Press.labels_of_print numbers moves made

/-- **Every page is counted and has its label.** Where pages with the numbers 1, 2, 3 and so on end, whatever else
happens, a pass that succeeds has counted them, and has recorded one label for each of them, in order, if there are
footers. Where all passes of a press are like this, the first one has a page count, the second one is refused exactly if
it makes other pages, and a document has exactly the labels of its pages. All passes over a deck are like this if its
layout numbers the pages. -/
theorem pages_labelled :
    (∀ (pass : Pass) events count, 1 ≤ count → endedPages 1 events = pageNumbers count → PassLabelled pass events count) ∧
      (∀ {σ ε : Type} (press : Press σ ε), press.NumbersPages → Moves press.replace → PressLabelled press) ∧
        ∀ set : Typeset, set.NumbersPages → PressLabelled set.press := by
  refine ⟨?_, ?_, ?_⟩
  · intro pass events count positive numbered
    exact passLabelled_of_numbered pass positive numbered
  · intro σ ε press numbers moves
    exact pressLabelled_of_numbersPages numbers moves
  · intro set numbers
    exact pressLabelled_of_numbersPages (Typeset.press_numbersPages numbers) moves_move

/-- An opening page and a slide: both are counted and labelled, and no document is made for another count. -/
theorem pages_labelled_opening_and_slide :
    let slide : Slide := { title := "One" }
    let set : Typeset :=
      { chrome :=
          { style := ({} : Config).styleWith .black "Helvetica" "Helvetica" "Courier" "Helvetica"
            measure := fun text => .ok text.length.toFloat }
        wrap := fun _ _ _ _ => 0
        slides := [slide]
        layout := fun _ _ => ([.pageEnd, .placed (.anchor 0 slide), .pageEnd], none) }
    let target := Path.parse "out/deck.pdf"
    set.NumbersPages ∧
      (∃ printed, (set.press.print target [] {}).outcome = .ok printed ∧ printed.count.total = 2 ∧
        printed.placements.map FooterPlacement.shown = [(1, "1/2"), (2, "2/2")]) ∧
      (set.press.renderPass (some ⟨3, by decide⟩) target [] {}).outcome = .error (.pagesDiffer 3 2) := by
  intro slide set target
  have numbers : set.NumbersPages := by
    intro story events _ layout
    cases layout
    exact ⟨2, by decide, rfl⟩
  have labelled := pages_labelled.2.2 set numbers
  refine ⟨numbers, ?_, ?_⟩
  · have succeeds : (set.press.print target [] {}).outcome.toOption.isSome = true := by decide +kernel
    obtain ⟨printed, found⟩ := Option.isSome_iff_exists.mp succeeds
    have made := ok_of_toOption found
    have counted : printed.count = ⟨2, by decide⟩ := by
      have counts : ((set.press.print target [] {}).outcome.toOption.map Printed.count) = some ⟨2, by decide⟩ := by
        decide +kernel
      rw [found] at counts
      exact Option.some.inj counts
    obtain ⟨_, _, _, _, _, labels⟩ := labelled.labels target [] {} printed made
    refine ⟨printed, made, by rw [counted], ?_⟩
    rw [labels, counted]
    decide +kernel
  · obtain ⟨metrics, measured⟩ : ∃ metrics, FooterMetrics.ofCount ⟨3, by decide⟩ set.press.measure = .ok metrics := ⟨_, rfl⟩
    obtain ⟨stats, isStats, two⟩ : ∃ stats, (set.press.pass (some metrics) []).1.stats = .ok stats ∧ stats.pages = 2 :=
      ⟨_, rfl, rfl⟩
    obtain ⟨count, makes, refuses⟩ := labelled.refuses ⟨3, by decide⟩ target [] {} _ metrics stats rfl measured isStats
    obtain ⟨stats', isStats', pages, -⟩ := makes.stats
    obtain rfl := Except.ok.inj (isStats'.symm.trans isStats)
    obtain rfl : count = 2 := by omega
    exact refuses.mpr (by decide)

end SlidePress
