import SlidePress.Page.Pass

/-!
# `SlidePress.Proofs.Page.Pass` — what an event of a pass can do

A pass goes through its events one at a time. Only the anchor of a slide touches the outline: it appends the entries
that the slide introduces (`Slide.entries`), marks the page with a target and an entry for each of them, and makes its
slide the one that the page belongs to (`begin_state`, `begin_draws`). Whatever else is placed does nothing, and the end
of a page draws on the page alone (`endPage_calls`): the header of the slide that it belongs to, and the footer with its
number, on which the footer depends and nothing else (`drawFooter_eq`). So an event begins a slide or leaves the outline
as it is (`step_cases`).

## Contents
- `DrawnEntry`, `DrawCall.isMark`, `Draws`: the outline as it is drawn.
- `Slide.leavesOpen`, `Slide.entries`: the entries that a slide introduces.
- `Chrome.placement_of_drawFooter`, `Chrome.footerPlacement_eq`: what is recorded of a footer.
- `PassEvent.anchor?`: the slide that begins with an event.
- `begin_state`, `begin_draws`: a slide begins.
- `footerCalls`, `placementsOn`, `footerOutcome`, `drawFooter_eq`: the footer of a page, by its number.
- `endPage_of_ok`, `endPage_of_error`, `endPage_calls`, `endPage_ok`, `endPage_error`: a page ends.
- `LeavesOutline`, `step_cases`: one event.
- `run_cons_ok`, `run_cons_error`, `run_append_ok`, `run_append_error`: several events.
-/

namespace SlidePress

/-! ## The outline as it is drawn -/

/-- An outline entry as it is drawn. -/
structure DrawnEntry where
  /-- The key of the target that it leads to. -/
  key : String
  title : String
  level : Nat
deriving DecidableEq, Repr

/-- The outline entry that a call draws. -/
def DrawCall.entry? : DrawCall → Option DrawnEntry
  | .outlineEntry title key level _ => some { key, title, level }
  | _ => none

/-- The key of the target that a call marks. -/
def DrawCall.target? : DrawCall → Option String
  | .target key => some key
  | _ => none

/-- Whether a call only marks the page for the outline, and draws nothing on it. -/
def DrawCall.isMark : DrawCall → Bool
  | .target _ | .outlineEntry .. | .showOutline => true
  | _ => false

/-- The running header of a page that belongs to a slide; a page that belongs to none has none. -/
def Chrome.headerOf (chrome : Chrome) : Option Slide → List DrawCall
  | none => []
  | some slide => chrome.drawHeader slide.header

/-- The calls draw these entries, in order, and a target for each of them. -/
structure Draws (calls : List DrawCall) (entries : List DrawnEntry) : Prop where
  drawn : calls.filterMap DrawCall.entry? = entries
  targets : calls.filterMap DrawCall.target? = entries.map DrawnEntry.key

theorem Draws.append {a b : List DrawCall} {x y : List DrawnEntry} (ha : Draws a x) (hb : Draws b y) :
    Draws (a ++ b) (x ++ y) where
  drawn := by rw [List.filterMap_append, ha.drawn, hb.drawn]
  targets := by rw [List.filterMap_append, ha.targets, hb.targets, List.map_append]

/-- The key of the section that a slide introduces. -/
def sectionKey (index : Nat) : String := s!"s{index}"

/-- The key of the topic that a slide introduces. -/
def topicKey (index : Nat) : String := s!"t{index}"

/-- The entry for what a slide introduces; none for an empty text. -/
def entryFor (key : String) (level : Nat) : Option String → List DrawnEntry
  | none => []
  | some title => if title.isEmpty then [] else [{ key, title, level }]

namespace Slide

/-- Whether a section is open behind a slide: the one that it introduces, if that has a text, or else the one that was
open before. -/
def leavesOpen (slide : Slide) (wasOpen : Bool) : Bool :=
  match slide.newSection with
  | none => wasOpen
  | some title => !title.isEmpty

/-- **The entries that a slide introduces**, the topic below the section that is open. -/
def entries (slide : Slide) (wasOpen : Bool) (index : Nat) : List DrawnEntry :=
  entryFor (sectionKey index) 0 slide.newSection ++
    entryFor (topicKey index) (if slide.leavesOpen wasOpen then 1 else 0) slide.newTopic

end Slide

/-- An entry that is drawn, as the outline records it. -/
def DrawnEntry.recorded (page : Int) (entry : DrawnEntry) : OutlineEntry :=
  { level := entry.level, title := entry.title, page }

/-- The slide that begins with an event, and its index. -/
def PassEvent.anchor? : PassEvent → Option (Slide × Nat)
  | .placed (.anchor index slide) => some (slide, index)
  | _ => none

namespace Chrome

section

variable (chrome : Chrome) (page : Int) (label : Option String) (boxWidth : Float)

theorem placement_of_drawFooter :
    (chrome.drawFooter page label boxWidth).2 = chrome.footerPlacement page label boxWidth := by
  unfold drawFooter
  cases chrome.footerPlacement page label boxWidth <;> rfl

end

/-- Where the date begins, beside a box of some width. -/
def dated (chrome : Chrome) (boxWidth : Float) : Except MeasureError Float :=
  dateStart (FooterFrame.of chrome.style.pageWidth padding gap boxWidth) chrome.style.date chrome.measure

theorem footerPlacement_eq (chrome : Chrome) (page : Int) (label : Option String) (boxWidth : Float) :
    chrome.footerPlacement page label boxWidth =
      (chrome.dated boxWidth).map fun dateX =>
        { page, label := label.getD "", boxWidth
          labelX := (FooterFrame.of chrome.style.pageWidth padding gap boxWidth).labelX, dateX } := rfl

end Chrome

namespace Pass

/-! ## A slide begins -/

theorem addOutline_draws (state : PassState) (key title : String) (level : Nat) :
    Draws (state.addOutline key title level).2 [{ key, title, level }] := by
  unfold PassState.addOutline
  by_cases first : state.outline.isEmpty = true
  · rw [if_pos first]
    exact ⟨rfl, rfl⟩
  · rw [if_neg first]
    exact ⟨rfl, rfl⟩

/-- An outline entry draws marks only. -/
theorem addOutline_marks (state : PassState) (key title : String) (level : Nat) :
    ∀ call ∈ (state.addOutline key title level).2, call.isMark = true := by
  unfold PassState.addOutline
  by_cases first : state.outline.isEmpty = true <;> simp [first, DrawCall.isMark]

section

variable (state : PassState) (index : Nat) (slide : Slide)

theorem beginSection_state :
    (state.beginSection index slide).1 =
      { state with
        sectionOpen := slide.leavesOpen state.sectionOpen
        outline := state.outline ++
          (entryFor (sectionKey index) 0 slide.newSection).map (DrawnEntry.recorded state.page) } := by
  unfold PassState.beginSection Slide.leavesOpen entryFor
  cases slide.newSection with
  | none => simp
  | some title =>
      by_cases empty : title.isEmpty = true
      · simp only [if_pos empty, List.map_nil, List.append_nil]
      · simp only [if_neg empty]
        rfl

theorem beginSection_draws :
    Draws (state.beginSection index slide).2 (entryFor (sectionKey index) 0 slide.newSection) := by
  unfold PassState.beginSection entryFor
  cases slide.newSection with
  | none => exact ⟨rfl, rfl⟩
  | some title =>
      by_cases empty : title.isEmpty = true
      · simp only [if_pos empty]
        exact ⟨rfl, rfl⟩
      · simp only [if_neg empty]
        exact addOutline_draws _ _ _ _

theorem beginTopic_state :
    (state.beginTopic index slide).1 =
      { state with
        outline := state.outline ++
          (entryFor (topicKey index) (if state.sectionOpen then 1 else 0) slide.newTopic).map
            (DrawnEntry.recorded state.page) } := by
  unfold PassState.beginTopic entryFor
  cases slide.newTopic with
  | none => simp
  | some title =>
      by_cases empty : title.isEmpty = true
      · simp only [if_pos empty, List.map_nil, List.append_nil]
      · simp only [if_neg empty]
        rfl

theorem beginTopic_draws :
    Draws (state.beginTopic index slide).2
      (entryFor (topicKey index) (if state.sectionOpen then 1 else 0) slide.newTopic) := by
  unfold PassState.beginTopic entryFor
  cases slide.newTopic with
  | none => exact ⟨rfl, rfl⟩
  | some title =>
      by_cases empty : title.isEmpty = true
      · simp only [if_pos empty]
        exact ⟨rfl, rfl⟩
      · simp only [if_neg empty]
        exact addOutline_draws _ _ _ _

/-- **A slide begins**: the page is its own from then on, and the outline has the entries that it introduces. -/
theorem begin_state :
    (state.begin index slide).1 =
      { state with
        current := some slide
        sectionOpen := slide.leavesOpen state.sectionOpen
        outline := state.outline ++ (slide.entries state.sectionOpen index).map (DrawnEntry.recorded state.page) } := by
  show ((({ state with current := some slide } : PassState).beginSection index slide).1.beginTopic index slide).1 = _
  rw [beginTopic_state, beginSection_state, Slide.entries, List.map_append, List.append_assoc]

/-- **A slide begins**: the entries that it introduces are drawn. -/
theorem begin_draws : Draws (state.begin index slide).2 (slide.entries state.sectionOpen index) := by
  let owned : PassState := { state with current := some slide }
  have opened : (owned.beginSection index slide).1.sectionOpen = slide.leavesOpen state.sectionOpen := by
    rw [beginSection_state]
  have topic := beginTopic_draws (owned.beginSection index slide).1 index slide
  rw [opened] at topic
  exact (beginSection_draws owned index slide).append topic

/-- A slide that begins draws marks only. -/
theorem begin_marks : ∀ call ∈ (state.begin index slide).2, call.isMark = true := by
  have sections : ∀ s : PassState, ∀ call ∈ (s.beginSection index slide).2, call.isMark = true := by
    intro s call mem
    unfold PassState.beginSection at mem
    split at mem
    · cases mem
    · simp only at mem
      split at mem
      · cases mem
      · exact addOutline_marks _ _ _ _ call mem
  have topics : ∀ s : PassState, ∀ call ∈ (s.beginTopic index slide).2, call.isMark = true := by
    intro s call mem
    unfold PassState.beginTopic at mem
    split at mem
    · cases mem
    · split at mem
      · cases mem
      · exact addOutline_marks _ _ _ _ call mem
  intro call mem
  rcases List.mem_append.mp mem with inSection | inTopic
  · exact sections _ call inSection
  · exact topics _ call inTopic

end

/-! ## A page ends -/

theorem draws_of_unmarked {calls : List DrawCall} (unmarked : ∀ call ∈ calls, call.isMark = false) : Draws calls [] := by
  have nothing : ∀ call ∈ calls, call.entry? = none ∧ call.target? = none := by
    intro call mem
    have noMark := unmarked call mem
    cases call <;> first | exact ⟨rfl, rfl⟩ | cases noMark
  exact ⟨List.filterMap_eq_nil_iff.mpr fun call mem => (nothing call mem).1,
    List.filterMap_eq_nil_iff.mpr fun call mem => (nothing call mem).2⟩

theorem drawBar_unmarked (chrome : Chrome) (bottom height : Float) :
    ∀ call ∈ chrome.drawBar bottom height, call.isMark = false := by
  simp [Chrome.drawBar, DrawCall.isMark]

theorem drawUnlessEmpty_unmarked (anchor : Anchor) (x y : Float) (text : String) :
    ∀ call ∈ Chrome.drawUnlessEmpty anchor x y text, call.isMark = false := by
  unfold Chrome.drawUnlessEmpty
  split <;> simp [DrawCall.isMark]

theorem header_unmarked (chrome : Chrome) (header : Header) :
    ∀ call ∈ chrome.drawHeader header, call.isMark = false := by
  intro call mem
  unfold Chrome.drawHeader at mem
  simp only [List.mem_append] at mem
  rcases mem with (bar | left) | right
  · exact drawBar_unmarked _ _ _ call bar
  · exact drawUnlessEmpty_unmarked _ _ _ _ call left
  · exact drawUnlessEmpty_unmarked _ _ _ _ call right

/-- A footer bar is, too, also as far as it gets where the date cannot be measured. -/
theorem footer_unmarked (chrome : Chrome) (page : Int) (label : Option String) (boxWidth : Float) :
    ∀ call ∈ (chrome.drawFooter page label boxWidth).1, call.isMark = false := by
  have texts : ∀ y : Float, ∀ call ∈ chrome.drawBar 0 chrome.footerHeight ++
      Chrome.drawUnlessEmpty .left Chrome.padding y chrome.style.identity ++
      Chrome.drawUnlessEmpty .centre (chrome.style.pageWidth / 2) y chrome.style.shortTitle ++
      Chrome.drawUnlessEmpty .right (chrome.style.pageWidth - Chrome.padding) y (label.getD ""),
      call.isMark = false := by
    intro y call mem
    simp only [List.mem_append] at mem
    rcases mem with ((bar | left) | centre) | right
    · exact drawBar_unmarked _ _ _ call bar
    · exact drawUnlessEmpty_unmarked _ _ _ _ call left
    · exact drawUnlessEmpty_unmarked _ _ _ _ call centre
    · exact drawUnlessEmpty_unmarked _ _ _ _ call right
  unfold Chrome.drawFooter
  simp only
  split
  · exact texts _
  · intro call mem
    rcases List.mem_append.mp mem with first | date
    · exact texts _ call first
    · exact drawUnlessEmpty_unmarked _ _ _ _ call date

section

variable (pass : Pass) (state : PassState)

theorem drawHeader_state :
    (pass.drawHeader state).1 = { state with headers := state.headers ++ (state.current.map Slide.header).toList } := by
  obtain ⟨page, current, sectionOpen, pages, outline, placements, headers⟩ := state
  cases current with
  | none => simp [drawHeader]
  | some slide => rfl

theorem drawHeader_calls : (pass.drawHeader state).2 = pass.chrome.headerOf state.current := by
  obtain ⟨page, current, sectionOpen, pages, outline, placements, headers⟩ := state
  cases current <;> rfl

end

/-! ## The footer of a page, by its number -/

section

variable (pass : Pass)

/-- What is drawn as the footer of a page. -/
def footerCalls (page : Int) : List DrawCall :=
  match pass.footer with
  | none => []
  | some metrics => (pass.chrome.drawFooter page (some (metrics.count.label page)) metrics.labelWidth).1

/-- What is recorded of the footer of a page; nothing where it cannot be placed. -/
def placementsOn (page : Int) : List (FooterPlacement Float) :=
  match pass.footer with
  | none => []
  | some metrics =>
    (pass.chrome.footerPlacement page (some (metrics.count.label page)) metrics.labelWidth).toOption.toList

/-- Whether footers can be drawn, which is the same for all pages: the date has to be measured, if there is one. -/
def footerOutcome : Except MeasureError Unit :=
  match pass.footer with
  | none => .ok ()
  | some metrics => (pass.chrome.dated metrics.labelWidth).map fun _ => ()

/-- **A footer is drawn** from the number of the page alone, whatever else the pass keeps. -/
theorem drawFooter_eq (state : PassState) :
    pass.drawFooter state =
      ({ state with placements := state.placements ++ pass.placementsOn state.page }, pass.footerCalls state.page,
        pass.footerOutcome) := by
  unfold drawFooter placementsOn footerCalls footerOutcome
  cases pass.footer with
  | none => simp
  | some metrics =>
      have recorded := pass.chrome.placement_of_drawFooter state.page (some (metrics.count.label state.page))
        metrics.labelWidth
      simp only [Chrome.footerPlacement_eq] at recorded ⊢
      generalize pass.chrome.drawFooter state.page (some (metrics.count.label state.page)) metrics.labelWidth = drawn
        at recorded ⊢
      obtain ⟨calls, outcome⟩ := drawn
      cases dated : pass.chrome.dated metrics.labelWidth with
      | error cause =>
          rw [dated] at recorded
          obtain rfl : outcome = .error cause := recorded
          simp [Except.map, Except.toOption]
      | ok dateX =>
          rw [dated] at recorded
          obtain rfl : outcome = .ok _ := recorded
          rfl

theorem footerCalls_unmarked (page : Int) : ∀ call ∈ pass.footerCalls page, call.isMark = false := by
  unfold footerCalls
  cases pass.footer with
  | none =>
      intro call mem
      cases mem
  | some metrics => exact footer_unmarked pass.chrome page (some (metrics.count.label page)) metrics.labelWidth

end

/-! ## A page ends -/

section

variable {pass : Pass} (state : PassState)

theorem placementsOn_of_error {cause : MeasureError} (failed : pass.footerOutcome = .error cause) (page : Int) :
    pass.placementsOn page = [] := by
  unfold footerOutcome at failed
  unfold placementsOn
  cases footer : pass.footer with
  | none => rfl
  | some metrics =>
      rw [footer] at failed
      simp only [Chrome.footerPlacement_eq]
      cases dated : pass.chrome.dated metrics.labelWidth with
      | error e => rfl
      | ok dateX =>
          simp only [dated] at failed
          cases failed

/-- **A page ends** where footers can be drawn: its header and its footer are drawn and recorded, and it is counted. -/
theorem endPage_of_ok (drawable : pass.footerOutcome = .ok ()) :
    pass.endPage state =
      ({ state with
          headers := state.headers ++ (state.current.map Slide.header).toList
          placements := state.placements ++ pass.placementsOn state.page
          pages := max state.pages state.page
          page := state.page + 1 },
        .save :: pass.chrome.headerOf state.current ++ pass.footerCalls state.page ++ [.restore], .ok ()) := by
  unfold endPage
  simp only [drawHeader_state, drawHeader_calls, drawFooter_eq, drawable]

/-- Where they cannot, no page ends, although its header is drawn. -/
theorem endPage_of_error {cause : MeasureError} (failed : pass.footerOutcome = .error cause) :
    pass.endPage state =
      ({ state with headers := state.headers ++ (state.current.map Slide.header).toList },
        .save :: pass.chrome.headerOf state.current ++ pass.footerCalls state.page, .error cause) := by
  unfold endPage
  simp only [drawHeader_state, drawHeader_calls, drawFooter_eq, failed, placementsOn_of_error failed, List.append_nil]

variable (pass)

/-- **What is drawn where a page ends**: the header of its slide and the footer with its number, and colour and font are
as before unless the footer fails. -/
theorem endPage_calls :
    ∃ ended, (ended = [] ∨ ended = [.restore]) ∧ (pass.endPage state).2.1 =
      .save :: pass.chrome.headerOf state.current ++ (pass.drawFooter state).2.1 ++ ended := by
  rw [drawFooter_eq]
  cases drawable : pass.footerOutcome with
  | error cause =>
      rw [endPage_of_error state drawable]
      exact ⟨[], Or.inl rfl, (List.append_nil _).symm⟩
  | ok _ =>
      rw [endPage_of_ok state drawable]
      exact ⟨[.restore], Or.inr rfl, rfl⟩

theorem endPage_unmarked : ∀ call ∈ (pass.endPage state).2.1, call.isMark = false := by
  obtain ⟨ended, isEnd, drawn⟩ := endPage_calls pass state
  intro call mem
  rw [drawn, drawFooter_eq] at mem
  simp only [List.mem_append, List.mem_cons] at mem
  rcases mem with ((rfl | header) | footer) | last
  · rfl
  · unfold Chrome.headerOf at header
    split at header
    · cases header
    · exact header_unmarked _ _ call header
  · exact footerCalls_unmarked pass _ call footer
  · rcases isEnd with rfl | rfl
    · cases last
    · obtain rfl := List.mem_singleton.mp last
      rfl

variable {pass state} {next : PassState} {calls : List DrawCall}

/-- **A page that ends** has the header of its slide, and the next page has the next number. -/
theorem endPage_ok (ended : pass.endPage state = (next, calls, .ok ())) :
    ∃ placements, next =
      { state with
        headers := state.headers ++ (state.current.map Slide.header).toList
        placements
        pages := max state.pages state.page
        page := state.page + 1 } := by
  cases drawable : pass.footerOutcome with
  | error cause =>
      rw [endPage_of_error state drawable] at ended
      cases ended
  | ok _ =>
      rw [endPage_of_ok state drawable] at ended
      cases ended
      exact ⟨_, rfl⟩

/-- A page whose footer cannot be drawn has its header, but it does not end. -/
theorem endPage_error {cause : MeasureError} (failed : pass.endPage state = (next, calls, .error cause)) :
    next = { state with headers := state.headers ++ (state.current.map Slide.header).toList } := by
  cases drawable : pass.footerOutcome with
  | error other =>
      rw [endPage_of_error state drawable] at failed
      cases failed
      rfl
  | ok _ =>
      rw [endPage_of_ok state drawable] at failed
      cases failed

end

/-! ## One event -/

/-- What an event leaves alone that begins no slide. -/
structure LeavesOutline (before : PassState) (out : PassState × List DrawCall × Except MeasureError Unit) : Prop where
  outline : out.1.outline = before.outline
  sectionOpen : out.1.sectionOpen = before.sectionOpen
  current : out.1.current = before.current
  draws : Draws out.2.1 []

variable (pass : Pass) (state : PassState)

/-- **A page ends** without anything for the outline, also where its footer cannot be drawn. -/
theorem endPage_leavesOutline : LeavesOutline state (pass.endPage state) := by
  have draws := draws_of_unmarked (endPage_unmarked pass state)
  rcases outcome : pass.endPage state with ⟨next, calls, cause | _⟩
  · obtain rfl := endPage_error outcome
    exact ⟨rfl, rfl, rfl, by rwa [outcome] at draws⟩
  · obtain ⟨placements, rfl⟩ := endPage_ok outcome
    exact ⟨rfl, rfl, rfl, by rwa [outcome] at draws⟩

/-- **What an event can do to the outline**: it is the anchor of a slide, which begins, or it leaves the outline alone. -/
theorem step_cases (event : PassEvent) :
    (∃ index slide, event = .placed (.anchor index slide) ∧
        pass.step state event = ((state.begin index slide).1, (state.begin index slide).2, .ok ())) ∨
      event.anchor? = none ∧ LeavesOutline state (pass.step state event) := by
  cases event with
  | placed flowable =>
      cases flowable with
      | anchor index slide => exact Or.inl ⟨index, slide, rfl, rfl⟩
      | _ => exact Or.inr ⟨rfl, rfl, rfl, rfl, ⟨rfl, rfl⟩⟩
  | pageEnd => exact Or.inr ⟨rfl, endPage_leavesOutline pass state⟩
  | goTo page => exact Or.inr ⟨rfl, rfl, rfl, rfl, ⟨rfl, rfl⟩⟩

/-! ## Several events -/

section

variable {pass : Pass} {state next : PassState} {calls : List DrawCall}

theorem run_cons_ok {event : PassEvent} (step : pass.step state event = (next, calls, .ok ()))
    (events : List PassEvent) :
    pass.run state (event :: events) =
      ((pass.run next events).1, calls ++ (pass.run next events).2.1, (pass.run next events).2.2) := by
  rw [run, step]

theorem run_cons_error {event : PassEvent} {cause : MeasureError}
    (step : pass.step state event = (next, calls, .error cause)) (events : List PassEvent) :
    pass.run state (event :: events) = (next, calls, .error cause) := by
  rw [run, step]

/-- **Further events after some.** -/
theorem run_append_ok {first : List PassEvent} (run : pass.run state first = (next, calls, .ok ()))
    (later : List PassEvent) :
    pass.run state (first ++ later) =
      ((pass.run next later).1, calls ++ (pass.run next later).2.1, (pass.run next later).2.2) := by
  induction first generalizing state calls with
  | nil =>
      cases run
      rfl
  | cons event first ih =>
      rcases step : pass.step state event with ⟨middle, drawn, cause | _⟩
      · rw [run_cons_error step] at run
        cases run
      · rcases rest : pass.run middle first with ⟨last, more, outcome⟩
        rw [run_cons_ok step, rest] at run
        cases run
        rw [List.cons_append, run_cons_ok step, ih rest]
        simp only [List.append_assoc]

theorem run_append_error {first : List PassEvent} {cause : MeasureError}
    (run : pass.run state first = (next, calls, .error cause)) (later : List PassEvent) :
    pass.run state (first ++ later) = (next, calls, .error cause) := by
  induction first generalizing state calls with
  | nil => cases run
  | cons event first ih =>
      rcases step : pass.step state event with ⟨middle, drawn, failed | _⟩
      · rw [run_cons_error step] at run
        rw [List.cons_append, run_cons_error step, run]
      · rcases rest : pass.run middle first with ⟨last, more, outcome⟩
        rw [run_cons_ok step, rest] at run
        cases run
        rw [List.cons_append, run_cons_ok step, ih rest]

/-- **A run that does not fail** does not fail on the way. -/
theorem exists_run_of_append {first later : List PassEvent} (run : pass.run state (first ++ later) = (next, calls, .ok ())) :
    ∃ middle drawn more, pass.run state first = (middle, drawn, .ok ()) ∧ pass.run middle later = (next, more, .ok ()) := by
  rcases begun : pass.run state first with ⟨middle, drawn, cause | _⟩
  · rw [run_append_error begun] at run
    cases run
  · rcases rest : pass.run middle later with ⟨last, more, outcome⟩
    rw [run_append_ok begun, rest] at run
    cases run
    exact ⟨middle, drawn, more, rfl, rest⟩

end

end Pass

end SlidePress
