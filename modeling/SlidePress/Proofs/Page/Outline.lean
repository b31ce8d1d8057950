import SlidePress.Proofs.Deck.Restatement
import SlidePress.Proofs.Page.Entries

/-!
# `SlidePress.Proofs.Page.Outline` — how the outline is nested

A pass lists a topic below a section if a section is open, and this it knows only from the slides that introduced one.
For the slides of a compiled deck that is enough. A section is open exactly if the last slide has one
(`leavesOpen_introduced`), since a slide introduces its section whenever the slide before has another; so every topic
stands below the section of its own slide, and where a slide introduces nothing, what it would introduce is the latest
entry already. This is kept slide by slide (`Nested.oneSlide`).
-/

namespace SlidePress

/-! ## Nested outlines -/

/-- The title of the latest entry at level 0. -/
def sectionAbove (entries : List DrawnEntry) : Option String :=
  (entries.filter (·.level = 0)).getLast?.map DrawnEntry.title

/-- **Where an entry of a deck belongs**, behind the entries before it. -/
inductive EntryOf (slides : List Slide) (before : List DrawnEntry) : DrawnEntry → Prop
  /-- The section of a slide is listed at level 0. -/
  | ofSection {slide : Slide} {index : Nat} : slides[index]? = some slide →
      EntryOf slides before { key := sectionKey index, title := slide.header.sectionText, level := 0 }
  /-- The topic of a slide that has a section is listed below it. -/
  | inSection {slide : Slide} {index : Nat} : slides[index]? = some slide → slide.header.sectionText ≠ "" →
      sectionAbove before = some slide.header.sectionText →
      EntryOf slides before { key := topicKey index, title := slide.header.topicText, level := 1 }
  /-- The topic of a slide that has none is listed at level 0. -/
  | alone {slide : Slide} {index : Nat} : slides[index]? = some slide → slide.header.sectionText = "" →
      EntryOf slides before { key := topicKey index, title := slide.header.topicText, level := 0 }

/-- **An outline is nested** as the slides of a deck say, as far as some events have led: the state they lead to, and
what is drawn on the way. -/
structure OutlineNested (slides : List Slide) (events : List PassEvent)
    (out : PassState × List DrawCall × Except MeasureError Unit) : Prop where
  /-- The page belongs to the slide that began last. -/
  current : out.2.2 = .ok () → out.1.current = (events.filterMap PassEvent.anchor?).getLast?.map Prod.fst
  /-- What is recorded is what is drawn. -/
  recorded : out.1.outline.map (fun entry => (entry.level, entry.title)) =
    (out.2.1.filterMap DrawCall.entry?).map fun entry => (entry.level, entry.title)
  /-- Every entry is where it belongs. -/
  placed : ∀ before entry after, out.2.1.filterMap DrawCall.entry? = before ++ entry :: after →
    EntryOf slides before entry
  /-- The latest entry at level 0 is the section of the slide, if it has one. -/
  inSection : ∀ slide, out.1.current = some slide → slide.header.sectionText ≠ "" →
    sectionAbove (out.2.1.filterMap DrawCall.entry?) = some slide.header.sectionText
  /-- The latest entry of all is the topic of the slide, if it has one. -/
  inTopic : ∀ slide, out.1.current = some slide → slide.header.topicText ≠ "" →
    (out.2.1.filterMap DrawCall.entry?).getLast?.map DrawnEntry.title = some slide.header.topicText
  /-- An empty text gives no entry. -/
  titled : ∀ entry ∈ out.2.1.filterMap DrawCall.entry?, entry.title ≠ ""
  /-- The pages never decrease. -/
  pages : out.1.outline.Pairwise fun a b => a.page ≤ b.page
  /-- Each entry has a target of its own, -/
  targets : out.2.1.filterMap DrawCall.target? = (out.2.1.filterMap DrawCall.entry?).map DrawnEntry.key
  /-- with a key that no other target has. -/
  keys : (out.2.1.filterMap DrawCall.target?).Nodup

/-! ## The entries of a compiled deck -/

/-- Whether the last slide has a section. -/
def isOpenAfter (previous : Option Slide) : Bool := previous.any fun slide => slide.header.sectionText ≠ ""

section

variable {previous : Option Slide} {slide : Slide}

/-- The section of a slide goes on from the slide before, or the slide introduces it. -/
theorem section_introduced (introduced : Compiler.IntroducedAfter previous slide) :
    (slide.newSection = none ∧
        ∃ before, previous = some before ∧ before.header.sectionText = slide.header.sectionText) ∨
      slide.newSection = some slide.header.sectionText := by
  rw [introduced.sectionText]
  by_cases same : previous.map (·.header.sectionText) = some slide.header.sectionText
  · exact Or.inl ⟨if_pos same, Option.map_eq_some_iff.mp same⟩
  · exact Or.inr (if_neg same)

/-- The whole header of a slide goes on from the slide before, or the slide introduces its topic. -/
theorem topic_introduced (introduced : Compiler.IntroducedAfter previous slide) :
    (slide.newSection = none ∧ slide.newTopic = none ∧
        ∃ before, previous = some before ∧ before.header = slide.header) ∨
      slide.newTopic = some slide.header.topicText := by
  rw [introduced.topicText]
  by_cases same : previous.map (·.header) = some slide.header
  · obtain ⟨before, rfl, header⟩ := Option.map_eq_some_iff.mp same
    have noSection : slide.newSection = none := introduced.sectionText.trans (if_pos (by simp [header]))
    exact Or.inl ⟨noSection, if_pos same, before, rfl, header⟩
  · exact Or.inr (if_neg same)

/-- **A section is open exactly if the last slide has one.** -/
theorem leavesOpen_introduced (introduced : Compiler.IntroducedAfter previous slide) :
    slide.leavesOpen (isOpenAfter previous) = isOpenAfter (some slide) := by
  unfold Slide.leavesOpen
  rcases section_introduced introduced with ⟨none_, before, rfl, text⟩ | new
  · simp [none_, isOpenAfter, text]
  · by_cases empty : slide.header.sectionText = "" <;> simp [new, isOpenAfter, empty]

end

/-- **The entries up to a slide of a compiled deck** are where they belong, and the latest ones are its own. -/
structure Nested (slides : List Slide) (previous : Option Slide) (entries : List DrawnEntry) : Prop where
  placed : EachAfter (EntryOf slides) entries
  inSection : ∀ slide, previous = some slide → slide.header.sectionText ≠ "" →
    sectionAbove entries = some slide.header.sectionText
  inTopic : ∀ slide, previous = some slide → slide.header.topicText ≠ "" →
    entries.getLast?.map DrawnEntry.title = some slide.header.topicText

/-- The latest section is that of the later entries, if there is one. -/
theorem sectionAbove_append (a b : List DrawnEntry) : sectionAbove (a ++ b) = (sectionAbove b).or (sectionAbove a) := by
  unfold sectionAbove
  rw [List.filter_append, List.getLast?_append]
  cases (b.filter (·.level = 0)).getLast? <;> rfl

theorem sectionAbove_inner (key : String) (text? : Option String) : sectionAbove (entryFor key 1 text?) = none := by
  have none_ : (entryFor key 1 text?).filter (·.level = 0) = [] := by
    refine List.filter_eq_nil_iff.mpr fun entry mem => ?_
    obtain ⟨title, _, _, rfl⟩ := mem_entryFor mem
    simp
  rw [sectionAbove, none_]
  rfl

section

variable {slides : List Slide} {previous : Option Slide} {entries : List DrawnEntry} {slide : Slide} {index : Nat}

/-- The section of one more slide is where it belongs, and it is the latest one. -/
theorem Nested.oneSection (h : Nested slides previous entries) (at_ : slides[index]? = some slide)
    (introduced : Compiler.IntroducedAfter previous slide) :
    EachAfter (EntryOf slides) (entries ++ entryFor (sectionKey index) 0 slide.newSection) ∧
      (slide.header.sectionText ≠ "" →
        sectionAbove (entries ++ entryFor (sectionKey index) 0 slide.newSection) = some slide.header.sectionText) := by
  rcases section_introduced introduced with ⟨none_, before, rfl, text⟩ | new
  · rw [none_, entryFor, List.append_nil, ← text]
    exact ⟨h.placed, h.inSection before rfl⟩
  · rw [new]
    refine ⟨h.placed.entryFor fun title same _ => ?_, fun nonempty => ?_⟩
    · obtain rfl := Option.some.inj same
      exact .ofSection at_
    · rw [sectionAbove_append, entryFor_some nonempty]
      rfl

/-- **One more slide.** It introduces whatever differs from the slide before, and what it does not introduce is there. -/
theorem Nested.oneSlide (h : Nested slides previous entries) (at_ : slides[index]? = some slide)
    (introduced : Compiler.IntroducedAfter previous slide) :
    Nested slides (some slide) (entries ++ slide.entries (isOpenAfter previous) index) := by
  obtain ⟨placed, inSection⟩ := h.oneSection at_ introduced
  rw [Slide.entries, leavesOpen_introduced introduced, ← List.append_assoc]
  refine ⟨placed.entryFor fun title new _ => ?_, fun _ same nonempty => ?_, fun _ same nonempty => ?_⟩
  · -- the topic stands below the section, if there is one
    have text : title = slide.header.topicText := by
      rcases topic_introduced introduced with ⟨_, none_, _⟩ | some_
      · cases none_.symm.trans new
      · exact Option.some.inj (new.symm.trans some_)
    rw [text]
    by_cases alone : slide.header.sectionText = ""
    · rw [if_neg (by simp [isOpenAfter, alone])]
      exact .alone at_ alone
    · rw [if_pos (by simp [isOpenAfter, alone])]
      exact .inSection at_ alone (inSection alone)
  · -- and it is no section itself
    cases same
    rw [if_pos (by simp [isOpenAfter, nonempty]), sectionAbove_append, sectionAbove_inner]
    exact inSection nonempty
  · cases same
    rcases topic_introduced introduced with ⟨noSection, noTopic, before, rfl, header⟩ | new
    · rw [noSection, noTopic, ← header]
      simpa [entryFor] using h.inTopic before rfl (header ▸ nonempty)
    · rw [new, entryFor_some nonempty, List.getLast?_concat]
      rfl

/-- **Several slides**, from one of the deck on. -/
theorem Nested.moreSlides {ahead : List Slide} (h : Nested slides previous entries) (rest : slides.drop index = ahead)
    (introduced : Compiler.Introduced previous ahead) {reached : List (Slide × Nat)}
    (isPrefix : reached <+: ahead.zipIdx index) :
    Nested slides ((reached.getLast?.map Prod.fst).or previous)
      (entries ++ entriesFrom (isOpenAfter previous) reached) := by
  induction reached generalizing ahead index previous entries with
  | nil => simpa [entriesFrom] using h
  | cons first reached ih =>
      cases ahead with
      | nil => simp at isPrefix
      | cons slide ahead =>
          rw [List.zipIdx_cons] at isPrefix
          obtain ⟨rfl, later⟩ := List.cons_prefix_cons.mp isPrefix
          have at_ : slides[index]? = some slide := by rw [← List.head?_drop, rest, List.head?_cons]
          have drop : slides.drop (index + 1) = ahead := by rw [← List.tail_drop, rest, List.tail_cons]
          have all := ih (h.oneSlide at_ introduced.1) drop introduced.2 later
          have last : (((slide, index) :: reached).getLast?.map Prod.fst).or previous =
              (reached.getLast?.map Prod.fst).or (some slide) := by
            rw [List.getLast?_cons]
            cases reached.getLast? <;> rfl
          rw [last, entriesFrom, leavesOpen_introduced introduced.1, ← List.append_assoc]
          exact all

end

theorem nested_compileDeck (blocks : List Block) {reached : List (Slide × Nat)}
    (isPrefix : reached <+: (compileDeck blocks).slides.zipIdx) :
    Nested (compileDeck blocks).slides (reached.getLast?.map Prod.fst) (entriesFrom false reached) := by
  have start : Nested (compileDeck blocks).slides none [] :=
    ⟨eachAfter_nil, (fun _ impossible => by cases impossible), fun _ impossible => by cases impossible⟩
  have all := start.moreSlides List.drop_zero (Compiler.introduced_compileDeck blocks) isPrefix
  rwa [Option.or_none, List.nil_append] at all

/-! ## The outline of a pass -/

/-- **Outlines are nested.** When the slides of a compiled deck begin one after another, with page ends at any places
between them, then all along the way every topic is listed below the section of its slide, or at level 0 if there is
none; the latest entries are the section and the topic of the last slide; empty texts have no entry; pages never
decrease; and no two entries share a target. And whatever slides begin, in any order, their entries can be nested. -/
theorem run_outlineNested (pass : Pass) :
    (∀ blocks events, events.filterMap PassEvent.anchor? <+: (compileDeck blocks).slides.zipIdx →
        OnlyForward 1 events → OutlineNested (compileDeck blocks).slides events (pass.run {} events)) ∧
      ∀ events, Nestable ((pass.run {} events).2.1.filterMap DrawCall.entry?) := by
  refine ⟨fun blocks events inOrder forward => ?_, fun events => ?_⟩
  · obtain ⟨reached, isPrefix, all, began⟩ := pass.run_reached {} events
    have ofDeck := isPrefix.trans inOrder
    have current := began.current
    rw [Option.or_none] at current
    obtain ⟨placed, inSection, inTopic⟩ := nested_compileDeck blocks ofDeck
    have indices : (reached.map Prod.snd).Nodup := by
      have sublist := (ofDeck.map Prod.snd).sublist
      rw [List.zipIdx_map_snd] at sublist
      exact List.Nodup.sublist sublist List.nodup_range'
    have start : PagesInOrder {} := ⟨.nil, fun _ mem => by cases mem⟩
    have targets := began.draws.targets
    rw [← began.draws.drawn] at placed inSection inTopic targets
    exact {
      current := fun ok => current.trans (by rw [all ok])
      recorded := by rw [began.recorded, ← began.draws.drawn]; rfl
      placed
      inSection := fun slide now => inSection slide (current.symm.trans now)
      inTopic := fun slide now => inTopic slide (current.symm.trans now)
      titled := by rw [began.draws.drawn]; exact titled_entriesFrom _ _
      pages := (Pass.run_pages start forward).sorted
      targets
      keys := by
        rw [began.draws.targets]
        exact (nodup_slideKeys indices).sublist (keys_entriesFrom _ _) }
  · obtain ⟨reached, _, _, began⟩ := pass.run_reached {} events
    rw [began.draws.drawn]
    exact nestable_entriesFrom reached

/-- A topic without a section, and the same topic below one, on the page after it. -/
theorem run_outlineNested_repeated_topic :
    let pass : Pass :=
      { chrome :=
          { style := ({} : Config).styleWith .black "Helvetica" "Helvetica" "Courier" "Helvetica"
            measure := fun _ => .ok 0 }
        footer := none }
    let blocks : List Block := [.topicMark "t", .slideMark "1", .sectionMark "A", .topicMark "t", .slideMark "2"]
    let events : List PassEvent :=
      (compileDeck blocks).slides.zipIdx.flatMap fun (slide, index) => [.pageEnd, .placed (.anchor index slide)]
    events.filterMap PassEvent.anchor? <+: (compileDeck blocks).slides.zipIdx ∧ OnlyForward 1 events ∧
      OutlineNested (compileDeck blocks).slides events (pass.run {} events) ∧
      (pass.run {} events).2.1.filterMap DrawCall.entry? = [⟨"t0", "t", 0⟩, ⟨"s1", "A", 0⟩, ⟨"t1", "t", 1⟩] := by
  intro pass blocks events
  have inOrder : events.filterMap PassEvent.anchor? <+: (compileDeck blocks).slides.zipIdx := by decide
  have forward : OnlyForward 1 events := trivial
  exact ⟨inOrder, forward, (run_outlineNested pass).1 blocks events inOrder forward, by decide⟩

end SlidePress
