import SlidePress.Deck.Basic
import SlidePress.Text.Quoted

/-!
# `SlidePress.Deck.Check` — when a deck is consistent

A deck may come from elsewhere than the compiler. It is consistent when no count is negative and every outline
entry says what the header of its slide says.
-/

namespace SlidePress

namespace Deck

/-- What can be wrong with a deck. -/
inductive Problem
  | negativeDropped
  /-- The outline entry for the section is not the section of the header. -/
  | sectionDiffers (index : Nat) (title entry header : String)
  /-- The outline entry for the topic is not the topic of the header. -/
  | topicDiffers (index : Nat) (title entry header : String)
deriving DecidableEq, Repr

/-- What is said of a problem. -/
def Problem.message : Problem → String
  | .negativeDropped => "dropped_blocks must not be negative"
  | .sectionDiffers index title entry header =>
    s!"Slide {index} ({Text.quoted title}): outline section {Text.quoted entry} " ++
      s!"differs from header section {Text.quoted header}"
  | .topicDiffers index title entry header =>
    s!"Slide {index} ({Text.quoted title}): outline topic {Text.quoted entry} " ++
      s!"differs from header topic {Text.quoted header}"

/-- What is wrong with the slide at an index. -/
def slideProblems (index : Nat) (slide : Slide) : List Problem :=
  (slide.newSection.filter (· ≠ slide.header.sectionText)).toList.map
      (.sectionDiffers index slide.title · slide.header.sectionText) ++
    (slide.newTopic.filter (· ≠ slide.header.topicText)).toList.map
      (.topicDiffers index slide.title · slide.header.topicText)

/-- Everything that is wrong with a deck, in order. -/
def problems (deck : Deck) : List Problem :=
  (if deck.dropped.isNegative then [.negativeDropped] else []) ++
    (deck.slides.mapIdx slideProblems).flatten

/-- A deck with something wrong. -/
structure Inconsistent where
  problems : List Problem
deriving DecidableEq, Repr

/-- What is said of a deck with something wrong. -/
def Inconsistent.message (e : Inconsistent) : String :=
  s!"Contract validation failed: {Text.quotedList (e.problems.map Problem.message)}"

/-- The deck, if nothing is wrong with it. -/
def check (deck : Deck) : Except Inconsistent Deck :=
  if deck.problems.isEmpty then .ok deck else .error ⟨deck.problems⟩

end Deck

end SlidePress
