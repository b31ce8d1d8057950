import SlidePress.Block

/-!
# `SlidePress.Deck.Basic` — slides and decks

A compiled deck is the list of its slides. Each slide carries the running header as it was when the slide was
opened, and the outline entries that it introduces.
-/

namespace SlidePress

/-- The running header: the section and the topic in force. -/
structure Header where
  sectionText : String := ""
  topicText : String := ""
deriving DecidableEq, Repr

/-- One printable slide. An entry that is absent is not the same as one that is present and empty. -/
structure Slide where
  title : String
  body : List Block := []
  /-- The running header at the moment the slide was opened. -/
  header : Header := {}
  /-- The outline entry for the section, when the slide introduces one. -/
  newSection : Option String := none
  /-- The outline entry for the topic, when the slide introduces one. -/
  newTopic : Option String := none
deriving DecidableEq, Repr

/-- A compiled deck. -/
structure Deck where
  slides : List Slide := []
  /-- How many blocks came before the first slide and were dropped. -/
  dropped : Number := 0
deriving DecidableEq, Repr

/-- The outline entries of a slide, each with its level: the section above the topic. -/
def Slide.outline (slide : Slide) : List (Nat × String) :=
  (slide.newSection.map (0, ·)).toList ++ (slide.newTopic.map (1, ·)).toList

/-- The outline entries of a deck, in order. -/
def Deck.outline (deck : Deck) : List (Nat × String) := deck.slides.flatMap Slide.outline

end SlidePress
