import SlidePress.Deck.Document
import SlidePress.Proofs.Json.RoundTrip

/-!
# `SlidePress.Proofs.Deck.Document` — decks, written and read

A deck is written as JSON and read back. That takes two round trips, one between decks and values and one between values
and texts (`Json.Readable.roundTrip`), and the values that decks are written as are values that are read back.

Writing a block leaves its number out when it is zero, and reading fills it in again. An absent outline entry is written
as null and an empty one as an empty text, so the two stay apart. No deck is nested more than five brackets deep.
-/

namespace SlidePress

open Document Json

/-! ## Blocks -/

/-- The number of a block. -/
def Block.number? : Block → Option Number
  | .content _ _ number => some number
  | _ => none

/-- A whole number is left out only if it is zero. -/
theorem eq_zero_of_isZero {number : Number} (h : number.Writable) (zero : number.isZero = true) : number = 0 := by
  cases number with
  | float x => exact h.elim
  | int n => rw [beq_iff_eq.mp zero]; rfl

/-- The JSON form of content: with its number, or without it if it is zero. -/
theorem Block.toJson_content (kind : ContentKind) (text : String) {number : Number} (h : number.Writable) :
    (number = 0 ∧ (Block.content kind text number).toJson =
      .obj [("kind", .str "content"), ("text", .str text), ("content_kind", .str kind.name)]) ∨
    (Block.content kind text number).toJson =
      .obj [("kind", .str "content"), ("text", .str text), ("content_kind", .str kind.name),
        ("number", .num number)] := by
  cases zero : number.isZero with
  | true =>
      obtain rfl := eq_zero_of_isZero h zero
      exact Or.inl ⟨rfl, rfl⟩
  | false =>
      refine Or.inr ?_
      rw [Block.toJson, zero]
      rfl

/-- **A block is read back from its value**, its number being zero or not. -/
theorem Block.ofJson_toJson {block : Block} (h : ∀ number ∈ block.number?, number.Writable) :
    Block.ofJson block.toJson = .ok block := by
  cases block with
  | sectionMark text => rfl
  | topicMark text => rfl
  | slideMark title => rfl
  | subheading text => rfl
  | content kind text number =>
      obtain ⟨rfl, written⟩ | written := Block.toJson_content kind text (h number rfl) <;>
        rw [written] <;> cases kind <;> rfl

variable {room : Nat}

theorem Block.readable_toJson {block : Block} (h : ∀ number ∈ block.number?, number.Writable) :
    block.toJson.Readable (room + 1) := by
  cases block with
  | sectionMark text => exact .obj (show ["kind", "text"].Nodup by decide) (by simp [Readable.str])
  | topicMark text => exact .obj (show ["kind", "text"].Nodup by decide) (by simp [Readable.str])
  | slideMark title => exact .obj (show ["kind", "title"].Nodup by decide) (by simp [Readable.str])
  | subheading text => exact .obj (show ["kind", "text"].Nodup by decide) (by simp [Readable.str])
  | content kind text number =>
      obtain ⟨_, written⟩ | written := Block.toJson_content kind text (h number rfl)
      · rw [written]
        exact .obj (show ["kind", "text", "content_kind"].Nodup by decide) (by simp [Readable.str])
      · rw [written]
        exact .obj (show ["kind", "text", "content_kind", "number"].Nodup by decide)
          (by simp [Readable.str, Readable.num (h number rfl)])

/-! ## Slides -/

/-- The numbers of the blocks of a slide. -/
def Slide.numbers (slide : Slide) : List Number := slide.body.filterMap Block.number?

theorem Slide.mem_numbers {slide : Slide} {block : Block} (mem : block ∈ slide.body) {number : Number}
    (named : number ∈ block.number?) : number ∈ slide.numbers :=
  List.mem_filterMap.mpr ⟨block, mem, named⟩

theorem mapM_ofJson {α : Type} {write : α → Json} {read : Json → Except DocumentError α} {xs : List α}
    (h : ∀ x ∈ xs, read (write x) = .ok x) : (xs.map write).mapM read = .ok xs := by
  induction xs with
  | nil => rfl
  | cons x xs ih =>
      rw [List.map_cons, List.mapM_cons, h x List.mem_cons_self,
        ih fun y mem => h y (List.mem_cons_of_mem x mem)]
      rfl

theorem readable_arr_map {α : Type} {write : α → Json} {xs : List α} (h : ∀ x ∈ xs, (write x).Readable room) :
    Readable (room + 1) (.arr (xs.map write)) := by
  refine .arr fun item mem => ?_
  obtain ⟨x, inside, rfl⟩ := List.mem_map.mp mem
  exact h x inside

/-- **A slide is read back from its value**, an outline entry being absent, empty or a text. -/
theorem Slide.ofJson_toJson {slide : Slide} (h : ∀ number ∈ slide.numbers, number.Writable) :
    Slide.ofJson slide.toJson = .ok slide := by
  have blocks : (slide.body.map Block.toJson).mapM Block.ofJson = .ok slide.body :=
    mapM_ofJson fun block mem => Block.ofJson_toJson fun number named => h number (slide.mem_numbers mem named)
  obtain ⟨title, body, ⟨sectionText, topicText⟩, newSection, newTopic⟩ := slide
  show ((body.map Block.toJson).mapM Block.ofJson >>= _) = _
  rw [blocks]
  cases newSection <;> cases newTopic <;> rfl

theorem Slide.readable_toJson {slide : Slide} (h : ∀ number ∈ slide.numbers, number.Writable) :
    slide.toJson.Readable (room + 3) := by
  have body : Readable (room + 2) (.arr (slide.body.map Block.toJson)) :=
    readable_arr_map fun block mem => Block.readable_toJson fun number named => h number (slide.mem_numbers mem named)
  have optional : ∀ entry : Option String, Readable (room + 2) (ofOptional entry) := by
    rintro (_ | text)
    · exact .null
    · exact .str text
  exact .obj (show ["title", "body", "section", "topic", "outline_section", "outline_topic"].Nodup by decide)
    (by simp [Readable.str, body, optional])

/-! ## Decks -/

/-- The numbers of a deck: those of its blocks, and how many blocks it dropped. -/
def Deck.numbers (deck : Deck) : List Number := deck.dropped :: deck.slides.flatMap Slide.numbers

theorem Deck.mem_numbers {deck : Deck} {slide : Slide} (mem : slide ∈ deck.slides) {number : Number}
    (named : number ∈ slide.numbers) : number ∈ deck.numbers :=
  List.mem_cons_of_mem _ (List.mem_flatMap.mpr ⟨slide, mem, named⟩)

/-- **A deck is read back from its value.** -/
theorem Deck.ofJson_toJson {deck : Deck} (h : ∀ number ∈ deck.numbers, number.Writable) :
    Deck.ofJson deck.toJson = .ok deck := by
  have slides : (deck.slides.map Slide.toJson).mapM Slide.ofJson = .ok deck.slides :=
    mapM_ofJson fun slide mem => Slide.ofJson_toJson fun number named => h number (deck.mem_numbers mem named)
  show ((deck.slides.map Slide.toJson).mapM Slide.ofJson >>= _) = _
  rw [slides]
  rfl

/-- The value of a deck is read back from its text, if the number of its slides is one that can be. -/
theorem Deck.readable_toJson {deck : Deck} (h : ∀ number ∈ deck.numbers, number.Writable)
    (count : Number.Writable deck.slides.length) : deck.toJson.Readable (room + 5) := by
  have slides : Readable (room + 4) (.arr (deck.slides.map Slide.toJson)) :=
    readable_arr_map fun slide mem => Slide.readable_toJson fun number named => h number (deck.mem_numbers mem named)
  have dropped : Readable (room + 4) (.num deck.dropped) := .num (h deck.dropped List.mem_cons_self)
  exact .obj (show ["slides", "slide_count", "dropped_blocks"].Nodup by decide)
    (by simp [slides, dropped, Readable.num count])

/-- **A deck is read back from its text**, in every field and in every layout. Its numbers have to be whole and of at
most as many digits as a document may have; its text names the number of its slides as well, which has more digits only
if there are `10 ^ maxDigits` slides. -/
theorem Deck.parse_render {deck : Deck} (numbers : ∀ number ∈ deck.numbers, number.Writable)
    (count : deck.slides.length < 10 ^ Text.maxDigits) (indent : Option Int) :
    Deck.parse (deck.render (.ofIndent indent)) = .ok deck := by
  have writable : Number.Writable deck.slides.length :=
    (Nat.length_toDigits_le_iff (by decide) (by decide)).mpr count
  have readable : deck.toJson.Readable usualRoom := Deck.readable_toJson numbers writable
  rw [Deck.parse, Deck.render, readable.roundTrip]
  exact Deck.ofJson_toJson numbers

/-- Every kind of block in one body, with escapes in its texts and numbers below, at and above zero; an outline entry
that is empty, and one that is absent. -/
theorem Deck.parse_render_of_mixed_body :
    let deck : Deck :=
      { slides := [
          { title := "\"a\" \\ b\n\t\x01ü", header := ⟨"", "t"⟩, newSection := some "", newTopic := none, body := [
              .sectionMark "s", .topicMark "", .slideMark "x", .subheading "]\x7d,", .content .numbered "1" 12,
              .content .paragraph "" 0, .content .code "\x1f" (.int (-7))] }],
        dropped := 3 }
    (∀ number ∈ deck.numbers, number.Writable) ∧ deck.slides.length < 10 ^ Text.maxDigits ∧
      ∀ indent, Deck.parse (deck.render (.ofIndent indent)) = .ok deck := by
  intro deck
  have numbers : ∀ number ∈ deck.numbers, number.Writable := by decide
  have count : deck.slides.length < 10 ^ Text.maxDigits :=
    show 1 < 10 ^ Text.maxDigits from Nat.one_lt_pow (by decide) (by decide)
  exact ⟨numbers, count, Deck.parse_render numbers count⟩

end SlidePress
