import SlidePress.Page.Pass
import SlidePress.Story.Lines

/-!
# `SlidePress.Page.Flow` — filling pages

Flowables are placed one below the other until one does not fit. It is then split, or it begins the next page; where it
does not fit there either, nothing can be done.
-/

namespace SlidePress

/-! ## Items -/

/-- What an item is made of. -/
inductive ItemBody
  /-- A number of lines. -/
  | lines (leading : Float) (count : Nat)
  /-- Lines that are kept. -/
  | verbatim (leading : Float) (lines : List (List Char))
  /-- Nothing that could be split. -/
  | solid (height : Float)

/-- Something to be placed on a page, with the white space that it wants around it. -/
structure Item where
  /-- The flowable that it is, or is a part of. -/
  source : Flowable
  body : ItemBody
  before : Float := 0
  after : Float := 0

namespace Item

/-- A flowable with its lines in a frame of some width; a page break is none. -/
def ofFlowable (metrics : String → Metrics) (frameWidth : Float) (flowable : Flowable) : Option Item :=
  match flowable with
  | .paragraph style markup bullet =>
    let count := paragraphLines (metrics style.fontName) frameWidth style markup bullet
    some { source := flowable, body := .lines style.leading count, before := style.spaceBefore
           after := style.spaceAfter }
  | .preformatted style text =>
    some { source := flowable, body := .verbatim style.leading (verbatimLines text), before := style.spaceBefore
           after := style.spaceAfter }
  | .spacer _ height => some { source := flowable, body := .solid height }
  | .rule thickness _ before after => some { source := flowable, body := .solid thickness, before, after }
  | .anchor .. => some { source := flowable, body := .solid 0 }
  | .pageBreak => none

/-- The height of an item without the white space around it. -/
def height (item : Item) : Float :=
  match item.body with
  | .lines leading count => Float.ofNat count * leading
  | .verbatim leading lines => Float.ofNat lines.length * leading
  | .solid height => height

/-- How many lines an item has; what cannot be split has none. -/
def lineCount (item : Item) : Nat :=
  match item.body with
  | .lines _ count => count
  | .verbatim _ lines => lines.length
  | .solid _ => 0

end Item

/-! ## Places -/

/-- A place on a page. -/
structure Cursor where
  /-- Its distance from the lower edge of the page. -/
  y : Float
  /-- Whether nothing has moved it from the top of the frame. -/
  atTop : Bool := true
  /-- The white space below the last item, which counts as space above the next one. -/
  gap : Float := 0
  /-- How many items are on the page. -/
  placed : Nat := 0

namespace Cursor

/-- How far an item may reach out of the frame. -/
def tolerance : Float := 1e-6

/-- The place at the top of a frame. -/
def top (frame : BodyFrame) : Cursor := { y := frame.y + frame.height }

/-- The white space above an item; there is none at the top. -/
def spaceAbove (cursor : Cursor) (item : Item) : Float :=
  if cursor.atTop then 0
  else
    let space := item.before - cursor.gap
    if 0 < space then space else 0

/-- The room below the place and the white space above an item. -/
def room (frame : BodyFrame) (cursor : Cursor) (item : Item) : Float :=
  cursor.y - frame.y - cursor.spaceAbove item

/-- The place below an item, if it fits. -/
def place? (frame : BodyFrame) (cursor : Cursor) (item : Item) : Option Cursor :=
  if 0 < cursor.room frame item then
    let bottom := cursor.y - (item.height + cursor.spaceAbove item)
    if bottom < frame.y - tolerance then none
    else
      let y := bottom - item.after
      some { y, atTop := cursor.atTop && y == cursor.y, gap := item.after, placed := cursor.placed + 1 }
  else none

end Cursor

/-! ## Splitting -/

/-- What comes of splitting an item. -/
inductive SplitOutcome
  /-- It cannot be split in this room. -/
  | whole
  /-- The part that has room, and the rest. -/
  | parts (first rest : Item)
  /-- The part that is to be placed does not fit. -/
  | tooTall
  /-- The number of lines that have room is no number. -/
  | notANumber

/-- The number of lines that have room: a quotient without its fraction; nothing when it is not a number. -/
def linesIn (room leading : Float) : Option Nat :=
  let quotient := room / leading
  if quotient.isNaN then none
  else if quotient.isInf then some 0
  else some quotient.floor.toUInt64.toNat

namespace Item

/-- An item split so that its first lines, as many as given, are apart from the rest. White space at the new ends of
kept lines is left out. -/
def splitAfter (item : Item) (count : Nat) : SplitOutcome :=
  if item.lineCount ≤ count then .tooTall
  else
    match item.body with
    | .lines leading total =>
      .parts { item with body := .lines leading count } { item with body := .lines leading (total - count) }
    | .verbatim leading lines =>
      .parts { item with body := .verbatim leading (trimLines (lines.take count)) }
        { item with body := .verbatim leading (trimLines (lines.drop count)) }
    | .solid _ => .whole

/-- An item split in the room that is left. Of a paragraph at least two lines have to have room, and of lines that are
kept at least one. -/
def splitIn (item : Item) (room : Float) : SplitOutcome :=
  if room ≤ 0 then .whole
  else
    match item.body with
    | .lines leading (_ + 1) =>
      match linesIn room leading with
      | none => .notANumber
      | some count => if count ≤ 1 then .whole else item.splitAfter count
    | .verbatim leading _ =>
      if room < leading then .whole
      else
        match linesIn room leading with
        | none => .notANumber
        | some count => if count = 0 then .whole else item.splitAfter count
    | _ => .whole

/-- What is left after splitting has fewer lines. -/
theorem lineCount_lt_of_splitIn {item first rest : Item} {room : Float} (h : item.splitIn room = .parts first rest) :
    rest.lineCount < item.lineCount := by
  have key : ∀ count, count ≠ 0 → item.splitAfter count = .parts first rest → rest.lineCount < item.lineCount := by
    intro count hc hs
    unfold splitAfter at hs
    split at hs
    · simp at hs
    · next hlt =>
      split at hs
      · next leading total hb =>
        simp only [SplitOutcome.parts.injEq] at hs
        obtain ⟨-, rfl⟩ := hs
        simp only [lineCount, hb] at hlt ⊢
        omega
      · next leading lines hb =>
        simp only [SplitOutcome.parts.injEq] at hs
        obtain ⟨-, rfl⟩ := hs
        have := length_trimLines_le (lines.drop count)
        simp only [lineCount, hb, List.length_drop] at hlt this ⊢
        omega
      · simp at hs
  unfold splitIn at h
  split at h
  · simp at h
  · split at h
    · split at h
      · simp at h
      · next count _ =>
        split at h
        · simp at h
        · exact key count (by omega) h
    · split at h
      · simp at h
      · split at h
        · simp at h
        · next count _ =>
          split at h
          · simp at h
          · next hc => exact key count hc h
    · simp at h

end Item

/-! ## Pages -/

/-- Why a story cannot be set. -/
inductive FlowFailure
  /-- Something fits on no page. -/
  | stuck
  /-- The number of lines that have room is no number. -/
  | notANumber
deriving DecidableEq, Repr

/-- The most empty pages that may follow one another. -/
def emptyPageLimit : Nat := 10

/-- A story that is being set. -/
structure FlowState where
  cursor : Cursor
  /-- How many pages before this one were empty, one after the other. -/
  emptyPages : Nat := 0
  /-- Whether the next item did not fit on the last page. -/
  putBack : Bool := false
  /-- What is still to be set; nothing stands for a page break. -/
  items : List (Option Item)

/-- What one step of setting a story does. -/
inductive FlowStep
  /-- The last page ends. -/
  | done
  | failed (failure : FlowFailure)
  /-- Something happens, and the story goes on. -/
  | next (event : PassEvent) (state : FlowState)

namespace FlowState

/-- The state at the top of the next page, with the given items; nothing where too many pages have stayed empty. -/
def nextPage? (frame : BodyFrame) (state : FlowState) (putBack : Bool) (items : List (Option Item)) :
    Option FlowState :=
  let emptyPages := if state.cursor.placed = 0 then state.emptyPages + 1 else 0
  if emptyPages < emptyPageLimit then some { cursor := .top frame, emptyPages, putBack, items } else none

/-- The page ends, and the given items go on the next one. -/
def endPage (frame : BodyFrame) (state : FlowState) (putBack : Bool) (items : List (Option Item)) : FlowStep :=
  match state.nextPage? frame putBack items with
  | none => .failed .stuck
  | some state => .next .pageEnd state

/-- An item that does not fit is split. The part that has room is placed; an item that cannot be split is put back for
the next page, but only once. -/
def split (frame : BodyFrame) (state : FlowState) (item : Item) (rest : List (Option Item)) : FlowStep :=
  match item.splitIn (state.cursor.room frame item) with
  | .notANumber => .failed .notANumber
  | .tooTall => .failed .stuck
  | .parts first remainder =>
    match state.cursor.place? frame first with
    | none => .failed .stuck
    | some cursor =>
      .next (.placed item.source) { state with cursor, putBack := false, items := some remainder :: rest }
  | .whole => if state.putBack then .failed .stuck else state.endPage frame true (some item :: rest)

/-- One step: an item or a part of one is placed, or the page ends. -/
def step (frame : BodyFrame) (state : FlowState) : FlowStep :=
  match state.items with
  | [] =>
    match state.nextPage? frame false [] with
    | none => .failed .stuck
    | some _ => .done
  | none :: rest => state.endPage frame false rest
  | some item :: rest =>
    match state.cursor.place? frame item with
    | some cursor => .next (.placed item.source) { state with cursor, putBack := false, items := rest }
    | none => state.split frame item rest

/-- How many lines and items are still to be set. -/
def toBeSet (items : List (Option Item)) : Nat :=
  items.foldr (fun item? n => (item?.map Item.lineCount).getD 0 + 1 + n) 0

/-- A bound for the steps that are still needed: every line and every item may take two, one to end the page and one to
be placed. -/
def bound (state : FlowState) : Nat :=
  2 * toBeSet state.items + if state.putBack then 0 else 1

/-- After a page has ended, the given items are to be set. -/
theorem items_of_endPage {frame : BodyFrame} {state next : FlowState} {putBack : Bool} {items : List (Option Item)}
    {event : PassEvent} (h : state.endPage frame putBack items = .next event next) :
    next.putBack = putBack ∧ next.items = items := by
  unfold endPage at h
  split at h
  · simp at h
  · next hs =>
    simp only [FlowStep.next.injEq] at h
    obtain ⟨-, rfl⟩ := h
    simp only [nextPage?, Option.ite_none_right_eq_some, Option.some.injEq] at hs
    obtain ⟨-, rfl⟩ := hs
    exact ⟨rfl, rfl⟩

/-- Every step leaves fewer to be done. -/
theorem bound_lt_of_step {frame : BodyFrame} {state next : FlowState} {event : PassEvent}
    (h : state.step frame = .next event next) : next.bound < state.bound := by
  unfold step at h
  split at h
  · split at h <;> simp at h
  · next rest hi =>
    obtain ⟨hp, hn⟩ := items_of_endPage h
    simp only [bound, toBeSet, hp, hn, hi, List.foldr_cons]
    split <;> split <;> omega
  · next item rest hi =>
    split at h
    · simp only [FlowStep.next.injEq] at h
      obtain ⟨-, rfl⟩ := h
      simp only [bound, toBeSet, hi, List.foldr_cons]
      split <;> split <;> omega
    · unfold split at h
      split at h
      · simp at h
      · simp at h
      · next first remainder hs =>
        split at h
        · simp at h
        · simp only [FlowStep.next.injEq] at h
          obtain ⟨-, rfl⟩ := h
          have := Item.lineCount_lt_of_splitIn hs
          simp only [bound, toBeSet, hi, List.foldr_cons, Option.map_some, Option.getD_some]
          split <;> split <;> omega
      · split at h
        · simp at h
        · next hb =>
          obtain ⟨hp, hn⟩ := items_of_endPage h
          simp only [bound, toBeSet, hp, hn, hi, List.foldr_cons]
          simp [hb]

end FlowState

/-- The events of setting what remains of a story, and how it ended. -/
def flowFrom (frame : BodyFrame) (state : FlowState) : List PassEvent × Option FlowFailure :=
  match _h : state.step frame with
  | .done => ([.pageEnd], none)
  | .failed failure => ([], some failure)
  | .next event next =>
    let (events, outcome) := flowFrom frame next
    (event :: events, outcome)
termination_by state.bound
decreasing_by exact FlowState.bound_lt_of_step _h

/-- The events of setting a story in a frame, and how it ended. -/
def flow (metrics : String → Metrics) (frame : BodyFrame) (story : List Flowable) :
    List PassEvent × Option FlowFailure :=
  flowFrom frame { cursor := .top frame, items := story.map (Item.ofFlowable metrics frame.width) }

end SlidePress
