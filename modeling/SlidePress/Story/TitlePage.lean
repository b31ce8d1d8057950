import SlidePress.Story.Flowable

/-!
# `SlidePress.Story.TitlePage` — the opening page

The texts of the opening page stand in three groups, with white space around them that fills the frame. The white space
is shared out by weight. The arithmetic is the same for doubles and for exact numbers.
-/

namespace SlidePress

/-- The kinds of paragraphs on the opening page. -/
inductive TitleRole
  | title
  | subtitle
  | info
deriving DecidableEq, Repr

/-- The paragraph style of a kind. -/
def TitleRole.style (sheet : StyleSheet) : TitleRole → ParagraphStyle
  | .title => sheet.deckTitle
  | .subtitle => sheet.deckSubtitle
  | .info => sheet.deckInfo

/-- A text of the opening page. -/
structure TitleText where
  role : TitleRole
  text : String
deriving DecidableEq, Repr

/-- The texts of the opening page in their three groups: what the deck is called, who gives it, and when. Texts that
are empty are left out, and a group may be empty. -/
def Style.titleGroups (s : Style) : List (List TitleText) :=
  let given (texts : List TitleText) := texts.filter fun t => !t.text.isEmpty
  [given [⟨.title, s.title⟩, ⟨.subtitle, s.subtitle⟩], given [⟨.info, s.author⟩, ⟨.info, s.institute⟩],
    given [⟨.info, s.date⟩]]

/-! ## White space around the groups -/

/-- The weight of the white space above the first group. -/
def topWeight : Nat := 3

/-- The weights of the white space below each group. -/
def spacerWeights : List Nat := [2, 2, 3]

/-- What all weights come to. -/
def totalWeight : Nat := spacerWeights.foldl (· + ·) topWeight

/-- Something on the opening page, white space with its height. -/
inductive TitleItem (α : Type)
  | space (height : α)
  | text (text : TitleText)
deriving DecidableEq, Repr

/-- A natural number as the nearest double. -/
instance natCastFloat : NatCast Float := ⟨Float.ofNat⟩

section

variable {α : Type} [NatCast α] [Add α] [Sub α] [Mul α] [Div α] [LT α] [DecidableLT α]

/-- The heights of all texts, added up in order. -/
def contentHeight (height : TitleText → α) (groups : List (List TitleText)) : α :=
  (groups.flatten.map height).foldl (· + ·) ((0 : Nat) : α)

/-- The white space for one unit of weight: the height that the texts leave over, and none if they leave nothing. -/
def spaceUnit (frameHeight slack content : α) : α :=
  let leftover := frameHeight - content - slack
  (if ((0 : Nat) : α) < leftover then leftover else ((0 : Nat) : α)) / ((totalWeight : Nat) : α)

/-- Groups of texts in a frame, with white space above the first and below each. A little of the frame is left free. -/
def arrange (frameHeight slack : α) (height : TitleText → α) (groups : List (List TitleText)) : List (TitleItem α) :=
  let unit := spaceUnit frameHeight slack (contentHeight height groups)
  .space (((topWeight : Nat) : α) * unit) ::
    (groups.zip spacerWeights).flatMap fun (texts, weight) =>
      texts.map .text ++ [.space (((weight : Nat) : α) * unit)]

end

/-! ## The page of a deck -/

/-- How much of the frame stays free, so that rounding moves nothing to the next page. -/
def titleSlack : Float := 2

/-- The height of a text of the opening page in a frame of some size. -/
def Style.titleHeight (s : Style) (wrap : Wrap) (frameWidth frameHeight : Float) (t : TitleText) : Float :=
  wrap (t.role.style s.sheet) (Inline.escapeText t.text) frameWidth frameHeight

/-- The flowables of the opening page, which fill a frame of some size. -/
def Style.titlePage (s : Style) (wrap : Wrap) (frameWidth frameHeight : Float) : List Flowable :=
  (arrange frameHeight titleSlack (s.titleHeight wrap frameWidth frameHeight) s.titleGroups).map fun
    | .space height => .spacer 1 height
    | .text t => .textParagraph (t.role.style s.sheet) t.text

end SlidePress
