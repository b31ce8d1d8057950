import SlidePress.Deck.Basic
import SlidePress.Footer.Placement
import SlidePress.Page.Canvas
import SlidePress.Style.Basic

/-!
# `SlidePress.Page.Chrome` — the bars around a page

A bar at the top of a page shows the running header, and one at the bottom the footer. Both are drawn from the style
alone; nothing is carried from page to page.
-/

namespace SlidePress

/-- What the bars of a page are drawn with. -/
structure Chrome where
  style : Style
  /-- The measure for the date. -/
  measure : Measure Float

/-- The chrome of a style, its text measured in its own font. -/
def Chrome.ofStyle (style : Style) (fonts : FontRegistry) (library : StyleLibrary := .usual) : Chrome :=
  { style, measure := library.measure fonts style.textFont (.float style.chromeSize) }

namespace Chrome

/-- The room between a bar's text and the edge of the page. -/
def padding : Float := 10

/-- The room between the date and the box of the page label. -/
def gap : Float := 8

/-- The height of the header bar. -/
def headerHeight (chrome : Chrome) : Float := chrome.style.chromeSize * 1.8

/-- The height of the footer bar. -/
def footerHeight (chrome : Chrome) : Float := chrome.style.chromeSize * 1.8

/-- The height of the line that text stands on, in the middle of a bar. -/
def baseline (chrome : Chrome) (bottom height : Float) : Float :=
  bottom + (height - chrome.style.chromeSize * 0.7) / 2

/-- A bar across the page in the colour of the deck, and white text from then on. -/
def drawBar (chrome : Chrome) (bottom height : Float) : List DrawCall :=
  [.fill chrome.style.color, .rectangle 0 bottom chrome.style.pageWidth height false true, .fill .white,
    .font chrome.style.textFont chrome.style.chromeSize]

/-- A text, unless it is empty. -/
def drawUnlessEmpty (anchor : Anchor) (x y : Float) (text : String) : List DrawCall :=
  if text.isEmpty then [] else [.text anchor x y text]

/-- The header bar: the section on the left and the topic on the right. -/
def drawHeader (chrome : Chrome) (header : Header) : List DrawCall :=
  let bottom := chrome.style.pageHeight - chrome.headerHeight
  let y := chrome.baseline bottom chrome.headerHeight
  chrome.drawBar bottom chrome.headerHeight ++
    drawUnlessEmpty .left padding y header.sectionText ++
    drawUnlessEmpty .right (chrome.style.pageWidth - padding) y header.topicText

/-- The placement of the footer on a page. -/
def footerPlacement (chrome : Chrome) (page : Int) (label : Option String) (boxWidth : Float) :
    Except MeasureError (FooterPlacement Float) :=
  placeFooter chrome.style.pageWidth padding gap boxWidth chrome.style.date chrome.measure page label

/-- The footer bar: the identity on the left, the short title in the middle, and the date and the page label on the
right. Where the date cannot be measured, everything before it has been drawn. -/
def drawFooter (chrome : Chrome) (page : Int) (label : Option String) (boxWidth : Float) :
    List DrawCall × Except MeasureError (FooterPlacement Float) :=
  let style := chrome.style
  let y := chrome.baseline 0 chrome.footerHeight
  let calls :=
    chrome.drawBar 0 chrome.footerHeight ++
      drawUnlessEmpty .left padding y style.identity ++
      drawUnlessEmpty .centre (style.pageWidth / 2) y style.shortTitle ++
      drawUnlessEmpty .right (style.pageWidth - padding) y (label.getD "")
  match chrome.footerPlacement page label boxWidth with
  | .error e => (calls, .error e)
  | .ok placement => (calls ++ drawUnlessEmpty .left placement.dateX y style.date, .ok placement)

end Chrome

end SlidePress
