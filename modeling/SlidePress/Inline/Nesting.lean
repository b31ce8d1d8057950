import SlidePress.Inline.Emphasis

/-!
# `SlidePress.Inline.Nesting` — tags that close in order

Markup can be set only if every bold or italic tag is closed, the one opened last first.
-/

namespace SlidePress.Inline

/-- An emphasis tag. -/
inductive Tag
  | opening (e : Emphasis)
  | closing (e : Emphasis)
deriving DecidableEq, Repr

/-- The emphasis tags of a text, in order; anything else is passed over. -/
def tags : List Char → List Tag
  | [] => []
  | '<' :: 'b' :: '>' :: rest => .opening .bold :: tags rest
  | '<' :: 'i' :: '>' :: rest => .opening .italic :: tags rest
  | '<' :: '/' :: 'b' :: '>' :: rest => .closing .bold :: tags rest
  | '<' :: '/' :: 'i' :: '>' :: rest => .closing .italic :: tags rest
  | _ :: rest => tags rest

/-- Whether the tags close each other and the ones that are open, the innermost first. -/
def closesAll : List Emphasis → List Tag → Bool
  | opened, [] => opened.isEmpty
  | opened, .opening e :: rest => closesAll (e :: opened) rest
  | [], .closing _ :: _ => false
  | top :: opened, .closing e :: rest => top = e && closesAll opened rest

/-- Whether every emphasis tag of a text is closed in the reverse order of opening. -/
def isBalanced (cs : List Char) : Bool := closesAll [] (tags cs)

/-- Whether every emphasis tag of a text is closed in the reverse order of opening. -/
def isBalancedText (markup : String) : Bool := isBalanced markup.toList

end SlidePress.Inline
