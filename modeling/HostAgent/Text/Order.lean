set_option autoImplicit false

/-! # Texts in order

Texts are ordered by the code points of their characters. `sortTexts` puts a list into that
order; `sortDistinct` also drops repetitions, so that its result depends on the set of texts
alone.
-/

namespace HostAgent

/-- `s` in its place among ordered texts. -/
def insertText (s : String) : List String → List String
  | [] => [s]
  | t :: rest => if t < s then t :: insertText s rest else s :: t :: rest

/-- The texts of a list in order. -/
def sortTexts (texts : List String) : List String := texts.foldr insertText []

/-- `s` in its place among ordered distinct texts, unless it is there. -/
def insertDistinct (s : String) : List String → List String
  | [] => [s]
  | t :: rest =>
    if s < t then s :: t :: rest
    else if s = t then t :: rest
    else t :: insertDistinct s rest

/-- The distinct texts of a list in order. -/
def sortDistinct (texts : List String) : List String := texts.foldr insertDistinct []

end HostAgent
