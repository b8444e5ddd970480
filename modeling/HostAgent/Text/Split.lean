set_option autoImplicit false

/-! # Cutting texts apart

The pieces of a text between the occurrences of a separator, empty pieces included: one more
piece than there are separators.
-/

namespace HostAgent

/-- The pieces of `cs` between the occurrences of `separator`. -/
def splitChars (separator : Char) : List Char → List (List Char)
  | [] => [[]]
  | c :: rest =>
    if c = separator then [] :: splitChars separator rest
    else
      match splitChars separator rest with
      | [] => [[c]]
      | piece :: pieces => (c :: piece) :: pieces

/-- The pieces of `s` between the occurrences of `separator`. -/
def splitText (separator : Char) (s : String) : List String :=
  (splitChars separator s.toList).map String.ofList

end HostAgent
