set_option autoImplicit false

/-! # ASCII case

Names of sections, keys and switches are compared up to the case of the letters `A` to `Z`.
Letters beyond ASCII are never folded.
-/

namespace HostAgent

/-- `s` with `A` to `Z` replaced by `a` to `z`. -/
def foldCase (s : String) : String := String.ofList (s.toList.map Char.toLower)

/-- Two texts that differ at most in the case of ASCII letters. -/
def SameName (s t : String) : Prop := foldCase s = foldCase t

instance (s t : String) : Decidable (SameName s t) := inferInstanceAs (Decidable (_ = _))

theorem toList_foldCase (s : String) : (foldCase s).toList = s.toList.map Char.toLower := by
  simp [foldCase]

end HostAgent
