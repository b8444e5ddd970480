import HostAgent.Proofs.Json.Number

set_option autoImplicit false

/-! # JSON values as they are written

Lists and objects are rows of items between brackets, with commas between the items and blanks
anywhere (`Enclosed`); an item of an object is a key, a colon and a value. On this rests the grammar
of all JSON values (`ValueText`).

Readers meet a row from the left, one item at a time. What is left of it at any moment, up to the
closing bracket and what comes behind that, is told by `Remaining`; the loops of the readers are
followed by induction on it.

A value that nobody asked for is passed over (`skipValue_of_value`). The brackets that are open
around the place of reading are kept on a list, so a value within brackets is passed over like one
outside of them: what is shown by induction on a value holds for all lists of open brackets, and
counts the steps that passing over the value takes.
-/

namespace HostAgent.Json

/-! ## Rows between brackets -/

/-- `v` with blanks around it. -/
def Padded (v t : List Char) : Prop :=
  ∃ front back, Blanks front ∧ Blanks back ∧ t = front ++ (v ++ back)

theorem Padded.self (v : List Char) : Padded v v :=
  ⟨[], [], .nil, .nil, by rw [List.nil_append, List.append_nil]⟩

/-- Items with commas between them, and blanks around each of them. -/
inductive Row : List (List Char) → List Char → Prop
  | one {v t : List Char} (h : Padded v t) : Row [v] t
  | more {v t u : List Char} {vs : List (List Char)} (h : Padded v t) (hs : Row vs u) :
      Row (v :: vs) (t ++ ',' :: u)

/-- Items between brackets. -/
inductive Enclosed (opening closing : Char) : List (List Char) → List Char → Prop
  | empty {blanks : List Char} (h : Blanks blanks) :
      Enclosed opening closing [] (opening :: (blanks ++ [closing]))
  | filled {vs : List (List Char)} {t : List Char} (h : Row vs t) :
      Enclosed opening closing vs (opening :: (t ++ [closing]))

/-- Any items can be put between brackets, with commas and nothing else between them. -/
theorem Enclosed.intercalate (opening closing : Char) (items : List (List Char)) :
    Enclosed opening closing items (opening :: ([','].intercalate items ++ [closing])) := by
  cases items with
  | nil => exact .empty .nil
  | cons item items =>
      refine .filled ?_
      induction items generalizing item with
      | nil => simpa using Row.one (.self item)
      | cons next items ih => simpa using Row.more (.self item) (ih next)

/-- A list of items. -/
def ListText : List (List Char) → List Char → Prop := Enclosed '[' ']'

/-- A member of an object: its key, a colon and its value. -/
def MemberText (key value t : List Char) : Prop :=
  ∃ back front, Blanks back ∧ Blanks front ∧ t = key ++ (back ++ ':' :: (front ++ value))

/-- An object with the given keys and values of its members. -/
def ObjectText (members : List (List Char × List Char)) (t : List Char) : Prop :=
  ∃ items, List.Forall₂ (fun m item => MemberText m.1 m.2 item) members items
    ∧ Enclosed '\x7b' '\x7d' items t

/-- A value. -/
inductive ValueText : List Char → Prop
  | name {t : List Char} (h : t ∈ ["null", "true", "false"].map String.toList) : ValueText t
  | number {t : List Char} (h : NumberText t) : ValueText t
  | text {t : List Char} (h : QuotedText t) : ValueText t
  | list {items : List (List Char)} {t : List Char} (h : ListText items t)
      (hitems : ∀ item ∈ items, ValueText item) : ValueText t
  | object {members : List (List Char × List Char)} {t : List Char} (h : ObjectText members t)
      (hkeys : ∀ m ∈ members, QuotedText m.1) (hvalues : ∀ m ∈ members, ValueText m.2) :
      ValueText t

theorem Enclosed.starts {opening closing : Char} (hopening : opening ∉ marks)
    {items : List (List Char)} {t : List Char} (h : Enclosed opening closing items t) :
    Starts t := by
  cases h <;> exact .cons hopening

theorem MemberText.starts {key value item : List Char} (h : MemberText key value item)
    (hkey : Starts key) : Starts item := by
  obtain ⟨back, front, -, -, rfl⟩ := h
  exact hkey.append _

/-! ## What is left of a row -/

/-- What is left to read between brackets, with `rest` behind the closing one, when the given items
are still to come; `first` tells whether none has come yet. -/
inductive Remaining (closing : Char) (rest : List Char) :
    Bool → List (List Char) → List Char → Prop
  | closed {first : Bool} {back : List Char} (hback : Blanks back) :
      Remaining closing rest first [] (back ++ closing :: rest)
  | first {front item cs : List Char} {items : List (List Char)} (hfront : Blanks front)
      (h : Remaining closing rest false items cs) :
      Remaining closing rest true (item :: items) (front ++ (item ++ cs))
  | next {back front item cs : List Char} {items : List (List Char)} (hback : Blanks back)
      (hfront : Blanks front) (h : Remaining closing rest false items cs) :
      Remaining closing rest false (item :: items) (back ++ ',' :: (front ++ (item ++ cs)))

section

variable {opening closing : Char} {rest cs t : List Char} {items : List (List Char)}

theorem Row.remaining (h : Row items t) (closing : Char) (rest : List Char) :
    ∃ front item items' cs, items = item :: items'
      ∧ t ++ closing :: rest = front ++ (item ++ cs) ∧ Blanks front
      ∧ Remaining closing rest false items' cs := by
  induction h with
  | one h =>
      obtain ⟨front, back, hfront, hback, rfl⟩ := h
      exact ⟨front, _, [], _, rfl, by simp, hfront, .closed hback⟩
  | more h hs ih =>
      obtain ⟨front, back, hfront, hback, rfl⟩ := h
      obtain ⟨front', item, items', cs, rfl, hcs, hfront', hrest⟩ := ih
      exact ⟨front, _, _, _, rfl, by simp [hcs], hfront, .next hback hfront' hrest⟩

/-- Behind the opening bracket all items are still to come. -/
theorem Enclosed.remaining (h : Enclosed opening closing items t) (rest : List Char) :
    ∃ cs, t ++ rest = opening :: cs ∧ Remaining closing rest true items cs := by
  cases h with
  | empty hblanks => exact ⟨_, by simp, .closed hblanks⟩
  | filled h =>
      obtain ⟨front, item, items', cs, rfl, hcs, hfront, hrest⟩ := h.remaining closing rest
      exact ⟨_, by simp [hcs], .first hfront hrest⟩

/-- What is left may come behind a value. -/
theorem Remaining.follow (h : Remaining closing rest false items cs) (hclosing : closing ∈ marks) :
    Follow cs := by
  cases h with
  | closed hback => exact .append hback (.cons hclosing)
  | next hback => exact .append hback (.cons (by decide))

/-- Between two items there is a comma, and behind the last one the closing bracket. -/
theorem Remaining.length_add_le {first : Bool} (h : Remaining closing rest first items cs) :
    items.length + (if first then 0 else 1) ≤ cs.length := by
  induction h with
  | @closed first back hback =>
      rw [List.length_nil, List.length_append, List.length_cons]
      split <;> omega
  | first hfront h ih =>
      simp only [List.length_cons, List.length_append, if_true, Bool.false_eq_true,
        if_false] at ih ⊢
      omega
  | next hback hfront h ih =>
      simp only [List.length_cons, List.length_append, Bool.false_eq_true, if_false] at ih ⊢
      omega

theorem Remaining.length_le {first : Bool} (h : Remaining closing rest first items cs) :
    items.length ≤ cs.length :=
  Nat.le_of_add_right_le h.length_add_le

end

/-! ## One step of passing over -/

/-- The bracket that opens a frame. -/
def Frame.opening : Frame → Char
  | .list => '['
  | .object => '\x7b'

section

variable {frame : Frame} {frames : List Frame} {cs : List Char}

theorem skipWithin_before_append (fuel : Nat) {front : List Char} (h : Blanks front) :
    skipWithin fuel .before frames (front ++ cs) = skipWithin fuel .before frames cs := by
  cases fuel with
  | zero => rfl
  | succ fuel => rw [skipWithin, skipWithin, skipSpace_append h]

theorem skipWithin_opening (fuel : Nat) :
    skipWithin (fuel + 1) .before frames (frame.opening :: cs)
      = skipWithin fuel .opened (frame :: frames) cs := by
  cases frame <;> rfl

theorem skipWithin_closing (fuel : Nat) (state : SkipState) (hstate : state ≠ .before)
    {back : List Char} (h : Blanks back) :
    skipWithin (fuel + 1) state (frame :: frames) (back ++ frame.closing :: cs)
      = skipWithin fuel .behind frames cs := by
  have hspace : skipSpace (back ++ frame.closing :: cs) = frame.closing :: cs := by
    rw [skipSpace_append h]
    cases frame <;> rfl
  rw [skipWithin, hspace]
  · simp only [if_true]
  · exact hstate

theorem skipWithin_comma (fuel : Nat) {back : List Char} (h : Blanks back) :
    skipWithin (fuel + 1) .behind (frame :: frames) (back ++ ',' :: cs)
      = skipToValue frame cs >>= skipWithin fuel .before (frame :: frames) := by
  have hspace : skipSpace (back ++ ',' :: cs) = ',' :: cs := by
    rw [skipSpace_append h]
    rfl
  have hclosing : ',' ≠ frame.closing := by cases frame <;> decide
  rw [skipWithin, hspace]
  · simp only [if_neg hclosing]
    rfl
  · exact nofun

theorem skipWithin_opened (fuel : Nat) {front : List Char} (hfront : Blanks front)
    (h : Starts cs) :
    skipWithin (fuel + 1) .opened (frame :: frames) (front ++ cs)
      = skipToValue frame cs >>= skipWithin fuel .before (frame :: frames) := by
  obtain @⟨c, rest, hc⟩ := h
  have hspace : skipSpace (front ++ c :: rest) = c :: rest := by
    rw [skipSpace_append hfront, skipSpace_cons (isSpace_eq_false_of_not_mem hc)]
  have hclosing : c ≠ frame.closing := by
    rintro rfl
    cases frame <;> exact hc (by decide)
  rw [skipWithin, hspace]
  · simp only [if_neg hclosing, if_true]
  · exact nofun

end

/-! ## Passing over a value -/

/-- Passing over `v` takes a number of steps within the bound, whatever brackets are open. -/
def Passed (v : List Char) : Prop :=
  ∀ rest, Follow rest → ∃ steps < 2 * v.length, ∀ fuel frames,
    skipWithin (steps + fuel) .before frames (v ++ rest) = skipWithin fuel .behind frames rest

/-- Passing over an item, which is a value or leads to one. -/
def PassedIn (frame : Frame) (item : List Char) : Prop :=
  ∀ front rest, Blanks front → Follow rest → ∃ steps < 2 * item.length, ∀ fuel frames,
    skipToValue frame (front ++ (item ++ rest)) >>= skipWithin (steps + fuel) .before frames
      = skipWithin fuel .behind frames rest

theorem Passed.inList {v : List Char} (h : Passed v) : PassedIn .list v := by
  intro front rest hfront hrest
  obtain ⟨steps, hsteps, hrun⟩ := h rest hrest
  refine ⟨steps, hsteps, fun fuel frames => ?_⟩
  show skipWithin (steps + fuel) .before frames (front ++ (v ++ rest)) = _
  rw [skipWithin_before_append _ hfront, hrun]

theorem skipKey_of_member {parts : List (List Char)} (hparts : ∀ part ∈ parts, QuotedPart part)
    {front back : List Char} (hfront : Blanks front) (hback : Blanks back) (cs : List Char) :
    skipKey (front ++ '"' :: (parts.flatten ++ '"' :: (back ++ ':' :: cs))) = .ok cs := by
  have hquote : skipSpace (front ++ '"' :: (parts.flatten ++ '"' :: (back ++ ':' :: cs)))
      = '"' :: (parts.flatten ++ '"' :: (back ++ ':' :: cs)) := by
    rw [skipSpace_append hfront]
    rfl
  have hcolon : skipSpace (back ++ ':' :: cs) = ':' :: cs := by
    rw [skipSpace_append hback]
    rfl
  rw [skipKey, hquote]
  simp only [skipTextBody_of_quoted hparts, ok_bind, hcolon]
  rfl

theorem Passed.inObject {key value item : List Char} (hkey : QuotedText key)
    (hitem : MemberText key value item) (h : Passed value) : PassedIn .object item := by
  intro front rest hfront hrest
  obtain ⟨steps, hsteps, hrun⟩ := h rest hrest
  obtain ⟨parts, hparts, rfl⟩ := hkey
  obtain ⟨back, gap, hback, hgap, rfl⟩ := hitem
  refine ⟨steps, ?_, fun fuel frames => ?_⟩
  · simp only [List.length_append, List.length_cons]
    omega
  · have hskip := skipKey_of_member hparts hfront hback (gap ++ (value ++ rest))
    have htext : front ++ ('"' :: (parts.flatten ++ ['"']) ++ (back ++ ':' :: (gap ++ value))
        ++ rest)
        = front ++ '"' :: (parts.flatten ++ '"' :: (back ++ ':' :: (gap ++ (value ++ rest)))) := by
      simp
    rw [htext, skipToValue, hskip]
    show skipWithin (steps + fuel) .before frames (gap ++ (value ++ rest)) = _
    rw [skipWithin_before_append _ hgap, hrun]

/-- Passing over what is left between brackets. -/
theorem Remaining.passed {frame : Frame} {rest cs : List Char} {first : Bool}
    {items : List (List Char)} (h : Remaining frame.closing rest first items cs)
    (hstart : ∀ item ∈ items, Starts item) (hitems : ∀ item ∈ items, PassedIn frame item) :
    ∃ steps, steps + 2 * rest.length ≤ 2 * cs.length ∧ ∀ fuel frames,
      skipWithin (steps + fuel) (if first then .opened else .behind) (frame :: frames) cs
        = skipWithin fuel .behind frames rest := by
  have hclosing : frame.closing ∈ marks := by cases frame <;> decide
  -- item by item: a step to the item, those over the item, and those over what is left then
  induction h with
  | @closed first back hback =>
      refine ⟨1, ?_, fun fuel frames => ?_⟩
      · simp only [List.length_append, List.length_cons]
        omega
      · rw [Nat.add_comm, skipWithin_closing _ _ (by cases first <;> exact nofun) hback]
  | first hfront hrest ih =>
      obtain ⟨hstart, hothers⟩ := List.forall_mem_cons.mp hstart
      obtain ⟨hitem, hitems⟩ := List.forall_mem_cons.mp hitems
      obtain ⟨steps, hsteps, hrun⟩ := hitem [] _ .nil (hrest.follow hclosing)
      obtain ⟨more, hmore, hleft⟩ := ih hothers hitems
      refine ⟨steps + more + 1, ?_, fun fuel frames => ?_⟩
      · simp only [List.length_append]
        omega
      · rw [if_pos rfl, Nat.add_right_comm, skipWithin_opened _ hfront (hstart.append _),
          Nat.add_assoc]
        exact (hrun (more + fuel) (frame :: frames)).trans (hleft fuel frames)
  | next hback hfront hrest ih =>
      obtain ⟨-, hothers⟩ := List.forall_mem_cons.mp hstart
      obtain ⟨hitem, hitems⟩ := List.forall_mem_cons.mp hitems
      obtain ⟨steps, hsteps, hrun⟩ := hitem _ _ hfront (hrest.follow hclosing)
      obtain ⟨more, hmore, hleft⟩ := ih hothers hitems
      refine ⟨steps + more + 1, ?_, fun fuel frames => ?_⟩
      · simp only [List.length_append, List.length_cons]
        omega
      · rw [if_neg Bool.false_ne_true, Nat.add_right_comm, skipWithin_comma _ hback, Nat.add_assoc]
        exact (hrun (more + fuel) (frame :: frames)).trans (hleft fuel frames)

/-- Passing over brackets and what is between them. -/
theorem Enclosed.passed (frame : Frame) {items : List (List Char)} {t : List Char}
    (h : Enclosed frame.opening frame.closing items t) (hstart : ∀ item ∈ items, Starts item)
    (hitems : ∀ item ∈ items, PassedIn frame item) : Passed t := by
  intro rest _
  obtain ⟨cs, hcs, hrest⟩ := h.remaining rest
  obtain ⟨steps, hsteps, hrun⟩ := hrest.passed hstart hitems
  have hlength := congrArg List.length hcs
  rw [List.length_append, List.length_cons] at hlength
  refine ⟨steps + 1, by omega, fun fuel frames => ?_⟩
  have hopened := hrun fuel frames
  rw [if_pos rfl] at hopened
  rw [hcs, Nat.add_right_comm, skipWithin_opening, hopened]

/-- Passing over a value without parts takes one step. -/
theorem passed_of_scalar {c : Char} {t : List Char} (hc : c ∉ ['[', '\x7b'] ++ marks)
    (h : ∀ rest, Follow rest → skipScalar c (t ++ rest) = .ok rest) : Passed (c :: t) := by
  obtain ⟨hlist, hobject, hmarks⟩ : c ≠ '[' ∧ c ≠ '\x7b' ∧ c ∉ marks := by simpa using hc
  intro rest hrest
  refine ⟨1, by rw [List.length_cons]; omega, fun fuel frames => ?_⟩
  rw [List.cons_append, Nat.add_comm, skipWithin,
    skipSpace_cons (isSpace_eq_false_of_not_mem hmarks)]
  split
  · next heq => cases heq
  · next heq => exact absurd (List.cons.inj heq).1 hlist
  · next heq => exact absurd (List.cons.inj heq).1 hobject
  · next heq =>
    obtain ⟨rfl, rfl⟩ := List.cons.inj heq
    rw [h rest hrest, ok_bind]

theorem readName_append (name rest : List Char) : readName name (name ++ rest) = .ok rest := by
  induction name with
  | nil => rfl
  | cons c name ih =>
      rw [List.cons_append, readName, if_pos rfl, ih]

/-- A digit begins a number and nothing else. -/
theorem skipScalar_digit {d : Char} (hd : d.isDigit = true) (rest : List Char) :
    skipScalar d rest = skipNumber (d :: rest) := by
  have hne (c : Char) (hc : c.isDigit = false) : d ≠ c := by
    rintro rfl
    rw [hd] at hc
    cases hc
  rw [skipScalar, isDigit_eq, if_pos hd]
  · exact hne 'n' rfl
  · exact hne 't' rfl
  · exact hne 'f' rfl
  · exact hne '-' rfl
  · exact hne '"' rfl

theorem not_mem_of_isDigit {d : Char} (hd : d.isDigit = true) : d ∉ ['[', '\x7b'] ++ marks := by
  have hall : (['[', '\x7b'] ++ marks).all fun c => c.isDigit = false := by decide
  intro hmem
  rw [of_decide_eq_true (List.all_eq_true.mp hall d hmem)] at hd
  cases hd

theorem passed_of_number {t : List Char} (h : NumberText t) : Passed t := by
  obtain ⟨sign, whole, fraction, exponent, hsign, hwhole, hfraction, hexponent, rfl⟩ := h
  have hskip (rest : List Char) (hrest : Follow rest) :
      skipNumber (whole ++ (fraction ++ exponent) ++ rest) = .ok rest := by
    rw [List.append_assoc, List.append_assoc]
    exact skipNumber_of_whole hwhole hfraction hexponent hrest
  rcases hsign with rfl | rfl
  · obtain ⟨d, digits, rfl, hd⟩ := hwhole.exists_digit
    refine passed_of_scalar (not_mem_of_isDigit hd) fun rest hrest => ?_
    exact (skipScalar_digit hd _).trans (hskip rest hrest)
  · exact passed_of_scalar (by decide) fun rest hrest => hskip rest hrest

theorem passed_of_text {t : List Char} (h : QuotedText t) : Passed t := by
  obtain ⟨parts, hparts, rfl⟩ := h
  refine passed_of_scalar (by decide) fun rest _ => ?_
  rw [List.append_assoc]
  exact skipTextBody_of_quoted hparts rest

theorem ValueText.starts {v : List Char} (h : ValueText v) : Starts v := by
  cases h with
  | name h =>
      simp only [List.map_cons, List.map_nil, List.mem_cons, List.not_mem_nil, or_false] at h
      rcases h with rfl | rfl | rfl <;> exact .cons (by decide)
  | number h =>
      obtain ⟨sign, whole, fraction, exponent, rfl | rfl, hwhole, -, -, rfl⟩ := h
      · obtain ⟨d, digits, rfl, hd⟩ := hwhole.exists_digit
        exact .cons fun hmem => not_mem_of_isDigit hd (List.mem_append_right _ hmem)
      · exact .cons (by decide)
  | text h => exact h.starts
  | list h => exact Enclosed.starts (by decide) h
  | object h =>
      obtain ⟨items, -, h⟩ := h
      exact h.starts (by decide)

theorem ValueText.passed {v : List Char} (h : ValueText v) : Passed v := by
  induction h with
  | name h =>
      simp only [List.map_cons, List.map_nil, List.mem_cons, List.not_mem_nil, or_false] at h
      rcases h with rfl | rfl | rfl
      all_goals exact passed_of_scalar (by decide) fun rest _ => readName_append _ rest
  | number h => exact passed_of_number h
  | text h => exact passed_of_text h
  | list h hitems ih =>
      exact Enclosed.passed .list h (fun item hitem => (hitems item hitem).starts)
        fun item hitem => (ih item hitem).inList
  | object h hkeys hvalues ih =>
      obtain ⟨items, hmembers, h⟩ := h
      have hitems := exists_of_mem_forall₂ hmembers
      refine Enclosed.passed .object h (fun item hitem => ?_) fun item hitem => ?_
      · obtain ⟨m, hm, hmember⟩ := hitems item hitem
        exact hmember.starts (hkeys m hm).starts
      · obtain ⟨m, hm, hmember⟩ := hitems item hitem
        exact (ih m hm).inObject (hkeys m hm) hmember

/-- **A value is passed over.** -/
theorem skipValue_of_value {front v rest : List Char} (hfront : Blanks front) (h : ValueText v)
    (hrest : Follow rest) : skipValue (front ++ (v ++ rest)) = .ok rest := by
  obtain ⟨steps, hsteps, hrun⟩ := h.passed rest hrest
  have hfuel : steps + 1 ≤ 2 * (front ++ (v ++ rest)).length + 2 := by
    simp only [List.length_append]
    omega
  obtain ⟨fuel, hfuel⟩ := Nat.exists_eq_add_of_le hfuel
  rw [skipValue, hfuel, skipWithin_before_append _ hfront, Nat.add_assoc, hrun,
    Nat.add_comm]
  rfl

end HostAgent.Json
