import HostAgent.Ini.Path
import HostAgent.Proofs.Ini.Cursor
import HostAgent.Proofs.Text.Case

set_option autoImplicit false

/-! # Plain settings files

A *plain* file consists of headers `[name]` and assignments `key = value`, of blank lines and of
comments on lines of their own, where names and values need neither quotes nor escapes. It is read
line by line, each header and each assignment for itself (`read_fileText`).

Reading does not go by lines: a key runs up to its delimiter and a gap up to the next item. So the
proof follows a cursor that is either behind an item, before the line ends that are left, or at the
start of a line (`reads_lines`).
-/

namespace HostAgent.Ini

/-! ## Plain lines -/

/-- An ASCII letter, followed by ASCII letters, digits, hyphens and underscores. -/
def isPlainName (s : String) : Bool :=
  s.toList.head?.any Char.isAlpha && s.toList.all Path.isPartChar

/-- An ASCII letter, a digit or one of `.`, `,`, `:`, `/`, `-` and `_`. -/
def isValueChar (ch : Char) : Bool := ch.isAlphanum || ['.', ',', ':', '/', '-', '_'].contains ch

/-- A value that is not empty and is written without quotes and escapes. -/
def isPlainValue (s : String) : Bool := !s.toList.isEmpty && s.toList.all isValueChar

/-- The name of a group or of a key. -/
structure PlainName where
  text : String
  plain : isPlainName text = true
deriving DecidableEq

/-- A value. -/
structure PlainValue where
  text : String
  plain : isPlainValue text = true
deriving DecidableEq

/-- A line of a plain file. A blank line holds at most spaces and tabs; the mark of a comment is the
first character of its line. -/
inductive Line
  | blank (indent : String) (plain : indent.toList.all isIndent = true)
  | comment (mark : Char) (text : String) (plain : (mark = ';' ∨ mark = '#') ∧ '\n' ∉ text.toList)
  | header (name : PlainName)
  | assignment (key : PlainName) (value : PlainValue)

namespace Line

/-- A line as it is written. -/
def text : Line → String
  | blank indent _ => indent
  | comment mark text _ => String.singleton mark ++ text
  | header name => "[" ++ name.text ++ "]"
  | assignment key value => key.text ++ " = " ++ value.text

/-- What a line says. -/
def item? : Line → Option Item
  | blank _ _ | comment _ _ _ => none
  | header name => some (.group name.text)
  | assignment key value => some (.setting key.text value.text)

/-- Whether a line is a header or an assignment. -/
def isItem (line : Line) : Bool := line.item?.isSome

end Line

/-- The text of a file. The last line has no line end; one more line that is blank stands for it. -/
def fileText (mark : LineEnd) (lines : List Line) : String :=
  (String.ofList mark.chars).intercalate (lines.map Line.text)

namespace Line

theorem toList_comment (mark : Char) (text : String) (plain) :
    (comment mark text plain).text.toList = mark :: text.toList := by
  simp [Line.text]

theorem toList_header (name : PlainName) :
    (header name).text.toList = '[' :: (name.text.toList ++ [']']) := by
  simp [Line.text]

theorem toList_assignment (key : PlainName) (value : PlainValue) :
    (assignment key value).text.toList
      = key.text.toList ++ ' ' :: '=' :: ' ' :: value.text.toList := by
  simp [Line.text]

end Line

/-! ## Plain characters -/

theorem isAlphanum_bounds {ch : Char} (h : ch.isAlphanum = true) :
    48 ≤ ch.toNat ∧ ch.toNat ≤ 122 := by
  have hcases : (ch.isUpper = true ∨ ch.isLower = true) ∨ ch.isDigit = true := by
    rw [← Bool.or_eq_true, ← Bool.or_eq_true]
    exact h
  rcases hcases with (hupper | hlower) | hdigit
  · have hbounds := (isUpper_iff ch).mp hupper
    omega
  · have hbounds := isLower_bounds hlower
    omega
  · have hbounds : 48 ≤ ch.toNat ∧ ch.toNat ≤ 57 := Char.isDigit_iff_toNat.mp hdigit
    omega

theorem isBlank_eq_false_of_isAlphanum {ch : Char} (h : ch.isAlphanum = true) :
    isBlank ch = false := by
  obtain ⟨hlow, hhigh⟩ := isAlphanum_bounds h
  have hval : ch.val.toNat = ch.toNat := rfl
  rw [← Bool.not_eq_true, isBlank, hval]
  simp only [Bool.or_eq_true, Bool.and_eq_true, decide_eq_true_eq, beq_iff_eq]
  omega

theorem isBlank_eq_false_of_isValueChar {ch : Char} (h : isValueChar ch = true) :
    isBlank ch = false := by
  rw [isValueChar, Bool.or_eq_true, List.contains_iff_mem] at h
  rcases h with halnum | hmark
  · exact isBlank_eq_false_of_isAlphanum halnum
  · simp only [List.mem_cons, List.not_mem_nil, or_false] at hmark
    rcases hmark with rfl | rfl | rfl | rfl | rfl | rfl <;> rfl

theorem isValueChar_of_isPartChar {ch : Char} (h : Path.isPartChar ch = true) :
    isValueChar ch = true := by
  simp only [Path.isPartChar, Bool.or_eq_true, beq_iff_eq] at h
  rcases h with (halnum | rfl) | rfl
  · rw [isValueChar, halnum, Bool.true_or]
  · rfl
  · rfl

theorem isBlank_eq_false_of_isPartChar {ch : Char} (h : Path.isPartChar ch = true) :
    isBlank ch = false :=
  isBlank_eq_false_of_isValueChar (isValueChar_of_isPartChar h)

/-- A character that belongs to no name is none of the characters of a name. -/
theorem ne_of_isPartChar {ch d : Char} (h : Path.isPartChar ch = true)
    (hd : Path.isPartChar d = false) : ch ≠ d := by
  rintro rfl
  cases h.symm.trans hd

theorem ne_of_isValueChar {ch d : Char} (h : isValueChar ch = true) (hd : isValueChar d = false) :
    ch ≠ d := by
  rintro rfl
  cases h.symm.trans hd

theorem passes_delimiter {ch : Char} (h : Path.isPartChar ch = true) :
    Stop.delimiter.Passes ch := by
  refine ⟨?_, ne_of_isPartChar h rfl⟩
  have hequals : ch ≠ '=' := ne_of_isPartChar h rfl
  have hcolon : ch ≠ ':' := ne_of_isPartChar h rfl
  simp [Stop.endsAt, hequals, hcolon]

theorem passes_groupEnd {ch : Char} (h : Path.isPartChar ch = true) :
    Stop.groupEnd.Passes ch := by
  refine ⟨?_, ne_of_isPartChar h rfl⟩
  have hbracket : ch ≠ ']' := ne_of_isPartChar h rfl
  simp [Stop.endsAt, hbracket]

theorem passes_lineEnd {ch : Char} (h : isValueChar ch = true) : Stop.lineEnd.Passes ch := by
  refine ⟨?_, ne_of_isValueChar h rfl⟩
  have hfeed : ch ≠ '\n' := ne_of_isValueChar h rfl
  have hreturn : ch ≠ '\r' := ne_of_isValueChar h rfl
  simp [Stop.endsAt, hfeed, hreturn]

namespace PlainName

variable (name : PlainName)

theorem isPartChar_of_mem {ch : Char} (h : ch ∈ name.text.toList) : Path.isPartChar ch = true := by
  have hplain := name.plain
  rw [isPlainName, Bool.and_eq_true] at hplain
  exact List.all_eq_true.mp hplain.2 ch h

theorem exists_first : ∃ ch cs, name.text.toList = ch :: cs ∧ Path.isPartChar ch = true := by
  have hplain := name.plain
  rw [isPlainName, Bool.and_eq_true] at hplain
  cases hname : name.text.toList with
  | nil =>
      rw [hname] at hplain
      cases hplain.1
  | cons ch cs => exact ⟨ch, cs, rfl, name.isPartChar_of_mem (hname ▸ List.mem_cons_self)⟩

theorem trimChars_text : trimChars name.text.toList = name.text.toList :=
  trimChars_of_forall fun _ hch => isBlank_eq_false_of_isPartChar (name.isPartChar_of_mem hch)

/-- The blank between a key and its delimiter does not belong to the key. -/
theorem trimChars_text_append : trimChars (name.text.toList ++ [' ']) = name.text.toList := by
  have hfront : ∀ ch ∈ ([] : List Char), isBlank ch = true := fun _ hch => nomatch hch
  have hback : ∀ ch ∈ [' '], isBlank ch = true := List.forall_mem_singleton.mpr rfl
  calc trimChars (name.text.toList ++ [' '])
      = trimChars name.text.toList := trimChars_append hfront hback name.text.toList
    _ = name.text.toList := name.trimChars_text

end PlainName

namespace PlainValue

variable (value : PlainValue)

theorem isValueChar_of_mem {ch : Char} (h : ch ∈ value.text.toList) : isValueChar ch = true := by
  have hplain := value.plain
  rw [isPlainValue, Bool.and_eq_true] at hplain
  exact List.all_eq_true.mp hplain.2 ch h

theorem exists_first : ∃ ch cs, value.text.toList = ch :: cs ∧ isValueChar ch = true := by
  have hplain := value.plain
  rw [isPlainValue, Bool.and_eq_true] at hplain
  cases hvalue : value.text.toList with
  | nil =>
      rw [hvalue] at hplain
      cases hplain.1
  | cons ch cs => exact ⟨ch, cs, rfl, value.isValueChar_of_mem (hvalue ▸ List.mem_cons_self)⟩

theorem trimChars_text : trimChars value.text.toList = value.text.toList :=
  trimChars_of_forall fun _ hch => isBlank_eq_false_of_isValueChar (value.isValueChar_of_mem hch)

end PlainValue

/-! ## Steps of reading -/

namespace Cursor.Before

variable {c : Cursor} {ch : Char} {key rest : List Char}

theorem readItems_of_end (h : c.Before []) (fuel : Nat) : readItems fuel key c = .ok [] := by
  cases fuel with
  | zero => rfl
  | succ fuel =>
      rw [readItems, h.head?_eq]
      rfl

/-- A comment at the start of a line. -/
theorem readItems_of_comment (h : c.Before (ch :: rest)) (hch : ch = ';' ∨ ch = '#')
    (hcolumn : c.column ≤ 1) (fuel : Nat) :
    readItems (fuel + 1) key c = readItems fuel key (skipGap (skipComment c)) := by
  rw [readItems, h.head?_eq]
  show (if ch = ';' ∨ ch = '#' then if 1 < c.column then _ else _ else _) = _
  rw [if_pos hch, if_neg (Nat.not_lt.mpr hcolumn)]

/-- The header of a group. -/
theorem readItems_of_header {name : PlainName}
    (h : c.Before ('[' :: (name.text.toList ++ ']' :: rest))) (key : List Char) (fuel : Nat) :
    ∃ c', c'.Before rest ∧ readItems (fuel + 1) key c
      = (readItems fuel key (skipGap c')).map (Item.group name.text :: ·) := by
  have hpasses : ∀ ch ∈ name.text.toList, Stop.groupEnd.Passes ch := fun ch hch =>
    passes_groupEnd (name.isPartChar_of_mem hch)
  obtain ⟨c', hread, hbefore⟩ := h.next.exists_readUntil hpasses rfl
  refine ⟨c'.next, hbefore.next, ?_⟩
  rw [readItems, h.head?_eq]
  show (readUntil .groupEnd c.next >>= _) = _
  rw [hread]
  show (readItems fuel key (skipGap c'.next) >>= fun items => Except.ok
    (.group (String.ofList (trimChars name.text.toList)) :: items)) = _
  rw [name.trimChars_text, String.ofList_toList]
  cases readItems fuel key (skipGap c'.next) <;> rfl

/-- A character of names opens none of the other items, so a key starts there. -/
theorem readItems_of_partChar (h : c.Before (ch :: rest)) (hch : Path.isPartChar ch = true)
    {piece : List Char} {c' : Cursor} (hread : readUntil .delimiter c = .ok (piece, c'))
    (key : List Char) (fuel : Nat) :
    readItems (fuel + 1) key c = readItems fuel (trimChars piece) (skipGap c') := by
  have hcomment : ¬(ch = ';' ∨ ch = '#') := fun hmark =>
    hmark.elim (ne_of_isPartChar hch rfl) (ne_of_isPartChar hch rfl)
  have hheader : ch ≠ '[' := ne_of_isPartChar hch rfl
  have hdelimiter : ¬(ch = '=' ∨ ch = ':') := fun hmark =>
    hmark.elim (ne_of_isPartChar hch rfl) (ne_of_isPartChar hch rfl)
  have hindent : ¬isIndent ch = true := fun hindent =>
    (isIndent_iff.mp hindent).elim (ne_of_isPartChar hch rfl) (ne_of_isPartChar hch rfl)
  rw [readItems, h.head?_eq]
  show (if ch = ';' ∨ ch = '#' then _ else if ch = '[' then _
    else if ch = '=' ∨ ch = ':' then _ else if isIndent ch = true then _
    else readUntil .delimiter c >>= _) = _
  rw [if_neg hcomment, if_neg hheader, if_neg hdelimiter, if_neg hindent, hread]
  rfl

/-- The key of an assignment. -/
theorem readItems_of_key {name : PlainName}
    (h : c.Before (name.text.toList ++ ' ' :: '=' :: rest)) (key : List Char) (fuel : Nat) :
    ∃ c', c'.Before ('=' :: rest)
      ∧ readItems (fuel + 1) key c = readItems fuel name.text.toList (skipGap c') := by
  have hpiece : c.Before ((name.text.toList ++ [' ']) ++ '=' :: rest) := by
    rw [List.append_assoc]
    exact h
  have hpasses : ∀ ch ∈ name.text.toList ++ [' '], Stop.delimiter.Passes ch := by
    intro ch hch
    rcases List.mem_append.mp hch with hname | hblank
    · exact passes_delimiter (name.isPartChar_of_mem hname)
    · obtain rfl := List.mem_singleton.mp hblank
      exact ⟨rfl, by decide⟩
  obtain ⟨c', hread, hbefore⟩ := hpiece.exists_readUntil hpasses rfl
  refine ⟨c', hbefore, ?_⟩
  obtain ⟨first, cs, hname, hfirst⟩ := name.exists_first
  rw [hname, List.cons_append] at h
  rw [h.readItems_of_partChar hfirst hread, name.trimChars_text_append]

/-- The value of an assignment. -/
theorem readItems_of_value {value : PlainValue}
    (h : c.Before ('=' :: ' ' :: (value.text.toList ++ rest))) (name : PlainName)
    (hstop : Stop.lineEnd.endsAt rest.head? = true) (fuel : Nat) :
    ∃ c', c'.Before rest ∧ readItems (fuel + 1) name.text.toList c
      = (readItems fuel [] (skipGap c')).map (Item.setting name.text value.text :: ·) := by
  obtain ⟨first, cs, hvalue, hfirst⟩ := value.exists_first
  have hequals : c.Before ('=' :: ([' '] ++ (value.text.toList ++ rest))) := h
  have hopen : isBlank first = false ∧ first ≠ '"' ∧ first ≠ '\'' :=
    ⟨isBlank_eq_false_of_isValueChar hfirst, ne_of_isValueChar hfirst rfl,
      ne_of_isValueChar hfirst rfl⟩
  obtain ⟨c', hread, hbefore⟩ := hequals.exists_readValue (List.forall_mem_singleton.mpr rfl)
    (fun ch hch => passes_lineEnd (value.isValueChar_of_mem hch)) value.trimChars_text
    ⟨first, by rw [hvalue, List.head?_cons], hopen⟩ hstop
  refine ⟨c', hbefore, ?_⟩
  obtain ⟨ch, cs, hname, -⟩ := name.exists_first
  have hkey : name.text.toList.isEmpty = false := by
    rw [hname]
    rfl
  rw [readItems, h.head?_eq]
  show (if name.text.toList.isEmpty = true then _ else readValue c >>= _) = _
  rw [hkey, if_neg Bool.false_ne_true, hread]
  show (readItems fuel [] (skipGap c') >>= fun items => Except.ok
    (.setting (String.ofList name.text.toList) (String.ofList value.text.toList) :: items)) = _
  rw [String.ofList_toList, String.ofList_toList]
  cases readItems fuel [] (skipGap c') <;> rfl

/-- The indentation of a line that is blank. -/
theorem readItems_of_indent {indent : List Char} (h : c.Before (indent ++ rest))
    (hindent : ∀ ch ∈ indent, isIndent ch = true) (hne : indent ≠ [])
    (hrest : ∀ ch, rest.head? = some ch → isLineEnd ch = true) (key : List Char) (fuel : Nat) :
    ∃ c', c'.Before rest ∧ readItems (fuel + 1) key c = readItems fuel key (skipGap c') := by
  have hskip : (c.skipWhile isIndent).Before rest := by
    refine h.skipWhile hindent fun ch hch => ?_
    rw [← Bool.not_eq_true]
    intro htrue
    cases (hrest ch hch).symm.trans (isLineEnd_eq_false_of_isIndent htrue)
  refine ⟨c.skipWhile isIndent, hskip, ?_⟩
  obtain ⟨first, cs, rfl⟩ := List.exists_cons_of_ne_nil hne
  have hfirst := hindent first List.mem_cons_self
  have hhead : c.head? = some first := h.head?_eq
  have hmarks : first ≠ ';' ∧ first ≠ '#' ∧ first ≠ '[' ∧ first ≠ '=' ∧ first ≠ ':' := by
    rcases isIndent_iff.mp hfirst with rfl | rfl <;> decide
  obtain ⟨hsemicolon, hhash, hbracket, hequals, hcolon⟩ := hmarks
  rw [readItems, hhead]
  show (if first = ';' ∨ first = '#' then _ else if first = '[' then _
    else if first = '=' ∨ first = ':' then _ else if isIndent first = true then _ else _) = _
  rw [if_neg (not_or.mpr ⟨hsemicolon, hhash⟩), if_neg hbracket,
    if_neg (not_or.mpr ⟨hequals, hcolon⟩), if_pos hfirst]
  dsimp only
  rw [hskip.head?_eq]
  cases rest with
  | nil =>
      rw [hskip.skipGap_of_end, hskip.readItems_of_end]
      rfl
  | cons ch rest =>
      have hch : isLineEnd ch = true := hrest ch rfl
      have hopen : ch ≠ '[' := by
        rintro rfl
        cases hch
      show (if ch = '[' ∨ isLineEnd ch = true then readItems fuel key (if ch = '[' then _ else _)
        else _) = _
      rw [if_pos (.inr hch), if_neg hopen]

end Cursor.Before

/-! ## Line after line -/

/-- Some lines, each behind a line end. -/
def behind (mark : LineEnd) (lines : List Line) : List Char :=
  lines.flatMap fun line => mark.chars ++ line.text.toList

theorem behind_cons (mark : LineEnd) (line : Line) (lines : List Line) :
    behind mark (line :: lines) = mark.chars ++ (line.text.toList ++ behind mark lines) := by
  rw [behind, List.flatMap_cons, List.append_assoc]
  rfl

theorem endsAt_head?_behind (mark : LineEnd) (lines : List Line) :
    Stop.lineEnd.endsAt (behind mark lines).head? = true := by
  cases lines with
  | nil => rfl
  | cons line lines =>
      rw [behind_cons]
      exact mark.endsAt_head? _

theorem isLineEnd_of_head?_behind {mark : LineEnd} {lines : List Line} {ch : Char}
    (h : (behind mark lines).head? = some ch) : isLineEnd ch = true := by
  have hends := endsAt_head?_behind mark lines
  rw [h] at hends
  simpa [Stop.endsAt, isLineEnd] using hends

/-- A line that is not blank does not start with a blank. -/
theorem Line.exists_first (line : Line) : (∃ indent plain, line = .blank indent plain)
    ∨ ∃ ch cs, line.text.toList = ch :: cs ∧ isBlank ch = false := by
  cases line with
  | blank indent plain => exact .inl ⟨indent, plain, rfl⟩
  | comment first text plain =>
      refine .inr ⟨first, text.toList, toList_comment first text plain, ?_⟩
      rcases plain.1 with rfl | rfl <;> rfl
  | header name => exact .inr ⟨'[', name.text.toList ++ [']'], toList_header name, rfl⟩
  | assignment key value =>
      obtain ⟨ch, cs, hkey, hch⟩ := key.exists_first
      refine .inr ⟨ch, cs ++ ' ' :: '=' :: ' ' :: value.text.toList, ?_, ?_⟩
      · rw [toList_assignment, hkey, List.cons_append]
      · exact isBlank_eq_false_of_isPartChar hch

/-- Only a blank line starts with indentation. -/
theorem exists_blank_of_indented {mark : LineEnd} {line : Line} {lines : List Line}
    (h : ((line.text.toList ++ behind mark lines).head?.map isIndent).getD false = true) :
    ∃ indent plain, line = .blank indent plain ∧ indent.toList ≠ [] := by
  rcases line.exists_first with ⟨indent, plain, rfl⟩ | ⟨ch, cs, htext, hblank⟩
  · refine ⟨indent, plain, rfl, fun hnil => ?_⟩
    -- what follows an empty line is its end
    have htext : (Line.blank indent plain).text.toList = [] := hnil
    rw [htext, List.nil_append] at h
    cases hhead : (behind mark lines).head? with
    | none =>
        rw [hhead] at h
        cases h
    | some ch =>
        rw [hhead] at h
        cases (isLineEnd_of_head?_behind hhead).symm.trans (isLineEnd_eq_false_of_isIndent h)
  · rw [htext] at h
    cases hblank.symm.trans (isBlank_of_isIndent h)

theorem isBlank_of_mem_indent {indent : String} (h : indent.toList.all isIndent = true) :
    ∀ ch ∈ indent.toList, isBlank ch = true :=
  fun ch hch => isBlank_of_isIndent (List.all_eq_true.mp h ch hch)

/-- Behind an item, the items of the lines that are left are read. -/
def ReadsBehind (mark : LineEnd) (lines : List Line) : Prop :=
  ∀ (c : Cursor) (key : List Char) (fuel : Nat), c.Before (behind mark lines) →
    2 * lines.length ≤ fuel → readItems fuel key (skipGap c) = .ok (lines.filterMap Line.item?)

/-- At the start of a line, its item is read and those of the lines after it. -/
def ReadsAt (mark : LineEnd) (line : Line) (lines : List Line) : Prop :=
  ∀ (c : Cursor) (key : List Char) (fuel : Nat), c.Before (line.text.toList ++ behind mark lines) →
    c.column ≤ 1 → 2 * (lines.length + 1) ≤ fuel →
      readItems fuel key (skipGap c) = .ok ((line :: lines).filterMap Line.item?)

variable {mark : LineEnd} {line : Line} {lines : List Line}

theorem readsAt_blank (hbehind : ReadsBehind mark lines) (indent : String) (plain) :
    ReadsAt mark (.blank indent plain) lines := by
  intro c key fuel h _ hfuel
  obtain ⟨c', h', hskip⟩ := h.exists_skipGap_append (List.all_eq_true.mp plain)
  have hless : 2 * lines.length ≤ fuel := by omega
  rw [hskip]
  exact hbehind c' key fuel h' hless

/-- A comment leads to the start of the next line. -/
theorem readsAt_comment (hend : ReadsBehind mark [])
    (hnext : ∀ line' lines', lines = line' :: lines' → ReadsAt mark line' lines') (first : Char)
    (text : String) (plain) : ReadsAt mark (.comment first text plain) lines := by
  intro c key fuel h hcolumn hfuel
  have hfeed : '\n' ∉ (Line.comment first text plain).text.toList := by
    rw [Line.toList_comment, List.mem_cons, not_or]
    refine ⟨?_, plain.2⟩
    rcases plain.1 with rfl | rfl <;> decide
  have hfirst : isBlank first = false := by
    rcases plain.1 with rfl | rfl <;> rfl
  have hcomment : c.Before (first :: (text.toList ++ behind mark lines)) := by
    rw [Line.toList_comment] at h
    exact h
  obtain ⟨fuel, rfl⟩ : ∃ less, fuel = less + 1 := Nat.exists_eq_add_of_le' (by omega)
  rw [hcomment.skipGap_of_head fun d hd => Option.some.inj hd ▸ hfirst,
    hcomment.readItems_of_comment plain.1 hcolumn]
  cases lines with
  | nil =>
      have hlast : c.Before (Line.comment first text plain).text.toList := by
        rw [← List.append_nil (Line.text _).toList]
        exact h
      exact hend _ key fuel (hlast.skipComment_of_end hfeed) (Nat.zero_le _)
  | cons line' lines' =>
      rw [behind_cons] at h
      obtain ⟨hbefore, hcolumn'⟩ := h.skipComment_of_mark hfeed
      rw [List.length_cons] at hfuel
      exact hnext line' lines' rfl _ key fuel hbefore hcolumn' (by omega)

theorem readsAt_header (hbehind : ReadsBehind mark lines) (name : PlainName) :
    ReadsAt mark (.header name) lines := by
  intro c key fuel h _ hfuel
  have hheader : c.Before ('[' :: (name.text.toList ++ ']' :: behind mark lines)) := by
    rw [Line.toList_header, List.cons_append, List.append_assoc] at h
    exact h
  obtain ⟨fuel, rfl⟩ : ∃ less, fuel = less + 1 := Nat.exists_eq_add_of_le' (by omega)
  obtain ⟨c', h', hread⟩ := hheader.readItems_of_header key fuel
  have hrest := hbehind c' key fuel h' (by omega)
  rw [hheader.skipGap_of_head fun d hd => Option.some.inj hd ▸ rfl, hread, hrest]
  rfl

/-- An assignment is read in two steps, its key and its value. -/
theorem readsAt_assignment (hbehind : ReadsBehind mark lines) (name : PlainName)
    (value : PlainValue) : ReadsAt mark (.assignment name value) lines := by
  intro c key fuel h _ hfuel
  have hkey : c.Before (name.text.toList
      ++ ' ' :: '=' :: ' ' :: (value.text.toList ++ behind mark lines)) := by
    rw [Line.toList_assignment, List.append_assoc] at h
    exact h
  obtain ⟨fuel, rfl⟩ : ∃ less, fuel = less + 2 := Nat.exists_eq_add_of_le' (by omega)
  obtain ⟨c₁, h₁, hreadKey⟩ := hkey.readItems_of_key key (fuel + 1)
  obtain ⟨c₂, h₂, hreadValue⟩ :=
    h₁.readItems_of_value name (endsAt_head?_behind mark lines) fuel
  have hrest := hbehind c₂ [] fuel h₂ (by omega)
  have hgap : skipGap c = c := by
    obtain ⟨first, cs, hname, hfirst⟩ := name.exists_first
    rw [hname] at hkey
    exact hkey.skipGap_of_head fun d hd =>
      Option.some.inj hd ▸ isBlank_eq_false_of_isPartChar hfirst
  rw [hgap, hreadKey, h₁.skipGap_of_head fun d hd => Option.some.inj hd ▸ rfl, hreadValue, hrest]
  rfl

/-- **A line is read from its start.** -/
theorem readsAt_of (hend : ReadsBehind mark []) (hbehind : ReadsBehind mark lines)
    (hnext : ∀ line' lines', lines = line' :: lines' → ReadsAt mark line' lines') (line : Line) :
    ReadsAt mark line lines := by
  cases line with
  | blank indent plain => exact readsAt_blank hbehind indent plain
  | comment first text plain => exact readsAt_comment hend hnext first text plain
  | header name => exact readsAt_header hbehind name
  | assignment key value => exact readsAt_assignment hbehind key value

/-- **A line is reached from the end of the line before it**; an indented blank line is passed over
as such. -/
theorem readsBehind_cons (hbehind : ReadsBehind mark lines) (hat : ReadsAt mark line lines) :
    ReadsBehind mark (line :: lines) := by
  intro c key fuel h hfuel
  rw [behind_cons] at h
  rw [List.length_cons] at hfuel
  obtain ⟨c', h', hcolumn, hskip⟩ := h.exists_skipGap
  rw [hskip]
  by_cases hindented :
      ((line.text.toList ++ behind mark lines).head?.map isIndent).getD false = true
  · rw [if_pos hindented]
    obtain ⟨indent, plain, rfl, hne⟩ := exists_blank_of_indented hindented
    obtain ⟨fuel, rfl⟩ : ∃ less, fuel = less + 1 := Nat.exists_eq_add_of_le' (by omega)
    obtain ⟨c'', h'', hread⟩ := h'.readItems_of_indent (List.all_eq_true.mp plain) hne
      (fun _ hch => isLineEnd_of_head?_behind hch) key fuel
    rw [hread]
    exact hbehind c'' key fuel h'' (by omega)
  · rw [if_neg hindented]
    exact hat c' key fuel h' hcolumn hfuel

theorem readsBehind_nil (mark : LineEnd) : ReadsBehind mark [] := by
  intro c key fuel h _
  have hend : c.Before [] := h
  rw [hend.skipGap_of_end]
  exact hend.readItems_of_end fuel

/-- **All lines are read.** -/
theorem reads_lines (mark : LineEnd) (lines : List Line) :
    ReadsBehind mark lines ∧ ∀ line, ReadsAt mark line lines := by
  -- a comment reads on at the next line, so both kinds of places go into the induction
  induction lines with
  | nil =>
      have hend := readsBehind_nil mark
      exact ⟨hend, readsAt_of hend hend fun _ _ hnil => nomatch hnil⟩
  | cons line lines ih =>
      obtain ⟨hbehind, hat⟩ := ih
      have hcons := readsBehind_cons hbehind (hat line)
      refine ⟨hcons, readsAt_of (readsBehind_nil mark) hcons fun line' lines' heq => ?_⟩
      obtain ⟨rfl, rfl⟩ := List.cons.inj heq
      exact hat line

/-! ## Whole files -/

theorem toList_fileText (mark : LineEnd) (line : Line) (lines : List Line) :
    (fileText mark (line :: lines)).toList = line.text.toList ++ behind mark lines := by
  rw [fileText, String.toList_intercalate, String.toList_ofList, List.map_cons, List.map_cons]
  induction lines generalizing line with
  | nil => simp [behind, List.intercalate]
  | cons line' lines ih =>
      rw [behind_cons, ← ih, List.map_cons, List.map_cons]
      simp [List.intercalate, List.intersperse]

theorem length_le_length_behind (mark : LineEnd) (lines : List Line) :
    lines.length ≤ (behind mark lines).length := by
  induction lines with
  | nil => exact Nat.zero_le _
  | cons line lines ih =>
      have hmark : 1 ≤ mark.chars.length := by cases mark <;> decide
      rw [behind_cons, List.length_append, List.length_append, List.length_cons]
      omega

/-- The start of a line that is not blank. -/
structure AtLine (c : Cursor) (mark : LineEnd) (line : Line) (lines : List Line) : Prop where
  before : c.Before (line.text.toList ++ behind mark lines)
  column_le : c.column ≤ 1
  first : ∃ ch cs, line.text.toList = ch :: cs ∧ isBlank ch = false

namespace AtLine

variable {c : Cursor}

theorem isBlank_eq_false_of_head? (h : AtLine c mark line lines) {ch : Char}
    (hch : (line.text.toList ++ behind mark lines).head? = some ch) : isBlank ch = false := by
  obtain ⟨first, cs, htext, hblank⟩ := h.first
  rw [htext] at hch
  exact Option.some.inj hch ▸ hblank

theorem skipWhile_eq (h : AtLine c mark line lines) : c.skipWhile isBlank = c :=
  h.before.skipWhile_of_head fun _ hch => h.isBlank_eq_false_of_head? hch

/-- From there, all items are read. -/
theorem readItems_eq (h : AtLine c mark line lines) (key : List Char) :
    readItems (2 * c.rest.length + 2) key c = .ok ((line :: lines).filterMap Line.item?) := by
  have hfuel : 2 * (lines.length + 1) ≤ 2 * c.rest.length + 2 := by
    have hlength := length_le_length_behind mark lines
    rw [h.before.rest_eq, List.length_append]
    omega
  have hread := (reads_lines mark lines).2 line c key _ h.before h.column_le hfuel
  rwa [h.before.skipGap_of_head fun ch hch => h.isBlank_eq_false_of_head? hch] at hread

end AtLine

/-- The blank lines that a file starts with hold no items. -/
theorem atLine_skipWhile_or_end {c : Cursor} {line : Line} {lines : List Line}
    (h : c.Before (line.text.toList ++ behind mark lines)) (hcolumn : c.column ≤ 1) :
    ((c.skipWhile isBlank).Before [] ∧ (line :: lines).filterMap Line.item? = [])
      ∨ ∃ line' lines', AtLine (c.skipWhile isBlank) mark line' lines'
        ∧ (line :: lines).filterMap Line.item? = (line' :: lines').filterMap Line.item? := by
  induction lines generalizing line c with
  | nil =>
      rcases line.exists_first with ⟨indent, plain, rfl⟩ | hfirst
      · obtain ⟨c', h', hskip⟩ := h.exists_skipWhile_append (isBlank_of_mem_indent plain)
        have hend : c'.Before [] := h'
        rw [hskip, hend.skipWhile_of_head fun _ hnone => nomatch hnone]
        exact .inl ⟨hend, rfl⟩
      · have hat : AtLine c mark line [] := ⟨h, hcolumn, hfirst⟩
        exact .inr ⟨line, [], hat.skipWhile_eq.symm ▸ hat, rfl⟩
  | cons next lines ih =>
      rcases line.exists_first with ⟨indent, plain, rfl⟩ | hfirst
      · -- past the indentation and the line end is the start of the next line
        obtain ⟨c₁, h₁, hskip₁⟩ := h.exists_skipWhile_append (isBlank_of_mem_indent plain)
        rw [behind_cons] at h₁
        obtain ⟨c₂, h₂, hcolumn₂, hskip₂⟩ := h₁.exists_skipWhile_mark
        rw [hskip₁, hskip₂]
        exact ih h₂ hcolumn₂
      · have hat : AtLine c mark line (next :: lines) := ⟨h, hcolumn, hfirst⟩
        exact .inr ⟨line, next :: lines, hat.skipWhile_eq.symm ▸ hat, rfl⟩

/-- A blank line that does not start with its end is empty, with nothing behind it, or indented. -/
theorem Cursor.Before.readItems_of_blank {c : Cursor} {indent : String}
    (h : c.Before (indent.toList ++ behind mark lines)) (plain : indent.toList.all isIndent = true)
    (hend : ¬(c.head?.map isLineEnd).getD false = true) :
    readItems (2 * c.rest.length + 2) [] c = .ok (lines.filterMap Line.item?) := by
  by_cases hne : indent.toList = []
  · rw [hne, List.nil_append] at h
    cases lines with
    | nil => exact h.readItems_of_end _
    | cons next lines =>
        rw [behind_cons] at h
        rw [h.head?_eq] at hend
        cases mark <;> exact absurd rfl hend
  · obtain ⟨c', h', hread⟩ := h.readItems_of_indent (List.all_eq_true.mp plain) hne
      (fun _ hch => isLineEnd_of_head?_behind hch) [] (2 * c.rest.length + 1)
    have hfuel : 2 * lines.length ≤ 2 * c.rest.length + 1 := by
      have hlength := length_le_length_behind mark lines
      rw [h.rest_eq, List.length_append]
      omega
    rw [hread]
    exact (reads_lines mark lines).1 c' [] _ h' hfuel

/-- A file is read from where its first item may be. -/
theorem readItems_firstItem (mark : LineEnd) (line : Line) (lines : List Line) :
    let c := firstItem (line.text.toList ++ behind mark lines)
    readItems (2 * c.rest.length + 2) [] c = .ok ((line :: lines).filterMap Line.item?) := by
  have hstart : (Cursor.start (line.text.toList ++ behind mark lines)).Before _ :=
    Cursor.before_enter _ 0 0
  have hcolumn : (Cursor.start (line.text.toList ++ behind mark lines)).column ≤ 1 :=
    Cursor.enter_column_le _ 0
  rw [firstItem]
  generalize Cursor.start (line.text.toList ++ behind mark lines) = c at hstart hcolumn
  by_cases hend : (c.head?.map isLineEnd).getD false = true
  · rw [if_pos hend]
    rcases atLine_skipWhile_or_end hstart hcolumn with
      ⟨hnone, hitems⟩ | ⟨line', lines', hat, hitems⟩
    · rw [hitems]
      exact hnone.readItems_of_end _
    · rw [hitems]
      exact hat.readItems_eq []
  · -- the first line is read from its start, unless it is blank and indented
    rw [if_neg hend]
    rcases line.exists_first with ⟨indent, plain, rfl⟩ | hfirst
    · exact hstart.readItems_of_blank plain hend
    · have hat : AtLine c mark line lines := ⟨hstart, hcolumn, hfirst⟩
      exact hat.readItems_eq []

/-- **A plain file is read line by line.** -/
theorem read_fileText (mark : LineEnd) (lines : List Line) :
    read (fileText mark lines) = .ok (lines.filterMap Line.item?) := by
  cases lines with
  | nil => rfl
  | cons line lines =>
      rw [read, toList_fileText]
      exact readItems_firstItem mark line lines

/-- A comment and a blank line among a header and an assignment. -/
example :
    let lines := [.comment ';' " see below" (by decide), .header ⟨"wsfc", by decide⟩,
      .blank " " (by decide), .assignment ⟨"port", by decide⟩ ⟨"59999", by decide⟩,
      .blank "" (by decide)]
    fileText .lf lines = "; see below\n[wsfc]\n \nport = 59999\n"
      ∧ lines.filterMap Line.item? = [.group "wsfc", .setting "port" "59999"] := by
  decide

end HostAgent.Ini
