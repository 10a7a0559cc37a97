import DebugBridge.Proofs.Text.Decoded
import DebugBridge.Proofs.Text.Numeral
import DebugBridge.Proofs.Wire.RoundTrip

/-!
# The lines in front of a payload

A `Heading` is a row of lines as it stands in front of a payload: blank lines, the header's lines, and the blank line
that closes the header, each with a line feed and as many carriage returns before it as there may be. It is read to
its end with the last length that its lines give, or refused for the first length that is none; its other lines do
not matter (`scanHeader_heading`).
-/

namespace DebugBridge

namespace Wire

/-! ## Lines -/

/-- A blank line has nothing but carriage returns before its line feed. -/
def IsBlankLine (line : List Char) : Prop :=
  ∀ c ∈ line, c = '\r'

instance : DecidablePred IsBlankLine :=
  List.decidableBAll fun c => c = '\r'

/-- A line of a header is not blank, and ends where its line feed stands. -/
def IsHeaderLine (line : List Char) : Prop :=
  '\n' ∉ line ∧ ¬ IsBlankLine line

instance : DecidablePred IsHeaderLine :=
  fun line => inferInstanceAs (Decidable ('\n' ∉ line ∧ ¬ IsBlankLine line))

/-- The bytes of a line with its line feed. -/
def lineBytes (line : List Char) : Bytes :=
  Utf8.encodeChars line ++ [10]

def linesBytes (lines : List (List Char)) : Bytes :=
  lines.flatMap lineBytes

/-- A line without the carriage returns at its end. -/
def bare (line : List Char) : List Char :=
  dropLastWhile (fun c => c == '\r') line

/-- A line gives a length: after the name stands a number of 64 bits, with nothing but blanks around it. -/
structure GivesLength (line : List Char) (n : Nat) : Prop where
  written : ∃ before text after, line = lengthName ++ (before ++ (text ++ after)) ∧ Numeral text n ∧
    (∀ c ∈ before, isBlank c = true) ∧ ∀ c ∈ after, isBlank c = true
  fits : n < 2 ^ 64

variable {line : List Char} {n : Nat}

/-- A line is blank if nothing is left of it without its ends. -/
theorem bare_eq_nil_iff : bare line = [] ↔ IsBlankLine line := by
  rw [bare, IsBlankLine]
  exact List.rdropWhile_eq_nil_iff.trans (by simp)

theorem lineFeed_not_mem_of_blank (blank : IsBlankLine line) : '\n' ∉ line :=
  fun member => absurd (blank _ member) (by decide)

theorem bare_name (value : List Char) : bare (lengthName ++ value) = lengthName ++ bare value :=
  dropLastWhile_append_right (by decide) value

/-- Carriage returns at the end are no part of the name. -/
theorem name_prefix_bare_iff : lengthName <+: bare line ↔ lengthName <+: line := by
  constructor
  · exact fun front => front.trans (List.rdropWhile_prefix _ line)
  · rintro ⟨value, rfl⟩
    rw [bare_name]
    exact ⟨_, rfl⟩

/-- A line of another name gives no length. -/
theorem lengthOf_of_other (other : ¬ lengthName <+: line) : lengthOf line = .ok none := by
  rw [lengthOf]
  cases found : afterFront? lengthName line with
  | none => rfl
  | some value => exact absurd ⟨value, (afterFront?_eq_some_iff.mp found).symm⟩ other

/-- The value after the name has to be an unsigned number of 64 bits. -/
theorem lengthOf_bare_name (value : List Char) :
    lengthOf (bare (lengthName ++ value)) =
      match readUnsigned 64 (trimBlank value) with
      | some n => .ok (some n)
      | none => .error (.malformed (.badHeader (String.ofList (bare (lengthName ++ value))))) := by
  have blank : ∀ c, (c == '\r') = true → isBlank c = true := by
    intro c same
    rw [beq_iff_eq.mp same]
    decide
  have trimmed : trimBlank (bare value) = trimBlank value := trimBlank_dropLastWhile blank value
  cases read : readUnsigned 64 (trimBlank value) <;> simp [lengthOf, bare_name, afterFront?_append, trimmed, read]

/-- A value is read with blanks around it or without. -/
theorem readUnsigned_trimBlank_iff {value : List Char} :
    readUnsigned 64 (trimBlank value) = some n ↔ GivesLength (lengthName ++ value) n := by
  rw [readUnsigned_eq_some_iff]
  constructor
  · rintro ⟨numeral, fits⟩
    obtain ⟨before, after, shape, blanks⟩ := (trimBlank_eq_iff numeral.ne_nil numeral.plain_chars).mp rfl
    exact ⟨⟨before, _, after, congrArg _ shape, numeral, blanks⟩, fits⟩
  · rintro ⟨⟨before, text, after, shape, numeral, blanks⟩, fits⟩
    have trimmed := (trimBlank_eq_iff numeral.ne_nil numeral.plain_chars).mpr
      ⟨before, after, List.append_cancel_left shape, blanks⟩
    rw [trimmed]
    exact ⟨numeral, fits⟩

/-- A line gives one length at most. -/
theorem GivesLength.unique {m : Nat} (first : GivesLength line m) (second : GivesLength line n) : m = n := by
  obtain ⟨⟨before, text, after, rfl, -⟩, -⟩ := first.written, first.fits
  rw [← readUnsigned_trimBlank_iff] at first second
  exact Option.some.inj (first.symm.trans second)

/-- A blank line ends a header that has begun, and is skipped before. -/
theorem addLine_of_blank (blank : IsBlankLine line) (h : Header) :
    h.addLine (Utf8.encodeChars line) = .ok (if h.begun then none else some h) := by
  have nothing : dropLastWhile (fun c => c == '\r' || c == '\n') line = [] :=
    List.rdropWhile_eq_nil_iff.mpr fun c member => by simp [blank c member]
  rw [Header.addLine, Utf8.decodeChars?_encodeChars]
  simp only [nothing]

/-- Any other line belongs to the header, and its length, if it gives one, stands from then on. -/
theorem addLine_of_header (isLine : IsHeaderLine line) (h : Header) :
    h.addLine (Utf8.encodeChars line) =
      (lengthOf (bare line)).map fun length => some ⟨true, length.or h.length⟩ := by
  have text : dropLastWhile (fun c => c == '\r' || c == '\n') line = bare line := by
    refine dropLastWhile_congr fun c member => ?_
    have noFeed : c ≠ '\n' := fun feed => isLine.1 (feed ▸ member)
    simp [noFeed]
  obtain ⟨c, rest, shape⟩ := List.exists_cons_of_ne_nil (mt bare_eq_nil_iff.mp isLine.2)
  rw [Header.addLine, Utf8.decodeChars?_encodeChars]
  simp only [text, shape]

/-- Only a line of characters is taken in. -/
theorem exists_text_of_addLine {h : Header} {bs : Bytes} {added : Option Header} (whole : 10 ∉ bs)
    (taken : h.addLine bs = .ok added) :
    ∃ line, bs = Utf8.encodeChars line ∧ (IsBlankLine line ∨ IsHeaderLine line) := by
  rw [Header.addLine] at taken
  split at taken
  · cases taken
  · next line decoded =>
      obtain rfl := Utf8.decodeChars?_eq_some_iff.mp decoded
      refine ⟨line, rfl, ?_⟩
      by_cases blank : IsBlankLine line
      · exact .inl blank
      · exact .inr ⟨mt Utf8.lineFeed_mem_encodeChars whole, blank⟩

/-- A header is ended by a blank line, once it has begun. -/
theorem blank_of_addLine_none {h : Header} {bs : Bytes} (whole : 10 ∉ bs) (ended : h.addLine bs = .ok none) :
    h.begun = true ∧ ∃ line, bs = Utf8.encodeChars line ∧ IsBlankLine line := by
  obtain ⟨line, rfl, blank | isLine⟩ := exists_text_of_addLine whole ended
  · rw [addLine_of_blank blank] at ended
    cases begun : h.begun with
    | true => exact ⟨rfl, line, rfl, blank⟩
    | false => simp [begun] at ended
  · rw [addLine_of_header isLine] at ended
    obtain ⟨length, -, none⟩ := Json.ok_of_map ended
    cases none

/-- A header goes on with a blank line before it has begun, or with a line of its own. -/
theorem line_of_addLine_some {h next : Header} {bs : Bytes} (whole : 10 ∉ bs) (added : h.addLine bs = .ok (some next)) :
    ∃ line, bs = Utf8.encodeChars line ∧
      (IsBlankLine line ∧ h.begun = false ∧ next = h ∨ IsHeaderLine line ∧ ∃ length, next = ⟨true, length⟩) := by
  obtain ⟨line, rfl, blank | isLine⟩ := exists_text_of_addLine whole added
  · rw [addLine_of_blank blank] at added
    cases begun : h.begun with
    | true => simp [begun] at added
    | false => exact ⟨line, rfl, .inl ⟨blank, rfl, by simpa [begun] using added.symm⟩⟩
  · rw [addLine_of_header isLine] at added
    obtain ⟨length, -, taken⟩ := Json.ok_of_map added
    cases taken
    exact ⟨line, rfl, .inr ⟨isLine, _, rfl⟩⟩

/-! ## The lengths of a header -/

/-- The length that stands after some lines of a header, without the carriage returns at their ends. -/
def announced (length : Option Nat) : List (List Char) → Except Error (Option Nat)
  | [] => .ok length
  | line :: rest =>
    match lengthOf line with
    | .error e => .error e
    | .ok here => announced (here.or length) rest

/-- Only the lines that begin with the name matter to the length. -/
theorem announced_filter (length : Option Nat) (lines : List (List Char)) :
    announced length (lines.filter fun line => lengthName.isPrefixOf line) = announced length lines := by
  induction lines generalizing length with
  | nil => rfl
  | cons line lines ih =>
      by_cases named : lengthName <+: line
      · rw [List.filter_cons_of_pos (by simpa using named), announced, announced]
        cases lengthOf line with
        | error e => rfl
        | ok here => exact ih _
      · rw [List.filter_cons_of_neg (by simpa using named), announced, lengthOf_of_other named]
        exact ih length

/-- The last of the lines that begin with the name gives a length. -/
def LastGives (lines : List (List Char)) (n : Nat) : Prop :=
  ∃ before line after, lines = before ++ line :: after ∧ GivesLength line n ∧ ∀ other ∈ after, ¬ lengthName <+: other

/-- A line of another name changes nothing about the length. -/
theorem lastGives_cons_of_other {lines : List (List Char)} (other : ¬ lengthName <+: line) :
    LastGives (line :: lines) n ↔ LastGives lines n := by
  constructor
  · rintro ⟨before, last, after, shape, gives, others⟩
    cases before with
    | nil =>
        obtain ⟨⟨_, _, _, named, -⟩, -⟩ := gives.written, gives.fits
        obtain ⟨rfl, -⟩ := List.cons.inj shape
        exact absurd ⟨_, named.symm⟩ other
    | cons first before =>
        obtain ⟨rfl, rfl⟩ := List.cons.inj shape
        exact ⟨before, last, after, rfl, gives, others⟩
  · rintro ⟨before, last, after, rfl, rest⟩
    exact ⟨line :: before, last, after, rfl, rest⟩

/-- A length counts unless another one comes after it. -/
theorem lastGives_cons_of_gives {lines : List (List Char)} {m : Nat} (here : GivesLength line m) :
    LastGives (line :: lines) n ↔ LastGives lines n ∨ (∀ other ∈ lines, ¬ lengthName <+: other) ∧ m = n := by
  constructor
  · rintro ⟨before, last, after, shape, gives, others⟩
    cases before with
    | nil =>
        obtain ⟨rfl, rfl⟩ := List.cons.inj shape
        exact .inr ⟨others, here.unique gives⟩
    | cons first before =>
        obtain ⟨rfl, rfl⟩ := List.cons.inj shape
        exact .inl ⟨before, last, after, rfl, gives, others⟩
  · rintro (⟨before, last, after, rfl, rest⟩ | ⟨others, rfl⟩)
    · exact ⟨line :: before, last, after, rfl, rest⟩
    · exact ⟨[], line, lines, rfl, here, others⟩

/-- A length stands after lines if each of them that begins with the name gives one, and the last gives this one. -/
theorem announced_eq_some_iff {length : Option Nat} {lines : List (List Char)} :
    announced length (lines.map bare) = .ok (some n) ↔
      (∀ line ∈ lines, lengthName <+: line → ∃ m, GivesLength line m) ∧
        (LastGives lines n ∨ (∀ line ∈ lines, ¬ lengthName <+: line) ∧ length = some n) := by
  induction lines generalizing length with
  | nil => simp [announced, LastGives]
  | cons line lines ih =>
      rw [List.map_cons, announced]
      by_cases named : lengthName <+: line
      · obtain ⟨value, rfl⟩ := named
        rw [lengthOf_bare_name]
        cases found : readUnsigned 64 (trimBlank value) with
        | none =>
            have gives (m : Nat) : ¬ GivesLength (lengthName ++ value) m := by
              rw [← readUnsigned_trimBlank_iff, found]
              nofun
            simp [gives]
        | some m =>
            have here := readUnsigned_trimBlank_iff.mp found
            simp only [Option.some_or, ih, List.forall_mem_cons, lastGives_cons_of_gives here, Option.some.injEq]
            grind
      · rw [lengthOf_of_other (mt name_prefix_bare_iff.mp named)]
        simp only [Option.none_or, ih, List.forall_mem_cons, lastGives_cons_of_other named, named, false_implies,
          true_and, not_false_eq_true]

/-! ## Headings -/

/-- The lines in front of a payload: blank ones, those of the header and the blank one that closes it. -/
structure Heading where
  blanks : List (List Char)
  lines : List (List Char)
  closing : List Char
  blank : ∀ line ∈ blanks, IsBlankLine line
  begun : lines ≠ []
  header : ∀ line ∈ lines, IsHeaderLine line
  closes : IsBlankLine closing

namespace Heading

/-- The bytes of a heading. -/
def bytes (heading : Heading) : Bytes :=
  linesBytes heading.blanks ++ (linesBytes heading.lines ++ lineBytes heading.closing)

/-- The lines that begin with the name of the length, without the carriage returns at their ends. -/
def lengthLines (heading : Heading) : List (List Char) :=
  (heading.lines.map bare).filter fun line => lengthName.isPrefixOf line

/-- A heading gives a length: each line that begins with the name gives one, and this is the last. -/
structure Gives (heading : Heading) (n : Nat) : Prop where
  each : ∀ line ∈ heading.lines, lengthName <+: line → ∃ m, GivesLength line m
  last : LastGives heading.lines n

end Heading

/-- A header is scanned line by line. -/
theorem scanHeader_lineBytes (within : '\n' ∉ line) (h : Header) (more : Bytes) :
    scanHeader h [] (lineBytes line ++ more) =
      match h.addLine (Utf8.encodeChars line) with
      | .error e => .error e
      | .ok none => .ok (.closed h.length more)
      | .ok (some h) => scanHeader h [] more := by
  have whole := scanHeader_line h [] (Utf8.encodeChars line) more (Utf8.lineFeed_not_mem_encodeChars within)
  rw [lineBytes, List.append_assoc]
  exact whole

/-- Blank lines before a header are skipped. -/
theorem scanHeader_blanks {blanks : List (List Char)} (blank : ∀ line ∈ blanks, IsBlankLine line) (more : Bytes) :
    scanHeader .empty [] (linesBytes blanks ++ more) = scanHeader .empty [] more := by
  induction blanks with
  | nil => rfl
  | cons line blanks ih =>
      obtain ⟨here, there⟩ := List.forall_mem_cons.mp blank
      rw [linesBytes, List.flatMap_cons, List.append_assoc, scanHeader_lineBytes (lineFeed_not_mem_of_blank here),
        addLine_of_blank here]
      exact ih there

/-- The lines of a header are read with the length that stands after them. -/
theorem scanHeader_lines {lines : List (List Char)} (header : ∀ line ∈ lines, IsHeaderLine line) (h : Header)
    (begun : h.begun ∨ lines ≠ []) (more : Bytes) :
    scanHeader h [] (linesBytes lines ++ more) =
      match announced h.length (lines.map bare) with
      | .error e => .error e
      | .ok length => scanHeader ⟨true, length⟩ [] more := by
  induction lines generalizing h with
  | nil =>
      obtain ⟨isBegun, length⟩ := h
      obtain rfl : isBegun = true := by simpa using begun
      rfl
  | cons line lines ih =>
      obtain ⟨here, there⟩ := List.forall_mem_cons.mp header
      rw [linesBytes, List.flatMap_cons, List.append_assoc, scanHeader_lineBytes here.1, addLine_of_header here,
        List.map_cons, announced]
      cases lengthOf (bare line) with
      | error e => rfl
      | ok length => exact ih there ⟨true, length.or h.length⟩ (.inl rfl)

/-- A heading is read to its end and no further. -/
theorem scanHeader_heading (heading : Heading) (after : Bytes) :
    scanHeader .empty [] (heading.bytes ++ after) =
      (announced none heading.lengthLines).map fun length => .closed length after := by
  rw [Heading.bytes, List.append_assoc, List.append_assoc, scanHeader_blanks heading.blank,
    scanHeader_lines heading.header _ (.inr heading.begun), Heading.lengthLines, announced_filter]
  have closes (length : Option Nat) :
      scanHeader ⟨true, length⟩ [] (lineBytes heading.closing ++ after) = .ok (.closed length after) := by
    rw [scanHeader_lineBytes (lineFeed_not_mem_of_blank heading.closes), addLine_of_blank heading.closes]
    rfl
  have empty : Header.empty.length = none := rfl
  simp only [closes, empty]
  cases announced none (heading.lines.map bare) <;> rfl

/-- The length that is announced is the last one that the heading gives. -/
theorem announced_lengthLines_iff {heading : Heading} :
    announced none heading.lengthLines = .ok (some n) ↔ heading.Gives n := by
  rw [Heading.lengthLines, announced_filter, announced_eq_some_iff]
  constructor
  · rintro ⟨each, last | ⟨-, nothing⟩⟩
    · exact ⟨each, last⟩
    · cases nothing
  · exact fun gives => ⟨gives.each, .inl gives.last⟩

end Wire
end DebugBridge
