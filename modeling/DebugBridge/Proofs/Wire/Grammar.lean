import DebugBridge.Proofs.Wire.Heading
import DebugBridge.Proofs.Wire.Stream

/-!
# The grammar of framed messages

A message is read off a stream exactly if the stream begins with a heading that gives a length and a payload of that
many bytes: `read_accepts`. What a payload denotes is what the reader of JSON makes of it.
-/

namespace DebugBridge.Wire

/-! ## Reading lines off a stream -/

/-- Bytes without a line feed are part of a line. -/
theorem scanHeader_within (h : Header) (done : Bytes) {line : Bytes} (whole : 10 ∉ line) :
    scanHeader h done line = .ok (.within h (done.reverse ++ line)) := by
  induction line generalizing done with
  | nil => simp [scanHeader]
  | cons b line ih =>
      have other : ¬ b = 10 := fun feed => whole (feed ▸ List.mem_cons_self)
      have later : 10 ∉ line := fun member => whole (List.mem_cons_of_mem b member)
      rw [scanHeader, if_neg other, ih (b :: done) later, List.reverse_cons, List.append_assoc]
      rfl

theorem encodeChars_lineFeed (line : List Char) (rest : Bytes) :
    Utf8.encodeChars line ++ 10 :: rest = lineBytes line ++ rest := by
  rw [lineBytes, List.append_assoc, List.singleton_append]

/-- How the lines of a stream are read, one after the other. -/
inductive Scans : Header → Bytes → HeaderEnd → Prop where
  | cut {h : Header} {bs : Bytes} (whole : 10 ∉ bs) : Scans h bs (.within h bs)
  | close {h : Header} {line : List Char} {rest : Bytes} (begun : h.begun = true) (blank : IsBlankLine line) :
      Scans h (lineBytes line ++ rest) (.closed h.length rest)
  | skip {h : Header} {line : List Char} {rest : Bytes} {reached : HeaderEnd} (notBegun : h.begun = false)
      (blank : IsBlankLine line) (further : Scans h rest reached) : Scans h (lineBytes line ++ rest) reached
  | take {h : Header} {line : List Char} {rest : Bytes} {reached : HeaderEnd} {length : Option Nat}
      (isLine : IsHeaderLine line) (further : Scans ⟨true, length⟩ rest reached) :
      Scans h (lineBytes line ++ rest) reached

/-- Whatever is not refused is read line by line. -/
theorem scans {n : Nat} {h : Header} {bs : Bytes} {reached : HeaderEnd} (short : bs.length ≤ n)
    (scan : scanHeader h [] bs = .ok reached) : Scans h bs reached := by
  induction n generalizing h bs with
  | zero =>
      obtain rfl := List.length_eq_zero_iff.mp (Nat.le_zero.mp short)
      cases scan
      exact .cut List.not_mem_nil
  | succ n ih =>
      by_cases feed : 10 ∈ bs
      · obtain ⟨front, rest, rfl, whole⟩ := List.eq_append_cons_of_mem feed
        have shorter : rest.length ≤ n := by
          rw [List.length_append, List.length_cons] at short
          omega
        rw [scanHeader_line h [] front rest whole, List.reverse_nil, List.nil_append] at scan
        split at scan
        · cases scan
        · next closed =>
            obtain ⟨begun, line, rfl, blank⟩ := blank_of_addLine_none whole closed
            cases scan
            rw [encodeChars_lineFeed]
            exact .close begun blank
        · next next added =>
            obtain ⟨line, rfl, ⟨blank, notBegun, rfl⟩ | ⟨isLine, length, rfl⟩⟩ := line_of_addLine_some whole added
            · rw [encodeChars_lineFeed]
              exact .skip notBegun blank (ih shorter scan)
            · rw [encodeChars_lineFeed]
              exact .take isLine (ih shorter scan)
      · rw [scanHeader_within h [] feed] at scan
        cases scan
        exact .cut feed

/-- A header that is closed was a heading, or what is left of one. -/
theorem Scans.exists_lines {h : Header} {bs rest : Bytes} {length : Option Nat}
    (scans : Scans h bs (.closed length rest)) :
    ∃ blanks lines closing, bs = linesBytes blanks ++ (linesBytes lines ++ (lineBytes closing ++ rest)) ∧
      (∀ line ∈ blanks, IsBlankLine line) ∧ (∀ line ∈ lines, IsHeaderLine line) ∧ IsBlankLine closing ∧
      (h.begun = true → blanks = []) ∧ (h.begun = false → lines ≠ []) := by
  generalize ends : HeaderEnd.closed length rest = reached at scans
  induction scans with
  | cut whole => cases ends
  | @close h line rest' begun blank =>
      cases ends
      exact ⟨[], [], line, rfl, by simp, by simp, blank, fun _ => rfl, by simp [begun]⟩
  | @skip h line rest' reached notBegun blank further ih =>
      obtain ⟨blanks, lines, closing, rfl, blank', header, closes, -, some⟩ := ih ends
      refine ⟨line :: blanks, lines, closing, ?_, List.forall_mem_cons.mpr ⟨blank, blank'⟩, header, closes, ?_, some⟩
      · simp [linesBytes]
      · simp [notBegun]
  | @take h line rest' reached length' isLine further ih =>
      obtain ⟨blanks, lines, closing, rfl, -, header, closes, none, -⟩ := ih ends
      obtain rfl := none rfl
      refine ⟨[], line :: lines, closing, ?_, by simp, List.forall_mem_cons.mpr ⟨isLine, header⟩, closes,
        fun _ => rfl, fun _ => by simp⟩
      simp [linesBytes]

/-- A header that is scanned to its end was a heading. -/
theorem exists_heading_of_closed {bs rest : Bytes} {length : Option Nat}
    (scan : scanHeader .empty [] bs = .ok (.closed length rest)) : ∃ heading : Heading, bs = heading.bytes ++ rest := by
  obtain ⟨blanks, lines, closing, rfl, blank, header, closes, -, begun⟩ := (scans (Nat.le_refl _) scan).exists_lines
  refine ⟨⟨blanks, lines, closing, blank, begun rfl, header, closes⟩, ?_⟩
  simp [Heading.bytes]

/-- A line that is cut has no line feed. -/
theorem Scans.whole {h last : Header} {bs line : Bytes} (scans : Scans h bs (.within last line)) : 10 ∉ line := by
  generalize ends : HeaderEnd.within last line = reached at scans
  induction scans with
  | cut whole =>
      cases ends
      exact whole
  | close begun blank => cases ends
  | skip notBegun blank further ih => exact ih ends
  | take isLine further ih => exact ih ends

/-- Before a header has begun there are only blank lines. -/
theorem Scans.exists_blanks {h last : Header} {bs line : Bytes} (scans : Scans h bs (.within last line))
    (notBegun : last.begun = false) :
    h.begun = false ∧ ∃ blanks, bs = linesBytes blanks ++ line ∧ ∀ line ∈ blanks, IsBlankLine line := by
  generalize ends : HeaderEnd.within last line = reached at scans
  induction scans with
  | @cut h bs whole =>
      cases ends
      exact ⟨notBegun, [], rfl, by simp⟩
  | close begun blank => cases ends
  | @skip h line' rest reached stillNot blank further ih =>
      obtain ⟨-, blanks, rfl, blank'⟩ := ih ends
      exact ⟨stillNot, line' :: blanks, by simp [linesBytes], List.forall_mem_cons.mpr ⟨blank, blank'⟩⟩
  | take isLine further ih => exact absurd (ih ends).1 (by simp)

/-- A stream that ends before a message is made of blank lines, the last of which may lack its line feed. -/
theorem exists_blanks_of_read_none {bs : Bytes} (reads : read bs = .ok none) :
    ∃ blanks last, bs = linesBytes blanks ++ Utf8.encodeChars last ∧ (∀ line ∈ blanks, IsBlankLine line) ∧
      IsBlankLine last := by
  have noPayload (length : Option Nat) (rest : Bytes) : (readPayload length rest).map some ≠ .ok none := by
    intro reads
    obtain ⟨_, -, absurd⟩ := Json.ok_of_map reads
    cases absurd
  rw [read] at reads
  split at reads
  · cases reads
  · exact absurd reads (noPayload _ _)
  · next h scan =>
      split at reads
      · cases reads
      · next notBegun =>
          have begun : h.begun = false := by simpa using notBegun
          obtain ⟨-, blanks, shape, blank⟩ := (scans (Nat.le_refl _) scan).exists_blanks begun
          exact ⟨blanks, [], shape, blank, by simp [IsBlankLine]⟩
  · next h b line scan =>
      have lines := scans (Nat.le_refl _) scan
      split at reads
      · cases reads
      · exact absurd reads (noPayload _ _)
      · next next added =>
          split at reads
          · cases reads
          · next notBegun =>
              obtain ⟨text, shape, ⟨blank, begun, -⟩ | ⟨-, length, rfl⟩⟩ := line_of_addLine_some lines.whole added
              · obtain ⟨-, blanks, whole, blank'⟩ := lines.exists_blanks begun
                exact ⟨blanks, text, by rw [whole, shape], blank', blank⟩
              · exact absurd rfl notBegun

/-- Blank lines are no message. -/
theorem read_blanks {blanks : List (List Char)} {last : List Char} (blank : ∀ line ∈ blanks, IsBlankLine line)
    (blankLast : IsBlankLine last) : read (linesBytes blanks ++ Utf8.encodeChars last) = .ok none := by
  have whole := Utf8.lineFeed_not_mem_encodeChars (lineFeed_not_mem_of_blank blankLast)
  have scan : scanHeader .empty [] (linesBytes blanks ++ Utf8.encodeChars last) =
      .ok (.within .empty (Utf8.encodeChars last)) := by
    rw [scanHeader_blanks blank, scanHeader_within _ _ whole]
    rfl
  rw [read, scan]
  cases shape : Utf8.encodeChars last with
  | nil => rfl
  | cons b line =>
      simp only [← shape, addLine_of_blank blankLast]
      rfl

/-- What is read as a message, and what as the end of a stream. Lines of a header that do not begin with the name of the
length, their places, and the line ends make no difference, whether the message is accepted or refused. -/
theorem read_accepts :
    (∀ (s : Bytes) (v : Json) (rest : Bytes), read s = .ok (some (v, rest)) ↔
      ∃ (heading : Heading) (payload : Bytes), s = heading.bytes ++ (payload ++ rest) ∧
        heading.Gives payload.length ∧ Json.decode payload = .ok v) ∧
    (∀ s : Bytes, read s = .ok none ↔
      ∃ blanks last, s = linesBytes blanks ++ Utf8.encodeChars last ∧ (∀ line ∈ blanks, IsBlankLine line) ∧
        IsBlankLine last) ∧
    ∀ heading other : Heading, heading.lengthLines = other.lengthLines →
      ∀ after, read (heading.bytes ++ after) = read (other.bytes ++ after) := by
  refine ⟨fun s v rest => ?_, fun s => ⟨exists_blanks_of_read_none, ?_⟩, fun heading other same after => ?_⟩
  · rw [read_eq_some_iff]
    constructor
    · rintro ⟨payload, scan, denotes⟩
      obtain ⟨heading, rfl⟩ := exists_heading_of_closed scan
      rw [scanHeader_heading] at scan
      obtain ⟨length, given, closed⟩ := Json.ok_of_map scan
      cases closed
      exact ⟨heading, payload, rfl, announced_lengthLines_iff.mp given, denotes⟩
    · rintro ⟨heading, payload, rfl, gives, denotes⟩
      refine ⟨payload, ?_, denotes⟩
      rw [scanHeader_heading, announced_lengthLines_iff.mpr gives]
      rfl
  · rintro ⟨blanks, last, rfl, blank, blankLast⟩
    exact read_blanks blank blankLast
  · have scan := scanHeader_heading heading after
    rw [same, ← scanHeader_heading other after] at scan
    rw [read, read, scan]

section Sample

/-- A heading with an empty line in front, a line in letters beyond ASCII, a length that is overruled, and one that is
written with a sign, a zero and blanks. -/
def ornateHeading : Heading where
  blanks := [['\r'], []]
  lines := ["Content-Length: 77\r".toList, "Größe: 3".toList, "Content-Length:\t +02 \r\r".toList]
  closing := ['\r', '\r']
  blank := by decide
  begun := by decide
  header := by decide
  closes := by decide

/-- The two lengths of the other heading and nothing else. -/
def plainHeading : Heading where
  blanks := []
  lines := ["Content-Length: 77".toList, "Content-Length:\t +02 ".toList]
  closing := []
  blank := by decide
  begun := by decide
  header := by decide
  closes := by decide

theorem gives_ornateHeading : ornateHeading.Gives 2 := by
  have overruled : GivesLength "Content-Length: 77\r".toList 77 :=
    ⟨⟨[' '], ['7', '7'], ['\r'], rfl, @Numeral.plain [7, 7] (by decide) (by decide),
      List.all_eq_true.mp (by decide), List.all_eq_true.mp (by decide)⟩, by decide⟩
  have stands : GivesLength "Content-Length:\t +02 \r\r".toList 2 :=
    ⟨⟨['\t', ' '], ['+', '0', '2'], [' ', '\r', '\r'], rfl, @Numeral.signed [0, 2] (by decide) (by decide),
      List.all_eq_true.mp (by decide), List.all_eq_true.mp (by decide)⟩, by decide⟩
  have other : ¬ lengthName <+: "Größe: 3".toList := by decide
  refine ⟨?_, ["Content-Length: 77\r".toList, "Größe: 3".toList], _, [], rfl, stands, by simp⟩
  simp only [ornateHeading, List.forall_mem_cons]
  exact ⟨fun _ => ⟨77, overruled⟩, fun named => absurd named other, fun _ => ⟨2, stands⟩, by simp⟩

/-- A heading may have other lines, blanks and two lengths, of which the last one counts. -/
theorem read_accepts_ornateHeading :
    read (ornateHeading.bytes ++ ([123, 125] ++ [255])) = .ok (some (.obj [], [255])) ∧
      read [13, 10, 10, 13] = .ok none ∧ ornateHeading.lengthLines = plainHeading.lengthLines ∧
      read (ornateHeading.bytes ++ [123]) = read (plainHeading.bytes ++ [123]) := by
  obtain ⟨accepted, ended, alike⟩ := read_accepts
  have same : ornateHeading.lengthLines = plainHeading.lengthLines := by decide
  exact ⟨(accepted _ _ _).mpr ⟨ornateHeading, [123, 125], rfl, gives_ornateHeading, rfl⟩,
    (ended _).mpr ⟨[['\r'], []], ['\r'], by decide, by decide, by decide⟩, same, alike _ _ same [123]⟩

end Sample

end DebugBridge.Wire
