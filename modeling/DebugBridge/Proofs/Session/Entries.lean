import DebugBridge.Proofs.Json.Lines
import DebugBridge.Proofs.Json.RoundTrip
import DebugBridge.Session.Basic

/-!
# Lines of the diagnostic file

The diagnostic file has entries: one for every message that is read from the adapter, one for every message that is to
be written to it, and one for a launch. No text of them has a line feed, so every entry has lines of its own, and what
stands behind a mark can be told from them (`transcribes_entries`).
-/

namespace DebugBridge

/-- What is noted in the diagnostic file. -/
inductive Entry where
  /-- The adapter is launched under a configuration. -/
  | launch (config : Config)
  /-- A message was read from the adapter. -/
  | read (message : Json)
  /-- A message is written to the adapter. -/
  | written (message : Json)
deriving DecidableEq, Repr

namespace Entry

/-- The lines of an entry. -/
def lines : Entry → List String
  | .launch config => Launch.traceLines config
  | .read message => [Session.receivedLine message]
  | .written message => [Session.writtenLine message]

/-- The configuration of a launch. -/
def launch? : Entry → Option Config
  | .launch config => some config
  | .read _ | .written _ => none

/-- The message that was read. -/
def read? : Entry → Option Json
  | .read message => some message
  | .launch _ | .written _ => none

/-- The message that is written. -/
def written? : Entry → Option Json
  | .written message => some message
  | .launch _ | .read _ => none

end Entry

/-! ## Lines -/

/-- The bytes of a diagnostic file: a line feed ends every line. -/
def fileOf (lines : List String) : Bytes :=
  lines.flatMap fun l => Utf8.encode l ++ [10]

/-- Lines without line feeds are what their file is split into at line feeds. Behind the last one there is nothing. -/
theorem splitOn_fileOf {lines : List String} (single : ∀ l ∈ lines, 10 ∉ Utf8.encode l) :
    (fileOf lines).splitOn 10 = lines.map Utf8.encode ++ [[]] := by
  induction lines with
  | nil => rfl
  | cons l lines ih =>
      obtain ⟨here, others⟩ := List.forall_mem_cons.mp single
      have split : fileOf (l :: lines) = Utf8.encode l ++ 10 :: fileOf lines := by simp [fileOf]
      rw [split, List.splitOn_append_cons_self_of_not_mem here, ih others]
      rfl

/-- The mark at the start of a line for a message that was read. -/
def readMark : Bytes := Utf8.encode "<- "

/-- The mark at the start of a line for a message that was written. -/
def writtenMark : Bytes := Utf8.encode "-> "

/-- A line has neither mark. -/
def Unmarked (line : Bytes) : Prop :=
  ¬ readMark <+: line ∧ ¬ writtenMark <+: line

instance : DecidablePred Unmarked :=
  fun line => inferInstanceAs (Decidable (¬ readMark <+: line ∧ ¬ writtenMark <+: line))

theorem unmarked_cons {b : UInt8} (noRead : b ≠ 60) (noWritten : b ≠ 45) (line : Bytes) : Unmarked (b :: line) := by
  have marks : readMark = [60, 45, 32] ∧ writtenMark = [45, 62, 32] := by decide
  simp [Unmarked, marks, List.cons_prefix_cons, noRead.symm, noWritten.symm]

namespace Session

/-- The line for a message that was read is its mark and its text. -/
theorem encode_receivedLine (message : Json) :
    Utf8.encode (receivedLine message) = readMark ++ Json.encode message := by
  simp [receivedLine, readMark, Utf8.encode, Json.text, Json.encode]

/-- The line for a message that is written is its mark and its text. -/
theorem encode_writtenLine (message : Json) :
    Utf8.encode (writtenLine message) = writtenMark ++ Json.encode message := by
  simp [writtenLine, writtenMark, Utf8.encode, Json.text, Json.encode]

end Session

namespace Entry

/-- Whatever is noted, no line of it has a line feed. -/
theorem lineFeed_not_mem_lines {e : Entry} {l : String} (member : l ∈ e.lines) : 10 ∉ Utf8.encode l := by
  have text (v : Json) : 10 ∉ Json.encode v := v.lineFeed_not_mem_encode
  have marks : 10 ∉ readMark ∧ 10 ∉ writtenMark := by decide
  cases e with
  | launch config =>
      simp only [lines, Launch.traceLines, List.mem_cons, List.not_mem_nil, or_false] at member
      rcases member with rfl | rfl
      · decide
      · simpa [Config.text, Utf8.encode, Json.text, Json.encode] using text (.obj config.members)
  | read message =>
      rw [List.mem_singleton.mp member, Session.encode_receivedLine]
      simp [text, marks]
  | written message =>
      rw [List.mem_singleton.mp member, Session.encode_writtenLine]
      simp [text, marks]

/-- The lines of an entry as bytes. -/
def bytes (e : Entry) : List Bytes :=
  e.lines.map Utf8.encode

/-- The lines of a launch have no mark: the second one is the text of an object. -/
theorem bytes_launch (config : Config) :
    (launch config).bytes =
      [Utf8.encode "===== DEBUGGER CONFIG =====", 123 :: Utf8.encodeChars (Json.charsMembers config.members)] := by
  have brace : Utf8.encodeChar '\x7b' = [123] := by decide
  simp [bytes, lines, Launch.traceLines, Config.text, Utf8.encode, Json.text, Json.chars, brace]

/-- Behind the mark of what is read stands the text of a message that was read. -/
theorem filterMap_readMark (e : Entry) : e.bytes.filterMap readMark.isPrefixOf? = e.read?.toList.map Json.encode := by
  cases e with
  | launch config =>
      rw [bytes_launch]
      rfl
  | read message => simp [bytes, lines, Session.encode_receivedLine, read?]
  | written message =>
      rw [bytes, lines, List.map_singleton, Session.encode_writtenLine]
      rfl

/-- Behind the mark of what is written stands the text of a message that was written. -/
theorem filterMap_writtenMark (e : Entry) :
    e.bytes.filterMap writtenMark.isPrefixOf? = e.written?.toList.map Json.encode := by
  cases e with
  | launch config =>
      rw [bytes_launch]
      rfl
  | written message => simp [bytes, lines, Session.encode_writtenLine, written?]
  | read message =>
      rw [bytes, lines, List.map_singleton, Session.encode_receivedLine]
      rfl

/-- Only a launch has lines without a mark. -/
theorem filter_unmarked (e : Entry) :
    e.bytes.filter Unmarked = e.launch?.toList.flatMap fun config => (Launch.traceLines config).map Utf8.encode := by
  cases e with
  | launch config =>
      have all : ∀ l ∈ (launch config).bytes, Unmarked l := by
        rw [bytes_launch]
        have title : Unmarked (Utf8.encode "===== DEBUGGER CONFIG =====") := by decide
        simp [title, unmarked_cons]
      have kept : (launch config).bytes.filter Unmarked = (launch config).bytes :=
        List.filter_eq_self.mpr fun l member => decide_eq_true (all l member)
      rw [kept]
      simp [launch?, bytes, lines]
  | written message => simp [bytes, lines, Session.encode_writtenLine, launch?, Unmarked]
  | read message => simp [bytes, lines, Session.encode_receivedLine, launch?, Unmarked]

/-- Every message has one line, and a launch has two. -/
theorem length_bytes (entries : List Entry) :
    (entries.flatMap bytes).length =
      2 * (entries.filterMap launch?).length + (entries.filterMap read?).length +
        (entries.filterMap written?).length := by
  induction entries with
  | nil => rfl
  | cons e entries ih =>
      rw [List.flatMap_cons, List.length_append, ih]
      cases e with
      | launch config =>
          simp only [bytes, lines, Launch.traceLines, List.length_map, List.length_cons, List.length_nil,
            List.filterMap_cons, launch?, read?, written?]
          omega
      | read message | written message =>
          simp only [bytes, lines, List.length_map, List.length_cons, List.length_nil, List.filterMap_cons, launch?,
            read?, written?]
          omega

end Entry

/-! ## The transcript -/

/-- A file with these lines is a transcript of what was launched, read and written. -/
structure Transcribes (file : Bytes) (lines : List Bytes) (launches : List Config) (read written : List Json) :
    Prop where
  /-- Every line ends with a line feed, -/
  split : file.splitOn 10 = lines ++ [[]]
  /-- every message has one, -/
  length : lines.length = 2 * launches.length + read.length + written.length
  /-- those with the mark of what is read decode to what was read, -/
  read : (lines.filterMap readMark.isPrefixOf?).map Json.decode = read.map .ok
  /-- those with the mark of what is written decode to what was written, -/
  written : (lines.filterMap writtenMark.isPrefixOf?).map Json.decode = written.map .ok
  /-- and all others are of a launch. -/
  others : lines.filter Unmarked = launches.flatMap fun config => (Launch.traceLines config).map Utf8.encode

/-- Texts decode to the values that they were made of. -/
theorem decode_texts {vs : List Json} (exact : ∀ v ∈ vs, v.Exact Json.depthLimit) :
    (vs.map Json.encode).map Json.decode = vs.map .ok := by
  rw [List.map_map]
  exact List.map_congr_left fun v member => Json.decode_encode_of_exact (exact v member)

/-- What stands behind a mark in a file stands there entry by entry. -/
theorem texts_behind {mark : Bytes} {part : Entry → Option Json}
    (each : ∀ e : Entry, e.bytes.filterMap mark.isPrefixOf? = (part e).toList.map Json.encode) (entries : List Entry) :
    (entries.flatMap Entry.bytes).filterMap mark.isPrefixOf? = (entries.filterMap part).map Json.encode := by
  rw [List.filterMap_flatMap, List.filterMap_eq_flatMap_toList, List.map_flatMap]
  simp only [each]

/-- A file of entries can be taken apart into them. -/
theorem transcribes_entries (entries : List Entry)
    (read : ∀ v ∈ entries.filterMap Entry.read?, v.Exact Json.depthLimit)
    (written : ∀ v ∈ entries.filterMap Entry.written?, v.Exact Json.depthLimit) :
    Transcribes (fileOf (entries.flatMap Entry.lines)) (entries.flatMap Entry.bytes) (entries.filterMap Entry.launch?)
      (entries.filterMap Entry.read?) (entries.filterMap Entry.written?) where
  split := by
    have single : ∀ l ∈ entries.flatMap Entry.lines, 10 ∉ Utf8.encode l := by
      intro l member
      obtain ⟨e, -, line⟩ := List.mem_flatMap.mp member
      exact e.lineFeed_not_mem_lines line
    rw [splitOn_fileOf single, List.map_flatMap]
    rfl
  length := Entry.length_bytes entries
  read := by rw [texts_behind Entry.filterMap_readMark, decode_texts read]
  written := by rw [texts_behind Entry.filterMap_writtenMark, decode_texts written]
  others := by
    rw [List.filter_flatMap, List.filterMap_eq_flatMap_toList, List.flatMap_assoc]
    simp only [Entry.filter_unmarked]

end DebugBridge
