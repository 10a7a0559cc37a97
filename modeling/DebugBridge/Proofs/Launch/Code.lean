import Mathlib
import DebugBridge.Text.Unsigned

/-!
# How the interpreter reads code

A snippet is one line of the interpreter's language: imports and calls with a dictionary or a tuple of literals.
`Code.read` reads such a line and refuses every other one. A raw literal ends at the first quote that an even number
of backslashes, or none, stands before.
-/

namespace DebugBridge.Code

/-! ## Tokens -/

/-- Marks between names and literals. -/
inductive Mark where
  | semicolon
  | dot
  | comma
  | colon
  | openParen
  | closeParen
  | openBrace
  | closeBrace
deriving DecidableEq, Repr

/-- The mark of a character. -/
def Mark.ofChar? : Char → Option Mark
  | ';' => some .semicolon
  | '.' => some .dot
  | ',' => some .comma
  | ':' => some .colon
  | '(' => some .openParen
  | ')' => some .closeParen
  | '{' => some .openBrace
  | '}' => some .closeBrace
  | _ => none

/-- What a line is made of. -/
inductive Token where
  | name (text : String)
  | number (n : Nat)
  | text (content : String)
  | mark (m : Mark)
deriving DecidableEq, Repr

/-- Where a reader is in a line, with the characters of the token that it is in. -/
inductive Lexing where
  | between
  | name (read : List Char)
  | number (read : List Char)
  /-- In a literal with escapes. -/
  | quoted (read : List Char)
  /-- In a literal without escapes. -/
  | raw (read : List Char)
  | comment
deriving DecidableEq, Repr

/-- The characters that end a line. No literal holds them. -/
def lineBreaks : List Char := ['\n', '\r']

/-- The number of backslashes that a text ends in. -/
def backslashes (cs : List Char) : Nat :=
  (cs.rtakeWhile (· = '\\')).length

def isNameStart (c : Char) : Bool :=
  c.isAlpha || c = '_'

def isNamePart (c : Char) : Bool :=
  c.isAlphanum || c = '_'

/-- The number that digits stand for, which have no zero in front. -/
def numberOf? (digits : List Char) : Option Nat :=
  (readDigits 0 digits).filter fun n => decimal n = digits

/-- Takes a character that is in no token yet. -/
def opening (c : Char) : Option (Lexing × List Token) :=
  if c = ' ' then some (.between, [])
  else if c = '#' then some (.comment, [])
  else if c = '\'' then some (.quoted [], [])
  else if isNameStart c then some (.name [c], [])
  else if c.isDigit then some (.number [c], [])
  else (Mark.ofChar? c).map fun m => (.between, [.mark m])

/-- Takes a character, and gives the tokens that have ended. An escape sequence is not read. -/
def Lexing.step (c : Char) : Lexing → Option (Lexing × List Token)
  | .between => opening c
  | .name read =>
    if isNamePart c then some (.name (read ++ [c]), [])
    else if c = '\'' then if read = ['r'] then some (.raw [], []) else none
    else (opening c).map fun next => (next.1, .name (String.ofList read) :: next.2)
  | .number read =>
    if c.isDigit then some (.number (read ++ [c]), [])
    else if isNameStart c || c = '\'' then none
    else (numberOf? read).bind fun n => (opening c).map fun next => (next.1, .number n :: next.2)
  | .quoted read =>
    if c ∈ lineBreaks || c = '\\' then none
    else if c = '\'' then some (.between, [.text (String.ofList read)])
    else some (.quoted (read ++ [c]), [])
  | .raw read =>
    if c ∈ lineBreaks then none
    else if c = '\'' ∧ backslashes read % 2 = 0 then some (.between, [.text (String.ofList read)])
    else some (.raw (read ++ [c]), [])
  | .comment => if c ∈ lineBreaks then none else some (.comment, [])

/-- The tokens at the end of the line, which must not be within a literal. -/
def Lexing.finish : Lexing → Option (List Token)
  | .between | .comment => some []
  | .name read => some [.name (String.ofList read)]
  | .number read => (numberOf? read).map fun n => [.number n]
  | .quoted _ | .raw _ => none

/-- Takes characters, one after the other. -/
def Lexing.run : Lexing → List Char → Option (Lexing × List Token)
  | l, [] => some (l, [])
  | l, c :: rest => (l.step c).bind fun next => (next.1.run rest).map fun last => (last.1, next.2 ++ last.2)

/-- The tokens of the rest of a line. -/
def Lexing.tokens? (l : Lexing) (rest : List Char) : Option (List Token) :=
  (l.run rest).bind fun last => last.1.finish.map (last.2 ++ ·)

/-! ## Statements -/

inductive Literal where
  | text (content : String)
  | number (n : Nat)
deriving DecidableEq, Repr

inductive Argument where
  | dict (entries : List (Literal × Literal))
  | tuple (items : List Literal)
deriving DecidableEq, Repr

inductive Statement where
  /-- An import of a module. -/
  | load (module : String)
  /-- A call of a module's function. -/
  | call (module function : String) (argument : Argument)
deriving DecidableEq, Repr

/-- The pieces between the marks of one kind. -/
def pieces (between : Mark) : List Token → List (List Token)
  | [] => [[]]
  | t :: rest =>
    if t = .mark between then [] :: pieces between rest
    else
      match pieces between rest with
      | [] => [[t]]
      | piece :: others => (t :: piece) :: others

/-- What stands before the tokens at the end of a row. -/
def before? (closing : List Token) : List Token → Option (List Token)
  | [] => none
  | t :: rest => if t :: rest = closing then some [] else (before? closing rest).map (t :: ·)

def Token.literal? : Token → Option Literal
  | .text content => some (.text content)
  | .number n => some (.number n)
  | _ => none

def item? : List Token → Option Literal
  | [t] => t.literal?
  | _ => none

def pair? : List Token → Option (Literal × Literal)
  | [key, .mark .colon, value] => key.literal?.bind fun k => value.literal?.map fun v => (k, v)
  | _ => none

/-- The argument of a call, to its closing parenthesis. A tuple has two items at least. -/
def argument? : List Token → Option Argument
  | .mark .openBrace :: rest =>
    (before? [.mark .closeBrace, .mark .closeParen] rest).bind fun body =>
      ((pieces .comma body).mapM pair?).map .dict
  | .mark .openParen :: rest =>
    (before? [.mark .closeParen, .mark .closeParen] rest).bind fun body =>
      (((pieces .comma body).mapM item?).filter (1 < ·.length)).map .tuple
  | _ => none

def statement? : List Token → Option Statement
  | [.name keyword, .name module] => if keyword = "import" then some (.load module) else none
  | .name module :: .mark .dot :: .name function :: .mark .openParen :: rest =>
    (argument? rest).map (.call module function)
  | _ => none

/-- The statements of a line. -/
def read (line : String) : Option (List Statement) :=
  (Lexing.between.tokens? line.toList).bind fun tokens => (pieces .semicolon tokens).mapM statement?

example : read "import debugpy;debugpy.listen(('127.0.0.1',5678))" = some [.load "debugpy",
    .call "debugpy" "listen" (.tuple [.text "127.0.0.1", .number 5678])] := by
  decide +kernel

/-! ## Reading on -/

/-- Reading may be interrupted anywhere. -/
theorem run_append (l : Lexing) (first second : List Char) :
    l.run (first ++ second) =
      (l.run first).bind fun next => (next.1.run second).map fun last => (last.1, next.2 ++ last.2) := by
  induction first generalizing l with
  | nil => simp [Lexing.run]
  | cons c first ih =>
      rw [List.cons_append, Lexing.run, Lexing.run]
      cases l.step c with
      | none => rfl
      | some next =>
          simp only [Option.bind_some, ih]
          cases next.1.run first with
          | none => rfl
          | some middle => simp [Function.comp_def]

/-- What is read first leaves the rest to be read from where it leads to. -/
theorem tokens?_append {l m : Lexing} {first second : List Char} {ts : List Token}
    (reads : l.run first = some (m, ts)) :
    l.tokens? (first ++ second) = (m.tokens? second).map (ts ++ ·) := by
  rw [Lexing.tokens?, Lexing.tokens?, run_append, reads, Option.bind_some]
  dsimp only
  cases m.run second with
  | none => rfl
  | some last => simp [Function.comp_def]

theorem tokens?_cons (l : Lexing) (c : Char) (rest : List Char) :
    l.tokens? (c :: rest) = (l.step c).bind fun next => (next.1.tokens? rest).map (next.2 ++ ·) := by
  cases taken : l.step c with
  | none => simp [Lexing.tokens?, Lexing.run, taken]
  | some next =>
      have reads : l.run [c] = some next := by simp [Lexing.run, taken]
      rw [← List.singleton_append, tokens?_append reads, Option.bind_some]

/-! ## Literals -/

/-- Characters that leave a raw literal open which holds some already. -/
structure Open (read cs : List Char) : Prop where
  oneLine : ∀ c ∈ cs, c ∉ lineBreaks
  quotes : ∀ before after, cs = before ++ '\'' :: after → backslashes (read ++ before) % 2 = 1

theorem open_nil (read : List Char) : Open read [] :=
  ⟨by simp, by simp⟩

/-- A literal stays open at a character that is no line break and no quote, or a quote behind an odd number of
backslashes. -/
theorem open_cons_iff {read cs : List Char} {c : Char} :
    Open read (c :: cs) ↔
      (c ∉ lineBreaks ∧ (c = '\'' → backslashes read % 2 = 1)) ∧ Open (read ++ [c]) cs := by
  constructor
  · rintro ⟨oneLine, quotes⟩
    refine ⟨⟨oneLine c List.mem_cons_self, ?_⟩, fun d member => oneLine d (List.mem_cons_of_mem c member), ?_⟩
    · rintro rfl
      simpa using quotes [] cs rfl
    · rintro before after rfl
      simpa using quotes (c :: before) after rfl
  · rintro ⟨⟨first, quote⟩, oneLine, quotes⟩
    refine ⟨fun d member => ?_, fun before after shape => ?_⟩
    · rcases List.mem_cons.mp member with rfl | later
      · exact first
      · exact oneLine d later
    · cases before with
      | nil =>
          rw [List.append_nil]
          exact quote (List.cons.inj shape).1
      | cons d before =>
          obtain ⟨rfl, rest⟩ := List.cons.inj shape
          simpa using quotes before after rest

/-- A raw literal goes on as long as nothing ends it. -/
theorem run_raw {read cs : List Char} (stays : Open read cs) :
    (Lexing.raw read).run cs = some (.raw (read ++ cs), []) := by
  induction cs generalizing read with
  | nil => simp [Lexing.run]
  | cons c cs ih =>
      obtain ⟨⟨first, quote⟩, rest⟩ := open_cons_iff.mp stays
      have taken : (Lexing.raw read).step c = some (.raw (read ++ [c]), []) := by
        by_cases same : c = '\''
        · simp [Lexing.step, first, quote same]
        · simp [Lexing.step, first, same]
      simp [Lexing.run, taken, ih rest]

/-- A raw literal that is read ends at a quote before which it was open. -/
theorem tokens?_raw {read cs : List Char} {ts : List Token} (reads : (Lexing.raw read).tokens? cs = some ts) :
    ∃ content rest more, cs = content ++ '\'' :: rest ∧ Open read content ∧ backslashes (read ++ content) % 2 = 0 ∧
      Lexing.between.tokens? rest = some more ∧ ts = .text (String.ofList (read ++ content)) :: more := by
  induction cs generalizing read ts with
  | nil => simp [Lexing.tokens?, Lexing.run, Lexing.finish] at reads
  | cons c cs ih =>
      rw [tokens?_cons] at reads
      simp only [Lexing.step] at reads
      split at reads
      · cases reads
      · next oneLine =>
          split at reads
          · next ends =>
              obtain ⟨rfl, even⟩ := ends
              simp only [Option.bind_some, Option.map_eq_some_iff] at reads
              obtain ⟨more, after, rfl⟩ := reads
              exact ⟨[], cs, more, rfl, open_nil read, by simpa using even, after, by simp⟩
          · next stays =>
              simp only [Option.bind_some, List.nil_append, Option.map_id'] at reads
              obtain ⟨content, rest, more, rfl, isOpen, even, after, rfl⟩ := ih reads
              refine ⟨c :: content, rest, more, rfl, open_cons_iff.mpr ⟨⟨oneLine, fun same => ?_⟩, isOpen⟩, ?_,
                after, ?_⟩
              · have odd : ¬ backslashes read % 2 = 0 := fun even => stays ⟨same, even⟩
                omega
              · simpa using even
              · simp

end DebugBridge.Code
