import DebugBridge.Proofs.Launch.Code
import DebugBridge.Proofs.Launch.Snippet

/-!
# What the interpreter reads in a snippet

The path of a configuration is put into the snippet as it is, between the quotes of a raw literal. `read_snippet_iff`
says for which paths the interpreter reads what was meant.
-/

namespace DebugBridge.Code

/-! ## Addresses -/

theorem opening_digitChar {d : Nat} (small : d < 10) :
    opening (digitChar d) = some (.number [digitChar d], []) := by
  match d, small with
  | 0, _ | 1, _ | 2, _ | 3, _ | 4, _ | 5, _ | 6, _ | 7, _ | 8, _ | 9, _ => rfl

theorem isDigit_of_mem_decimal {n : Nat} {c : Char} (member : c ∈ decimal n) : c.isDigit = true :=
  forall_mem_decimal (P := fun c => c.isDigit = true) (by decide) n c member

/-- Digits go on a number. -/
theorem run_digits {read cs : List Char} (digits : ∀ c ∈ cs, c.isDigit = true) :
    (Lexing.number read).run cs = some (.number (read ++ cs), []) := by
  induction cs generalizing read with
  | nil => simp [Lexing.run]
  | cons c cs ih =>
      have rest := @ih (read ++ [c]) fun d member => digits d (List.mem_cons_of_mem c member)
      simp [Lexing.run, Lexing.step, digits c List.mem_cons_self, rest]

/-- A decimal is read as a number. -/
theorem run_decimal (n : Nat) : Lexing.between.run (decimal n) = some (.number (decimal n), []) := by
  obtain ⟨d, rest, small, shape⟩ := digitsOnto_eq_cons n []
  have digits : ∀ c ∈ digitChar d :: rest, c.isDigit = true := fun c member =>
    isDigit_of_mem_decimal (n := n) (by rw [decimal, shape]; exact member)
  have first := opening_digitChar small
  have others := @run_digits [digitChar d] rest fun c member => digits c (List.mem_cons_of_mem _ member)
  rw [decimal, shape, Lexing.run, Lexing.step, first]
  simp [others]

/-- The number that is read is the one that was written. -/
theorem numberOf?_decimal (n : Nat) : numberOf? (decimal n) = some n := by
  simp [numberOf?, readDigits_decimal, Option.filter]

/-- The tokens behind the host of an address. -/
theorem tokens?_port (port : Nat) : Lexing.between.tokens? (',' :: (decimal port ++ "))".toList)) =
    some [.mark .comma, .number port, .mark .closeParen, .mark .closeParen] := by
  have close : (Lexing.number (decimal port)).tokens? "))".toList =
      some [.number port, .mark .closeParen, .mark .closeParen] := by
    have ends : (Lexing.number (decimal port)).step ')' = some (.between, [.number port, .mark .closeParen]) := by
      have closes : opening ')' = some (.between, [.mark .closeParen]) := rfl
      have isDigit : ')'.isDigit = false := rfl
      have start : isNameStart ')' = false := rfl
      simp [Lexing.step, numberOf?_decimal, closes, isDigit, start]
    have brackets : "))".toList = [')', ')'] := rfl
    rw [brackets, tokens?_cons, ends]
    rfl
  have comma : Lexing.between.step ',' = some (.between, [.mark .comma]) := rfl
  rw [tokens?_cons, comma, Option.bind_some, tokens?_append (run_decimal port), close]
  rfl

/-- A host without quotes and backslashes is read between quotes if it is on one line. -/
theorem tokens?_quoted_iff {read host rest : List Char} {ts : List Token}
    (plain : ∀ c ∈ host, c ≠ '\'' ∧ c ≠ '\\') :
    (Lexing.quoted read).tokens? (host ++ '\'' :: rest) = some ts ↔
      (∀ c ∈ host, c ∉ lineBreaks) ∧
        ∃ more, Lexing.between.tokens? rest = some more ∧ ts = .text (String.ofList (read ++ host)) :: more := by
  induction host generalizing read with
  | nil =>
      have ends : (Lexing.quoted read).step '\'' = some (.between, [.text (String.ofList read)]) := by
        simp [Lexing.step, lineBreaks]
      rw [List.nil_append, tokens?_cons, ends]
      simp [eq_comm]
  | cons c host ih =>
      obtain ⟨quote, escape⟩ := plain c List.mem_cons_self
      have later := @ih (read ++ [c]) fun d member => plain d (List.mem_cons_of_mem c member)
      rw [List.cons_append, tokens?_cons]
      by_cases line : c ∈ lineBreaks
      · simp [Lexing.step, line]
      · simp [Lexing.step, line, quote, escape, later]

/-- The tokens of a call that makes the adapter listen, from the host on. -/
def listenTokens (address : Address) : List Token :=
  [.text address.host, .mark .comma, .number address.port, .mark .closeParen, .mark .closeParen]

/-- After the path the interpreter reads a call with host and port, if the host is one line. -/
theorem tokens?_addressChars {address : Address} (plain : ∀ c ∈ address.host.toList, c ≠ '\'' ∧ c ≠ '\\')
    {ts : List Token} : (Lexing.quoted []).tokens? (Launch.addressChars address) = some ts ↔
      (∀ c ∈ address.host.toList, c ∉ lineBreaks) ∧ ts = listenTokens address := by
  have comma : "',".toList = ['\'', ','] := rfl
  rw [Launch.addressChars, comma, List.cons_append, List.cons_append, List.nil_append, tokens?_quoted_iff plain,
    tokens?_port]
  simp [listenTokens]

/-! ## Paths -/

/-- A path that stands for itself between the quotes of a raw literal, and ends where the literal does. -/
structure Quotable (path : List Char) : Prop where
  oneLine : ∀ c ∈ path, c ∉ lineBreaks
  /-- No quote in it ends the literal. -/
  quotes : ∀ before after, path = before ++ '\'' :: after → backslashes before % 2 = 1
  /-- The quote behind it does. -/
  closed : backslashes path % 2 = 0

/-- A path can be quoted exactly if it leaves its literal open and the quote after it closes that. -/
theorem quotable_iff {path : List Char} : Quotable path ↔ Open [] path ∧ backslashes path % 2 = 0 := by
  constructor
  · rintro ⟨oneLine, quotes, closed⟩
    exact ⟨⟨oneLine, by simpa using quotes⟩, closed⟩
  · rintro ⟨⟨oneLine, quotes⟩, closed⟩
    exact ⟨oneLine, by simpa using quotes, closed⟩

/-- The literal of a path that can be quoted ends at the quote behind it. -/
theorem Quotable.tokens? {path : List Char} (quotable : Quotable path) (rest : List Char) :
    (Lexing.raw []).tokens? (path ++ '\'' :: rest) =
      (Lexing.between.tokens? rest).map (.text (String.ofList path) :: ·) := by
  obtain ⟨isOpen, closed⟩ := quotable_iff.mp quotable
  have ends : (Lexing.raw path).step '\'' = some (.between, [.text (String.ofList path)]) := by
    simp [Lexing.step, lineBreaks, closed]
  rw [tokens?_append (run_raw isOpen), List.nil_append, tokens?_cons, ends, Option.bind_some]
  simp [Function.comp_def]

/-! ## Statements -/

/-- The tokens of a snippet in front of the literal of its path. -/
def frontTokens : List Token :=
  [.name "import", .name "debugpy", .mark .semicolon, .name "debugpy", .mark .dot, .name "configure", .mark .openParen,
    .mark .openBrace, .text "python", .mark .colon]

/-- The tokens between that literal and the host. -/
def middleTokens : List Token :=
  [.mark .closeBrace, .mark .closeParen, .mark .semicolon, .name "debugpy", .mark .dot, .name "listen",
    .mark .openParen,
    .mark .openParen]

/-- What a snippet is meant to say. -/
def meant (path : String) (address : Address) : List Statement :=
  [.load "debugpy", .call "debugpy" "configure" (.dict [(.text "python", .text path)]),
    .call "debugpy" "listen" (.tuple [.text address.host, .number address.port])]

/-- The tokens of a snippet begin alike. What follows is read from within the literal of its path. -/
theorem tokens?_snippet {config : Config} {path : String} (configured : config.python = some path) (address : Address) :
    Lexing.between.tokens? (Launch.snippet address config).toList =
      ((Lexing.raw []).tokens? (path.toList ++ '\'' :: ("\x7d);debugpy.listen(('".toList ++
        Launch.addressChars address))).map (frontTokens ++ ·) := by
  have before : "import debugpy;debugpy.configure(\x7b'python': r'".toList = "import debugpy;".toList ++
      ("debugpy.configure(".toList ++ ([Char.ofNat 123] ++ "'python': r'".toList)) := by decide +kernel
  have behind : '\'' :: "\x7d);debugpy.listen(('".toList =
      "'".toList ++ ([Char.ofNat 125] ++ (");".toList ++ "debugpy.listen(('".toList)) := by decide +kernel
  have shape : (Launch.snippet address config).toList =
      "import debugpy;debugpy.configure(\x7b'python': r'".toList ++ (path.toList ++ '\'' ::
        ("\x7d);debugpy.listen(('".toList ++ Launch.addressChars address)) := by
    rw [Launch.toList_snippet_configured configured, Launch.pathChars, before, ← List.cons_append, behind]
    simp only [List.append_assoc]
  have front : Lexing.between.run "import debugpy;debugpy.configure(\x7b'python': r'".toList =
      some (.raw [], frontTokens) := by decide +kernel
  rw [shape, tokens?_append front]

/-- Between path and host stands the end of one call and the beginning of the next. -/
theorem tokens?_middle (rest : List Char) : Lexing.between.tokens? ("\x7d);debugpy.listen(('".toList ++ rest) =
    ((Lexing.quoted []).tokens? rest).map (middleTokens ++ ·) := by
  have middle : Lexing.between.run "\x7d);debugpy.listen(('".toList = some (.quoted [], middleTokens) := by
    decide +kernel
  exact tokens?_append middle

/-- The tokens are the statements that are meant. -/
theorem statements_meant (path : String) (address : Address) :
    (pieces .semicolon (frontTokens ++ .text path :: (middleTokens ++ listenTokens address))).mapM statement? =
      some (meant path address) := by
  rfl

theorem exists_pieces (between : Mark) (ts : List Token) : ∃ piece others, pieces between ts = piece :: others := by
  cases ts with
  | nil => exact ⟨_, _, rfl⟩
  | cons t rest =>
      rw [pieces]
      split
      · exact ⟨_, _, rfl⟩
      · split <;> exact ⟨_, _, rfl⟩

theorem mapM_cons_eq_some_iff {α β : Type} {f : α → Option β} {x : α} {xs : List α} {y : β} {ys : List β} :
    (x :: xs).mapM f = some (y :: ys) ↔ f x = some y ∧ xs.mapM f = some ys := by
  rw [List.mapM_cons]
  cases f x <;> cases xs.mapM f <;> simp

/-- A dictionary holds the literals that are read. -/
theorem content_of_argument? {content path : String} {rest : List Token}
    (reads : argument? (.mark .openBrace :: .text "python" :: .mark .colon :: .text content :: rest) =
      some (.dict [(.text "python", .text path)])) : content = path := by
  simp only [argument?, before?, List.cons.injEq, reduceCtorEq, false_and, and_false, if_false, Option.bind_eq_some_iff,
    Option.map_eq_some_iff] at reads
  obtain ⟨-, ⟨-, ⟨-, ⟨body, -, rfl⟩, rfl⟩, rfl⟩, entries, read, same⟩ := reads
  obtain rfl := Argument.dict.inj same
  obtain ⟨piece, others, shape⟩ := exists_pieces .comma body
  simp only [pieces, shape, reduceCtorEq, if_false, Token.mark.injEq] at read
  have first := (mapM_cons_eq_some_iff.mp read).1
  cases piece with
  | nil => simpa [pair?, Token.literal?] using first
  | cons t piece => simp [pair?] at first

/-- Of a snippet that is read as it was meant, the literal read for the path is the path. -/
theorem content_of_statements {content path : String} {address : Address} {rest : List Token}
    (reads : (pieces .semicolon (frontTokens ++ .text content :: rest)).mapM statement? = some (meant path address)) :
    content = path := by
  obtain ⟨piece, others, shape⟩ := exists_pieces .semicolon rest
  simp only [frontTokens, List.cons_append, List.nil_append, pieces, shape, reduceCtorEq, if_false, Token.mark.injEq,
    if_true] at reads
  have second := (mapM_cons_eq_some_iff.mp (mapM_cons_eq_some_iff.mp reads).2).1
  simp only [statement?, Option.map_eq_some_iff, Statement.call.injEq] at second
  obtain ⟨argument, read, -, -, rfl⟩ := second
  exact content_of_argument? read

/-! ## Snippets -/

/-- For every path of a configuration, and every address whose host holds no quote or backslash, the interpreter reads
in a snippet what was meant, and nothing else, exactly if

* the path is on one line, as is the host;
* every quote in the path stands behind an odd number of backslashes;
* the path ends in an even number of backslashes, or none. -/
theorem read_snippet_iff {config : Config} {path : String} (configured : config.python = some path) {address : Address}
    (plain : ∀ c ∈ address.host.toList, c ≠ '\'' ∧ c ≠ '\\') :
    read (Launch.snippet address config) =
        some [.load "debugpy", .call "debugpy" "configure" (.dict [(.text "python", .text path)]),
          .call "debugpy" "listen" (.tuple [.text address.host, .number address.port])] ↔
      Quotable path.toList ∧ ∀ c ∈ address.host.toList, c ∉ lineBreaks := by
  change _ = some (meant path address) ↔ _
  rw [read, tokens?_snippet configured]
  constructor
  · intro reads
    simp only [Option.bind_eq_some_iff, Option.map_eq_some_iff] at reads
    obtain ⟨-, ⟨ts, inLiteral, rfl⟩, statements⟩ := reads
    obtain ⟨content, rest, more, shape, isOpen, closed, after, rfl⟩ := tokens?_raw inLiteral
    have same : content = path.toList := by
      rw [← content_of_statements statements, String.toList_ofList, List.nil_append]
    subst same
    obtain ⟨-, rfl⟩ := List.cons.inj (List.append_cancel_left shape)
    rw [tokens?_middle, Option.map_eq_some_iff] at after
    obtain ⟨host, onHost, -⟩ := after
    exact ⟨quotable_iff.mpr ⟨isOpen, closed⟩, ((tokens?_addressChars plain).mp onHost).1⟩
  · rintro ⟨quotable, oneLine⟩
    have host := (tokens?_addressChars plain).mpr ⟨oneLine, rfl⟩
    rw [quotable.tokens?, tokens?_middle, host, String.ofList_toList]
    exact statements_meant path address

/-- An apostrophe in a path ends the literal early. Backslashes do no harm. -/
theorem read_snippet_iff_apostrophe :
    read (Launch.snippet ⟨"127.0.0.1", 5678⟩ ⟨some "/home/o'brien/bin/python", []⟩) ≠
        some (meant "/home/o'brien/bin/python" ⟨"127.0.0.1", 5678⟩) ∧
      read (Launch.snippet ⟨"127.0.0.1", 5678⟩ ⟨some "C:\\env\\python.exe", []⟩) =
        some (meant "C:\\env\\python.exe" ⟨"127.0.0.1", 5678⟩) := by
  have plain : ∀ c ∈ "127.0.0.1".toList, c ≠ '\'' ∧ c ≠ '\\' := by simp
  constructor
  · intro reads
    have quotable :=
      ((@read_snippet_iff ⟨some "/home/o'brien/bin/python", []⟩ _ rfl ⟨"127.0.0.1", 5678⟩ plain).mp reads).1
    have odd := quotable.quotes "/home/o".toList "brien/bin/python".toList rfl
    revert odd
    decide
  · refine (@read_snippet_iff ⟨some "C:\\env\\python.exe", []⟩ _ rfl ⟨"127.0.0.1", 5678⟩ plain).mpr ⟨⟨?_, ?_, ?_⟩, ?_⟩
    · simp [lineBreaks]
    · intro before after shape
      have quote : '\'' ∈ "C:\\env\\python.exe".toList := shape ▸ List.mem_append_cons_self
      have unquoted : '\'' ∉ "C:\\env\\python.exe".toList := by decide
      exact absurd quote unquoted
    · decide
    · simp [lineBreaks]

/-- A path may bring code of its own, and take the rest of the snippet out of it. -/
example : read (Launch.snippet ⟨"127.0.0.1", 5678⟩ ⟨some "x'\x7d);debugpy.listen(('0.0.0.0',1))#", []⟩) =
    some [.load "debugpy", .call "debugpy" "configure" (.dict [(.text "python", .text "x")]),
      .call "debugpy" "listen" (.tuple [.text "0.0.0.0", .number 1])] := by
  decide +kernel

end DebugBridge.Code
