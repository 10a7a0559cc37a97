import DebugBridge.Json.Printer
import DebugBridge.Json.Reader
import DebugBridge.Proofs.Text.Utf8

/-!
# Reading written numbers

`readNumber_decimal` reads the decimal form of an integer of 64 bits back. For a number with a fraction or
an exponent `readNumber_render` says less: its text is read as a number of that kind or refused, and which
of both does not depend on what follows. A number ends where no digit, point or exponent follows.
-/

namespace DebugBridge

/-- The digits of a number by value, the leading one first. -/
def digitsOf (n : Nat) : List Nat :=
  if n < 10 then [n] else digitsOf (n / 10) ++ [n % 10]

/-- The number that digits continue. -/
def continued (n : Nat) (digits : List Nat) : Nat :=
  digits.foldl (fun n d => n * 10 + d) n

/-- The printer puts the digits of a number before what follows it. -/
theorem digitsOnto_eq (n : Nat) (tail : List Char) :
    digitsOnto n tail = (digitsOf n).map digitChar ++ tail := by
  fun_induction digitsOnto n tail with
  | case1 n tail small =>
      rw [digitsOf, if_pos small]
      rfl
  | case2 n tail large ih =>
      have split : digitsOf n = digitsOf (n / 10) ++ [n % 10] := by rw [digitsOf.eq_def n, if_neg large]
      rw [ih, split]
      simp

theorem decimal_eq (n : Nat) : decimal n = (digitsOf n).map digitChar := by
  simp [decimal, digitsOnto_eq]

theorem lt_of_mem_digitsOf {n d : Nat} (member : d ∈ digitsOf n) : d < 10 := by
  fun_induction digitsOf n with
  | case1 n small => simpa [List.mem_singleton.mp member] using small
  | case2 n large ih =>
      rcases List.mem_append.mp member with front | last
      · exact ih front
      · rw [List.mem_singleton.mp last]
        exact Nat.mod_lt n (by decide)

/-- What holds of the ten digits holds of all characters of a decimal form. -/
theorem forall_mem_decimal {P : Char → Prop} (digits : ∀ d < 10, P (digitChar d)) (n : Nat) :
    ∀ c ∈ decimal n, P c := by
  rw [decimal_eq]
  exact List.forall_mem_map.mpr fun d member => digits d (lt_of_mem_digitsOf member)

/-- Reading the digits of a number back gives the number. -/
theorem continued_digitsOf (n : Nat) : continued 0 (digitsOf n) = n := by
  fun_induction digitsOf n with
  | case1 n small => simp [continued]
  | case2 n large ih =>
      have whole : n / 10 * 10 + n % 10 = n := Nat.div_add_mod' n 10
      simp only [continued] at ih
      simp [continued, ih, whole]

/-- Only zero itself has a zero in front. -/
theorem digitsOf_eq_cons (n : Nat) :
    ∃ d rest, digitsOf n = d :: rest ∧ (d = 0 → rest = []) := by
  fun_induction digitsOf n with
  | case1 n small => exact ⟨n, [], rfl, fun _ => rfl⟩
  | case2 n large ih =>
      obtain ⟨d, rest, shape, zero⟩ := ih
      refine ⟨d, rest ++ [n % 10], by rw [shape]; rfl, fun isZero => ?_⟩
      -- A number above nine has a leading part above zero.
      have front : digitsOf (n / 10) = [0] := by rw [shape, isZero, zero isZero]
      have value := continued_digitsOf (n / 10)
      rw [front] at value
      simp only [continued, List.foldl_cons, List.foldl_nil] at value
      omega

namespace Json

/-- The byte of a decimal digit. -/
def digitByte (d : Nat) : UInt8 := (48 + d).toUInt8

theorem toNat_digitByte {d : Nat} (small : d < 10) : (digitByte d).toNat = 48 + d :=
  Utf8.toNat_toUInt8 (by omega)

theorem encodeChar_digitChar {d : Nat} (small : d < 10) : Utf8.encodeChar (digitChar d) = [digitByte d] := by
  match d, small with
  | 0, _ | 1, _ | 2, _ | 3, _ | 4, _ | 5, _ | 6, _ | 7, _ | 8, _ | 9, _ => rfl

/-- A digit is one byte. -/
theorem encodeChars_digits {digits : List Nat} (small : ∀ d ∈ digits, d < 10) :
    Utf8.encodeChars (digits.map digitChar) = digits.map digitByte := by
  induction digits with
  | nil => rfl
  | cons d rest ih =>
      have front := encodeChar_digitChar (small d List.mem_cons_self)
      have others := ih fun e member => small e (List.mem_cons_of_mem d member)
      simp [front, others]

theorem isDigit_digitByte {d : Nat} (small : d < 10) : isDigit (digitByte d) = true := by
  have code := toNat_digitByte small
  simp only [isDigit, code, Bool.and_eq_true, decide_eq_true_eq]
  omega

/-- No digit stands in front. -/
def NoDigit (rest : Bytes) : Prop :=
  ∀ b after, rest = b :: after → isDigit b = false

/-- Nothing in front continues a number. -/
def EndsNumber (rest : Bytes) : Prop :=
  ∀ b after, rest = b :: after → isDigit b = false ∧ b ≠ 46 ∧ b ≠ 101 ∧ b ≠ 69

theorem EndsNumber.nil : EndsNumber [] :=
  nofun

theorem EndsNumber.noDigit {rest : Bytes} (ends : EndsNumber rest) : NoDigit rest :=
  fun b after shape => (ends b after shape).1

/-- Digits are read up to the first byte that is none. -/
theorem splitDigits_append {digits : List Nat} {rest : Bytes} (small : ∀ d ∈ digits, d < 10)
    (ends : NoDigit rest) : splitDigits (digits.map digitByte ++ rest) = (digits, rest) := by
  have allDigits : ∀ b ∈ digits.map digitByte, isDigit b = true := by
    intro b member
    obtain ⟨d, inDigits, rfl⟩ := List.mem_map.mp member
    exact isDigit_digitByte (small d inDigits)
  have stops : rest.takeWhile isDigit = [] ∧ rest.dropWhile isDigit = rest := by
    cases rest with
    | nil => exact ⟨rfl, rfl⟩
    | cons b after => simp [ends b after rfl]
  have values : (digits.map digitByte).map (fun b => b.toNat - 48) = digits := by
    rw [List.map_map]
    calc digits.map ((fun b => b.toNat - 48) ∘ digitByte) = digits.map id :=
          List.map_congr_left fun d member => by simp [toNat_digitByte (small d member)]
      _ = digits := List.map_id digits
  simp [splitDigits, List.takeWhile_append_of_pos allDigits, List.dropWhile_append_of_pos allDigits,
    stops.1, stops.2, values]

/-- More digits never make a number smaller. -/
theorem le_continued (n : Nat) (digits : List Nat) : n ≤ continued n digits := by
  induction digits generalizing n with
  | nil => exact Nat.le_refl n
  | cons d rest ih =>
      have next := ih (n * 10 + d)
      simp only [continued, List.foldl_cons] at next ⊢
      omega

/-- Digits whose number fits 64 bits all enter the significand. -/
theorem absorb_eq {n : Nat} {digits : List Nat} (fits : continued n digits < 2 ^ 64) :
    absorb n digits = (continued n digits, 0) := by
  induction digits generalizing n with
  | nil => rfl
  | cons d rest ih =>
      have front : n * 10 + d < 18446744073709551616 := Nat.lt_of_le_of_lt (le_continued _ rest) fits
      rw [absorb, if_pos front, ih fits]
      rfl

/-- The digits in front of a number, unless they are refused for a zero in front. -/
theorem readNumber_digits (negative : Bool) {d : Nat} {digits : List Nat} {rest : Bytes}
    (small : ∀ e ∈ d :: digits, e < 10) (noZero : d = 0 → digits = []) (ends : EndsNumber rest)
    (fits : continued 0 (d :: digits) < 2 ^ 64) :
    readNumber negative ((d :: digits).map digitByte ++ rest) =
      .ok (integer negative (continued 0 (d :: digits)), rest) := by
  have first := isDigit_digitByte (small d List.mem_cons_self)
  have split := splitDigits_append small ends.noDigit
  have noLeadingZero : ¬ (digitByte d = 48 ∧ 1 < (d :: digits).length) := by
    rintro ⟨isZero, more⟩
    have code := toNat_digitByte (small d List.mem_cons_self)
    have zero : d = 0 := by
      rw [isZero] at code
      have value : (48 : UInt8).toNat = 48 := rfl
      omega
    simp [noZero zero] at more
  rw [List.map_cons, List.cons_append] at split ⊢
  simp only [readNumber, first, if_true, split, if_neg noLeadingZero, absorb_eq fits]
  cases rest with
  | nil => rfl
  | cons b after =>
      obtain ⟨-, noPoint, noExponent, noCapital⟩ := ends b after rfl
      split <;> simp_all

/-- The decimal form of a number of 64 bits is read as that number. -/
theorem readNumber_decimal (negative : Bool) {n : Nat} {rest : Bytes} (fits : n < 2 ^ 64)
    (ends : EndsNumber rest) :
    readNumber negative (Utf8.encodeChars (decimal n) ++ rest) = .ok (integer negative n, rest) := by
  obtain ⟨d, digits, shape, noZero⟩ := digitsOf_eq_cons n
  have small : ∀ e ∈ d :: digits, e < 10 := fun e member => lt_of_mem_digitsOf (shape ▸ member)
  have value : continued 0 (d :: digits) = n := shape ▸ continued_digitsOf n
  rw [decimal_eq, shape, encodeChars_digits small,
    readNumber_digits negative small noZero ends (value.symm ▸ fits), value]

/-! ## Numbers with a fraction or an exponent -/

/-- A reading that takes all of a text, to a number with a fraction or an exponent or to an error, and
leaves what follows. -/
def ReadsFloat (read : Bytes → Reading Json) (text : Bytes) : Prop :=
  ∃ outcome : Except ReadError UInt64, ∀ rest, EndsNumber rest →
    read (text ++ rest) = outcome.map fun bits => (.float bits, rest)

/-- What is scaled is a float or no number at all, never an integer. -/
theorem scaled_eq (negative : Bool) (significand : Nat) (e : Int) :
    ∃ outcome : Except ReadError UInt64, scaled negative significand e = outcome.map .float := by
  unfold scaled
  split
  · next f _ => exact ⟨.ok _, rfl⟩
  · exact ⟨.error .illFormed, rfl⟩

/-- An exponent's digits take the number to its end. -/
theorem readsFloat_exponentDigits (negative : Bool) (significand : Nat) (e : Int) (down : Bool) {d : Nat}
    {digits : List Nat} (small : ∀ x ∈ d :: digits, x < 10) :
    ReadsFloat (readExponentDigits negative significand e down) ((d :: digits).map digitByte) := by
  have first := isDigit_digitByte (small d List.mem_cons_self)
  have split (rest : Bytes) (ends : EndsNumber rest) := splitDigits_append small ends.noDigit
  simp only [List.map_cons, List.cons_append] at split
  have opened (rest : Bytes) (ends : EndsNumber rest) :
      readExponentDigits negative significand e down ((d :: digits).map digitByte ++ rest) =
        if 2147483648 ≤ (d :: digits).foldl (fun n d => n * 10 + d) 0 then
          if significand = 0 ∨ down then .ok (zero negative, rest) else .error .illFormed
        else (scaled negative significand
          (if down then e - ((d :: digits).foldl (fun n d => n * 10 + d) 0 : Nat)
            else e + ((d :: digits).foldl (fun n d => n * 10 + d) 0 : Nat))).map fun v => (v, rest) := by
    simp only [List.map_cons, List.cons_append, readExponentDigits, first, if_true, split rest ends]
  by_cases huge : 2147483648 ≤ (d :: digits).foldl (fun n d => n * 10 + d) 0
  · by_cases vanishes : significand = 0 ∨ down = true
    · refine ⟨.ok (if negative then -(0 : Float) else 0).toBits, fun rest ends => ?_⟩
      rw [opened rest ends, if_pos huge, if_pos vanishes]
      rfl
    · refine ⟨.error .illFormed, fun rest ends => ?_⟩
      rw [opened rest ends, if_pos huge, if_neg vanishes]
      rfl
  · obtain ⟨outcome, value⟩ := scaled_eq negative significand
      (if down then e - ((d :: digits).foldl (fun n d => n * 10 + d) 0 : Nat)
        else e + ((d :: digits).foldl (fun n d => n * 10 + d) 0 : Nat))
    refine ⟨outcome, fun rest ends => ?_⟩
    rw [opened rest ends, if_neg huge, value]
    cases outcome <;> rfl

/-- A number without an exponent ends here. -/
theorem readsFloat_noExponent (negative : Bool) (significand : Nat) (e : Int) :
    ReadsFloat (readExponent negative significand e) [] := by
  obtain ⟨outcome, value⟩ := scaled_eq negative significand e
  refine ⟨outcome, fun rest ends => ?_⟩
  cases rest with
  | nil =>
      simp only [List.append_nil, readExponent, value]
      cases outcome <;> rfl
  | cons b after =>
      obtain ⟨-, -, noExponent, noCapital⟩ := ends b after rfl
      have stays : ¬ (b = 101 ∨ b = 69) := by simp [noExponent, noCapital]
      simp only [List.nil_append, readExponent, if_neg stays, value]
      cases outcome <;> rfl

/-- An exponent is written with its sign. -/
theorem readsFloat_exponent (negative : Bool) (significand : Nat) (e : Int) {sign : UInt8} {d : Nat}
    {digits : List Nat} (signed : sign = 43 ∨ sign = 45) (small : ∀ x ∈ d :: digits, x < 10) :
    ReadsFloat (readExponent negative significand e) (101 :: sign :: (d :: digits).map digitByte) := by
  rcases signed with rfl | rfl
  · obtain ⟨outcome, reads⟩ := readsFloat_exponentDigits negative significand e false small
    exact ⟨outcome, fun rest ends => by simpa [readExponent] using reads rest ends⟩
  · obtain ⟨outcome, reads⟩ := readsFloat_exponentDigits negative significand e true small
    exact ⟨outcome, fun rest ends => by simpa [readExponent] using reads rest ends⟩

/-- Digits after the whole ones: an exponent, if there is one. -/
def ExponentText (text : Bytes) : Prop :=
  text = [] ∨ ∃ sign d digits, text = 101 :: sign :: (d :: digits).map digitByte ∧
    (sign = 43 ∨ sign = 45) ∧ ∀ x ∈ d :: digits, x < 10

theorem ExponentText.noDigit {text rest : Bytes} (shape : ExponentText text) (ends : EndsNumber rest) :
    NoDigit (text ++ rest) := by
  rcases shape with rfl | ⟨sign, d, digits, rfl, -, -⟩
  · exact ends.noDigit
  · intro b after front
    cases front
    rfl

/-- An exponent makes a float of any number before it. -/
theorem ExponentText.readsFloat {text : Bytes} (shape : ExponentText text) (negative : Bool)
    (significand : Nat) (e : Int) : ReadsFloat (readExponent negative significand e) text := by
  rcases shape with rfl | ⟨sign, d, digits, rfl, signed, small⟩
  · exact readsFloat_noExponent negative significand e
  · exact readsFloat_exponent negative significand e signed small

section

variable (negative : Bool) {d : Nat} {digits : List Nat}

/-- More than one whole digit with a zero in front is refused at once. -/
theorem readNumber_refused {tail : Bytes} (small : ∀ x ∈ d :: digits, x < 10) (ends : NoDigit tail)
    (refused : digitByte d = 48 ∧ 1 < (d :: digits).length) :
    readNumber negative ((d :: digits).map digitByte ++ tail) = .error .illFormed := by
  have first := isDigit_digitByte (small d List.mem_cons_self)
  have split := splitDigits_append small ends
  rw [List.map_cons, List.cons_append] at split ⊢
  simp only [readNumber, first, if_true, split, if_pos refused]

/-- After a point the digits of a fraction are read, and then the exponent, if there is one. -/
theorem readNumber_point {c : Nat} {fraction : List Nat} (small : ∀ x ∈ d :: digits, x < 10)
    (smallFraction : ∀ x ∈ c :: fraction, x < 10)
    (accepted : ¬ (digitByte d = 48 ∧ 1 < (d :: digits).length)) :
    ∃ significand e, ∀ after, NoDigit after →
      readNumber negative
          ((d :: digits).map digitByte ++ 46 :: ((c :: fraction).map digitByte ++ after)) =
        readExponent negative significand e after := by
  have first := isDigit_digitByte (small d List.mem_cons_self)
  have second := isDigit_digitByte (smallFraction c List.mem_cons_self)
  let whole := absorb 0 (d :: digits)
  let read := absorb whole.1 (c :: fraction)
  refine ⟨read.1, (whole.2 : Int) - (((c :: fraction).length : Int) - read.2), fun after ends => ?_⟩
  have pointEnds : NoDigit (46 :: ((c :: fraction).map digitByte ++ after)) := by
    intro b rest front
    cases front
    rfl
  have split := splitDigits_append small pointEnds
  have splitFraction := splitDigits_append smallFraction ends
  simp only [List.map_cons, List.cons_append] at split splitFraction ⊢
  simp only [readNumber, first, second, if_true, split, splitFraction, if_neg accepted]
  rfl

/-- An exponent may follow the digits of the number at once. -/
theorem readNumber_exponent (small : ∀ x ∈ d :: digits, x < 10)
    (accepted : ¬ (digitByte d = 48 ∧ 1 < (d :: digits).length)) :
    ∃ significand e, ∀ after, readNumber negative ((d :: digits).map digitByte ++ 101 :: after) =
      readExponent negative significand e (101 :: after) := by
  have first := isDigit_digitByte (small d List.mem_cons_self)
  refine ⟨(absorb 0 (d :: digits)).1, (absorb 0 (d :: digits)).2, fun after => ?_⟩
  have exponentEnds : NoDigit (101 :: after) := by
    intro b rest front
    cases front
    rfl
  have split := splitDigits_append small exponentEnds
  simp only [List.map_cons, List.cons_append] at split ⊢
  simp only [readNumber, first, if_true, split, if_neg accepted]

/-- The text of a number with a fraction or an exponent, after its sign. -/
inductive FloatText : Bytes → Prop where
  | point {d : Nat} {digits : List Nat} {c : Nat} {fraction : List Nat} {exponent : Bytes}
      (small : ∀ x ∈ d :: digits, x < 10) (smallFraction : ∀ x ∈ c :: fraction, x < 10)
      (last : ExponentText exponent) :
      FloatText ((d :: digits).map digitByte ++ 46 :: ((c :: fraction).map digitByte ++ exponent))
  | whole {d : Nat} {digits : List Nat} {sign : UInt8} {c : Nat} {exponent : List Nat}
      (small : ∀ x ∈ d :: digits, x < 10) (signed : sign = 43 ∨ sign = 45)
      (smallExponent : ∀ x ∈ c :: exponent, x < 10) :
      FloatText ((d :: digits).map digitByte ++ 101 :: sign :: (c :: exponent).map digitByte)

/-- A text with a point or an exponent is read as a float. -/
theorem FloatText.readsFloat {text : Bytes} (shape : FloatText text) (negative : Bool) :
    ReadsFloat (readNumber negative) text := by
  cases shape with
  | @point d digits c fraction exponent small smallFraction last =>
      by_cases refused : digitByte d = 48 ∧ 1 < (d :: digits).length
      · refine ⟨.error .illFormed, fun rest ends => ?_⟩
        rw [List.append_assoc]
        refine readNumber_refused negative small ?_ refused
        intro b after front
        cases front
        rfl
      · obtain ⟨significand, e, opened⟩ := readNumber_point negative small smallFraction refused
        obtain ⟨outcome, reads⟩ := last.readsFloat negative significand e
        refine ⟨outcome, fun rest ends => ?_⟩
        rw [← reads rest ends, ← opened _ (last.noDigit ends)]
        simp
  | @whole d digits sign c exponent small signed smallExponent =>
      by_cases refused : digitByte d = 48 ∧ 1 < (d :: digits).length
      · refine ⟨.error .illFormed, fun rest ends => ?_⟩
        rw [List.append_assoc]
        refine readNumber_refused negative small ?_ refused
        intro b after front
        cases front
        rfl
      · obtain ⟨significand, e, opened⟩ := readNumber_exponent negative small refused
        obtain ⟨outcome, reads⟩ := readsFloat_exponent negative significand e signed smallExponent
        refine ⟨outcome, fun rest ends => ?_⟩
        rw [← reads rest ends]
        simpa using opened (sign :: ((c :: exponent).map digitByte ++ rest))

end

/-! ## What is written -/

/-- Characters that are decimal digits, at least one. -/
def IsDigits (cs : List Char) : Prop :=
  ∃ d digits, (∀ x ∈ d :: digits, x < 10) ∧ cs = (d :: digits).map digitChar

theorem isDigits_decimal (n : Nat) : IsDigits (decimal n) := by
  obtain ⟨d, digits, shape, -⟩ := digitsOf_eq_cons n
  exact ⟨d, digits, fun x member => lt_of_mem_digitsOf (shape ▸ member), by rw [decimal_eq, shape]⟩

theorem isDigits_iff {cs : List Char} :
    IsDigits cs ↔ cs ≠ [] ∧ ∀ c ∈ cs, ∃ d, d < 10 ∧ c = digitChar d := by
  constructor
  · rintro ⟨d, digits, small, rfl⟩
    refine ⟨by simp, fun c member => ?_⟩
    obtain ⟨x, inDigits, rfl⟩ := List.mem_map.mp member
    exact ⟨x, small x inDigits, rfl⟩
  · rintro ⟨nonempty, all⟩
    have values : ∃ digits : List Nat, (∀ x ∈ digits, x < 10) ∧ cs = digits.map digitChar := by
      clear nonempty
      induction cs with
      | nil => exact ⟨[], by simp, rfl⟩
      | cons c rest ih =>
          obtain ⟨d, small, rfl⟩ := all c List.mem_cons_self
          obtain ⟨digits, others, rfl⟩ := ih fun e member => all e (List.mem_cons_of_mem _ member)
          exact ⟨d :: digits, by simpa [small] using others, rfl⟩
    obtain ⟨digits, small, rfl⟩ := values
    cases digits with
    | nil => exact absurd rfl nonempty
    | cons d digits => exact ⟨d, digits, small, rfl⟩

theorem IsDigits.append {front back : List Char} (left : IsDigits front)
    (right : ∀ c ∈ back, ∃ d, d < 10 ∧ c = digitChar d) : IsDigits (front ++ back) := by
  obtain ⟨nonempty, all⟩ := isDigits_iff.mp left
  refine isDigits_iff.mpr ⟨by simp [nonempty], fun c member => ?_⟩
  rcases List.mem_append.mp member with inFront | inBack
  · exact all c inFront
  · exact right c inBack

theorem zeros_isDigit {n : Nat} : ∀ c ∈ List.replicate n '0', ∃ d, d < 10 ∧ c = digitChar d :=
  fun _ member => ⟨0, by decide, (List.mem_replicate.mp member).2⟩

/-- Characters whose bytes are a number with a fraction or an exponent. -/
theorem floatText_of_point {whole fraction : List Char} (left : IsDigits whole) (right : IsDigits fraction) :
    FloatText (Utf8.encodeChars (whole ++ '.' :: fraction)) := by
  obtain ⟨d, digits, small, rfl⟩ := left
  obtain ⟨c, others, smallFraction, rfl⟩ := right
  have point : Utf8.encodeChar '.' = [46] := rfl
  have shape := FloatText.point small smallFraction (.inl rfl : ExponentText [])
  rw [Utf8.encodeChars_append, Utf8.encodeChars_cons, encodeChars_digits small,
    encodeChars_digits smallFraction, point]
  simpa using shape

/-- A float that is printed with a point is read as a float. -/
theorem floatText_positional {digits : List Char} (lead : Int) (isDigits : IsDigits digits) :
    FloatText (Utf8.encodeChars (Decimal.positional digits lead)) := by
  obtain ⟨nonempty, all⟩ := isDigits_iff.mp isDigits
  have zero : IsDigits ['0'] := ⟨0, [], by simp, rfl⟩
  unfold Decimal.positional
  split
  · have fraction : IsDigits (List.replicate (-lead - 1).toNat '0' ++ digits) := by
      refine isDigits_iff.mpr ⟨by simp [nonempty], fun c member => ?_⟩
      rcases List.mem_append.mp member with inZeros | inDigits
      · exact zeros_isDigit c inZeros
      · exact all c inDigits
    exact floatText_of_point zero fraction
  · dsimp only
    split
    · exact floatText_of_point (isDigits.append zeros_isDigit) zero
    · next long =>
      have whole : IsDigits (digits.take (lead.toNat + 1)) := by
        refine isDigits_iff.mpr ⟨?_, fun c member => all c (List.mem_of_mem_take member)⟩
        cases digits with
        | nil => exact absurd rfl nonempty
        | cons c rest => simp
      have fraction : IsDigits (digits.drop (lead.toNat + 1)) := by
        refine isDigits_iff.mpr ⟨?_, fun c member => all c (List.mem_of_mem_drop member)⟩
        intro empty
        exact long (List.drop_eq_nil_iff.mp empty)
      exact floatText_of_point whole fraction

/-- A float that is printed with an exponent is read as a float. -/
theorem floatText_scientific {digits : List Char} (lead : Int) (isDigits : IsDigits digits) :
    FloatText (Utf8.encodeChars (Decimal.scientific numbers digits lead)) := by
  obtain ⟨d, rest, small, rfl⟩ := isDigits
  obtain ⟨c, exponent, smallExponent, written⟩ := isDigits_decimal lead.natAbs
  -- `numbers` writes a sign in front of every exponent.
  have signed : ∃ sign : Char, (if lead < 0 then ['-'] else if numbers.plusSign then ['+'] else []) = [sign] ∧
      ∃ byte : UInt8, Utf8.encodeChar sign = [byte] ∧ (byte = 43 ∨ byte = 45) := by
    by_cases below : lead < 0
    · exact ⟨'-', by simp [below], 45, rfl, .inr rfl⟩
    · exact ⟨'+', by simp [below, numbers], 43, rfl, .inl rfl⟩
  obtain ⟨sign, signText, byte, signByte, signCases⟩ := signed
  have letter : Utf8.encodeChar 'e' = [101] := rfl
  have point : Utf8.encodeChar '.' = [46] := rfl
  cases rest with
  | nil =>
      have front := encodeChar_digitChar (small d List.mem_cons_self)
      have shape := FloatText.whole small signCases smallExponent
      simp only [Decimal.scientific, List.map_cons, List.map_nil, signText, written,
        Utf8.encodeChars_append, Utf8.encodeChars_cons, Utf8.encodeChars_nil, front, letter, signByte]
      have exponentBytes := encodeChars_digits smallExponent
      rw [List.map_cons, Utf8.encodeChars_cons] at exponentBytes
      rw [exponentBytes]
      simpa using shape
  | cons second others =>
      have front := encodeChar_digitChar (small d List.mem_cons_self)
      have smallFirst : ∀ x ∈ [d], x < 10 := by simpa using small d List.mem_cons_self
      have smallOthers : ∀ x ∈ second :: others, x < 10 :=
        fun x member => small x (List.mem_cons_of_mem d member)
      have shape := FloatText.point smallFirst smallOthers
        (.inr ⟨byte, c, exponent, rfl, signCases, smallExponent⟩ : ExponentText _)
      have fractionBytes := encodeChars_digits smallOthers
      have exponentBytes := encodeChars_digits smallExponent
      rw [List.map_cons, Utf8.encodeChars_cons] at exponentBytes fractionBytes
      simp only [Decimal.scientific, List.map_cons, signText, written, Utf8.encodeChars_append,
        Utf8.encodeChars_cons, Utf8.encodeChars_nil, front, letter, point, signByte]
      rw [exponentBytes]
      simpa [← fractionBytes] using shape

/-- A number with a fraction or an exponent is written as a text of that kind, after its sign. -/
theorem floatText_render (bits : UInt64) :
    ∃ text, FloatText text ∧ Utf8.encodeChars (Decimal.render numbers bits) =
      (if Decimal.isNegative bits then [45] else []) ++ text := by
  have sign : Utf8.encodeChars (if Decimal.isNegative bits then ['-'] else []) =
      if Decimal.isNegative bits then [45] else [] := by
    split <;> rfl
  simp only [Decimal.render]
  split
  · refine ⟨_, ?_, by rw [Utf8.encodeChars_append, sign]⟩
    have zero : IsDigits ['0'] := ⟨0, [], by simp, rfl⟩
    exact floatText_of_point zero zero
  · split
    · refine ⟨_, ?_, by rw [Utf8.encodeChars_append, sign]⟩
      exact floatText_positional _ (isDigits_decimal _)
    · refine ⟨_, ?_, by rw [Utf8.encodeChars_append, sign]⟩
      exact floatText_scientific _ (isDigits_decimal _)

end Json
end DebugBridge
