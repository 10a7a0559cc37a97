/-!
# Unsigned decimal numbers

Digits of a natural number: the printed form has no leading zero, the reader takes any number of
digits after an optional plus sign.
-/

namespace DebugBridge

/-- The value of a decimal digit. -/
def digitValue? (c : Char) : Option Nat :=
  if '0' ≤ c ∧ c ≤ '9' then some (c.toNat - '0'.toNat) else none

/-- The value of the hexadecimal digit with a code point. -/
def hexDigitValue? (n : Nat) : Option Nat :=
  if 48 ≤ n ∧ n ≤ 57 then some (n - 48)
  else if 65 ≤ n ∧ n ≤ 70 then some (n - 55)
  else if 97 ≤ n ∧ n ≤ 102 then some (n - 87)
  else none

/-- The decimal digit of a number below ten. -/
def digitChar (d : Nat) : Char :=
  Char.ofNat ('0'.toNat + d)

/-- The decimal digits of `n`, the leading one first, put before `tail`. -/
def digitsOnto (n : Nat) (tail : List Char) : List Char :=
  if n < 10 then digitChar n :: tail
  else digitsOnto (n / 10) (digitChar (n % 10) :: tail)

/-- The decimal form of a natural number. -/
def decimal (n : Nat) : List Char :=
  digitsOnto n []

/-- The decimal form of an integer. -/
def signedDecimal (n : Int) : List Char :=
  if n < 0 then '-' :: decimal n.natAbs else decimal n.natAbs

/-- The value of a row of digits continuing the number `n`. -/
def readDigits (n : Nat) : List Char → Option Nat
  | [] => some n
  | c :: rest =>
    match digitValue? c with
    | some d => readDigits (n * 10 + d) rest
    | none => none

/-- A text without a plus sign in front. -/
def dropPlus : List Char → List Char
  | '+' :: rest => rest
  | other => other

/-- Reads a number below `2 ^ width`: at least one digit, after at most one plus sign. -/
def readUnsigned (width : Nat) (cs : List Char) : Option Nat :=
  let digits := dropPlus cs
  if digits.isEmpty then none
  else (readDigits 0 digits).filter fun n => n < Nat.pow 2 width

theorem digitValue?_digitChar (d : Nat) (small : d < 10) : digitValue? (digitChar d) = some d := by
  match d, small with
  | 0, _ | 1, _ | 2, _ | 3, _ | 4, _ | 5, _ | 6, _ | 7, _ | 8, _ | 9, _ => rfl

/-- Reading the digits of a number gives the number. -/
theorem readDigits_digitsOnto (n : Nat) (tail : List Char) :
    readDigits 0 (digitsOnto n tail) = readDigits n tail := by
  fun_induction digitsOnto n tail with
  | case1 n tail small => simp [readDigits, digitValue?_digitChar n small]
  | case2 n tail _ ih =>
    have last : n % 10 < 10 := Nat.mod_lt n (by decide)
    have whole : n / 10 * 10 + n % 10 = n := Nat.div_add_mod' n 10
    rw [ih]
    simp [readDigits, digitValue?_digitChar _ last, whole]

theorem readDigits_decimal (n : Nat) : readDigits 0 (decimal n) = some n :=
  readDigits_digitsOnto n []

theorem decimal_inj {m n : Nat} (same : decimal m = decimal n) : m = n := by
  have value := readDigits_decimal m
  rw [same, readDigits_decimal] at value
  exact (Option.some.inj value).symm

/-- The decimal form of a number begins with a digit. -/
theorem digitsOnto_eq_cons (n : Nat) (tail : List Char) :
    ∃ d rest, d < 10 ∧ digitsOnto n tail = digitChar d :: rest := by
  fun_induction digitsOnto n tail with
  | case1 n tail small => exact ⟨n, tail, small, rfl⟩
  | case2 n tail _ ih => exact ih

/-- The decimal form of a number reads back, if the number fits the width. -/
theorem readUnsigned_decimal (width n : Nat) :
    readUnsigned width (decimal n) = if n < Nat.pow 2 width then some n else none := by
  obtain ⟨d, rest, small, form⟩ := digitsOnto_eq_cons n []
  have noSign : dropPlus (digitChar d :: rest) = digitChar d :: rest := by
    match d, small with
    | 0, _ | 1, _ | 2, _ | 3, _ | 4, _ | 5, _ | 6, _ | 7, _ | 8, _ | 9, _ => rfl
  have value : readDigits 0 (digitChar d :: rest) = some n := by
    rw [← form, readDigits_digitsOnto]
    rfl
  simp [readUnsigned, decimal, form, noSign, value, Option.filter]

end DebugBridge
