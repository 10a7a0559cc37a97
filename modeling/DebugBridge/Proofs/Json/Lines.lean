import DebugBridge.Proofs.Json.Numbers
import DebugBridge.Proofs.Json.Strings

/-!
# Values on one line

The compact text of a value has no control characters: within strings they are escaped, and there are none elsewhere. So
the text of any value stays on one line, whatever its strings hold.
-/

namespace DebugBridge

/-- A text without control characters. -/
def Printable (cs : List Char) : Prop :=
  ∀ c ∈ cs, 32 ≤ c.toNat

section Printable

variable {c : Char} {front back cs : List Char}

theorem Printable.nil : Printable [] :=
  fun _ member => absurd member List.not_mem_nil

theorem Printable.cons (first : 32 ≤ c.toNat) (rest : Printable cs) : Printable (c :: cs) :=
  List.forall_mem_cons.mpr ⟨first, rest⟩

/-- Printable texts can be joined. -/
theorem Printable.append (left : Printable front) (right : Printable back) : Printable (front ++ back) :=
  List.forall_mem_append.mpr ⟨left, right⟩

theorem Printable.sublist (whole : Printable cs) (sub : front.Sublist cs) : Printable front :=
  fun c member => whole c (sub.subset member)

/-- A printable text is one line. -/
theorem Printable.lineFeed_not_mem (printable : Printable cs) : '\n' ∉ cs :=
  fun member => absurd (printable '\n' member) (by decide)

end Printable

instance (cs : List Char) : Decidable (Printable cs) :=
  List.decidableBAll (fun c : Char => 32 ≤ c.toNat) cs

/-! ## Numbers -/

theorem printable_decimal (n : Nat) : Printable (decimal n) :=
  forall_mem_decimal (by decide) n

theorem printable_signedDecimal (n : Int) : Printable (signedDecimal n) := by
  rw [signedDecimal]
  split
  · exact .cons (by decide) (printable_decimal _)
  · exact printable_decimal _

namespace Decimal

variable {digits : List Char} (isPrintable : Printable digits) (lead : Int)

theorem printable_zeros (n : Nat) : Printable (List.replicate n '0') := by
  intro c member
  rw [List.eq_of_mem_replicate member]
  decide

include isPrintable

/-- A float that is printed with a point is printable. -/
theorem printable_positional : Printable (positional digits lead) := by
  rw [positional]
  split
  · exact .cons (by decide) (.cons (by decide) ((printable_zeros _).append isPrintable))
  · simp only
    split
    · exact (isPrintable.append (printable_zeros _)).append (by decide)
    · exact (isPrintable.sublist (List.take_sublist _ _)).append
        (.cons (by decide) (isPrintable.sublist (List.drop_sublist _ _)))

/-- So is one that is printed with an exponent. -/
theorem printable_scientific (layout : Layout) : Printable (scientific layout digits lead) := by
  have sign : Printable (if lead < 0 then ['-'] else if layout.plusSign then ['+'] else []) := by
    split
    · decide
    · split <;> decide
  have exponent := Printable.cons (c := 'e') (by decide) (sign.append (printable_decimal lead.natAbs))
  rw [scientific.eq_def]
  match digits with
  | [] | [_] => exact isPrintable.append exponent
  | first :: second :: rest =>
      obtain ⟨here, others⟩ := List.forall_mem_cons.mp isPrintable
      exact (Printable.cons here (.cons (c := '.') (by decide) others)).append exponent

omit isPrintable

/-- So is every float. -/
theorem printable_render (layout : Layout) (bits : UInt64) : Printable (render layout bits) := by
  have sign : Printable (if isNegative bits then ['-'] else []) := by
    split <;> decide
  rw [render]
  simp only
  split
  · exact sign.append (by decide)
  · split
    · exact sign.append (printable_positional (printable_decimal _) _)
    · exact sign.append (printable_scientific (printable_decimal _) _ _)

end Decimal

namespace Json

/-! ## Strings -/

theorem printable_hexDigit : ∀ n < 16, 32 ≤ (hexDigit n).toNat := by
  decide

/-- No escape is made with a control character. -/
theorem printable_of_escaped {letter : Char} {b : UInt8}
    (stands : escaped? letter.toNat.toUInt8 = some b) : 32 ≤ letter.toNat := by
  have none : ∀ n < 32, escaped? n.toUInt8 = none := by decide
  by_contra control
  rw [none letter.toNat (Nat.lt_of_not_le control)] at stands
  cases stands

/-- A control character is written by others, and no other character is one. -/
theorem printable_escape (c : Char) : Printable (escape c) := by
  rcases escape_cases c with ⟨asIs, -, -, printable⟩ | ⟨letter, byLetter, -, -, stands⟩ | ⟨byCode, control⟩
  · rw [asIs]
    exact .cons printable .nil
  · rw [byLetter]
    exact .cons (by decide) (.cons (printable_of_escaped stands) .nil)
  · have mark : Printable ['\\', 'u', '0', '0'] := by decide
    have upper := printable_hexDigit (c.toNat / 16) (by omega)
    have lower := printable_hexDigit (c.toNat % 16) (by omega)
    rw [byCode]
    exact mark.append (.cons upper (.cons lower .nil))

/-- A quoted text is printable, as control characters are escaped. -/
theorem printable_quote (s : String) : Printable (quote s) := by
  have inner : Printable (s.toList.flatMap escape) := by
    intro d member
    obtain ⟨c, -, written⟩ := List.mem_flatMap.mp member
    exact printable_escape c d written
  exact .cons (by decide) (inner.append (by decide))

/-! ## Values -/

mutual

/-- The compact text of a value has no control characters. -/
theorem printable_chars (v : Json) : Printable v.chars := by
  match v with
  | .null | .bool true | .bool false => decide
  | .int n => exact printable_signedDecimal n
  | .float bits => exact Decimal.printable_render numbers bits
  | .str s => exact printable_quote s
  | .arr items => exact .cons (by decide) (printable_charsItems items)
  | .obj members => exact .cons (by decide) (printable_charsMembers members)

theorem printable_charsItems (items : List Json) : Printable (charsItems items) := by
  match items with
  | [] => decide
  | [v] => exact (printable_chars v).append (by decide)
  | v :: w :: rest => exact (printable_chars v).append (.cons (by decide) (printable_charsItems (w :: rest)))

theorem printable_charsMembers (members : List (String × Json)) : Printable (charsMembers members) := by
  match members with
  | [] => decide
  | [(k, v)] => exact (printable_quote k).append (.cons (by decide) ((printable_chars v).append (by decide)))
  | (k, v) :: m :: rest =>
      exact (printable_quote k).append
        (.cons (by decide) ((printable_chars v).append (.cons (by decide) (printable_charsMembers (m :: rest)))))

end

/-- The text of a value stays on one line. -/
theorem lineFeed_not_mem_encode (v : Json) : 10 ∉ encode v :=
  Utf8.lineFeed_not_mem_encodeChars (printable_chars v).lineFeed_not_mem

end Json
end DebugBridge
