import DebugBridge.Proofs.Json.Numbers
import DebugBridge.Launch.Start

/-!
# What a snippet names

The code that makes the adapter listen holds the host, and the path of the interpreter if one is configured, between
quotes. It names an address if both stand for themselves there. `names_snippet_iff` says that it can name no other
address than the one it was made for, and that one exactly if no quote, backslash or line break is in the way.
-/

namespace DebugBridge.Launch

/-- The quote around a text in a snippet. -/
def quoteMark : Char := Char.ofNat 39

/-- What a text between quotes must not hold to stand for itself. -/
def marks : List Char := [quoteMark, Char.ofNat 92, '\n', '\r']

/-- The texts in a snippet stand for themselves: the host between quotes, the path between the quotes of a text without
escapes. -/
structure Legible (address : Address) (config : Config) : Prop where
  host : ∀ c ∈ address.host.toList, c ∉ marks
  path : ∀ path ∈ config.python, quoteMark ∉ path.toList

/-- The code makes the adapter listen at an address. -/
def Names (code : String) (address : Address) : Prop :=
  ∃ config, code = snippet address config ∧ Legible address config

theorem Legible.quoteMark_not_mem {address : Address} {config : Config} (legible : Legible address config) :
    quoteMark ∉ address.host.toList :=
  fun member => legible.host _ member (by decide)

/-! ## The snippet's characters -/

/-- What follows the first quote of the address. -/
def addressChars (address : Address) : List Char :=
  address.host.toList ++ ("',".toList ++ (decimal address.port ++ "))".toList))

/-- What follows the first quote of the path. -/
def pathChars (path : String) (address : Address) : List Char :=
  path.toList ++ ("'".toList ++ ([Char.ofNat 125] ++ (");".toList ++ ("debugpy.listen(('".toList ++
    addressChars address))))

/-- Without a path the snippet imports and listens. -/
theorem toList_snippet_plain {config : Config} (absent : config.python = none) (address : Address) :
    (snippet address config).toList =
      "import debugpy;".toList ++ ("debugpy.listen(('".toList ++ addressChars address) := by
  have digits : (String.ofList (decimal address.port)).toList = decimal address.port := String.toList_ofList
  have nothing : "".toList = [] := rfl
  unfold snippet
  rw [absent]
  simp only [String.toList_append, List.append_assoc, digits, nothing, List.nil_append, addressChars]

/-- With a path it configures in between. -/
theorem toList_snippet_configured {config : Config} {path : String} (present : config.python = some path)
    (address : Address) :
    (snippet address config).toList =
      "import debugpy;".toList ++ ("debugpy.configure(".toList ++ ([Char.ofNat 123] ++ ("'python': r'".toList ++
        pathChars path address))) := by
  have digits : (String.ofList (decimal address.port)).toList = decimal address.port := String.toList_ofList
  unfold snippet
  rw [present]
  simp only [String.toList_append, List.append_assoc, digits, String.toList_singleton, pathChars, addressChars]

/-- Rows that go on alike behind the first occurrence of a mark are the same up to there. -/
theorem append_cons_inj {left right xs ys : List Char} {mark : Char} (inLeft : mark ∉ left) (inRight : mark ∉ right)
    (same : left ++ mark :: xs = right ++ mark :: ys) : left = right ∧ xs = ys := by
  induction left generalizing right with
  | nil =>
      cases right with
      | nil => exact ⟨rfl, (List.cons.inj same).2⟩
      | cons c right => exact absurd (List.mem_cons.mpr (.inl (List.cons.inj same).1)) inRight
  | cons c left ih =>
      cases right with
      | nil => exact absurd (List.mem_cons.mpr (.inl (List.cons.inj same).1.symm)) inLeft
      | cons d right =>
          obtain ⟨head, tail⟩ := List.cons.inj same
          obtain ⟨rest, after⟩ := ih (fun member => inLeft (List.mem_cons_of_mem c member))
            (fun member => inRight (List.mem_cons_of_mem d member)) tail
          exact ⟨by rw [head, rest], after⟩

theorem quoteMark_not_mem_decimal (n : Nat) : quoteMark ∉ decimal n := by
  have other : ∀ c ∈ decimal n, c ≠ quoteMark := forall_mem_decimal (by decide) n
  exact fun member => other quoteMark member rfl

/-- After the host there is one more quote. -/
theorem count_addressChars (address : Address) :
    (addressChars address).count quoteMark = 1 + address.host.toList.count quoteMark := by
  have comma : "',".toList.count quoteMark = 1 := by decide
  have last : "))".toList.count quoteMark = 0 := by decide
  have digits : (decimal address.port).count quoteMark = 0 :=
    List.count_eq_zero.mpr (quoteMark_not_mem_decimal address.port)
  simp only [addressChars, List.count_append, comma, last, digits]
  omega

/-- The quotes in a snippet are those that are always there, and those of its texts. -/
theorem count_snippet (address : Address) (config : Config) :
    (snippet address config).toList.count quoteMark =
      2 + address.host.toList.count quoteMark +
        match config.python with
        | none => 0
        | some path => 4 + path.toList.count quoteMark := by
  have front : "import debugpy;".toList.count quoteMark = 0 := by decide
  have listen : "debugpy.listen(('".toList.count quoteMark = 1 := by decide
  cases python : config.python with
  | none =>
      rw [toList_snippet_plain python]
      simp only [List.count_append, front, listen, count_addressChars]
      omega
  | some path =>
      have configure : "debugpy.configure(".toList.count quoteMark = 0 := by decide
      have key : "'python': r'".toList.count quoteMark = 3 := by decide
      have quote : "'".toList.count quoteMark = 1 := by decide
      have close : ");".toList.count quoteMark = 0 := by decide
      have opened : [Char.ofNat 123].count quoteMark = 0 := by decide
      have closed : [Char.ofNat 125].count quoteMark = 0 := by decide
      rw [toList_snippet_configured python]
      simp only [pathChars, List.count_append, front, listen, configure, key, quote, close, opened, closed,
        count_addressChars]
      omega

/-! ## Addresses -/

/-- Behind the first quote, addresses whose hosts hold no quote are told apart. -/
theorem addressChars_inj {a b : Address} (left : quoteMark ∉ a.host.toList) (right : quoteMark ∉ b.host.toList)
    (same : addressChars a = addressChars b) : a = b := by
  have comma : "',".toList = [quoteMark, ','] := by decide
  simp only [addressChars, comma, List.cons_append, List.nil_append] at same
  obtain ⟨hosts, rest⟩ := append_cons_inj left right same
  have ports := decimal_inj (List.append_cancel_right (List.cons.inj rest).2)
  cases a
  cases b
  exact congrArg₂ Address.mk (String.toList_inj.mp hosts) ports

/-- Without quotes in it, a path ends where its quote is, so what follows is the address. -/
theorem pathChars_inj {path other : String} {a b : Address} (left : quoteMark ∉ path.toList)
    (right : quoteMark ∉ other.toList) (same : pathChars path a = pathChars other b) :
    addressChars a = addressChars b := by
  have quote : "'".toList = [quoteMark] := by decide
  simp only [pathChars, quote, List.cons_append, List.nil_append] at same
  obtain ⟨-, rest⟩ := append_cons_inj left right same
  exact List.append_cancel_left (List.append_cancel_left (List.cons.inj rest).2)

/-- A snippet names the address that it was made for, if its texts stand for themselves, and otherwise none. -/
theorem names_snippet_iff {a b : Address} {config : Config} :
    Names (snippet b config) a ↔ a = b ∧ Legible b config := by
  constructor
  · rintro ⟨other, same, legible⟩
    have chars := congrArg String.toList same
    have quotes := congrArg (List.count quoteMark) chars
    have noQuote := legible.quoteMark_not_mem
    rw [count_snippet, count_snippet, List.count_eq_zero.mpr noQuote] at quotes
    cases present : config.python with
    | none =>
        cases otherwise : other.python with
        | none =>
            simp only [present, otherwise] at quotes
            have host : quoteMark ∉ b.host.toList := List.count_eq_zero.mp (by omega)
            rw [toList_snippet_plain present, toList_snippet_plain otherwise] at chars
            have address := addressChars_inj noQuote host
              (List.append_cancel_left (List.append_cancel_left chars)).symm
            subst address
            exact ⟨rfl, legible.host, by simp [present]⟩
        | some path =>
            rw [toList_snippet_plain present, toList_snippet_configured otherwise] at chars
            have front := congrArg (List.take 9) (List.append_cancel_left chars)
            rw [List.take_append_of_le_length (by decide), List.take_append_of_le_length (by decide)] at front
            exact absurd front (by decide)
    | some path =>
        cases otherwise : other.python with
        | none =>
            simp only [present, otherwise] at quotes
            omega
        | some otherPath =>
            have pathPlain := legible.path otherPath otherwise
            simp only [present, otherwise, List.count_eq_zero.mpr pathPlain] at quotes
            have host : quoteMark ∉ b.host.toList := List.count_eq_zero.mp (by omega)
            have kept : quoteMark ∉ path.toList := List.count_eq_zero.mp (by omega)
            rw [toList_snippet_configured present, toList_snippet_configured otherwise] at chars
            have rest := List.append_cancel_left (List.append_cancel_left (List.append_cancel_left
              (List.append_cancel_left chars)))
            have address := addressChars_inj noQuote host (pathChars_inj kept pathPlain rest).symm
            subst address
            refine ⟨rfl, legible.host, fun p member => ?_⟩
            rw [present] at member
            cases member
            exact kept
  · rintro ⟨rfl, legible⟩
    exact ⟨config, rfl, legible⟩

end DebugBridge.Launch
