import DebugBridge.Json.Reader
import DebugBridge.Proofs.Json.Members

/-!
# Values that were read

`shape_of_decode` says what every value that is read from a text satisfies, whatever the text: it is well
formed, and its containers nest no deeper than the reader allows.
-/

namespace DebugBridge.Json

/-! ## Numbers -/

theorem absorb_lt (digits : List Nat) {significand : Nat} (fits : significand < 2 ^ 64) :
    (absorb significand digits).1 < 2 ^ 64 := by
  induction digits generalizing significand with
  | nil => exact fits
  | cons d digits ih =>
      rw [absorb]
      split
      · next more => exact ih more
      · exact fits

/-- An integer that is read is in range, and has no depth. -/
theorem wellFormed_integer (negative : Bool) {n : Nat} (fits : n < 2 ^ 64) :
    WellFormed (integer negative n) ∧ depth (integer negative n) = 0 := by
  rw [integer]
  split
  · split
    · next small =>
        refine ⟨?_, rfl⟩
        simp only [WellFormed, minInt, maxInt]
        omega
    · exact ⟨trivial, rfl⟩
  · refine ⟨?_, rfl⟩
    simp only [WellFormed, minInt, maxInt]
    omega

/-- A reader of numbers that gives only numbers with a fraction or an exponent. -/
def GivesFloat (outcome : Reading Json) : Prop :=
  ∀ v rest, outcome = .ok (v, rest) → ∃ bits, v = .float bits

theorem GivesFloat.error (e : ReadError) : GivesFloat (.error e) :=
  nofun

/-- Scaling gives a float. -/
theorem GivesFloat.scaled (negative : Bool) (significand : Nat) (e : Int) (rest : Bytes) :
    GivesFloat ((scaled negative significand e).map fun v => (v, rest)) := by
  intro v after read
  rw [Json.scaled] at read
  split at read
  · cases read
    exact ⟨_, rfl⟩
  · cases read

/-- The digits of an exponent make a float. -/
theorem givesFloat_exponentDigits (negative : Bool) (significand : Nat) (e : Int) (down : Bool) (bs : Bytes) :
    GivesFloat (readExponentDigits negative significand e down bs) := by
  cases bs with
  | nil => exact GivesFloat.error _
  | cons b rest =>
      simp only [readExponentDigits]
      split
      · split
        · split
          · rintro v after ⟨⟩
            exact ⟨_, rfl⟩
          · exact GivesFloat.error _
        · exact GivesFloat.scaled _ _ _ _
      · exact GivesFloat.error _

/-- An exponent makes a float, and so does its absence after a point. -/
theorem givesFloat_exponent (negative : Bool) (significand : Nat) (e : Int) (bs : Bytes) :
    GivesFloat (readExponent negative significand e bs) := by
  cases bs with
  | nil => exact GivesFloat.scaled _ _ _ _
  | cons b rest =>
      simp only [readExponent]
      split
      · split <;> exact givesFloat_exponentDigits _ _ _ _ _
      · exact GivesFloat.scaled _ _ _ _

/-- All that a reader gives is within a limit. -/
def Gives (limit : Nat) (outcome : Reading Json) : Prop :=
  ∀ v rest, outcome = .ok (v, rest) → Shaped limit v

theorem Gives.error (limit : Nat) (e : ReadError) : Gives limit (.error e) :=
  nofun

theorem GivesFloat.gives {outcome : Reading Json} (float : GivesFloat outcome) (limit : Nat) :
    Gives limit outcome := by
  intro v rest read
  obtain ⟨bits, rfl⟩ := float v rest read
  exact ⟨trivial, Nat.zero_le limit⟩

/-- What is read as a number is a shaped value without depth. -/
theorem gives_number (limit : Nat) (negative : Bool) (bs : Bytes) : Gives limit (readNumber negative bs) := by
  cases bs with
  | nil => exact Gives.error limit _
  | cons b after =>
      have fits : (absorb 0 (splitDigits (b :: after)).1).1 < 2 ^ 64 := absorb_lt _ (by omega)
      simp only [readNumber]
      split
      · split
        · exact Gives.error limit _
        · split
          · split
            · exact Gives.error limit _
            · split
              · exact (givesFloat_exponent _ _ _ _).gives limit
              · exact Gives.error limit _
          · exact (givesFloat_exponent _ _ _ _).gives limit
          · exact (givesFloat_exponent _ _ _ _).gives limit
          · split
            · rintro v rest ⟨⟩
              obtain ⟨formed, flat⟩ := wellFormed_integer negative fits
              exact ⟨formed, by omega⟩
            · exact (GivesFloat.scaled _ _ _ _).gives limit
      · exact Gives.error limit _

/-! ## Containers -/

/-- What is read as a word is the word's value. -/
theorem gives_word (limit : Nat) {v : Json} (shaped : Shaped limit v) (word bs : Bytes) :
    Gives limit (readWord v word bs) := by
  induction word generalizing bs with
  | nil =>
      rintro w rest ⟨⟩
      exact shaped
  | cons c word ih =>
      cases bs with
      | nil => exact Gives.error limit _
      | cons b bs =>
          rw [readWord]
          split
          · exact ih bs
          · exact Gives.error limit _

/-- The items read after those in `done` are within the limit if those are. -/
theorem shaped_readItems {limit fuel : Nat} {value : Bytes → Reading Json} (gives : ∀ bs, Gives limit (value bs))
    {done vs : List Json} {bs rest : Bytes} (before : ∀ v ∈ done, Shaped limit v)
    (read : readItems value fuel done bs = .ok (vs, rest)) : ∀ v ∈ vs, Shaped limit v := by
  induction fuel generalizing done bs with
  | zero => cases read
  | succ fuel ih =>
      rw [readItems] at read
      split at read
      · cases read
      · next w after item =>
          have extended : ∀ v ∈ w :: done, Shaped limit v :=
            List.forall_mem_cons.mpr ⟨gives bs w after item, before⟩
          split at read
          · cases read
          · split at read
            · cases read
              intro v member
              exact extended v (List.mem_reverse.mp member)
            · split at read
              · exact ih extended read
              · cases read

/-- The values of the members read after those in `done` are within the limit if those are. -/
theorem shaped_readMembers {limit fuel : Nat} {value : Bytes → Reading Json}
    (gives : ∀ bs, Gives limit (value bs)) {done ms : List (String × Json)} {bs rest : Bytes}
    (before : ∀ m ∈ done, Shaped limit m.2) (read : readMembers value fuel done bs = .ok (ms, rest)) :
    ∀ m ∈ ms, Shaped limit m.2 := by
  induction fuel generalizing done bs with
  | zero => cases read
  | succ fuel ih =>
      rw [readMembers] at read
      split at read
      · cases read
      · next key start _ =>
          split at read
          · cases read
          · next w after item =>
              have extended : ∀ m ∈ (key, w) :: done, Shaped limit m.2 :=
                List.forall_mem_cons.mpr ⟨gives start w after item, before⟩
              split at read
              · cases read
              · split at read
                · cases read
                  intro m member
                  exact extended m (List.mem_reverse.mp member)
                · split at read
                  · exact ih extended read
                  · cases read

/-- A row is one level deeper than what its items may be. -/
theorem gives_array {limit : Nat} {value : Bytes → Reading Json} (gives : ∀ bs, Gives limit (value bs))
    (bs : Bytes) : Gives (limit + 1) (readArray value bs) := by
  intro v rest read
  rw [readArray] at read
  split at read
  · cases read
  · split at read
    · cases read
      exact ⟨trivial, Nat.succ_le_succ (Nat.zero_le limit)⟩
    · obtain ⟨⟨vs, after⟩, items, result⟩ := ok_of_map read
      cases result
      have shaped := shaped_readItems gives (by simp) items
      exact ⟨wellFormedItems_iff.mpr fun w member => (shaped w member).1,
        Nat.succ_le_succ (depthItems_le_iff.mpr fun w member => (shaped w member).2)⟩

/-- An object is one level deeper than what its members may be. -/
theorem gives_object {limit : Nat} {value : Bytes → Reading Json} (gives : ∀ bs, Gives limit (value bs))
    (bs : Bytes) : Gives (limit + 1) (readObject value bs) := by
  intro v rest read
  rw [readObject] at read
  split at read
  · cases read
  · split at read
    · cases read
      exact ⟨⟨List.Pairwise.nil, trivial⟩, Nat.succ_le_succ (Nat.zero_le limit)⟩
    · obtain ⟨⟨ms, after⟩, members, result⟩ := ok_of_map read
      cases result
      have shaped := shaped_readMembers gives (by simp) members
      exact inherited_shaped.ofMembers shaped

/-- Whatever is read is shaped, within the levels that are left. -/
theorem gives_any {limit : Nat} {inner : Option (Bytes → Reading Json)}
    (within : ∀ value ∈ inner, ∃ inside, limit = inside + 1 ∧ ∀ bs, Gives inside (value bs)) (bs : Bytes) :
    Gives limit (readAny inner bs) := by
  have scalar : ∀ {v : Json}, WellFormed v → depth v = 0 → Shaped limit v := fun formed flat =>
    ⟨formed, by omega⟩
  rw [readAny]
  split
  · exact Gives.error limit _
  · repeat' split
    · exact gives_word limit (v := .null) (scalar trivial rfl) _ _
    · exact gives_word limit (v := .bool true) (scalar trivial rfl) _ _
    · exact gives_word limit (v := .bool false) (scalar trivial rfl) _ _
    · intro v rest read
      obtain ⟨⟨text, after⟩, -, result⟩ := ok_of_map read
      cases result
      exact scalar trivial rfl
    · exact gives_number limit true _
    · exact gives_number limit false _
    · next value =>
        obtain ⟨inside, rfl, gives⟩ := within value rfl
        exact gives_array gives _
    · exact Gives.error limit _
    · next value =>
        obtain ⟨inside, rfl, gives⟩ := within value rfl
        exact gives_object gives _
    · exact Gives.error limit _
    · exact Gives.error limit _

/-- A value that is read within some levels is shaped within them. -/
theorem gives_value (limit : Nat) (bs : Bytes) : Gives limit (readValue limit bs) := by
  induction limit generalizing bs with
  | zero => exact gives_any (by simp) bs
  | succ limit ih =>
      refine gives_any ?_ bs
      rintro value ⟨⟩
      exact ⟨limit, rfl, ih⟩

/-- Whatever is read from a text is well formed and within the reader's depth. -/
theorem shape_of_decode {bs : Bytes} {v : Json} (read : decode bs = .ok v) : Shaped depthLimit v := by
  rw [decode, decodeWithin] at read
  split at read
  · cases read
  · next w rest value =>
      split at read
      · cases read
        exact gives_value depthLimit bs _ rest value
      · cases read

end DebugBridge.Json
