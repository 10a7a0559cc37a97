import DebugBridge.Proofs.Cell.Edits

/-!
# The hash that the front end computes

The front end finds the file of a cell on its own, by the reference form of the hash. That form works on numbers
modulo `2 ^ 32`: it moves a pointer over the bytes while four of them remain, and enters a switch with what is left,
whose cases fall through. The hash that names a cell's file agrees with it on every byte sequence and under every
seed.
-/

namespace DebugBridge.Cell

namespace Murmur

/-! ## Reference form -/

/-- All arithmetic is modulo this number. -/
def modulus : Nat := 2 ^ 32

/-- The multiplier of the reference form. -/
def m : Nat := 0x5bd1e995

/-- The byte at a pointer, and zero behind the data. -/
def byteAt (data : Bytes) (pointer : Nat) : Nat :=
  (data.getD pointer 0).toNat

/-- The word at a pointer, its low byte first. -/
def wordAt (data : Bytes) (pointer : Nat) : Nat :=
  byteAt data pointer + byteAt data (pointer + 1) * 2 ^ 8 + byteAt data (pointer + 2) * 2 ^ 16 +
    byteAt data (pointer + 3) * 2 ^ 24

/-- A word before it enters the state. -/
def mixed (k : Nat) : Nat :=
  let k := k * m % modulus
  let k := k ^^^ k >>> 24
  k * m % modulus

/-- Where the loop over words ends: the pointer, the bytes that remain and the state. -/
structure LoopEnd where
  pointer : Nat
  remaining : Nat
  state : Nat
deriving DecidableEq, Repr

/-- The loop over words. It goes on while at least four bytes remain. -/
def loop (data : Bytes) (pointer remaining h : Nat) : LoopEnd :=
  if 4 ≤ remaining then
    loop data (pointer + 4) (remaining - 4) (h * m % modulus ^^^ mixed (wordAt data pointer))
  else ⟨pointer, remaining, h⟩
termination_by remaining

/-- Runs a switch: it is entered at the case of the label and falls through all that follow. A label without a case
skips them all. -/
def switch (label : Nat) (cases : List (Nat × (Nat → Nat))) (h : Nat) : Nat :=
  (cases.dropWhile fun c => c.1 ≠ label).foldl (fun h c => c.2 h) h

section
variable (third second first : Nat → Nat) (h : Nat)

/-- Three bytes that are left enter the switch at the top and fall through all cases. -/
theorem switch_three : switch 3 [(3, third), (2, second), (1, first)] h = first (second (third h)) := rfl

/-- Two bytes enter at the second case. -/
theorem switch_two : switch 2 [(3, third), (2, second), (1, first)] h = first (second h) := rfl

/-- One byte enters at the last case. -/
theorem switch_one : switch 1 [(3, third), (2, second), (1, first)] h = first h := rfl

theorem switch_zero : switch 0 [(3, third), (2, second), (1, first)] h = h := rfl

end

/-- The cases for the bytes that remain. -/
def lastBytes (data : Bytes) (pointer : Nat) : List (Nat × (Nat → Nat)) :=
  [(3, fun h => h ^^^ byteAt data (pointer + 2) <<< 16),
    (2, fun h => h ^^^ byteAt data (pointer + 1) <<< 8),
    (1, fun h => (h ^^^ byteAt data pointer) * m % modulus)]

/-- The state after the loop and the switch. -/
def absorbed (data : Bytes) (pointer remaining h : Nat) : Nat :=
  let last := loop data pointer remaining h
  switch last.remaining (lastBytes data last.pointer) last.state

/-- While four bytes remain, the next block is taken in. -/
theorem absorbed_add_four (data : Bytes) (pointer remaining h : Nat) : absorbed data pointer (remaining + 4) h =
    absorbed data (pointer + 4) remaining (h * m % modulus ^^^ mixed (wordAt data pointer)) := by
  rw [absorbed, loop, if_pos (Nat.le_add_left 4 remaining), Nat.add_sub_cancel, absorbed]

/-- Fewer bytes than a word are left to the switch. -/
theorem absorbed_of_lt (data : Bytes) (pointer : Nat) {remaining : Nat} (few : remaining < 4) (h : Nat) :
    absorbed data pointer remaining h = switch remaining (lastBytes data pointer) h := by
  rw [absorbed, loop, if_neg (Nat.not_le_of_lt few)]

/-- The hash that a state gives. -/
def finished (h : Nat) : Nat :=
  let h := h ^^^ h >>> 13
  let h := h * m % modulus
  h ^^^ h >>> 15

/-- The reference form of the hash. -/
def hash (seed : Nat) (data : Bytes) : Nat :=
  finished (absorbed data 0 data.length (seed ^^^ data.length % modulus))

end Murmur

/-! ## Steps on numbers -/

/-- A product of words is one modulo `2 ^ 32`. -/
theorem toNat_mul_multiplier (x : UInt32) : (x * multiplier).toNat = x.toNat * Murmur.m % Murmur.modulus :=
  UInt32.toNat_mul x multiplier

theorem toNat_xor_shiftRight {r : UInt32} {n : Nat} (shift : r.toNat = n) (room : n < 32) (x : UInt32) :
    (x ^^^ x >>> r).toNat = x.toNat ^^^ x.toNat >>> n := by
  rw [UInt32.toNat_xor, UInt32.toNat_shiftRight, shift, Nat.mod_eq_of_lt room]

theorem toNat_byte_shiftLeft {r : UInt32} {n : Nat} (shift : r.toNat = n) (room : n ≤ 24) (b : UInt8) :
    (b.toUInt32 <<< r).toNat = b.toNat <<< n := by
  have alone := toNat_or_shiftLeft (w := 0) b shift room (Nat.two_pow_pos n)
  rw [UInt32.zero_or, UInt32.toNat_zero, Nat.zero_add, ← Nat.shiftLeft_eq] at alone
  exact alone

/-- Both forms mix a word in the same way. -/
theorem toNat_mix (k : UInt32) : (mix k).toNat = Murmur.mixed k.toNat := by
  rw [mix, toNat_mul_multiplier, toNat_xor_shiftRight (n := 24) rfl (by decide), toNat_mul_multiplier, Murmur.mixed]

/-- Both forms take in a word in the same way. -/
theorem toNat_absorbWord (h k : UInt32) :
    (absorbWord h k).toNat = h.toNat * Murmur.m % Murmur.modulus ^^^ Murmur.mixed k.toNat := by
  rw [absorbWord, UInt32.toNat_xor, toNat_mul_multiplier, toNat_mix]

/-- Both forms mix the state in the same way at the end. -/
theorem toNat_finish (h : UInt32) : (finish h).toNat = Murmur.finished h.toNat := by
  rw [finish, toNat_xor_shiftRight (n := 15) rfl (by decide), toNat_mul_multiplier,
    toNat_xor_shiftRight (n := 13) rfl (by decide), Murmur.finished]

/-! ## Bytes at a pointer -/

theorem byteAt_eq {data bs : Bytes} {pointer i : Nat} {b : UInt8} (here : data.drop pointer = bs)
    (found : bs[i]? = some b) : Murmur.byteAt data (pointer + i) = b.toNat := by
  rw [← here, List.getElem?_drop] at found
  rw [Murmur.byteAt, List.getD_eq_getElem?_getD, found, Option.getD_some]

/-- Four bytes at a pointer are the word that the hash makes of them. -/
theorem wordAt_eq {data : Bytes} {pointer : Nat} {a b c d : UInt8} {rest : Bytes}
    (here : data.drop pointer = a :: b :: c :: d :: rest) : Murmur.wordAt data pointer = (word a b c d).toNat := by
  have first : Murmur.byteAt data pointer = a.toNat := byteAt_eq (i := 0) here rfl
  have second := byteAt_eq (i := 1) here rfl
  have third := byteAt_eq (i := 2) here rfl
  have fourth := byteAt_eq (i := 3) here rfl
  rw [Murmur.wordAt, first, second, third, fourth, toNat_word]

theorem drop_block {data : Bytes} {pointer : Nat} {a b c d : UInt8} {rest : Bytes}
    (here : data.drop pointer = a :: b :: c :: d :: rest) : data.drop (pointer + 4) = rest := by
  rw [← List.drop_drop, here]
  rfl

/-- The last bytes enter the state as the switch has it, from each of its cases on and past all of them. -/
theorem toNat_absorbTail {data tail : Bytes} {pointer : Nat} (here : data.drop pointer = tail)
    (short : tail.length < 4) (h : UInt32) :
    (absorbTail h tail).toNat = Murmur.switch tail.length (Murmur.lastBytes data pointer) h.toNat := by
  match tail with
  | [] => rw [absorbTail, List.length_nil, Murmur.lastBytes, Murmur.switch_zero]
  | [a] =>
      have length : [a].length = 1 := rfl
      have first : Murmur.byteAt data pointer = a.toNat := byteAt_eq (i := 0) here rfl
      rw [length, Murmur.lastBytes, Murmur.switch_one, first, absorbTail, toNat_mul_multiplier, UInt32.toNat_xor,
        UInt8.toNat_toUInt32]
  | [a, b] =>
      have length : [a, b].length = 2 := rfl
      have first : Murmur.byteAt data pointer = a.toNat := byteAt_eq (i := 0) here rfl
      have second := byteAt_eq (i := 1) here rfl
      rw [length, Murmur.lastBytes, Murmur.switch_two, second, first, absorbTail, toNat_mul_multiplier,
        UInt32.toNat_xor, UInt32.toNat_xor, toNat_byte_shiftLeft (r := 8) (n := 8) rfl (by decide),
        UInt8.toNat_toUInt32]
  | [a, b, c] =>
      have length : [a, b, c].length = 3 := rfl
      have first : Murmur.byteAt data pointer = a.toNat := byteAt_eq (i := 0) here rfl
      have second := byteAt_eq (i := 1) here rfl
      have third := byteAt_eq (i := 2) here rfl
      rw [length, Murmur.lastBytes, Murmur.switch_three, third, second, first, absorbTail, toNat_mul_multiplier,
        UInt32.toNat_xor, UInt32.toNat_xor, UInt32.toNat_xor,
        toNat_byte_shiftLeft (r := 16) (n := 16) rfl (by decide),
        toNat_byte_shiftLeft (r := 8) (n := 8) rfl (by decide), UInt8.toNat_toUInt32]

/-! ## Runs over all bytes -/

/-- From any place in the bytes on, both come to one state: the words and the pointer step together. -/
theorem toNat_absorb {data bs : Bytes} {pointer : Nat} (here : data.drop pointer = bs) (h : UInt32) :
    (absorb h bs).toNat = Murmur.absorbed data pointer bs.length h.toNat := by
  fun_induction absorb h bs generalizing pointer with
  | case1 h a b c d rest ih =>
      have length : (a :: b :: c :: d :: rest).length = rest.length + 4 := rfl
      rw [ih (drop_block here), toNat_absorbWord, ← wordAt_eq here, length, Murmur.absorbed_add_four]
  | case2 h tail incomplete =>
      have short := length_lt_of_no_block incomplete
      rw [toNat_absorbTail here short, Murmur.absorbed_of_lt data pointer short]

/-- Both forms come to the same number. -/
theorem toNat_hash (seed : UInt32) (bs : Bytes) : (hash seed bs).toNat = Murmur.hash seed.toNat bs := by
  rw [hash, toNat_finish, toNat_absorb (List.drop_zero (l := bs)), UInt32.toNat_xor, UInt32.toNat_ofNat',
    Murmur.hash, Murmur.modulus]

/-- The hash is the one that the front end computes, for every byte sequence under every seed. So the front end finds
the file of every cell source from the directory, the announced seed and the suffix. -/
theorem agrees_with_front_end :
    (∀ seed bs, (hash seed bs).toNat = Murmur.hash seed.toNat bs) ∧
      ∀ k source, file k source =
        k.cellDirectory ++ String.ofList (decimal (Murmur.hash seed.toNat (Utf8.encode source))) ++ suffix := by
  refine ⟨toNat_hash, fun k source => ?_⟩
  rw [file, toNat_hash]

/-- A word, and three bytes that the switch takes. -/
example : Murmur.hash 0xc70f6907 (Utf8.encode "a = 1+2") = 2082731427 := by
  decide +kernel

end DebugBridge.Cell
