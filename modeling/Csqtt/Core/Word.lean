/-
Module: Csqtt.Core.Word
Purpose: Fixed-width machine words and their big-endian byte strings.
Trusted boundary: none
Main exports: U8, U16, U32, U64, saturatingAdd, beValue, beBytes, beValue_beBytes,
  beBytes_beValue, beValue_lt, ofNat_beValue_beBytes, exists_word_of_length
-/
import Mathlib.Data.BitVec
import Mathlib.Tactic.Ring

namespace Csqtt

abbrev U8 := BitVec 8
abbrev U16 := BitVec 16
abbrev U32 := BitVec 32
abbrev U64 := BitVec 64

/-- Addition that stops at the largest word. -/
def saturatingAdd {width : Nat} (first second : BitVec width) : BitVec width :=
  if first.toNat + second.toNat < 2 ^ width then first + second else BitVec.allOnes width

theorem toNat_saturatingAdd {width : Nat} (first second : BitVec width) :
    (saturatingAdd first second).toNat = min (first.toNat + second.toNat) (2 ^ width - 1) := by
  rw [saturatingAdd]
  split
  · rw [BitVec.toNat_add, Nat.mod_eq_of_lt (by assumption), Nat.min_eq_left (by omega)]
  · rw [BitVec.toNat_allOnes, Nat.min_eq_right (by omega)]

/-- Value of a big-endian byte string. -/
def beValue (bytes : List U8) : Nat :=
  bytes.foldl (fun value byte => value * 256 + byte.toNat) 0

/-- The low `count` bytes of a value, most significant first. -/
def beBytes : Nat → Nat → List U8
  | 0, _ => []
  | count + 1, value => BitVec.ofNat 8 (value / 256 ^ count) :: beBytes count value

@[simp] theorem length_beBytes (count value : Nat) : (beBytes count value).length = count := by
  induction count with
  | zero => rfl
  | succ count inductionHypothesis => simp [beBytes, inductionHypothesis]

private theorem foldl_beBytes (count value seed : Nat) :
    (beBytes count value).foldl (fun value byte => value * 256 + byte.toNat) seed =
      seed * 256 ^ count + value % 256 ^ count := by
  induction count generalizing seed with
  | zero => simp [beBytes, Nat.mod_one]
  | succ count inductionHypothesis =>
      have digit : value % 256 ^ (count + 1) =
          256 ^ count * (value / 256 ^ count % 256) + value % 256 ^ count := by
        rw [Nat.pow_succ, Nat.mod_mul, Nat.add_comm]
      simp only [beBytes, List.foldl_cons, inductionHypothesis, BitVec.toNat_ofNat, digit]
      rw [Nat.pow_succ]
      ring

/-- Reading back the written bytes gives the value modulo the width. -/
theorem beValue_beBytes (count value : Nat) :
    beValue (beBytes count value) = value % 256 ^ count := by
  rw [beValue, foldl_beBytes, Nat.zero_mul, Nat.zero_add]

private theorem foldl_seed (bytes : List U8) (seed : Nat) :
    bytes.foldl (fun value byte => value * 256 + byte.toNat) seed =
      seed * 256 ^ bytes.length + beValue bytes := by
  rw [beValue]
  induction bytes generalizing seed with
  | nil => simp
  | cons byte bytes inductionHypothesis =>
      rw [List.foldl_cons, List.foldl_cons, inductionHypothesis,
        inductionHypothesis (0 * 256 + byte.toNat), List.length_cons, Nat.pow_succ]
      ring

theorem beValue_cons (byte : U8) (bytes : List U8) :
    beValue (byte :: bytes) = byte.toNat * 256 ^ bytes.length + beValue bytes := by
  rw [beValue, List.foldl_cons, foldl_seed, Nat.zero_mul, Nat.zero_add]

theorem beValue_lt (bytes : List U8) : beValue bytes < 256 ^ bytes.length := by
  induction bytes with
  | nil => exact Nat.one_pos
  | cons byte bytes inductionHypothesis =>
      have digit : byte.toNat + 1 ≤ 256 := byte.isLt
      have scaled := Nat.mul_le_mul_right (256 ^ bytes.length) digit
      rw [beValue_cons, List.length_cons, Nat.pow_succ, Nat.mul_comm (256 ^ bytes.length)]
      rw [Nat.add_mul, Nat.one_mul] at scaled
      omega

/-- Bytes are those of their value. -/
theorem beBytes_beValue (bytes : List U8) : beBytes bytes.length (beValue bytes) = bytes := by
  have low (count front rest : Nat) (short : count ≤ rest) :
      ∀ value, beBytes count (front * 256 ^ rest + value) = beBytes count value := by
    induction count with
    | zero => exact fun _ => rfl
    | succ count inductionHypothesis =>
        intro value
        rw [beBytes, beBytes, inductionHypothesis (Nat.le_of_succ_le short)]
        obtain ⟨more, rfl⟩ := Nat.exists_eq_add_of_le short
        have split : front * 256 ^ (count + 1 + more) + value =
            value + 256 ^ count * (256 * (front * 256 ^ more)) := by
          rw [Nat.pow_add, Nat.pow_succ]
          ring
        rw [split, Nat.add_mul_div_left _ _ (Nat.pow_pos (by decide))]
        congr 1
        apply BitVec.eq_of_toNat_eq
        rw [BitVec.toNat_ofNat, BitVec.toNat_ofNat, Nat.add_mul_mod_self_left]
  induction bytes with
  | nil => rfl
  | cons byte bytes inductionHypothesis =>
      have small := beValue_lt bytes
      have first : (byte.toNat * 256 ^ bytes.length + beValue bytes) / 256 ^ bytes.length =
          byte.toNat := by
        rw [Nat.mul_comm, Nat.mul_add_div (Nat.pow_pos (by decide)), Nat.div_eq_of_lt small,
          Nat.add_zero]
      rw [List.length_cons, beBytes, beValue_cons, first, low _ _ _ (Nat.le_refl _),
        inductionHypothesis, BitVec.ofNat_toNat, BitVec.setWidth_eq]

theorem beBytes_injective {count first second : Nat} (small : first < 256 ^ count)
    (small' : second < 256 ^ count) (same : beBytes count first = beBytes count second) :
    first = second := by
  have values := congrArg beValue same
  rwa [beValue_beBytes, beValue_beBytes, Nat.mod_eq_of_lt small, Nat.mod_eq_of_lt small'] at values

/-- A machine word survives the trip through its bytes. -/
theorem ofNat_beValue_beBytes {width count : Nat} (word : BitVec width)
    (whole : width = 8 * count) :
    BitVec.ofNat width (beValue (beBytes count word.toNat)) = word := by
  have size : 256 ^ count = 2 ^ width := by rw [whole, Nat.pow_mul]
  rw [beValue_beBytes, size, Nat.mod_eq_of_lt word.isLt, BitVec.ofNat_toNat, BitVec.setWidth_eq]

/-- Bytes are those of a word. -/
theorem exists_word_of_length (width : Nat) {count : Nat} {bytes : List U8}
    (whole : width = 8 * count) (exact : bytes.length = count) :
    ∃ word : BitVec width, bytes = beBytes count word.toNat := by
  have small : beValue bytes < 2 ^ width := by
    have bound := beValue_lt bytes
    rwa [exact, show 256 = 2 ^ 8 by rfl, ← Nat.pow_mul, ← whole] at bound
  refine ⟨BitVec.ofNat width (beValue bytes), ?_⟩
  rw [BitVec.toNat_ofNat, Nat.mod_eq_of_lt small, ← exact, beBytes_beValue]

end Csqtt
