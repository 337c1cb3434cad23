import Ms58xx.Device

/-!
# Ms58xx.Crc

`ms58xx_crc`, the CRC-4 over a byte buffer: each byte is xored into the low byte of a 16-bit
register, which is then shifted left eight times, xoring `0x3000` whenever the bit shifted out
was set; the check value is the top four bits.

The shift is linear in exclusive or (`crcShift_xor`), so flipping one input bit changes the
final register by the shifts of a single bit (`crc_flipBit`). Below bit 12 a single bit only
moves up; once it reaches the top four bits the feedback keeps it there and never clears it: the
top nibble then shifts as multiplication by `x` modulo `x^4 + x + 1` (`crcShift_topNibble`).

* `crc_flipBit_changes_iff`: flipping bit `j` of byte `i` changes the CRC exactly when the byte
  is not the last one or the bit is one of its top four.
* `promBytes`: how `ms58xx_readprom` hands its words to the CRC, `(uint8_t *)prom` on the
  little-endian targets of this port, low byte first. `crc_promBytes` says the result is the
  spec's CRC-4 (`specCrc4`, high byte first) of the byte-swapped words, and
  `crc_promBytes_ne_specCrc4` that the two differ.
-/

namespace Ms58xx

/-- One pass of the inner loop of `ms58xx_crc`. -/
def crcShift (crc : BitVec 16) : BitVec 16 :=
  let xor := crc &&& 0x8000#16 != 0
  let crc := crc <<< 1
  if xor then crc ^^^ 0x3000#16 else crc

/-- `n` passes of the inner loop. -/
def crcShifts : Nat → BitVec 16 → BitVec 16
  | 0, crc => crc
  | n + 1, crc => crcShifts n (crcShift crc)

/-- One pass of the outer loop: `crc ^= src[i]` and the eight shifts. -/
def crcByte (crc : BitVec 16) (b : BitVec 8) : BitVec 16 :=
  crcShifts 8 (crc ^^^ b.setWidth 16)

/-- `ms58xx_crc(src, len)` over the `len` bytes `src`. -/
def crc (src : List (BitVec 8)) : BitVec 8 :=
  (src.foldl crcByte 0 >>> 12).setWidth 8

/-- `src` with bit `j` of byte `i` flipped. -/
def flipBit (src : List (BitVec 8)) (i j : Nat) : List (BitVec 8) :=
  src.modify (· ^^^ BitVec.twoPow 8 j) i

/-! ## Linearity -/

theorem and_0x8000 (c : BitVec 16) : (c &&& 0x8000#16 != 0) = c.msb := by
  have h : c &&& 0x8000#16 = if c.msb then 0x8000#16 else 0#16 := by
    apply BitVec.eq_of_getLsbD_eq
    rintro ⟨i, hi⟩
    rw [BitVec.msb_eq_getLsbD_last]
    by_cases h15 : i = 15
    · subst h15; cases h : c.getLsbD 15 <;> simp [h]
    · have : (0x8000#16).getLsbD i = false := by
        simp only [BitVec.getLsbD_ofNat]
        rw [show (0x8000 : Nat) = 2 ^ 15 from rfl, Nat.testBit_two_pow]
        simp [Ne.symm h15]
      cases h : c.getLsbD 15 <;> simp [h, this]
  rw [h]; cases c.msb <;> decide

theorem crcShift_eq (c : BitVec 16) :
    crcShift c = if c.msb then c <<< 1 ^^^ 0x3000#16 else c <<< 1 := by
  simp only [crcShift, and_0x8000]

theorem xor_cancel (a b p : BitVec 16) : a ^^^ p ^^^ (b ^^^ p) = a ^^^ b := by
  rw [BitVec.xor_assoc a p (b ^^^ p), ← BitVec.xor_assoc p b p, BitVec.xor_comm p b,
    BitVec.xor_assoc b p p, BitVec.xor_self, BitVec.xor_zero]

theorem crcShift_xor (a b : BitVec 16) : crcShift (a ^^^ b) = crcShift a ^^^ crcShift b := by
  simp only [crcShift_eq, BitVec.msb_xor, BitVec.shiftLeft_xor_distrib]
  cases a.msb <;> cases b.msb <;> simp
  · ac_rfl
  · ac_rfl
  · exact (xor_cancel _ _ _).symm

theorem crcShifts_xor (n : Nat) (a b : BitVec 16) :
    crcShifts n (a ^^^ b) = crcShifts n a ^^^ crcShifts n b := by
  induction n generalizing a b with
  | zero => rfl
  | succ n ih => simp only [crcShifts, crcShift_xor, ih]

theorem crcShifts_add (m n : Nat) (c : BitVec 16) :
    crcShifts (m + n) c = crcShifts n (crcShifts m c) := by
  induction m generalizing c with
  | zero => simp [crcShifts]
  | succ m ih => rw [Nat.succ_add]; simp only [crcShifts, ih]

/-- A difference `d` in the register before the bytes `xs` is `8 * xs.length` shifts of `d`
after them. -/
theorem foldl_crcByte_xor (xs : List (BitVec 8)) (a d : BitVec 16) :
    xs.foldl crcByte (a ^^^ d) = xs.foldl crcByte a ^^^ crcShifts (8 * xs.length) d := by
  induction xs generalizing a d with
  | nil => rfl
  | cons x xs ih =>
    have : crcByte (a ^^^ d) x = crcByte a x ^^^ crcShifts 8 d := by
      rw [crcByte, crcByte, ← crcShifts_xor]; congr 1; ac_rfl
    rw [List.foldl_cons, List.foldl_cons, this, ih, ← crcShifts_add, List.length_cons]
    congr 2; omega

theorem setWidth_twoPow (j : Nat) (hj : j < 8) :
    (BitVec.twoPow 8 j).setWidth 16 = BitVec.twoPow 16 j := by
  apply BitVec.eq_of_getLsbD_eq
  rintro ⟨i, hi⟩
  simp only [BitVec.getLsbD_setWidth, BitVec.getLsbD_twoPow]
  by_cases h : j = i <;> simp [h]; omega

theorem foldl_flipBit (src : List (BitVec 8)) (i j : Nat) (hi : i < src.length) (hj : j < 8)
    (a : BitVec 16) :
    (flipBit src i j).foldl crcByte a =
      src.foldl crcByte a ^^^ crcShifts (8 * (src.length - i)) (BitVec.twoPow 16 j) := by
  induction src generalizing i a with
  | nil => simp at hi
  | cons b src ih =>
    cases i with
    | zero =>
      have : crcByte a (b ^^^ BitVec.twoPow 8 j) =
          crcByte a b ^^^ crcShifts 8 (BitVec.twoPow 16 j) := by
        rw [crcByte, crcByte, ← crcShifts_xor, BitVec.setWidth_xor, setWidth_twoPow j hj]; ac_rfl
      simp only [flipBit, List.modify_zero_cons, List.foldl_cons, this, foldl_crcByte_xor,
        ← crcShifts_add, List.length_cons]
      congr 2; omega
    | succ i =>
      simp only [flipBit, List.modify_succ_cons, List.foldl_cons, List.length_cons] at ih ⊢
      rw [ih i (by simp at hi; omega)]
      congr 2; omega

theorem crc_flipBit (src : List (BitVec 8)) (i j : Nat) (hi : i < src.length) (hj : j < 8) :
    crc (flipBit src i j) =
      crc src ^^^ (crcShifts (8 * (src.length - i)) (BitVec.twoPow 16 j) >>> 12).setWidth 8 := by
  rw [crc, crc, foldl_flipBit src i j hi hj, BitVec.ushiftRight_xor_distrib, BitVec.setWidth_xor]

/-! ## Where a single bit goes -/

theorem crcShift_twoPow :
    ∀ p : Fin 15, crcShift (BitVec.twoPow 16 p) = BitVec.twoPow 16 (p + 1) := by
  decide

theorem crcShifts_twoPow (k j : Nat) (h : j + k ≤ 12) :
    crcShifts k (BitVec.twoPow 16 j) = BitVec.twoPow 16 (j + k) := by
  induction k generalizing j with
  | zero => rfl
  | succ k ih =>
    rw [crcShifts, crcShift_twoPow ⟨j, by omega⟩, ih (j + 1) (by omega)]
    congr 1; omega

/-- A register whose bits below 12 are clear, by its top four bits. -/
def topNibble (t : BitVec 4) : BitVec 16 := t.setWidth 16 <<< 12

/-- A shift of such a register: multiplication by `x` modulo `x^4 + x + 1`. -/
def nibbleShift (t : BitVec 4) : BitVec 4 := if t.msb then t <<< 1 ^^^ 3#4 else t <<< 1

theorem crcShift_topNibble :
    ∀ t : BitVec 4, crcShift (topNibble t) = topNibble (nibbleShift t) := by
  decide

theorem nibbleShift_ne_zero : ∀ t : BitVec 4, t ≠ 0 → nibbleShift t ≠ 0 := by decide

theorem crcShifts_topNibble (k : Nat) (t : BitVec 4) (ht : t ≠ 0) :
    ∃ t', t' ≠ 0 ∧ crcShifts k (topNibble t) = topNibble t' := by
  induction k generalizing t with
  | zero => exact ⟨t, ht, rfl⟩
  | succ k ih => rw [crcShifts, crcShift_topNibble]; exact ih _ (nibbleShift_ne_zero t ht)

theorem topNibble_out : ∀ t : BitVec 4, (topNibble t >>> 12).setWidth 8 = t.setWidth 8 := by
  decide

theorem setWidth_ne_zero : ∀ t : BitVec 4, t ≠ 0 → t.setWidth 8 ≠ 0 := by decide

theorem twoPow_out : ∀ m : Fin 12, (BitVec.twoPow 16 m >>> 12).setWidth 8 = 0 := by decide

/-- A one-bit difference at bit `j ≤ 12` of the register shows in the check value after `k`
shifts exactly when it has reached bit 12. -/
theorem crcShifts_twoPow_out (j k : Nat) (hj : j ≤ 12) :
    (crcShifts k (BitVec.twoPow 16 j) >>> 12).setWidth 8 ≠ 0 ↔ 12 ≤ j + k := by
  by_cases h : j + k < 12
  · rw [crcShifts_twoPow k j (by omega), twoPow_out ⟨j + k, h⟩]
    exact iff_of_false (by simp) (by omega)
  · obtain ⟨r, rfl⟩ : ∃ r, k = (12 - j) + r := ⟨k - (12 - j), by omega⟩
    rw [crcShifts_add, crcShifts_twoPow _ _ (by omega), show j + (12 - j) = 12 by omega]
    obtain ⟨t, ht, he⟩ := crcShifts_topNibble r 1 (by decide)
    rw [show BitVec.twoPow 16 12 = topNibble 1 from rfl, he, topNibble_out]
    exact iff_of_true (setWidth_ne_zero t ht) (by omega)

theorem xor_ne_self_iff (x y : BitVec 8) : x ^^^ y ≠ x ↔ y ≠ 0 := by
  constructor
  · rintro h rfl; exact h (by simp)
  · intro h e; apply h
    rw [← BitVec.zero_xor (x := y), ← BitVec.xor_self (x := x), BitVec.xor_assoc, e,
      BitVec.xor_self]
    rfl

/-- The four low bits of the last byte never reach the check value. -/
theorem crc_flipBit_last (src : List (BitVec 8)) (j : Nat) (hs : 0 < src.length) (hj : j < 4) :
    crc (flipBit src (src.length - 1) j) = crc src := by
  have hout := twoPow_out ⟨j + 8, by omega⟩
  simp only at hout
  rw [crc_flipBit src _ j (by omega) (by omega), show src.length - (src.length - 1) = 1 by omega,
    crcShifts_twoPow 8 j (by omega), hout]
  exact BitVec.xor_zero

theorem crc_flipBit_changes_iff (src : List (BitVec 8)) (i j : Nat) (hi : i < src.length)
    (hj : j < 8) : crc (flipBit src i j) ≠ crc src ↔ i < src.length - 1 ∨ 4 ≤ j := by
  rw [crc_flipBit src i j hi hj, xor_ne_self_iff, crcShifts_twoPow_out j _ (by omega)]
  omega

theorem crc_flipBit_changes_iff_two_bytes :
    (1 < [0#8, 0#8].length ∧ 4 < 8) ∧
      (crc (flipBit [0#8, 0#8] 1 4) ≠ crc [0#8, 0#8] ↔ 1 < [0#8, 0#8].length - 1 ∨ 4 ≤ 4) :=
  ⟨by decide, crc_flipBit_changes_iff [0#8, 0#8] 1 4 (by decide) (by decide)⟩

/-! ## The PROM block's bytes -/

/-- `(uint8_t *)prom`: each word's low byte, then its high byte. -/
def promBytes (prom : List (BitVec 16)) : List (BitVec 8) :=
  prom.flatMap fun w => [w.setWidth 8, (w >>> 8).setWidth 8]

/-- The CRC-4 of the spec (§4.1): each word xored into the register a byte at a time,
most-significant byte first, each byte followed by the eight shifts; bits 15..12 at the end. -/
def specCrc4 (prom : List (BitVec 16)) : BitVec 8 :=
  (prom.foldl (fun r (w : BitVec 16) => crcByte (crcByte r ((w >>> 8).setWidth 8)) (w.setWidth 8))
    0 >>> 12).setWidth 8

theorem rotateLeft_lo (w : BitVec 16) : (w.rotateLeft 8).setWidth 8 = (w >>> 8).setWidth 8 := by
  apply BitVec.eq_of_getLsbD_eq
  rintro ⟨i, hi⟩
  simp [BitVec.getLsbD_setWidth, BitVec.getLsbD_rotateLeft, BitVec.getLsbD_ushiftRight, hi]

theorem rotateLeft_hi (w : BitVec 16) : (w.rotateLeft 8 >>> 8).setWidth 8 = w.setWidth 8 := by
  apply BitVec.eq_of_getLsbD_eq
  rintro ⟨i, hi⟩
  simp [BitVec.getLsbD_setWidth, BitVec.getLsbD_rotateLeft, BitVec.getLsbD_ushiftRight, hi]
  omega

theorem foldl_promBytes (prom : List (BitVec 16)) (a : BitVec 16) :
    (promBytes prom).foldl crcByte a =
      prom.foldl (fun r (w : BitVec 16) => crcByte (crcByte r (w.setWidth 8)) ((w >>> 8).setWidth 8))
        a := by
  induction prom generalizing a with
  | nil => rfl
  | cons w prom ih => simp only [promBytes, List.flatMap_cons, List.foldl_append] at ih ⊢; simp [ih]

/-- What `ms58xx_readprom` computes on this port is the spec's CRC-4 of the words with their
bytes swapped. -/
theorem crc_promBytes (prom : List (BitVec 16)) :
    crc (promBytes prom) = specCrc4 (prom.map (·.rotateLeft 8)) := by
  simp only [crc, specCrc4, foldl_promBytes, List.foldl_map, rotateLeft_lo, rotateLeft_hi]

set_option maxRecDepth 40000 in
theorem crc_promBytes_ne_specCrc4 :
    crc (promBytes [1, 0, 0, 0, 0, 0, 0, 0]) ≠ specCrc4 [1, 0, 0, 0, 0, 0, 0, 0] := by
  decide

end Ms58xx
