import Ms58xx.Prom

/-!
# Ms58xx.Detection

Which corruptions of the PROM the check of `ms58xx_readprom` detects. The check is taken apart
into the block it builds (`promBlock`: the words read, `prom[7] = 0` when only seven were),
the nibble it extracts (`promNibble`) and the masked block it hands to `ms58xx_crc`
(`promMasked`); `promCheck_eq` puts them back together. Every word of the masked block but the
nibble's is the word read (`getD_promMasked_ne`, `getD_promMasked_index`).

A single flipped bit outside the nibble leaves the nibble as it was and flips the same bit of
the masked block (`promNibble_modify`, `promMasked_modify`), that is one bit of one byte of the
buffer `ms58xx_crc` reads (`promBytes_modify_twoPow`). Since an accepted image carries the CRC
of its masked block (`promNibble_of_check`), the flipped image is rejected exactly when that
byte's bit reaches the check value. A flipped bit inside the nibble leaves the masked block as
it was and changes the nibble, so it is always rejected (`promCheck_flip_nibble`).

* `promCheck_flip_word7`: for the models whose nibble is in word 7, bits 11..8 of that word are
  the low nibble of the last byte `ms58xx_crc` reads, which never reaches the check value
  (`crc_flipBit_last`): flipping one of them changes no verdict.
* `promCheck_flip_rejected_iff`: for every model and every image the check accepts, flipping
  any one bit of the words read makes the check reject the image, except bits 11..8 of word 7
  for the models whose nibble is in word 7. For `MS5805_02` and `MS5837_30` the last byte of
  the buffer is the high byte of the padding word, so every such flip is detected.
-/

namespace Ms58xx

/-- The block `ms58xx_readprom` checks: the words read, completed with `prom[7] = 0`. -/
def promBlock (model : Model) (words : List (BitVec 16)) : List (BitVec 16) :=
  words ++ List.replicate (promLen - (promLayout model).1) 0

/-- `crcmask = (uint16_t)0xf << crcshift`. -/
def promMask (model : Model) : BitVec 16 :=
  0xf#16 <<< (promLayout model).2.2

/-- The stored CRC nibble, `(prom[crcindex] & crcmask) >> crcshift`. -/
def promNibble (model : Model) (words : List (BitVec 16)) : BitVec 8 :=
  (((promBlock model words).getD (promLayout model).2.1 0 &&& promMask model) >>>
    (promLayout model).2.2).setWidth 8

/-- The block after `prom[crcindex] &= ~crcmask`. -/
def promMasked (model : Model) (words : List (BitVec 16)) : List (BitVec 16) :=
  (promBlock model words).modify (· &&& ~~~promMask model) (promLayout model).2.1

theorem promCheck_eq (model : Model) (words : List (BitVec 16)) :
    promCheck model words =
      if promNibble model words != crc (promBytes (promMasked model words)) then none
      else some (promMasked model words) := by
  cases model <;> rfl

theorem promLayout_len (model : Model) :
    (promLayout model).1 = if model.compact then 7 else 8 := by
  cases model <;> rfl

theorem promLayout_shift (model : Model) :
    (promLayout model).2.2 = if model.compact then 12 else 0 := by
  cases model <;> rfl

theorem promMask_getLsbD (model : Model) :
    ∀ k : Fin 16, (promMask model).getLsbD k =
      decide ((promLayout model).2.2 ≤ k.val ∧ k.val < (promLayout model).2.2 + 4) := by
  cases model <;> decide

/-! ## Lists -/

theorem modify_append_left {α : Type} (f : α → α) (l r : List α) {i : Nat} (hi : i < l.length) :
    (l ++ r).modify f i = l.modify f i ++ r := by
  induction l generalizing i with
  | nil => simp at hi
  | cons a l ih =>
    cases i with
    | zero => rfl
    | succ i => simp only [List.cons_append, List.modify_succ_cons, ih (by simpa using hi)]

theorem modify_append_right {α : Type} (f : α → α) (l r : List α) (i : Nat) :
    (l ++ r).modify f (l.length + i) = l ++ r.modify f i := by
  induction l with
  | nil => simp
  | cons a l ih => simp only [List.cons_append, List.length_cons, Nat.add_right_comm,
      List.modify_succ_cons, ih]

theorem getD_modify_ne {α : Type} (f : α → α) (l : List α) {i k : Nat} (d : α) (h : i ≠ k) :
    (l.modify f i).getD k d = l.getD k d := by
  simp only [List.getD_eq_getElem?_getD, List.getElem?_modify_ne _ _ h]

theorem getD_modify_eq {α : Type} (f : α → α) (l : List α) {i : Nat} (d : α) (h : i < l.length) :
    (l.modify f i).getD i d = f (l.getD i d) := by
  simp only [List.getD_eq_getElem?_getD, List.getElem?_modify_eq, List.getElem?_eq_getElem h]
  rfl

/-! ## One flipped bit of a word -/

theorem xor_twoPow_and_eq {w m : BitVec 16} {j : Nat} (hm : m.getLsbD j = false) :
    (w ^^^ BitVec.twoPow 16 j) &&& m = w &&& m := by
  apply BitVec.eq_of_getLsbD_eq
  intro k
  simp only [BitVec.getLsbD_and, BitVec.getLsbD_xor, BitVec.getLsbD_twoPow]
  by_cases h : j = k.val
  · subst h; simp [hm]
  · simp [h]

theorem xor_twoPow_and_not {w m : BitVec 16} {j : Nat} (hm : m.getLsbD j = false) :
    (w ^^^ BitVec.twoPow 16 j) &&& ~~~m = (w &&& ~~~m) ^^^ BitVec.twoPow 16 j := by
  apply BitVec.eq_of_getLsbD_eq
  intro k
  simp only [BitVec.getLsbD_and, BitVec.getLsbD_xor, BitVec.getLsbD_twoPow, BitVec.getLsbD_not]
  by_cases h : j = k.val
  · subst h; simp [hm]
  · simp [h]

theorem xor_and_right (a b m : BitVec 16) : (a ^^^ b) &&& m = (a &&& m) ^^^ (b &&& m) := by
  apply BitVec.eq_of_getLsbD_eq
  intro k
  simp only [BitVec.getLsbD_and, BitVec.getLsbD_xor, Bool.and_xor_distrib_right]

/-- A bit of the nibble, read back as `ms58xx_readprom` extracts the nibble, is not zero. -/
theorem nibble_twoPow_ne_zero (model : Model) : ∀ j : Fin 16, (promMask model).getLsbD j = true →
    ((BitVec.twoPow 16 j &&& promMask model) >>> (promLayout model).2.2).setWidth 8 ≠ 0 := by
  cases model <;> decide

theorem setWidth_twoPow_lo :
    ∀ j : Fin 16, (BitVec.twoPow 16 j).setWidth 8 = if j.val < 8 then BitVec.twoPow 8 j else 0#8 := by
  decide

theorem setWidth_twoPow_hi : ∀ j : Fin 16,
    (BitVec.twoPow 16 j >>> 8).setWidth 8 = if j.val < 8 then 0#8 else BitVec.twoPow 8 (j - 8) := by
  decide

/-- The two bytes `ms58xx_crc` reads of a word with bit `j` flipped: bit `j % 8` of byte
`j / 8`. -/
theorem wordBytes_xor_twoPow (w : BitVec 16) {j : Nat} (hj : j < 16) :
    [(w ^^^ BitVec.twoPow 16 j).setWidth 8, ((w ^^^ BitVec.twoPow 16 j) >>> 8).setWidth 8] =
      [w.setWidth 8, (w >>> 8).setWidth 8].modify (· ^^^ BitVec.twoPow 8 (j % 8)) (j / 8) := by
  have hlo := setWidth_twoPow_lo ⟨j, hj⟩
  have hhi := setWidth_twoPow_hi ⟨j, hj⟩
  simp only [BitVec.setWidth_xor, BitVec.ushiftRight_xor_distrib] at hlo hhi ⊢
  by_cases h : j < 8
  · simp only [h, if_true] at hlo hhi
    rw [hlo, hhi, Nat.mod_eq_of_lt h, Nat.div_eq_of_lt h, BitVec.xor_zero]; rfl
  · simp only [h, if_false] at hlo hhi
    rw [hlo, hhi, BitVec.xor_zero, show j / 8 = 1 by omega, show j % 8 = j - 8 by omega]; rfl

/-- A change of word `i` that changes byte `k` of the word changes byte `2 * i + k` of the
buffer. -/
theorem promBytes_modify (prom : List (BitVec 16)) (f : BitVec 16 → BitVec 16)
    (h : BitVec 8 → BitVec 8) {i k : Nat} (hi : i < prom.length) (hk : k < 2)
    (hf : ∀ w, [(f w).setWidth 8, (f w >>> 8).setWidth 8] =
      [w.setWidth 8, (w >>> 8).setWidth 8].modify h k) :
    promBytes (prom.modify f i) = (promBytes prom).modify h (2 * i + k) := by
  induction prom generalizing i with
  | nil => simp at hi
  | cons w prom ih =>
    cases i with
    | zero =>
      simp only [promBytes, List.modify_zero_cons, List.flatMap_cons, Nat.mul_zero,
        Nat.zero_add] at ih ⊢
      rw [hf, modify_append_left _ _ _ (by simpa using hk)]
    | succ i =>
      have := ih (by simpa using hi)
      simp only [promBytes, List.modify_succ_cons, List.flatMap_cons] at this ⊢
      rw [this, show 2 * (i + 1) + k = [w.setWidth 8, (w >>> 8).setWidth 8].length + (2 * i + k)
        by simp; omega, modify_append_right]

theorem promBytes_modify_twoPow (prom : List (BitVec 16)) {i j : Nat} (hi : i < prom.length)
    (hj : j < 16) :
    promBytes (prom.modify (· ^^^ BitVec.twoPow 16 j) i) =
      flipBit (promBytes prom) (2 * i + j / 8) (j % 8) :=
  promBytes_modify prom _ _ hi (by omega) fun w => wordBytes_xor_twoPow w hj

/-! ## The check under one flipped bit -/

section Flip

variable (model : Model) {words : List (BitVec 16)} {i j : Nat}

theorem promBlock_modify (f : BitVec 16 → BitVec 16) (hi : i < words.length) :
    promBlock model (words.modify f i) = (promBlock model words).modify f i :=
  (modify_append_left f words _ hi).symm

theorem length_promMasked (hw : words.length = (promLayout model).1) :
    (promMasked model words).length = promLen := by
  have h8 : (promLayout model).1 ≤ promLen := by rw [promLayout_len]; split <;> decide
  simp only [promMasked, promBlock, List.length_modify, List.length_append, List.length_replicate]
  omega

/-- Outside the nibble, a flipped bit leaves the nibble as it was. -/
theorem promNibble_modify (hi : i < words.length)
    (hout : i ≠ (promLayout model).2.1 ∨ (promMask model).getLsbD j = false) :
    promNibble model (words.modify (· ^^^ BitVec.twoPow 16 j) i) = promNibble model words := by
  simp only [promNibble, promBlock_modify model _ hi]
  by_cases h : i = (promLayout model).2.1
  · rw [← h, getD_modify_eq _ _ _ (by simp [promBlock]; omega),
      xor_twoPow_and_eq (hout.resolve_left (not_not.2 h))]
  · rw [getD_modify_ne _ _ _ h]

/-- Outside the nibble, the masked block of the flipped image is the masked block with the same
bit flipped. -/
theorem promMasked_modify (hi : i < words.length)
    (hout : i ≠ (promLayout model).2.1 ∨ (promMask model).getLsbD j = false) :
    promMasked model (words.modify (· ^^^ BitVec.twoPow 16 j) i) =
      (promMasked model words).modify (· ^^^ BitVec.twoPow 16 j) i := by
  simp only [promMasked, promBlock_modify model _ hi]
  by_cases h : i = (promLayout model).2.1
  · have hm := hout.resolve_left (not_not.2 h)
    rw [← h, List.modify_modify_eq, List.modify_modify_eq]
    congr 1
    funext w
    exact xor_twoPow_and_not hm
  · exact List.modify_modify_ne _ _ _ h

/-- Inside the nibble, a flipped bit leaves the masked block as it was. -/
theorem promMasked_modify_nibble (hi : i < words.length) (h : i = (promLayout model).2.1)
    (hm : (promMask model).getLsbD j = true) :
    promMasked model (words.modify (· ^^^ BitVec.twoPow 16 j) i) = promMasked model words := by
  simp only [promMasked, promBlock_modify model _ hi]
  rw [← h, List.modify_modify_eq]
  congr 1
  funext w
  exact xor_twoPow_and_eq (by simp [BitVec.getLsbD_not, hm])

/-- Inside the nibble, a flipped bit changes the nibble. -/
theorem promNibble_modify_ne (hi : i < words.length) (h : i = (promLayout model).2.1)
    (hj : j < 16) (hm : (promMask model).getLsbD j = true) :
    promNibble model (words.modify (· ^^^ BitVec.twoPow 16 j) i) ≠ promNibble model words := by
  simp only [promNibble, promBlock_modify model _ hi]
  rw [← h, getD_modify_eq _ _ _ (by simp [promBlock]; omega), xor_and_right,
    BitVec.ushiftRight_xor_distrib, BitVec.setWidth_xor]
  exact (xor_ne_self_iff _ _).2 (nibble_twoPow_ne_zero model ⟨j, hj⟩ hm)

/-- An image the check accepts carries the CRC of its masked block. -/
theorem promNibble_of_check {prom : List (BitVec 16)} (hc : promCheck model words = some prom) :
    promNibble model words = crc (promBytes (promMasked model words)) := by
  rw [promCheck_eq] at hc
  by_contra h
  simp [h] at hc

/-- A flipped bit inside the nibble of an accepted image is always detected. -/
theorem promCheck_flip_nibble {prom : List (BitVec 16)} (hc : promCheck model words = some prom)
    (hi : i < words.length) (h : i = (promLayout model).2.1) (hj : j < 16)
    (hm : (promMask model).getLsbD j = true) :
    promCheck model (words.modify (· ^^^ BitVec.twoPow 16 j) i) = none := by
  rw [promCheck_eq, promMasked_modify_nibble model hi h hm, ← promNibble_of_check model hc]
  simp [promNibble_modify_ne model hi h hj hm]

end Flip

/-! ## The block the coefficients are decoded from -/

theorem promLayout_index (model : Model) :
    (promLayout model).2.1 = if model.compact then 0 else 7 := by
  cases model <;> rfl

/-- The padding word reads as the default. -/
theorem getD_promBlock (model : Model) (words : List (BitVec 16)) (k : Nat) :
    (promBlock model words).getD k 0 = words.getD k 0 := by
  simp only [promBlock, List.getD_eq_getElem?_getD, List.getElem?_append]
  split
  · rfl
  · rename_i h
    simp only [List.getElem?_replicate, List.getElem?_eq_none (Nat.le_of_not_lt h)]
    split <;> rfl

theorem getD_promMasked_ne (model : Model) (words : List (BitVec 16)) {k : Nat}
    (hk : k ≠ (promLayout model).2.1) : (promMasked model words).getD k 0 = words.getD k 0 := by
  rw [promMasked, getD_modify_ne _ _ _ (Ne.symm hk), getD_promBlock]

theorem getD_promMasked_index (model : Model) {words : List (BitVec 16)}
    (hw : words.length = (promLayout model).1) :
    (promMasked model words).getD (promLayout model).2.1 0 =
      words.getD (promLayout model).2.1 0 &&& ~~~promMask model := by
  have h8 : (promLayout model).2.1 < (promBlock model words).length := by
    simp only [promBlock, List.length_append, List.length_replicate, hw]
    cases model <;> decide
  rw [promMasked, getD_modify_eq _ _ _ h8, getD_promBlock]

/-! ## A flip the check cannot see -/

/-- For the models whose CRC nibble is in word 7, flipping one of bits 11..8 of word 7 changes
neither the nibble nor `ms58xx_crc` of the masked block: the flipped image is accepted exactly
when the original is, and decodes from the same block with that bit flipped. -/
theorem promCheck_flip_word7 (model : Model) (hm : model.compact = false)
    (words : List (BitVec 16)) (hw : words.length = promLen) (j : Nat) (hj : 8 ≤ j ∧ j < 12) :
    promCheck model (words.modify (· ^^^ BitVec.twoPow 16 j) 7) =
      (promCheck model words).map (·.modify (· ^^^ BitVec.twoPow 16 j) 7) := by
  have hlen : words.length = (promLayout model).1 := by rw [promLayout_len, hm, hw]; rfl
  have hidx : (promLayout model).2.1 = 7 := by rw [promLayout_index, hm]; rfl
  have hout : (promMask model).getLsbD j = false := by
    have := promMask_getLsbD model ⟨j, by omega⟩
    simp only [promLayout_shift, hm] at this
    simpa [show ¬ j < 4 by omega] using this
  have h7 : 7 < words.length := by rw [hw]; decide
  have hl := length_promMasked model hlen
  have hb : (promBytes (promMasked model words)).length = 16 := by rw [length_promBytes, hl]; rfl
  have hcrc : crc (promBytes ((promMasked model words).modify (· ^^^ BitVec.twoPow 16 j) 7)) =
      crc (promBytes (promMasked model words)) := by
    rw [promBytes_modify_twoPow _ (by rw [hl]; decide) (by omega),
      show 2 * 7 + j / 8 = (promBytes (promMasked model words)).length - 1 by rw [hb]; omega,
      crc_flipBit_last _ _ (by rw [hb]; decide) (by omega)]
  rw [promCheck_eq, promCheck_eq, promNibble_modify model h7 (.inr hout),
    promMasked_modify model h7 (.inr hout), hcrc]
  split <;> rfl

set_option maxRecDepth 40000 in
/-- The all-zero image is accepted, and so is the image with bit 8 of word 7 set. -/
theorem promCheck_flip_word7_zeros :
    (Model.ms5803_02.compact = false ∧ [0#16, 0, 0, 0, 0, 0, 0, 0].length = promLen ∧
        8 ≤ 8 ∧ 8 < 12) ∧
      promCheck .ms5803_02 [0#16, 0, 0, 0, 0, 0, 0, 0] = some [0#16, 0, 0, 0, 0, 0, 0, 0] ∧
      promCheck .ms5803_02 ([0#16, 0, 0, 0, 0, 0, 0, 0].modify (· ^^^ BitVec.twoPow 16 8) 7) =
        some ([0#16, 0, 0, 0, 0, 0, 0, 0].modify (· ^^^ BitVec.twoPow 16 8) 7) := by
  have h0 :
      promCheck .ms5803_02 [0#16, 0, 0, 0, 0, 0, 0, 0] = some [0#16, 0, 0, 0, 0, 0, 0, 0] := by
    decide
  refine ⟨by decide, h0, ?_⟩
  rw [promCheck_flip_word7 .ms5803_02 rfl [0#16, 0, 0, 0, 0, 0, 0, 0] rfl 8 (by decide), h0]
  rfl

/-- For every model and every image `ms58xx_readprom` accepts, flipping any one bit of the
words read makes the check reject the image, except for bits 11..8 of word 7 of the models whose
nibble is in word 7. -/
theorem promCheck_flip_rejected_iff (model : Model) (words : List (BitVec 16))
    (hw : words.length = (promLayout model).1) {prom : List (BitVec 16)}
    (hc : promCheck model words = some prom) (i j : Nat) (hi : i < (promLayout model).1)
    (hj : j < 16) :
    promCheck model (words.modify (· ^^^ BitVec.twoPow 16 j) i) = none ↔
      ¬ (model.compact = false ∧ i = 7 ∧ 8 ≤ j ∧ j < 12) := by
  have hi' : i < 8 ∧ (model.compact = true → i < 7) := by
    revert hi; rw [promLayout_len]; cases model.compact <;> simp
    omega
  have hmask := promMask_getLsbD model ⟨j, hj⟩
  by_cases hn : i = (promLayout model).2.1 ∧ (promMask model).getLsbD j = true
  · -- inside the nibble: bits 3..0 of word 7, or bits 15..12 of word 0
    rw [iff_true_intro (promCheck_flip_nibble model hc (by omega) hn.1 hj hn.2), true_iff]
    rintro ⟨hc0, -, h8, -⟩
    simp [hn.2, promLayout_shift, hc0] at hmask
    omega
  have hout : i ≠ (promLayout model).2.1 ∨ (promMask model).getLsbD j = false := by
    rw [not_and_or, Bool.not_eq_true] at hn
    exact hn
  have hl := length_promMasked model hw
  have hb : 2 * i + j / 8 < (promBytes (promMasked model words)).length := by
    rw [length_promBytes, hl, promLen]; omega
  have key : crc (flipBit (promBytes (promMasked model words)) (2 * i + j / 8) (j % 8)) ≠
      crc (promBytes (promMasked model words)) ↔
        ¬ (model.compact = false ∧ i = 7 ∧ 8 ≤ j ∧ j < 12) := by
    rw [crc_flipBit _ _ _ hb (by omega), xor_ne_self_iff, crcShifts_twoPow_out _ _ (by omega),
      length_promBytes, hl, promLen]
    revert hi'
    cases model.compact <;> simp <;> omega
  rw [promCheck_eq, promNibble_modify model (by omega) hout,
    promMasked_modify model (by omega) hout, promBytes_modify_twoPow _ (by rw [hl]; exact hi'.1) hj, promNibble_of_check model hc, ← key]
  by_cases h : crc (flipBit (promBytes (promMasked model words)) (2 * i + j / 8) (j % 8)) =
    crc (promBytes (promMasked model words))
  · simp [h]
  · simp [h, Ne.symm h]

set_option maxRecDepth 40000 in
theorem promCheck_flip_rejected_iff_word7 :
    ([0#16, 0, 0, 0, 0, 0, 0, 0].length = (promLayout .ms5803_02).1 ∧
        promCheck .ms5803_02 [0, 0, 0, 0, 0, 0, 0, 0] = some [0, 0, 0, 0, 0, 0, 0, 0] ∧
        7 < (promLayout .ms5803_02).1 ∧ 8 < 16) ∧
      (promCheck .ms5803_02 ([0#16, 0, 0, 0, 0, 0, 0, 0].modify (· ^^^ BitVec.twoPow 16 8) 7) =
          none ↔ ¬ (Model.ms5803_02.compact = false ∧ 7 = 7 ∧ 8 ≤ 8 ∧ 8 < 12)) :=
  ⟨by decide, @promCheck_flip_rejected_iff .ms5803_02 [0, 0, 0, 0, 0, 0, 0, 0] rfl
    [0, 0, 0, 0, 0, 0, 0, 0] (by decide) 7 8 (by decide) (by decide)⟩

end Ms58xx
