import Ms58xx.Drv
import Ms58xx.Crc

/-!
# Ms58xx.Prom

Reading the calibration PROM: `ms58xx_readu16`, the loop of `ms58xx_readprom`, its CRC check
and decoding, and `ms58xx_reset`.

`readprom` reads seven or eight words, masks the CRC nibble out of its word, and compares the
nibble with `ms58xx_crc` of the masked block (`promCheck`); only then does it write the
coefficients (`promCalib`). The reads frame `priv`, so:

* `readprom_cases`, `reset_cases`: everything `readprom` and `reset` can do. A bus failure or a
  CRC mismatch returns with `priv` as it was; success replaces the coefficients, and nothing else,
  by the decoding of the words just read.
* `readu16_error`, `readWords_error`: a failed read returns the error the bus returned for one
  of its transfers.
* `promCalib_ms5803_07_bits`: for `MS5803_07`, `c7` is bits 9..4 of word 7 and `c8` bits 15..10
  with bit 11 cleared by the mask `0xf700`.
-/

namespace Ms58xx

section Driver

variable {σ : Type} (P : Platform σ)

/-- Apply a field update to `priv`. -/
def modifyPriv (f : Dev → Dev) : Drv σ Unit := fun st => (.ok (), f st.1, st.2)

/-- `ms58xx_readu16`: write the register address, restart, and read two bytes, high byte
first. -/
def readu16 (regaddr : BitVec 8) : Drv σ (BitVec 16) := do
  ofExcept (← i2cWrite P [regaddr])
  let buffer ← ofExcept (← i2cRead P 2)
  pure ((buffer 0).setWidth 16 <<< 8 ||| (buffer 1).setWidth 16)

/-- The loop of `ms58xx_readprom` from `i` on, `n` more words: `ms58xx_readu16` of
`MS58XX_PROM_REG + i*2` into `prom[i]`, returning at the first failure. -/
def readWords (i : Nat) : Nat → Drv σ (List (BitVec 16))
  | 0 => pure []
  | n + 1 => do
    let w ← readu16 P (promReg + BitVec.ofNat 8 (i * 2))
    let ws ← readWords (i + 1) n
    pure (w :: ws)

end Driver

/-- The `switch` at the head of `ms58xx_readprom`: the number of PROM words, and `crcindex` and
`crcshift`, where the CRC nibble sits. -/
def promLayout : Model → Nat × Nat × Nat
  | .ms5805_02 | .ms5837_30 => (promLen - 1, 0, 12)
  | .ms5803_02 | .ms5803_05 | .ms5803_07 | .ms5803_14 | .ms5803_30 | .ms5806_02 => (promLen, 7, 0)

/-- What `ms58xx_readprom` does with the `len` words it read: complete `prom` with
`prom[7] = 0` if only seven were read, take the CRC nibble out of `prom[crcindex]`, and keep the
masked block if the nibble equals `ms58xx_crc` of it. -/
def promCheck (model : Model) (words : List (BitVec 16)) : Option (List (BitVec 16)) :=
  let (len, crcindex, crcshift) := promLayout model
  let prom := words ++ List.replicate (promLen - len) 0
  let crcmask : BitVec 16 := 0xf#16 <<< crcshift
  let crc := ((prom.getD crcindex 0 &&& crcmask) >>> crcshift).setWidth 8
  let prom := prom.modify (· &&& ~~~crcmask) crcindex
  if crc != Ms58xx.crc (promBytes prom) then none else some prom

/-- The coefficients `ms58xx_readprom` writes from the masked block. -/
def promCalib (model : Model) (prom : List (BitVec 16)) : Calib :=
  let (c7, c8) : BitVec 8 × BitVec 8 :=
    match model with
    | .ms5803_07 =>
      (((prom.getD 7 0 &&& 0x03f0#16) >>> 4).setWidth 8,
        ((prom.getD 7 0 &&& 0xf700#16) >>> 10).setWidth 8)
    | .ms5806_02 => (((prom.getD 7 0 &&& 0x0ff0#16) >>> 4).setWidth 8, 0)
    | .ms5803_02 | .ms5803_05 | .ms5803_14 | .ms5803_30 | .ms5805_02 | .ms5837_30 => (0, 0)
  { c1 := prom.getD 1 0, c2 := prom.getD 2 0, c3 := prom.getD 3 0, c4 := prom.getD 4 0,
    c5 := prom.getD 5 0, c6 := prom.getD 6 0, c7 := c7, c8 := c8 }

/-! ## What the CRC check and the decoding let through -/

theorem promLayout_of_compact_false {model : Model} (hm : model.compact = false) :
    promLayout model = (promLen, 7, 0) := by
  cases model <;> first | rfl | cases hm

theorem length_promBytes (prom : List (BitVec 16)) : (promBytes prom).length = 2 * prom.length := by
  induction prom with
  | nil => rfl
  | cons w prom ih =>
    simp only [promBytes, List.flatMap_cons, List.length_append] at ih ⊢
    simp [ih]
    omega

/-- `ms58xx_readprom`'s decoding of word 7 for `MS5803_07`: `c7` is bits 9..4, and `c8` bits
15..10 except bit 11, which the mask `0xf700` clears. -/
theorem promCalib_ms5803_07_bits (prom : List (BitVec 16)) (i : Nat) (hi : i < 6) :
    (promCalib .ms5803_07 prom).c7.getLsbD i = (prom.getD 7 0).getLsbD (i + 4) ∧
      (promCalib .ms5803_07 prom).c8.getLsbD i =
        (decide (i ≠ 1) && (prom.getD 7 0).getLsbD (i + 10)) := by
  simp only [promCalib, BitVec.getLsbD_setWidth, BitVec.getLsbD_ushiftRight, BitVec.getLsbD_and]
  interval_cases i <;> simp

set_option maxRecDepth 40000 in
theorem promCalib_ms5803_07_bits_word7 :
    promCheck .ms5803_07 [0, 0, 0, 0, 0, 0, 0, 0x0800] = some [0, 0, 0, 0, 0, 0, 0, 0x0800] ∧
      1 < 6 ∧
      (promCalib .ms5803_07 [0, 0, 0, 0, 0, 0, 0, 0x0800]).c7.getLsbD 1 =
          ([0#16, 0, 0, 0, 0, 0, 0, 0x0800].getD 7 0).getLsbD (1 + 4) ∧
        (promCalib .ms5803_07 [0, 0, 0, 0, 0, 0, 0, 0x0800]).c8.getLsbD 1 =
          (decide (1 ≠ 1) && ([0#16, 0, 0, 0, 0, 0, 0, 0x0800].getD 7 0).getLsbD (1 + 10)) :=
  ⟨by decide, by decide, promCalib_ms5803_07_bits _ 1 (by decide)⟩

section Driver

variable {σ : Type} (P : Platform σ)

/-- `ms58xx_readprom`. -/
def readprom : Drv σ Unit := do
  let priv ← getPriv
  let words ← readWords P 0 (promLayout priv.model).1
  match promCheck priv.model words with
  | none => throw ENODEV
  | some prom => modifyPriv fun priv => { priv with calib := promCalib priv.model prom }

/-- `ms58xx_reset`: the reset command, then the PROM. -/
def reset : Drv σ Unit := do
  ofExcept (← i2cWrite P [resetReg])
  readprom P

@[simp] theorem modifyPriv_run (f : Dev → Dev) (st : Dev × σ) :
    (modifyPriv f : Drv σ Unit) st = (.ok (), f st.1, st.2) := rfl

/-- `ms58xx_readu16` when the write and the read succeed: the two bytes read, high byte first. -/
theorem readu16_run {c : BitVec 8} {d : Dev} {s s1 s2 : σ} {b : Fin 2 → BitVec 8}
    (hw : P.write s d.addr [c] = (.ok (), s1)) (hr : P.read s1 d.addr 2 = (.ok b, s2)) :
    readu16 P c (d, s) = (.ok ((b 0).setWidth 16 <<< 8 ||| (b 1).setWidth 16), d, s2) := by
  have h1 : i2cWrite P [c] (d, s) = (.ok (.ok ()), d, s1) := by simp [hw]
  have h2 : i2cRead P 2 (d, s1) = (.ok (.ok b), d, s2) := by simp [hr]
  simp only [readu16]
  rw [Drv.bind_run_ok h1, Drv.bind_run_ok (Drv.ofExcept_run _ _), Drv.bind_run_ok h2,
    Drv.bind_run_ok (Drv.ofExcept_run _ _)]
  rfl

theorem frames_readu16 (r : BitVec 8) : Drv.Frames (readu16 P r) :=
  (frames_i2cWrite P _).bind fun _ => (Drv.frames_ofExcept _).bind fun _ =>
    (frames_i2cRead P _).bind fun _ => (Drv.frames_ofExcept _).bind fun _ => Drv.frames_pure _

theorem frames_readWords (i n : Nat) : Drv.Frames (readWords P i n) := by
  induction n generalizing i with
  | zero => exact Drv.frames_pure _
  | succ n ih =>
    exact (frames_readu16 P _).bind fun _ => (ih _).bind fun _ => Drv.frames_pure _

/-- The loop returns as many words as it was asked for. -/
theorem readWords_length (i n : Nat) (st st' : Dev × σ) (ws : List (BitVec 16))
    (h : readWords P i n st = (.ok ws, st')) : ws.length = n := by
  induction n generalizing i st ws with
  | zero => cases h; rfl
  | succ n ih =>
    simp only [readWords] at h
    rcases h1 : readu16 P (promReg + BitVec.ofNat 8 (i * 2)) st with ⟨_ | w, st1⟩
    · rw [Drv.bind_run_error h1] at h; cases h
    rw [Drv.bind_run_ok h1] at h
    rcases h2 : readWords P (i + 1) n st1 with ⟨_ | ws', st2⟩
    · rw [Drv.bind_run_error h2] at h; cases h
    rw [Drv.bind_run_ok h2] at h
    cases h
    simp [ih _ _ _ h2]

/-- A failed `ms58xx_readu16` returns what the bus returned for its write or for its read. -/
theorem readu16_error {c : BitVec 8} {d : Dev} {s : σ} {e : Errno}
    (h : (readu16 P c (d, s)).1 = .error e) :
    (P.write s d.addr [c]).1 = .error e ∨ ∃ s1, (P.read s1 d.addr 2).1 = .error e := by
  simp only [readu16] at h
  rw [Drv.bind_run_ok (i2cWrite_run P _ d s)] at h
  rcases hw : (P.write s d.addr [c]).1 with e' | u
  · rw [hw, Drv.bind_run_error (Drv.ofExcept_run _ _)] at h
    cases h
    exact .inl rfl
  rw [hw, Drv.bind_run_ok (Drv.ofExcept_run _ _), Drv.bind_run_ok (i2cRead_run P _ d _)] at h
  rcases hr : (P.read (P.write s d.addr [c]).2 d.addr 2).1 with e' | b
  · rw [hr, Drv.bind_run_error (Drv.ofExcept_run _ _)] at h
    cases h
    exact .inr ⟨_, hr⟩
  · rw [hr, Drv.bind_run_ok (Drv.ofExcept_run _ _)] at h
    cases h

/-- A failed PROM loop from word `i` returns what the bus returned for the write of one of the
PROM addresses it reads, or for a read. -/
theorem readWords_error (i n : Nat) {d : Dev} {s : σ} {e : Errno}
    (h : (readWords P i n (d, s)).1 = .error e) :
    (∃ s1 k, i ≤ k ∧ k < i + n ∧ (P.write s1 d.addr [promReg + BitVec.ofNat 8 (k * 2)]).1 =
      .error e) ∨ ∃ s1, (P.read s1 d.addr 2).1 = .error e := by
  induction n generalizing i s with
  | zero => cases h
  | succ n ih =>
    simp only [readWords] at h
    obtain ⟨r, s1, hx⟩ := (frames_readu16 P (promReg + BitVec.ofNat 8 (i * 2))).run d s
    rcases r with e' | w
    · rw [Drv.bind_run_error hx] at h
      cases h
      exact (readu16_error P (by rw [hx])).imp_left fun hw => ⟨s, i, le_refl i, by omega, hw⟩
    rw [Drv.bind_run_ok hx] at h
    rcases hy : readWords P (i + 1) n (d, s1) with ⟨e' | ws, st2⟩
    · rw [Drv.bind_run_error hy] at h
      cases h
      exact (ih (i + 1) (s := s1) (by rw [hy])).imp_left
        fun ⟨s2, k, hk, hk', hw⟩ => ⟨s2, k, by omega, by omega, hw⟩
    · rw [Drv.bind_run_ok hy] at h
      cases h

/-- Everything `readprom` can do: the loop's failure, a CRC mismatch, or the new
coefficients, with `priv` otherwise as it was. -/
theorem readprom_cases (d : Dev) (s : σ) :
    ∃ r s1, readWords P 0 (promLayout d.model).1 (d, s) = (r, d, s1) ∧
      readprom P (d, s) =
        match r with
        | .error e => (.error e, d, s1)
        | .ok words =>
          match promCheck d.model words with
          | none => (.error ENODEV, d, s1)
          | some prom => (.ok (), { d with calib := promCalib d.model prom }, s1) := by
  obtain ⟨r, s1, h⟩ := (frames_readWords P 0 (promLayout d.model).1).run d s
  refine ⟨r, s1, h, ?_⟩
  simp only [readprom]
  rw [Drv.bind_run_ok (getPriv_run (d, s))]
  rcases r with e | words
  · exact Drv.bind_run_error h _
  · rw [Drv.bind_run_ok h]
    cases hc : promCheck d.model words <;> simp only [hc] <;> rfl

/-- Everything `reset` can do. -/
theorem reset_cases (d : Dev) (s : σ) :
    (∃ e s1, P.write s d.addr [resetReg] = (.error e, s1) ∧ reset P (d, s) = (.error e, d, s1)) ∨
      ∃ s1, P.write s d.addr [resetReg] = (.ok (), s1) ∧ reset P (d, s) = readprom P (d, s1) := by
  simp only [reset]
  rw [Drv.bind_run_ok (i2cWrite_run P _ d s)]
  rcases hw : P.write s d.addr [resetReg] with ⟨_ | u, s1⟩
  · exact .inl ⟨_, _, rfl, Drv.bind_run_error (by simp [hw]) _⟩
  · exact .inr ⟨_, rfl, Drv.bind_run_ok (a := ()) (by simp [hw]) _⟩

end Driver

end Ms58xx

