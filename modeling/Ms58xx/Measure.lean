import Ms58xx.Prom
import Ms58xx.Bounds

/-!
# Ms58xx.Measure

`ms58xx_readadc`, `ms58xx_convert` and `ms58xx_measure`: two conversions, then the arithmetic of
`Ms58xx.Compensate`. The device stores the exact reading, which by `Ms58xx.Bounds` is what the C
code computes.

`ms58xx_convert` writes the conversion command, but only logs a failure of that write: it waits
and reads the ADC all the same, and its result is the ADC's.

* `readadc_lt`, `convert_lt`: an ADC value has 24 bits, so `compensate_checked` applies to every
  measurement.
* `measure_cases`: everything `measure` can do. A failed ADC transaction returns with `priv` as
  it was; otherwise `temp` and `press` are replaced, and nothing else, by the compensation of two
  24-bit ADC values.
* `measure_ok_after_failed_trigger`: on a bus where both conversion commands fail and the ADC
  transfers succeed, `measure` returns `OK` and stores new values.
-/

namespace Ms58xx

section Driver

variable {σ : Type} (P : Platform σ)

/-- `ms58xx_readadc`: select the ADC register, restart, and read three bytes, most significant
first. -/
def readadc : Drv σ (BitVec 32) := do
  ofExcept (← i2cWrite P [adcReg])
  let buffer ← ofExcept (← i2cRead P 3)
  pure ((buffer 0).setWidth 32 <<< 16 ||| (buffer 1).setWidth 32 <<< 8 ||| (buffer 2).setWidth 32)

/-- `ms58xx_convert`: the conversion command `regaddr | priv->osr`, whose failure is only logged,
the conversion time, then the ADC. -/
def convert (regaddr : BitVec 8) : Drv σ (BitVec 32) := do
  let priv ← getPriv
  let _ ← i2cWrite P [regaddr ||| priv.osr]
  udelay P priv.delay
  readadc P

/-- `ms58xx_measure`; `vdd` is `CONFIG_MS58XX_VDD`. -/
def measure (vdd : Int) : Drv σ Unit := do
  let rawpress ← convert P pressReg
  let rawtemp ← convert P tempReg
  let priv ← getPriv
  let (temp, press) :=
    Id.run (compensate exact vdd priv.model priv.consts priv.calib rawpress.toNat rawtemp.toNat)
  setPriv { priv with temp := temp, press := press }

/-- Three bytes assembled most significant first fit in 24 bits. -/
theorem adc_lt (b0 b1 b2 : BitVec 8) :
    (b0.setWidth 32 <<< 16 ||| b1.setWidth 32 <<< 8 ||| b2.setWidth 32).toNat < 2 ^ 24 := by
  have h0 := b0.isLt
  have h1 := b1.isLt
  have h2 := b2.isLt
  simp only [BitVec.toNat_or, BitVec.toNat_shiftLeft, BitVec.toNat_setWidth, Nat.shiftLeft_eq]
  exact Nat.or_lt_two_pow (Nat.or_lt_two_pow (by omega) (by omega)) (by omega)

/-- `ms58xx_readadc` when the write and the read succeed: the three bytes read, most
significant first. -/
theorem readadc_run {d : Dev} {s s1 s2 : σ} {b : Fin 3 → BitVec 8}
    (hw : P.write s d.addr [adcReg] = (.ok (), s1)) (hr : P.read s1 d.addr 3 = (.ok b, s2)) :
    readadc P (d, s) =
      (.ok ((b 0).setWidth 32 <<< 16 ||| (b 1).setWidth 32 <<< 8 ||| (b 2).setWidth 32), d, s2) := by
  have h1 : i2cWrite P [adcReg] (d, s) = (.ok (.ok ()), d, s1) := by simp [hw]
  have h2 : i2cRead P 3 (d, s1) = (.ok (.ok b), d, s2) := by simp [hr]
  simp only [readadc]
  rw [Drv.bind_run_ok h1, Drv.bind_run_ok (Drv.ofExcept_run _ _), Drv.bind_run_ok h2,
    Drv.bind_run_ok (Drv.ofExcept_run _ _)]
  rfl

/-- `ms58xx_convert`: whatever its conversion command returns, the wait, then the ADC. -/
theorem convert_run (r : BitVec 8) (d : Dev) (s : σ) :
    convert P r (d, s) = readadc P (d, P.udelay (P.write s d.addr [r ||| d.osr]).2 d.delay) := by
  simp only [convert]
  rw [Drv.bind_run_ok (getPriv_run _), Drv.bind_run_ok (i2cWrite_run P _ _ _),
    Drv.bind_run_ok (udelay_run P _ _ _)]

theorem frames_readadc : Drv.Frames (readadc P) :=
  (frames_i2cWrite P _).bind fun _ => (Drv.frames_ofExcept _).bind fun _ =>
    (frames_i2cRead P _).bind fun _ => (Drv.frames_ofExcept _).bind fun _ => Drv.frames_pure _

theorem frames_convert (r : BitVec 8) : Drv.Frames (convert P r) :=
  frames_getPriv.bind fun _ => (frames_i2cWrite P _).bind fun _ =>
    (frames_udelay P _).bind fun _ => frames_readadc P

theorem readadc_lt {st st' : Dev × σ} {v : BitVec 32} (h : readadc P st = (.ok v, st')) :
    v.toNat < 2 ^ 24 := by
  obtain ⟨_, _, -, h⟩ := Drv.bind_ok_inv h
  obtain ⟨_, _, -, h⟩ := Drv.bind_ok_inv h
  obtain ⟨_, _, -, h⟩ := Drv.bind_ok_inv h
  obtain ⟨_, _, -, h⟩ := Drv.bind_ok_inv h
  cases h
  exact adc_lt _ _ _

theorem convert_lt {r : BitVec 8} {d : Dev} {s : σ} {v : BitVec 32} {st' : Dev × σ}
    (h : convert P r (d, s) = (.ok v, st')) : v.toNat < 2 ^ 24 :=
  readadc_lt P ((convert_run P r d s).symm.trans h)

/-- A conversion returns `priv` as it found it, and a value of 24 bits if it succeeds. -/
theorem convert_cases (r : BitVec 8) (d : Dev) (s : σ) :
    ∃ res s', convert P r (d, s) = (res, d, s') ∧ ∀ v, res = .ok v → v.toNat < 2 ^ 24 := by
  obtain ⟨res, s', h⟩ := (frames_convert P r).run d s
  exact ⟨res, s', h, fun v hv => convert_lt P (hv ▸ h)⟩

/-- `measure` after two conversions that returned `rawpress` and `rawtemp`. -/
theorem measure_run (vdd : Int) {d : Dev} {s s1 s2 : σ} {rawpress rawtemp : BitVec 32}
    (h1 : convert P pressReg (d, s) = (.ok rawpress, d, s1))
    (h2 : convert P tempReg (d, s1) = (.ok rawtemp, d, s2)) :
    measure P vdd (d, s) =
      (.ok (), { d with
        temp := (Id.run (compensate exact vdd d.model d.consts d.calib rawpress.toNat
          rawtemp.toNat)).1,
        press := (Id.run (compensate exact vdd d.model d.consts d.calib rawpress.toNat
          rawtemp.toNat)).2 }, s2) := by
  simp only [measure]
  rw [Drv.bind_run_ok h1, Drv.bind_run_ok h2, Drv.bind_run_ok (getPriv_run _)]
  rfl

/-- Everything `measure` can do: fail with `priv` as it was, or replace `temp` and `press` by the
compensation of two 24-bit ADC values. -/
theorem measure_cases (vdd : Int) (d : Dev) (s : σ) :
    (∃ e s', measure P vdd (d, s) = (.error e, d, s')) ∨
      ∃ rawpress rawtemp : BitVec 32, rawpress.toNat < 2 ^ 24 ∧ rawtemp.toNat < 2 ^ 24 ∧
        ∃ s', measure P vdd (d, s) =
          (.ok (), { d with
            temp := (Id.run (compensate exact vdd d.model d.consts d.calib rawpress.toNat
              rawtemp.toNat)).1,
            press := (Id.run (compensate exact vdd d.model d.consts d.calib rawpress.toNat
              rawtemp.toNat)).2 }, s') := by
  obtain ⟨r1, s1, h1, hb1⟩ := convert_cases P pressReg d s
  rcases r1 with e | rawpress
  · exact .inl ⟨e, s1, Drv.bind_run_error h1 _⟩
  obtain ⟨r2, s2, h2, hb2⟩ := convert_cases P tempReg d s1
  rcases r2 with e | rawtemp
  · exact .inl ⟨e, s2, (Drv.bind_run_ok h1 _).trans (Drv.bind_run_error h2 _)⟩
  exact .inr ⟨rawpress, rawtemp, hb1 _ rfl, hb2 _ rfl, s2, measure_run P vdd h1 h2⟩

end Driver

/-- A bus on which every other write fails, starting with the first: the two conversion
commands of a measurement fail and the selections of the ADC register succeed. Every read returns
zeros. Its state says whether the next write succeeds. -/
def triggerFails : Platform Bool where
  write ok _ _ := (if ok then .ok () else .error ⟨-5, by decide⟩, !ok)
  read ok _ _ := (.ok fun _ => 0, ok)
  udelay ok _ := ok
  kmmMalloc ok := (true, ok)
  registerDriver ok _ := (.ok (), ok)

/-- The conversion commands fail, and `measure` returns `OK` with new `temp` and `press`. -/
theorem measure_ok_after_failed_trigger (vdd : Int) (d : Dev) :
    (triggerFails.write false d.addr [pressReg ||| d.osr]).1 ≠ .ok () ∧
      (triggerFails.write false d.addr [tempReg ||| d.osr]).1 ≠ .ok () ∧
      measure triggerFails vdd (d, false) =
        (.ok (), { d with
          temp := (Id.run (compensate exact vdd d.model d.consts d.calib 0 0)).1,
          press := (Id.run (compensate exact vdd d.model d.consts d.calib 0 0)).2 }, false) :=
  ⟨by simp [triggerFails], by simp [triggerFails], rfl⟩

end Ms58xx
