import Ms58xx.Driver

/-!
# Ms58xx.Sensor

The driver against the sensor it talks to. `Sensor.bus` is the bus with one sensor on it, as
the driver addresses it: a one-byte write selects what the next read returns, and every byte
but `MS58XX_ADC_REG` also starts a conversion, whose result is the sensor's (`Sensor.adc`, any
function of the command byte). A read after `MS58XX_PROM_REG + 2k` returns PROM word `k`, high
byte first; a read after `MS58XX_ADC_REG` returns the last conversion's 24 bits, most
significant byte first.

The byte assembly of `ms58xx_readu16` and `ms58xx_readadc` inverts what the sensor sends
(`word_bytes`, `adc_bytes`), so the loop of `ms58xx_readprom` reads back the sensor's PROM
words (`readWords_sensor`), and each driver function has a closed form against a sensor
(`register_sensor`, `reset_sensor`, `measure_sensor`). From them:

* `register_sensor_ret`: `ms58xx_register` returns `-EINVAL` for an unsupported ratio,
  `-ENODEV` when the sensor's PROM fails the check, and `OK` otherwise.
* `reset_sensor_idem`: `SNIOC_RESET` twice is `SNIOC_RESET` once; along a run against a
  sensor it returns `OK` and leaves the device as it was (`sensorRun_ioctl_reset`).
* `ioctl_measure_sensor_collide`: at the ratios 4096 and 8192 `SNIOC_MEASURE` compensates the
  result of the temperature conversion as the raw pressure.
* `sensorRun_reading`: along every run against a sensor (`SensorRun`: a registration, then any
  `ms58xx_ioctl` calls) the driver holds the coefficients of the sensor's own PROM, and every
  reading is the zeros of `ms58xx_register` or the compensation of the sensor's results for
  the two conversion commands of a supported ratio. The invariant is `SensorInv`; one lemma
  per way a run can go (`sensorInv_register`, `SensorInv.ioctl`) and an induction give it.
-/

namespace Ms58xx

/-- Modelled from the spec (§4.2, §4.4 and the bus boundary of §6): an MS58XX sensor, its eight
PROM words and the 24-bit result of a conversion started by each command byte. -/
structure Sensor where
  prom : List (BitVec 16)
  adc : BitVec 8 → BitVec 24
  prom_length : prom.length = promLen

/-- The sensor's state: the byte last written and the last conversion command. -/
structure Sensor.Regs where
  sel : BitVec 8
  conv : BitVec 8

/-- A one-byte write: `MS58XX_ADC_REG` selects the ADC, any other byte is also a conversion
command. -/
def Sensor.command (r : Sensor.Regs) (c : BitVec 8) : Sensor.Regs :=
  if c = adcReg then { r with sel := c } else ⟨c, c⟩

/-- The bytes a read returns: the last conversion's result after `MS58XX_ADC_REG`, otherwise the
PROM word at the selected address. -/
def Sensor.answer (S : Sensor) (r : Sensor.Regs) : List (BitVec 8) :=
  if r.sel = adcReg then
    [(S.adc r.conv >>> 16).setWidth 8, (S.adc r.conv >>> 8).setWidth 8, (S.adc r.conv).setWidth 8]
  else
    let w := S.prom.getD ((r.sel - promReg).toNat / 2) 0
    [(w >>> 8).setWidth 8, w.setWidth 8]

/-- The bus with the sensor on it: every transfer succeeds, memory is available and the
registry takes the device. -/
def Sensor.bus (S : Sensor) : Platform Sensor.Regs where
  write r _ buf := (.ok (), match buf with | [c] => Sensor.command r c | _ => r)
  read r _ _ := (.ok fun k => (S.answer r).getD k 0, r)
  udelay r _ := r
  kmmMalloc r := (true, r)
  registerDriver r _ := (.ok (), r)

/-! ## Bytes -/

/-- `(buffer[0] << 8) | buffer[1]` of a word's two bytes, high byte first, is the word. -/
theorem word_bytes (w : BitVec 16) :
    ((w >>> 8).setWidth 8).setWidth 16 <<< 8 ||| (w.setWidth 8).setWidth 16 = w := by
  apply BitVec.eq_of_getLsbD_eq
  intro i
  have hi := i.isLt
  simp only [BitVec.getLsbD_or, BitVec.getLsbD_shiftLeft, BitVec.getLsbD_setWidth,
    BitVec.getLsbD_ushiftRight]
  by_cases h : i.val < 8
  · simp [h]
  · simp [h, show i.val - 8 < 8 by omega, show i.val - 8 < 16 by omega,
      show 8 + (i.val - 8) = i.val by omega]

/-- `(buffer[0] << 16) | (buffer[1] << 8) | buffer[2]` of a 24-bit value's bytes, most
significant first, is the value. -/
theorem adc_bytes (a : BitVec 24) :
    ((a >>> 16).setWidth 8).setWidth 32 <<< 16 ||| ((a >>> 8).setWidth 8).setWidth 32 <<< 8 |||
      (a.setWidth 8).setWidth 32 = a.setWidth 32 := by
  apply BitVec.eq_of_getLsbD_eq
  intro i
  have hi := i.isLt
  simp only [BitVec.getLsbD_or, BitVec.getLsbD_shiftLeft, BitVec.getLsbD_setWidth,
    BitVec.getLsbD_ushiftRight]
  rcases (by omega : i.val < 8 ∨ (8 ≤ i.val ∧ i.val < 16) ∨ (16 ≤ i.val ∧ i.val < 24) ∨
    24 ≤ i.val) with h | ⟨h1, h2⟩ | ⟨h1, h2⟩ | h
  · simp [h, show i.val < 16 by omega, show i.val < 24 by omega]
  · simp [h2, show ¬ i.val < 8 by omega, show i.val - 8 < 8 by omega, show i.val < 24 by omega,
      show i.val - 8 < 32 by omega, show 8 + (i.val - 8) = i.val by omega]
  · simp [h2, show ¬ i.val < 8 by omega, show ¬ i.val < 16 by omega,
      show ¬ i.val - 8 < 8 by omega, show i.val - 16 < 8 by omega, show i.val - 16 < 32 by omega,
      show 16 + (i.val - 16) = i.val by omega]
  · simp [BitVec.getLsbD_ge a _ h, show ¬ i.val < 24 by omega, show ¬ i.val - 8 < 8 by omega,
      show ¬ i.val - 16 < 8 by omega]

/-- A conversion command of `ms58xx_convert` is never `MS58XX_ADC_REG`: bit 6 of both base
commands is set. -/
theorem or_ne_adcReg {reg : BitVec 8} (h : reg.getLsbD 6 = true) (x : BitVec 8) :
    reg ||| x ≠ adcReg := by
  intro he
  have := congrArg (·.getLsbD 6) he
  simp [h, adcReg] at this

/-! ## The driver's transfers against the sensor -/

section Run

variable (S : Sensor)

/-- PROM word `k`: its address is not the ADC's and selects word `k` again. -/
theorem readu16_sensor {k : Nat} (hk : k < promLen) (d : Dev) (r : Sensor.Regs) :
    readu16 S.bus (promReg + BitVec.ofNat 8 (k * 2)) (d, r) =
      (.ok (S.prom.getD k 0), d, ⟨promReg + BitVec.ofNat 8 (k * 2),
        promReg + BitVec.ofNat 8 (k * 2)⟩) := by
  have hc : promReg + BitVec.ofNat 8 (k * 2) ≠ adcReg := by
    intro h
    have := congrArg BitVec.toNat h
    simp [promReg, adcReg, promLen] at this hk
    omega
  have hk' : ((promReg + BitVec.ofNat 8 (k * 2) - promReg).toNat / 2) = k := by
    rw [BitVec.add_comm, BitVec.add_sub_cancel, BitVec.toNat_ofNat]
    simp only [promLen] at hk
    omega
  have hw : S.bus.write r d.addr [promReg + BitVec.ofNat 8 (k * 2)] =
      (.ok (), ⟨promReg + BitVec.ofNat 8 (k * 2), promReg + BitVec.ofNat 8 (k * 2)⟩) := by
    simp [Sensor.bus, Sensor.command, hc]
  refine (readu16_run S.bus hw rfl).trans ?_
  simp only [Sensor.answer, if_neg hc, hk']
  show (Except.ok ((((S.prom.getD k 0) >>> 8).setWidth 8).setWidth 16 <<< 8 |||
    ((S.prom.getD k 0).setWidth 8).setWidth 16), d, _) = _
  rw [word_bytes]

/-- The loop of `ms58xx_readprom` from word `i` on reads back the sensor's PROM words. -/
theorem readWords_sensor (i n : Nat) (h : i + n ≤ promLen) (d : Dev) (r : Sensor.Regs) :
    ∃ r', readWords S.bus i n (d, r) = (.ok ((S.prom.drop i).take n), d, r') := by
  induction n generalizing i r with
  | zero => exact ⟨r, by simp [readWords]⟩
  | succ n ih =>
    obtain ⟨r', h'⟩ := ih (i + 1) (by omega)
      ⟨promReg + BitVec.ofNat 8 (i * 2), promReg + BitVec.ofNat 8 (i * 2)⟩
    refine ⟨r', ?_⟩
    have hi : i < S.prom.length := by rw [S.prom_length]; omega
    rw [readWords, Drv.bind_run_ok (readu16_sensor S (by omega) d r), Drv.bind_run_ok h',
      List.getD_eq_getElem _ _ hi, List.drop_eq_getElem_cons (n := i) hi, List.take_succ_cons]
    rfl

/-- After a conversion command `c`, `ms58xx_readadc` returns the sensor's result for `c`. -/
theorem readadc_sensor (d : Dev) (c : BitVec 8) :
    readadc S.bus (d, ⟨c, c⟩) = (.ok ((S.adc c).setWidth 32), d, ⟨adcReg, c⟩) := by
  have hw : S.bus.write ⟨c, c⟩ d.addr [adcReg] = (.ok (), ⟨adcReg, c⟩) := by
    simp [Sensor.bus, Sensor.command]
  refine (readadc_run S.bus hw rfl).trans ?_
  show (Except.ok (((S.adc c >>> 16).setWidth 8).setWidth 32 <<< 16 |||
    ((S.adc c >>> 8).setWidth 8).setWidth 32 <<< 8 ||| ((S.adc c).setWidth 8).setWidth 32), d, _) = _
  rw [adc_bytes]

theorem convert_sensor {reg : BitVec 8} (h : reg.getLsbD 6 = true) (d : Dev) (r : Sensor.Regs) :
    convert S.bus reg (d, r) =
      (.ok ((S.adc (reg ||| d.osr)).setWidth 32), d, ⟨adcReg, reg ||| d.osr⟩) := by
  rw [convert_run]
  simp only [Sensor.bus, Sensor.command, if_neg (or_ne_adcReg h d.osr)]
  exact readadc_sensor S d _

/-- `ms58xx_measure` against a sensor: the compensation of the results of the conversions
started by `MS58XX_PRESS_REG | osr` and `MS58XX_TEMP_REG | osr`. -/
theorem measure_sensor (vdd : Int) (d : Dev) (r : Sensor.Regs) :
    measure S.bus vdd (d, r) =
      (.ok (), { d with
        temp := (Id.run (compensate exact vdd d.model d.consts d.calib
          (S.adc (pressReg ||| d.osr)).toNat (S.adc (tempReg ||| d.osr)).toNat)).1,
        press := (Id.run (compensate exact vdd d.model d.consts d.calib
          (S.adc (pressReg ||| d.osr)).toNat (S.adc (tempReg ||| d.osr)).toNat)).2 },
        ⟨adcReg, tempReg ||| d.osr⟩) := by
  have hp := (S.adc (pressReg ||| d.osr)).isLt
  have ht := (S.adc (tempReg ||| d.osr)).isLt
  simp only [measure]
  rw [Drv.bind_run_ok (convert_sensor S (by decide) d r),
    Drv.bind_run_ok (convert_sensor S (by decide) d _), Drv.bind_run_ok (getPriv_run _)]
  simp only [BitVec.toNat_setWidth, Nat.mod_eq_of_lt (lt_of_lt_of_le hp (by decide : 2 ^ 24 ≤ 2 ^ 32)),
    Nat.mod_eq_of_lt (lt_of_lt_of_le ht (by decide : 2 ^ 24 ≤ 2 ^ 32)), setPriv_run]

/-- `ms58xx_reset` against a sensor: it reads back the sensor's PROM and keeps it exactly when
the check accepts it. -/
theorem reset_sensor (d : Dev) (r : Sensor.Regs) :
    ∃ r', reset S.bus (d, r) =
      match promCheck d.model (S.prom.take (promLayout d.model).1) with
      | none => (.error ENODEV, d, r')
      | some prom => (.ok (), { d with calib := promCalib d.model prom }, r') := by
  rcases reset_cases S.bus d r with ⟨e, s1, hw, -⟩ | ⟨s1, -, h⟩
  · simp [Sensor.bus] at hw
  obtain ⟨r', hr⟩ := readWords_sensor S 0 (promLayout d.model).1 (by cases d.model <;> decide) d s1
  obtain ⟨res, s2, h1, h2⟩ := readprom_cases S.bus d s1
  rw [hr] at h1
  cases h1
  rw [h, h2, List.drop_zero]
  exact ⟨r', rfl⟩

/-- Against a sensor, a second `ms58xx_reset` returns what the first returned and leaves the
device as the first left it. -/
theorem reset_sensor_idem (d : Dev) (r : Sensor.Regs) :
    (reset S.bus (reset S.bus (d, r)).2).1 = (reset S.bus (d, r)).1 ∧
      (reset S.bus (reset S.bus (d, r)).2).2.1 = (reset S.bus (d, r)).2.1 := by
  obtain ⟨r1, h1⟩ := reset_sensor S d r
  cases hc : promCheck d.model (S.prom.take (promLayout d.model).1) with
  | none =>
    rw [hc] at h1
    obtain ⟨r2, h2⟩ := reset_sensor S d r1
    rw [hc] at h2
    rw [h1, h2]
    exact ⟨rfl, rfl⟩
  | some prom =>
    rw [hc] at h1
    obtain ⟨r2, h2⟩ := reset_sensor S { d with calib := promCalib d.model prom } r1
    rw [show ({ d with calib := promCalib d.model prom } : Dev).model = d.model from rfl, hc] at h2
    rw [h1, h2]
    exact ⟨rfl, rfl⟩

/-- `ms58xx_register` against a sensor: `-EINVAL` before any transfer for an unsupported
ratio, `-ENODEV` when the sensor's PROM fails the check, and otherwise `OK` with the ratio's
delay and bits and the coefficients decoded from the sensor's PROM. -/
theorem register_sensor (devpath : String) (addr : BitVec 8) (osr : BitVec 16) (model : Model)
    (d0 : Dev) (r : Sensor.Regs) :
    ∃ r', register S.bus devpath addr osr model (d0, r) =
      match osrDelay model osr.toNat, promCheck model (S.prom.take (promLayout model).1) with
      | none, _ => (.error EINVAL, registerPriv addr model d0, r)
      | some delay, none =>
        (.error ENODEV, { registerPriv addr model d0 with delay := delay, osr := osrBits osr }, r')
      | some delay, some prom =>
        (.ok (), { registerPriv addr model d0 with delay := delay, osr := osrBits osr,
                                                   calib := promCalib model prom }, r') := by
  have hk : S.bus.kmmMalloc r = (true, r) := rfl
  rw [register, Drv.bind_run_ok (kmmMalloc_run _ _ _)]
  simp only [hk, if_true]
  rw [Drv.bind_run_ok (modifyPriv_run _ _)]
  dsimp only
  have hm : (registerPriv addr model d0).model = model := rfl
  rcases setosr_cases osr (registerPriv addr model d0) r with ⟨hn, hs⟩ | ⟨delay, hd, hs⟩
  · rw [hm] at hn
    rw [Drv.bind_run_error hs, hn]
    exact ⟨r, rfl⟩
  rw [hm] at hd
  obtain ⟨r', hr⟩ :=
    reset_sensor S { registerPriv addr model d0 with delay := delay, osr := osrBits osr } r
  refine ⟨r', ?_⟩
  rw [Drv.bind_run_ok hs, hd]
  simp only [hm] at hr ⊢
  cases hc : promCheck model (S.prom.take (promLayout model).1) with
  | none =>
    rw [hc] at hr
    rw [Drv.bind_run_error hr]
  | some prom =>
    rw [hc] at hr
    rw [Drv.bind_run_ok hr]
    rfl

/-- The C return value of `ms58xx_register` against a sensor: `-EINVAL` for a ratio the model
does not support, `-ENODEV` when the sensor's PROM fails the check, and `OK` otherwise. -/
theorem register_sensor_ret (devpath : String) (addr : BitVec 8) (osr : BitVec 16)
    (model : Model) (d0 : Dev) (r : Sensor.Regs) :
    Errno.ret (register S.bus devpath addr osr model (d0, r)).1 =
      match osrDelay model osr.toNat, promCheck model (S.prom.take (promLayout model).1) with
      | none, _ => EINVAL.val
      | some _, none => ENODEV.val
      | some _, some _ => 0 := by
  obtain ⟨r', h⟩ := register_sensor S devpath addr osr model d0 r
  rw [h]
  rcases osrDelay model osr.toNat with _ | delay <;>
    rcases promCheck model (S.prom.take (promLayout model).1) with _ | prom <;> rfl

/-- A sensor whose PROM is all zeros and whose conversions all read zero. -/
def zeroSensor : Sensor := ⟨List.replicate 8 0, fun _ => 0, rfl⟩

/-- At the ratios 4096 and 8192 the two conversion commands of `ms58xx_measure` are one byte, so
from every reachable state `SNIOC_MEASURE` against a sensor compensates the sensor's result for
the temperature command as the raw pressure as well as the raw temperature. -/
theorem ioctl_measure_sensor_collide {vdd : Int} {d : Dev} (hd : Reachable vdd d)
    (hr : 9040 ≤ d.delay) (arg : Nat) (r : Sensor.Regs) :
    ioctl S.bus vdd .measure arg (d, r) =
      (.ok none, { d with
        temp := (Id.run (compensate exact vdd d.model d.consts d.calib
          (S.adc (tempReg ||| d.osr)).toNat (S.adc (tempReg ||| d.osr)).toNat)).1,
        press := (Id.run (compensate exact vdd d.model d.consts d.calib
          (S.adc (tempReg ||| d.osr)).toNat (S.adc (tempReg ||| d.osr)).toNat)).2 },
        ⟨adcReg, tempReg ||| d.osr⟩) := by
  have hc : pressReg ||| d.osr = tempReg ||| d.osr :=
    (devInv_of_reachable hd).osr.commands_eq_iff.2 hr
  rw [ioctl, Drv.bind_run_ok (measure_sensor S vdd d r), hc]
  rfl

theorem ioctl_measure_sensor_collide_zeroRun :
    Reachable 0 zeroRun ∧ 9040 ≤ zeroRun.delay ∧
      ioctl zeroSensor.bus 0 .measure 0 (zeroRun, ⟨0, 0⟩) =
        (.ok none, { zeroRun with
          temp := (Id.run (compensate exact 0 zeroRun.model zeroRun.consts zeroRun.calib
            (zeroSensor.adc (tempReg ||| zeroRun.osr)).toNat
            (zeroSensor.adc (tempReg ||| zeroRun.osr)).toNat)).1,
          press := (Id.run (compensate exact 0 zeroRun.model zeroRun.consts zeroRun.calib
            (zeroSensor.adc (tempReg ||| zeroRun.osr)).toNat
            (zeroSensor.adc (tempReg ||| zeroRun.osr)).toNat)).2 },
          ⟨adcReg, tempReg ||| zeroRun.osr⟩) :=
  ⟨reachable_zeroRun 0, le_refl 9040,
    ioctl_measure_sensor_collide zeroSensor (reachable_zeroRun 0) (le_refl 9040) 0 ⟨0, 0⟩⟩

end Run

/-! ## Runs against one sensor -/

/-- The states of the driver and of the sensor along a run on the bus of `S`: a successful
`ms58xx_register`, then any sequence of `ms58xx_ioctl` calls. -/
inductive SensorRun (S : Sensor) (vdd : Int) : Dev → Sensor.Regs → Prop
  | register (devpath : String) (addr : BitVec 8) (osr : BitVec 16) (model : Model) (d0 : Dev)
      (r : Sensor.Regs) {d : Dev} {r' : Sensor.Regs} :
      register S.bus devpath addr osr model (d0, r) = (.ok (), d, r') → SensorRun S vdd d r'
  | ioctl (cmd : Cmd) (arg : Nat) {d : Dev} {r : Sensor.Regs} :
      SensorRun S vdd d r →
        SensorRun S vdd (ioctl S.bus vdd cmd arg (d, r)).2.1 (ioctl S.bus vdd cmd arg (d, r)).2.2

/-- A run against a sensor is a run of the driver. -/
theorem SensorRun.reachable {S : Sensor} {vdd : Int} {d : Dev} {r : Sensor.Regs}
    (h : SensorRun S vdd d r) : Reachable vdd d := by
  induction h with
  | register devpath addr osr model d0 r h => exact .register S.bus devpath addr osr model d0 r h
  | ioctl cmd arg _ ih => exact .ioctl S.bus cmd arg _ ih

/-- The invariant of a run against `S`: the coefficients are decoded from the sensor's own PROM,
and the reading is the zeros of `ms58xx_register` or the compensation, under those
coefficients, of the sensor's results for the two conversion commands of a supported ratio. -/
structure SensorInv (S : Sensor) (vdd : Int) (d : Dev) : Prop where
  calib : ∃ prom, promCheck d.model (S.prom.take (promLayout d.model).1) = some prom ∧
    d.calib = promCalib d.model prom
  reading : (d.temp = 0 ∧ d.press = 0) ∨ ∃ osr delay, OsrPair d.model osr delay ∧
    Id.run (compensate exact vdd d.model d.consts d.calib (S.adc (pressReg ||| osr)).toNat
      (S.adc (tempReg ||| osr)).toNat) = (d.temp, d.press)

section Inv

variable (S : Sensor) {vdd : Int}

theorem sensorInv_register {devpath : String} {addr : BitVec 8} {osr : BitVec 16}
    {model : Model} {d0 d : Dev} {r r' : Sensor.Regs}
    (h : register S.bus devpath addr osr model (d0, r) = (.ok (), d, r')) : SensorInv S vdd d := by
  obtain ⟨delay, r2, -, hr⟩ := register_ok_reset S.bus h
  obtain ⟨r3, hs⟩ := reset_sensor S { registerPriv addr model d0 with delay, osr := osrBits osr } _
  rw [hs] at hr
  split at hr
  · cases hr
  · cases hr
    exact ⟨⟨_, ‹_›, rfl⟩, .inl ⟨rfl, rfl⟩⟩

theorem SensorInv.ioctl {d : Dev} (hi : SensorInv S vdd d) (hd : DevInv d) (cmd : Cmd) (arg : Nat)
    (r : Sensor.Regs) : SensorInv S vdd (ioctl S.bus vdd cmd arg (d, r)).2.1 := by
  cases cmd with
  | measure =>
    rw [Ms58xx.ioctl, Drv.state_bind_pure, measure_sensor]
    exact ⟨hi.calib, .inr ⟨d.osr, d.delay, hd.osr, rfl⟩⟩
  | temperature | pressure | unrecognized => exact hi
  | reset =>
    rw [Ms58xx.ioctl, Drv.state_bind_pure]
    obtain ⟨r', h⟩ := reset_sensor S d r
    obtain ⟨prom, hc, hcal⟩ := hi.calib
    simp only [h, hc, ← hcal]
    exact hi
  | oversampling =>
    rw [Ms58xx.ioctl, Drv.state_bind_pure]
    rcases setosr_cases (BitVec.ofNat 16 arg) d r with ⟨-, h⟩ | ⟨delay, -, h⟩ <;> rw [h]
    · exact hi
    · exact ⟨hi.calib, hi.reading⟩

theorem sensorInv_of_run {d : Dev} {r : Sensor.Regs} (h : SensorRun S vdd d r) :
    SensorInv S vdd d := by
  induction h with
  | register devpath addr osr model d0 r h => exact sensorInv_register S h
  | ioctl cmd arg hr ih => exact ih.ioctl S (devInv_of_reachable hr.reachable) cmd arg _

end Inv

/-- An `MS5803_02` whose PROM holds the coefficients `sampleCalib` under a matching CRC nibble,
and whose conversions with the ratio 256 read the datasheet's vector, `D1 = 6465444` and
`D2 = 8077636`. -/
def sampleSensor : Sensor :=
  ⟨[0, 46372, 43981, 29059, 27842, 31553, 28165, 10],
    fun c => if c = pressReg then 6465444 else if c = tempReg then 8077636 else 0, rfl⟩

/-- The state after registering `sampleSensor` at `0x76` with the ratio 256, and one
`SNIOC_MEASURE`. -/
def sampleRun : Dev :=
  { registerPriv 0x76 .ms5803_02 zeroDev with
    delay := 600, osr := osrBits 256, calib := sampleCalib, temp := 29120, press := 175295 }

set_option maxRecDepth 40000 in
/-- The registration of `sampleSensor` reads its PROM back, and `SNIOC_MEASURE` then stores what
`ms58xx_measure` computes from the datasheet's vector. -/
theorem sensorRun_sampleRun : SensorRun sampleSensor 30 sampleRun ⟨adcReg, tempReg⟩ := by
  obtain ⟨r, h⟩ := register_sensor sampleSensor "/dev/press0" 0x76 256 .ms5803_02 zeroDev ⟨0, 0⟩
  have hc : promCheck .ms5803_02 (sampleSensor.prom.take (promLayout .ms5803_02).1) =
      some [0, 46372, 43981, 29059, 27842, 31553, 28165, 0] := by decide
  rw [show osrDelay .ms5803_02 (256 : BitVec 16).toNat = some 600 from rfl, hc] at h
  have hreg : SensorRun sampleSensor 30 _ r := .register _ _ _ _ _ _ h
  have hv : Id.run (compensate exact 30 .ms5803_02 (Consts.ofModel .ms5803_02) sampleCalib
      6465444 8077636) = (29120, 175295) := by decide
  have he : ioctl sampleSensor.bus 30 .measure 0
      ({ registerPriv 0x76 .ms5803_02 zeroDev with
          delay := 600, osr := osrBits 256,
          calib := promCalib .ms5803_02 [0, 46372, 43981, 29059, 27842, 31553, 28165, 0] }, r) =
      (.ok none, sampleRun, ⟨adcReg, tempReg⟩) := by
    rw [ioctl, Drv.bind_run_ok (measure_sensor sampleSensor 30 _ r)]
    show (Except.ok none, { sampleRun with
      temp := (Id.run (compensate exact 30 .ms5803_02 (Consts.ofModel .ms5803_02) sampleCalib
        6465444 8077636)).1
      press := (Id.run (compensate exact 30 .ms5803_02 (Consts.ofModel .ms5803_02) sampleCalib
        6465444 8077636)).2 }, (⟨adcReg, tempReg⟩ : Sensor.Regs)) = _
    rw [hv]
    rfl
  have hm := SensorRun.ioctl .measure 0 hreg
  rw [he] at hm
  exact hm

/-- Along every run against a sensor, `SNIOC_RESET` returns `OK` and leaves the device as it
was: the PROM it reads back is the one that passed the check at registration. -/
theorem sensorRun_ioctl_reset {S : Sensor} {vdd : Int} {d : Dev} {r : Sensor.Regs}
    (h : SensorRun S vdd d r) (arg : Nat) :
    ∃ r', ioctl S.bus vdd .reset arg (d, r) = (.ok none, d, r') := by
  obtain ⟨prom, hc, hcal⟩ := (sensorInv_of_run S h).calib
  obtain ⟨r', hs⟩ := reset_sensor S d r
  simp only [hc, ← hcal] at hs
  exact ⟨r', by rw [ioctl, Drv.bind_run_ok hs]; rfl⟩

theorem sensorRun_ioctl_reset_sampleSensor :
    SensorRun sampleSensor 30 sampleRun ⟨adcReg, tempReg⟩ ∧
      ∃ r', ioctl sampleSensor.bus 30 .reset 0 (sampleRun, ⟨adcReg, tempReg⟩) =
        (.ok none, sampleRun, r') :=
  ⟨sensorRun_sampleRun, sensorRun_ioctl_reset sensorRun_sampleRun 0⟩

end Ms58xx
