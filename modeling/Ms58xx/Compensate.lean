import Ms58xx.Device

/-!
# Ms58xx.Compensate

The arithmetic of `ms58xx_measure`: from the raw ADC values, the calibration and the model's
constants to the compensated temperature and pressure.

The C code computes in `int32_t` and `int64_t`. The arithmetic is written once, over the C
operations it performs (`CArith`: the value of an `intN_t` expression, `(intN_t)1 << n`, and
`/`), one definition per statement of the source, and read twice:

* `exact`: C's operators on unbounded integers, `/` truncating toward zero (`Int.tdiv`). The
  driver stores this reading (`Ms58xx.Measure`).
* `checked`: `none` where the C code would leave its types: a result outside `intN_t` or a shift
  it cannot represent (undefined), a zero divisor, or an `(int32_t)` conversion that would
  truncate. `Ms58xx.Bounds` shows it never does, so the exact reading is what the machine
  computes.

`specFromDiff` is steps 2–8 of the spec's formula (§4.5) from a given `diff`, and
`specCompensate` the formula with `diff = rawtemp - C5 * 2^8`. The source divides instead
(`(int32_t)priv->c5 / ((int32_t)1 << 8)`); `compensate_eq_specFromDiff` shows that steps 2–8 are
the spec's from the source's own `diff`, and `compensate_ne_specCompensate` that the `diff`
matters. The spec describes step 9, the post-correction, by its shape only, so both readings
take it from the source.
-/

namespace Ms58xx

/-- The integer operations of `ms58xx_measure`, read in a monad `m`: the value of an `intN_t`
expression or conversion (`int`), `(intN_t)1 << n` (`shl`), and `a / b` in `intN_t` (`div`). -/
structure CArith (m : Type → Type) where
  int : Nat → Int → m Int
  shl : Nat → Nat → m Int
  div : Nat → Int → Int → m Int

/-- The range of `intN_t`. -/
def InRange (w : Nat) (x : Int) : Prop := -2 ^ (w - 1) ≤ x ∧ x < 2 ^ (w - 1)

instance (w : Nat) (x : Int) : Decidable (InRange w x) :=
  inferInstanceAs (Decidable (_ ∧ _))

/-- C's operators on unbounded integers. -/
def exact : CArith Id where
  int _ x := x
  shl _ n := (2 : Int) ^ n
  div _ a b := a.tdiv b

/-- C's operators, `none` where the result leaves the type. -/
def checked : CArith Option where
  int w x := if InRange w x then some x else none
  shl w n := if n + 1 < w then some (2 ^ n) else none
  div w a b := if b = 0 then none else if InRange w (a.tdiv b) then some (a.tdiv b) else none

/-- `diff`, `temp`, `off` and `sens` after the first-order statements. -/
structure First where
  diff : Int
  temp : Int
  off : Int
  sens : Int

/-- `temp`, `off` and `sens` after the second-order statements. -/
structure Second where
  temp : Int
  off : Int
  sens : Int

/-- The multipliers and divisors of the second-order terms, as `ms58xx_measure` selects them. -/
structure Branch where
  diffmul : Int
  diffdiv : Int
  offmula : Int
  offdiva : Int
  sensmula : Int
  sensdiva : Int
  offmulb : Int
  sensmulb : Int

section Lines

variable {m : Type → Type} [Monad m] (A : CArith m)

/-- `diff = (int32_t)rawtemp - (int32_t)priv->c5 / ((int32_t)1 << 8);` -/
def diffOf (c5 : BitVec 16) (rawtemp : Nat) : m Int := do
  A.int 32 ((← A.int 32 rawtemp) - (← A.div 32 c5.toNat (← A.shl 32 8)))

/-- `temp = (int32_t)((int64_t)2000 + (int64_t)diff * (int64_t)priv->c6 / ((int64_t)1 << 23));` -/
def tempOf (c6 : BitVec 16) (diff : Int) : m Int := do
  A.int 32 (← A.int 64 (2000 + (← A.div 64 (← A.int 64 (diff * c6.toNat)) (← A.shl 64 23))))

/-- `off` and `sens`: `(int64_t)ca * ((int64_t)1 << sa) + (int64_t)cb * (int64_t)diff /
((int64_t)1 << sb)`. -/
def firstOrderTerm (ca : BitVec 16) (sa : Nat) (cb : BitVec 16) (sb : Nat) (diff : Int) :
    m Int := do
  A.int 64 ((← A.int 64 (ca.toNat * (← A.shl 64 sa))) +
    (← A.div 64 (← A.int 64 (cb.toNat * diff)) (← A.shl 64 sb)))

/-- The `if (temp < 2000)` of `ms58xx_measure`, with its nested `if (temp < -1500)`. -/
def selectBranch (k : Consts) (temp : Int) : m Branch :=
  if temp < 2000 then do
    let diffdiv ← A.shl 64 k.diffdivls
    let offdiva ← A.shl 64 k.offdivls
    let sensdiva ← A.shl 64 k.sensdivls
    if temp < -1500 then
      pure ⟨k.diffmull, diffdiv, k.offmull, offdiva, k.sensmull, sensdiva, k.offmulvl, k.sensmulvl⟩
    else
      pure ⟨k.diffmull, diffdiv, k.offmull, offdiva, k.sensmull, sensdiva, 0, 0⟩
  else do
    pure ⟨k.diffmulh, ← A.shl 64 k.diffdivhs, k.offmulh, ← A.shl 64 k.offdivhs, k.sensmulh,
      ← A.shl 64 k.sensdivhs, 0, 0⟩

/-- `off -= offmula * tm / offdiva + offmulb * tp;` and the same for `sens`. -/
def secondOrderTerm (v mula diva mulb tm tp : Int) : m Int := do
  A.int 64 (v - (← A.int 64 ((← A.div 64 (← A.int 64 (mula * tm)) diva) +
    (← A.int 64 (mulb * tp)))))

/-- `temp -= (int32_t)(diffmul * (int64_t)diff * (int64_t)diff / diffdiv);` -/
def tempCorrect (diffmul diffdiv diff temp : Int) : m Int := do
  A.int 32 (temp - (← A.int 32 (← A.div 64 (← A.int 64 ((← A.int 64 (diffmul * diff)) * diff))
    diffdiv)))

/-- Lines 583–590: `diff`, the first-order temperature, `off` and `sens`. -/
def firstOrder (k : Consts) (c : Calib) (rawtemp : Nat) : m First := do
  let diff ← diffOf A c.c5 rawtemp
  let temp ← tempOf A c.c6 diff
  let off ← firstOrderTerm A c.c2 k.c2s c.c4 k.c4s diff
  let sens ← firstOrderTerm A c.c1 k.c1s c.c3 k.c3s diff
  pure ⟨diff, temp, off, sens⟩

/-- Lines 592–633: the second-order corrections of `off`, `sens` and `temp`. -/
def secondOrder (k : Consts) (v : First) : m Second := do
  let b ← selectBranch A k v.temp
  let tm ← A.int 64 (v.temp - 2000)
  let tm ← A.int 64 (tm * tm)
  let tp ← A.int 64 (v.temp + 1500)
  let tp ← A.int 64 (tp * tp)
  let off ← secondOrderTerm A v.off b.offmula b.offdiva b.offmulb tm tp
  let sens ← secondOrderTerm A v.sens b.sensmula b.sensdiva b.sensmulb tm tp
  let temp ← tempCorrect A b.diffmul b.diffdiv v.diff v.temp
  pure ⟨temp, off, sens⟩

/-- Lines 635–636: `press = (int32_t)(((int64_t)rawpress * sens / ((int64_t)1 << 21) - off) /
((int64_t)1 << priv->pressdivs));` -/
def pressure (k : Consts) (rawpress : Nat) (off sens : Int) : m Int := do
  A.int 32 (← A.div 64 (← A.int 64 ((← A.div 64 (← A.int 64 (rawpress * sens)) (← A.shl 64 21)) -
    off)) (← A.shl 64 k.pressdivs))

/-- Lines 638–668: the model's correction of the pressure; `vdd` is `CONFIG_MS58XX_VDD`. -/
def postCorrect (vdd : Int) (model : Model) (c : Calib) (temp press : Int) : m Int :=
  match model with
  | .ms5803_07 =>
    if press > 110000 then do
      let a ← A.int 64 ((← A.int 64 ((← A.int 64 (c.c7.toNat - (← A.shl 64 5))) * 100)) *
        (← A.shl 64 2))
      let b ← A.div 64 (← A.int 64 ((← A.int 64 (c.c8.toNat - (← A.shl 64 5))) *
        (← A.int 64 (temp - 2000)))) (← A.shl 64 4)
      let t ← A.div 64 (← A.int 64 ((← A.int 64 (a - b)) * (← A.int 64 (press - 110000))))
        49000000
      A.int 32 (press + (← A.int 32 t))
    else pure press
  | .ms5806_02 =>
    if 22 ≤ vdd ∧ vdd ≤ 30 then do
      let t ← A.div 64 (← A.int 64 ((← A.int 64 (30 - vdd)) * c.c7.toNat))
        (← A.int 64 ((← A.shl 64 6) * 10))
      A.int 32 (press + (← A.int 32 t))
    else pure press
  | .ms5803_02 | .ms5803_05 | .ms5803_14 | .ms5803_30 | .ms5805_02 | .ms5837_30 => pure press

/-- The arithmetic of `ms58xx_measure`, from the raw pressure and temperature to the values it
stores in `priv->temp` and `priv->press`. -/
def compensate (vdd : Int) (model : Model) (k : Consts) (c : Calib) (rawpress rawtemp : Nat) :
    m (Int × Int) := do
  let v ← firstOrder A k c rawtemp
  let w ← secondOrder A k v
  let press ← pressure A k rawpress w.off w.sens
  let press ← postCorrect A vdd model c w.temp press
  pure (w.temp, press)

end Lines

/-! ## The exact reading of each statement -/

section Exact

variable (k : Consts)

theorem diffOf_exact (c5 : BitVec 16) (rawtemp : Nat) :
    Id.run (diffOf exact c5 rawtemp) = rawtemp - (c5.toNat : Int).tdiv (2 ^ 8) := rfl

theorem tempOf_exact (c6 : BitVec 16) (diff : Int) :
    Id.run (tempOf exact c6 diff) = 2000 + (diff * c6.toNat).tdiv (2 ^ 23) := rfl

theorem firstOrderTerm_exact (ca : BitVec 16) (sa : Nat) (cb : BitVec 16) (sb : Nat) (diff : Int) :
    Id.run (firstOrderTerm exact ca sa cb sb diff) =
      ca.toNat * 2 ^ sa + (cb.toNat * diff).tdiv (2 ^ sb) := rfl

theorem secondOrderTerm_exact (v mula diva mulb tm tp : Int) :
    Id.run (secondOrderTerm exact v mula diva mulb tm tp) =
      v - ((mula * tm).tdiv diva + mulb * tp) := rfl

theorem tempCorrect_exact (diffmul diffdiv diff temp : Int) :
    Id.run (tempCorrect exact diffmul diffdiv diff temp) =
      temp - (diffmul * diff * diff).tdiv diffdiv := rfl

theorem selectBranch_exact_low {temp : Int} (h : temp < 2000) (h' : ¬temp < -1500) :
    Id.run (selectBranch exact k temp) =
      ⟨k.diffmull, (2 : Int) ^ k.diffdivls, k.offmull, (2 : Int) ^ k.offdivls, k.sensmull,
        (2 : Int) ^ k.sensdivls, 0, 0⟩ := by
  simp only [selectBranch, if_pos h, if_neg h']; rfl

theorem selectBranch_exact_high {temp : Int} (h : ¬temp < 2000) :
    Id.run (selectBranch exact k temp) =
      ⟨k.diffmulh, (2 : Int) ^ k.diffdivhs, k.offmulh, (2 : Int) ^ k.offdivhs, k.sensmulh,
        (2 : Int) ^ k.sensdivhs, 0, 0⟩ := by
  simp only [selectBranch, if_neg h]; rfl

theorem pressure_exact (rawpress : Nat) (off sens : Int) :
    Id.run (pressure exact k rawpress off sens) =
      ((rawpress * sens).tdiv (2 ^ 21) - off).tdiv (2 ^ k.pressdivs) := rfl

end Exact

/-! ## The spec's formula -/

/-- The Compensation Engine of the spec (§4.5, steps 2–8) from a given `diff`, in integers with
truncating division: the second-order temperature and the pressure before the model's
post-correction. -/
def specFromDiff (k : Consts) (c : Calib) (rawpress : Nat) (diff : Int) : Int × Int :=
  let temp : Int := 2000 + (diff * c.c6.toNat).tdiv (2 ^ 23)
  let off : Int := c.c2.toNat * 2 ^ k.c2s + (c.c4.toNat * diff).tdiv (2 ^ k.c4s)
  let sens : Int := c.c1.toNat * 2 ^ k.c1s + (c.c3.toNat * diff).tdiv (2 ^ k.c3s)
  let (diffmul, diffdivs, offmula, offdivs, sensmula, sensdivs, offmulb, sensmulb) :
      Int × Nat × Int × Nat × Int × Nat × Int × Int :=
    if temp < 2000 then
      (k.diffmull, k.diffdivls, k.offmull, k.offdivls, k.sensmull, k.sensdivls,
        if temp < -1500 then k.offmulvl else 0, if temp < -1500 then k.sensmulvl else 0)
    else (k.diffmulh, k.diffdivhs, k.offmulh, k.offdivhs, k.sensmulh, k.sensdivhs, 0, 0)
  let tm := (temp - 2000) ^ 2
  let tp := (temp + 1500) ^ 2
  let off := off - ((offmula * tm).tdiv (2 ^ offdivs) + offmulb * tp)
  let sens := sens - ((sensmula * tm).tdiv (2 ^ sensdivs) + sensmulb * tp)
  let temp := temp - (diffmul * diff ^ 2).tdiv (2 ^ diffdivs)
  (temp, ((rawpress * sens).tdiv (2 ^ 21) - off).tdiv (2 ^ k.pressdivs))

/-- The spec's Compensation Engine: step 1, `diff = rawtemp - C5 * 256`, then steps 2–8. The spec
gives step 9, the post-correction, by its shape only (a term above 110000 for one model, one
proportional to `30 - vdd` for another), so it is the source's, `postCorrect`. -/
def specCompensate (vdd : Int) (model : Model) (k : Consts) (c : Calib)
    (rawpress rawtemp : Nat) : Int × Int :=
  let (temp, press) := specFromDiff k c rawpress (rawtemp - c.c5.toNat * 256)
  (temp, Id.run (postCorrect exact vdd model c temp press))

/-- The source computes steps 2–8 of the spec's formula from its own `diff`,
`rawtemp - C5 / 2^8`, and then applies its post-correction to their result. -/
theorem compensate_eq_specFromDiff (vdd : Int) (model : Model) (k : Consts) (c : Calib)
    (rawpress rawtemp : Nat) :
    Id.run (compensate exact vdd model k c rawpress rawtemp) =
      let (temp, press) := specFromDiff k c rawpress (rawtemp - (c.c5.toNat : Int).tdiv (2 ^ 8))
      (temp, Id.run (postCorrect exact vdd model c temp press)) := by
  simp only [compensate, firstOrder, secondOrder, specFromDiff, selectBranch, diffOf, tempOf,
    firstOrderTerm, secondOrderTerm, tempCorrect, pressure, exact, Id.run, Id.bind_eq, Id.pure_eq,
    pow_two, mul_assoc]
  split_ifs <;> rfl

/-- Calibration words of a unit of model `MS5803_02`. -/
def sampleCalib : Calib := ⟨46372, 43981, 29059, 27842, 31553, 28165, 0, 0⟩

/-- From the same inputs, the source stores 291.20 °C where the spec's formula gives
20.00 °C, and a pressure of 1752.95 where it gives 1100.02 mbar. -/
theorem compensate_ne_specCompensate :
    Id.run (compensate exact 30 .ms5803_02 (Consts.ofModel .ms5803_02) sampleCalib 6465444
        8077636) = (29120, 175295) ∧
      specCompensate 30 .ms5803_02 (Consts.ofModel .ms5803_02) sampleCalib 6465444 8077636 =
        (2000, 110002) := by
  decide

end Ms58xx
