import Mathlib

/-!
# Ms58xx.Device

The data of `drivers/sensors/ms58xx.c`: the eight sensor models, the register addresses, the
device structure `ms58xx_dev_s` and the constant tables `ms58xx_register` installs for a model.

The device structure keeps the fields the driver reads or writes. Its calibration words `c1`..`c8`
are grouped as `Calib` and its per-model constants as `Consts`, so that `ms58xx_readprom` and
`ms58xx_register` are seen to replace one group each. The I2C handle is the `Platform` of
`Ms58xx.Drv`; `crcindex` and `crcshift` are declared in the structure but never used.

* `Consts.ofModel_eq`: whatever the freshly allocated structure held, the three `switch`
  statements of `ms58xx_register` leave the same constants, `Consts.ofModel`.
-/

namespace Ms58xx

/-- `enum ms58xx_model_e`. -/
inductive Model
  | ms5803_02 | ms5803_05 | ms5803_07 | ms5803_14 | ms5803_30 | ms5805_02 | ms5806_02 | ms5837_30
deriving DecidableEq, Repr

/-- The two models with a seven-word PROM, its CRC in word 0, and an oversampling ratio of
8192: the models `ms58xx_readprom` and `ms58xx_setosr` single out together. -/
def Model.compact : Model → Bool
  | .ms5805_02 | .ms5837_30 => true
  | _ => false

def resetReg : BitVec 8 := 0x1e
def pressReg : BitVec 8 := 0x40
def tempReg : BitVec 8 := 0x50
def adcReg : BitVec 8 := 0x00
def promReg : BitVec 8 := 0xa0
def promLen : Nat := 8

/-- Calibration coefficients. -/
structure Calib where
  c1 : BitVec 16
  c2 : BitVec 16
  c3 : BitVec 16
  c4 : BitVec 16
  c5 : BitVec 16
  c6 : BitVec 16
  c7 : BitVec 8
  c8 : BitVec 8
deriving DecidableEq, Repr

/-- Constants used when calculating the temperature and the pressure (all `uint8_t`). -/
structure Consts where
  c1s : Nat
  c2s : Nat
  c3s : Nat
  c4s : Nat
  diffmull : Nat
  diffdivls : Nat
  offmull : Nat
  offdivls : Nat
  sensmull : Nat
  sensdivls : Nat
  offmulvl : Nat
  sensmulvl : Nat
  diffmulh : Nat
  diffdivhs : Nat
  offmulh : Nat
  offdivhs : Nat
  sensmulh : Nat
  sensdivhs : Nat
  pressdivs : Nat
deriving DecidableEq, Repr

/-- `struct ms58xx_dev_s`: `temp` and `press` are `int32_t`, `osr` the oversampling ratio
bits, `delay` the conversion time in microseconds. -/
structure Dev where
  addr : BitVec 8
  model : Model
  temp : Int
  press : Int
  osr : BitVec 8
  delay : Nat
  calib : Calib
  consts : Consts
deriving DecidableEq, Repr

/-! ## The constant tables of `ms58xx_register` -/

/-- The first `switch`: the scaling exponents of `c1`..`c4`. -/
def setScalings (k : Consts) : Model → Consts
  | .ms5803_02 | .ms5805_02 | .ms5806_02 => { k with c1s := 16, c2s := 17, c3s := 7, c4s := 6 }
  | .ms5803_05 => { k with c1s := 17, c2s := 18, c3s := 7, c4s := 5 }
  | .ms5803_07 => { k with c1s := 17, c2s := 18, c3s := 6, c4s := 5 }
  | .ms5803_14 | .ms5803_30 | .ms5837_30 => { k with c1s := 15, c2s := 16, c3s := 8, c4s := 7 }

/-- The second `switch`: the second-order multipliers and divisor exponents. -/
def setSecondOrder (k : Consts) : Model → Consts
  | .ms5803_02 | .ms5806_02 =>
    { k with diffmull := 1, diffdivls := 31, offmull := 61, offdivls := 4, sensmull := 2,
             sensdivls := 0, offmulvl := 20, sensmulvl := 12, diffmulh := 0, diffdivhs := 0,
             offmulh := 0, offdivhs := 0, sensmulh := 0, sensdivhs := 0 }
  | .ms5803_05 | .ms5803_07 =>
    { k with diffmull := 3, diffdivls := 33, offmull := 3, offdivls := 3, sensmull := 7,
             sensdivls := 3, offmulvl := 0, sensmulvl := 3, diffmulh := 0, diffdivhs := 0,
             offmulh := 0, offdivhs := 0, sensmulh := 0, sensdivhs := 0 }
  | .ms5803_14 | .ms5803_30 =>
    { k with diffmull := 3, diffdivls := 33, offmull := 3, offdivls := 1, sensmull := 5,
             sensdivls := 3, offmulvl := 7, sensmulvl := 4, diffmulh := 7, diffdivhs := 37,
             offmulh := 1, offdivhs := 4, sensmulh := 0, sensdivhs := 0 }
  | .ms5805_02 =>
    { k with diffmull := 11, diffdivls := 35, offmull := 31, offdivls := 3, sensmull := 63,
             sensdivls := 5, offmulvl := 0, sensmulvl := 0, diffmulh := 0, diffdivhs := 0,
             offmulh := 0, offdivhs := 0, sensmulh := 0, sensdivhs := 0 }
  | .ms5837_30 =>
    { k with diffmull := 3, diffdivls := 33, offmull := 3, offdivls := 1, sensmull := 5,
             sensdivls := 3, offmulvl := 7, sensmulvl := 4, diffmulh := 2, diffdivhs := 37,
             offmulh := 1, offdivhs := 4, sensmulh := 0, sensdivhs := 0 }

/-- The third `switch`: the exponent of the final pressure division. -/
def setPressdivs (k : Consts) : Model → Consts
  | .ms5803_30 | .ms5837_30 => { k with pressdivs := 13 }
  | _ => { k with pressdivs := 15 }

/-- The three `switch` statements of `ms58xx_register`, in order, over the constants `k` the
structure held before. -/
def registerConsts (k : Consts) (model : Model) : Consts :=
  setPressdivs (setSecondOrder (setScalings k model) model) model

/-- The constants of a model. -/
def Consts.ofModel (model : Model) : Consts :=
  registerConsts ⟨0, 0, 0, 0, 0, 0, 0, 0, 0, 0, 0, 0, 0, 0, 0, 0, 0, 0, 0⟩ model

/-- Every field is written, so what the allocation held does not matter. -/
theorem Consts.ofModel_eq (k : Consts) (model : Model) :
    registerConsts k model = Consts.ofModel model := by
  cases model <;> rfl

end Ms58xx
