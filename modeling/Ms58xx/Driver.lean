import Ms58xx.Measure

/-!
# Ms58xx.Driver

`ms58xx_setosr`, `ms58xx_ioctl` and `ms58xx_register`, and the device states a run of the driver
reaches: a successful `ms58xx_register`, then any sequence of `ms58xx_ioctl` calls, each with any
command and argument and on any bus (`Reachable`).

What one call can do to the device is said once (`Effect`, `ioctl_effect`, `ioctl_frame`,
`register_ok`); a call that fails changes nothing (`ioctl_error_unchanged`), and each command
changes only its own fields (`ioctl_fields`). The invariant of the reachable states follows
(`DevInv`, `devInv_of_reachable`):

* the constants are the model's table, so `compensate_checked` covers every measurement
  (`measure_stores_checked`);
* `osr` and `delay` are the pair `ms58xx_setosr` writes for one supported ratio `256 * 2^k`
  (`OsrPair`). The ratio bits are `(2^k - 1) * 2`, not `2 * k`; for `k = 4` and `k = 5` the
  pressure and temperature commands `ms58xx_convert` writes are the same byte
  (`reachable_osr_commands_collide`), and for those ratios only
  (`reachable_commands_collide_iff`).

What the coefficients and the reading of a reachable state came from needs the run's history,
which `Ms58xx.History` keeps.

`ms58xx_ioctl` hands `SNIOC_OVERSAMPLING`'s argument to `ms58xx_setosr` as a `uint16_t`, so the
ratio accepted is the argument modulo `2^16` (`ioctl_oversampling_iff`).
-/

namespace Ms58xx

/-- The `switch` of `ms58xx_setosr`: the conversion time of a ratio, `none` where it returns
`-EINVAL`. -/
def osrDelay (model : Model) : Nat → Option Nat
  | 256 => some 600
  | 512 => some 1170
  | 1024 => some 2280
  | 2048 => some 4540
  | 4096 => some 9040
  | 8192 => if model.compact then some 18080 else none
  | _ => none

/-- `priv->osr = (osr / 256 - 1) * 2;` -/
def osrBits (osr : BitVec 16) : BitVec 8 :=
  BitVec.ofInt 8 ((((osr.toNat / 256 : Nat) : Int) - 1) * 2)

/-- Modelled from the spec: the `SNIOC_*` command numbers are defined in a header that is not
among the sources. Every other command is unrecognised. -/
inductive Cmd
  | measure | temperature | pressure | reset | oversampling | unrecognized
deriving DecidableEq, Repr

/-- The fields `ms58xx_register` writes before `ms58xx_setosr`: the address, the model, zero
readings and the constant tables. -/
def registerPriv (addr : BitVec 8) (model : Model) (priv : Dev) : Dev :=
  { priv with addr := addr, model := model, temp := 0, press := 0,
              consts := registerConsts priv.consts model }

section Driver

variable {σ : Type} (P : Platform σ)

/-- `ms58xx_setosr`. -/
def setosr (osr : BitVec 16) : Drv σ Unit := do
  let priv ← getPriv
  match osrDelay priv.model osr.toNat with
  | none => throw EINVAL
  | some delay => setPriv { priv with delay := delay, osr := osrBits osr }

/-- `ms58xx_ioctl` on the device's `priv`; `vdd` is `CONFIG_MS58XX_VDD`. It returns the value it
writes through the pointer argument of `SNIOC_TEMPERATURE` and `SNIOC_PRESSURE`. -/
def ioctl (vdd : Int) (cmd : Cmd) (arg : Nat) : Drv σ (Option Int) :=
  match cmd with
  | .measure => do measure P vdd; pure none
  | .temperature => do pure (some (← getPriv).temp)
  | .pressure => do pure (some (← getPriv).press)
  | .reset => do reset P; pure none
  | .oversampling => do setosr (BitVec.ofNat 16 arg); pure none
  | .unrecognized => throw ENOTTY

/-- `ms58xx_register`, run on the memory `kmm_malloc` returns. -/
def register (devpath : String) (addr : BitVec 8) (osr : BitVec 16) (model : Model) :
    Drv σ Unit := do
  let allocated ← kmmMalloc P
  if allocated then
    modifyPriv (registerPriv addr model)
    setosr osr
    reset P
    ofExcept (← registerDriver P devpath)
  else throw ENOMEM

/-! ## What one call does -/

theorem setosr_cases (osr : BitVec 16) (d : Dev) (s : σ) :
    (osrDelay d.model osr.toNat = none ∧ setosr osr (d, s) = (.error EINVAL, d, s)) ∨
      ∃ delay, osrDelay d.model osr.toNat = some delay ∧
        setosr osr (d, s) = (.ok (), { d with delay := delay, osr := osrBits osr }, s) := by
  simp only [setosr]
  rw [Drv.bind_run_ok (getPriv_run _)]
  cases osrDelay d.model osr.toNat with
  | none => exact .inl ⟨rfl, rfl⟩
  | some delay => exact .inr ⟨delay, rfl, rfl⟩

/-- Everything `reset` can do: succeed, after the reset command and every PROM read succeeded
and the CRC matched, with new coefficients decoded from the words just read; or fail with `priv`
as it was. -/
theorem reset_spec (d : Dev) (s : σ) :
    (∃ s1 words s2 prom, P.write s d.addr [resetReg] = (.ok (), s1) ∧
      readWords P 0 (promLayout d.model).1 (d, s1) = (.ok words, d, s2) ∧
      words.length = (promLayout d.model).1 ∧ promCheck d.model words = some prom ∧
      reset P (d, s) = (.ok (), { d with calib := promCalib d.model prom }, s2)) ∨
    ∃ e s', reset P (d, s) = (.error e, d, s') := by
  rcases reset_cases P d s with ⟨e, s1, -, h⟩ | ⟨s1, hw, h⟩
  · exact .inr ⟨e, s1, h⟩
  obtain ⟨r, s2, hr, hp⟩ := readprom_cases P d s1
  rw [hp] at h
  rcases r with e | words
  · exact .inr ⟨e, s2, h⟩
  cases hc : promCheck d.model words with
  | none => simp only [hc] at h; exact .inr ⟨_, s2, h⟩
  | some prom =>
    simp only [hc] at h
    exact .inl ⟨s1, words, s2, prom, hw, hr, readWords_length P 0 _ _ _ words hr, hc, h⟩

/-- What one call of the driver can do to the device. -/
inductive Effect (vdd : Int) (d : Dev) : Dev → Prop
  | keep : Effect vdd d d
  | measured (rawpress rawtemp : Nat) (hp : rawpress < 2 ^ 24) (ht : rawtemp < 2 ^ 24) :
      Effect vdd d { d with
        temp := (Id.run (compensate exact vdd d.model d.consts d.calib rawpress rawtemp)).1,
        press := (Id.run (compensate exact vdd d.model d.consts d.calib rawpress rawtemp)).2 }
  | calibrated (words prom : List (BitVec 16)) (h : promCheck d.model words = some prom) :
      Effect vdd d { d with calib := promCalib d.model prom }
  | oversampled (osr : BitVec 16) (delay : Nat) (h : osrDelay d.model osr.toNat = some delay) :
      Effect vdd d { d with delay := delay, osr := osrBits osr }

theorem Drv.state_bind_pure {α β : Type} (x : Drv σ α) (b : β) (st : Dev × σ) :
    ((x >>= fun _ => pure b) st).2 = (x st).2 := by
  rcases h : x st with ⟨_ | a, st'⟩
  · rw [Drv.bind_run_error h]
  · rw [Drv.bind_run_ok h]; rfl

/-- Every call of `ms58xx_ioctl` changes the device in one of the ways `Effect` lists. -/
theorem ioctl_effect (vdd : Int) (cmd : Cmd) (arg : Nat) (d : Dev) (s : σ) :
    Effect vdd d (ioctl P vdd cmd arg (d, s)).2.1 := by
  cases cmd with
  | measure =>
    rw [ioctl, Drv.state_bind_pure]
    rcases measure_cases P vdd d s with ⟨e, s', h⟩ | ⟨rp, rt, hp, ht, s', h⟩ <;> rw [h]
    · exact .keep
    · exact .measured rp.toNat rt.toNat hp ht
  | temperature | pressure => exact .keep
  | reset =>
    rw [ioctl, Drv.state_bind_pure]
    rcases reset_spec P d s with ⟨_, words, _, prom, -, -, -, hc, h⟩ | ⟨e, s', h⟩ <;> rw [h]
    · exact .calibrated words prom hc
    · exact .keep
  | oversampling =>
    rw [ioctl, Drv.state_bind_pure]
    rcases setosr_cases (BitVec.ofNat 16 arg) d s with ⟨-, h⟩ | ⟨delay, hd, h⟩ <;> rw [h]
    · exact .keep
    · exact .oversampled _ delay hd
  | unrecognized => exact .keep

theorem Drv.error_of_bind_pure {α β : Type} {x : Drv σ α} {b : β} {st : Dev × σ} {e : Errno}
    (h : ((x >>= fun _ => pure b) st).1 = .error e) : (x st).1 = .error e := by
  rcases hx : x st with ⟨_ | a, st'⟩
  · rw [Drv.bind_run_error hx] at h; obtain rfl := Except.error.inj h; rfl
  · rw [Drv.bind_run_ok hx] at h; cases h

theorem Drv.ok_of_bind_pure {β : Type} {x : Drv σ Unit} {b : β} {st : Dev × σ}
    (h : ((x >>= fun _ => pure b) st).1 = .ok b) :
    x st = (.ok (), ((x >>= fun _ => pure b) st).2) := by
  rcases hx : x st with ⟨_ | u, st'⟩
  · rw [Drv.bind_run_error hx] at h; cases h
  · rw [Drv.bind_run_ok hx]; rfl

/-- A failed call of `ms58xx_ioctl` leaves the device as it was, whatever the command. -/
theorem ioctl_error_unchanged (vdd : Int) (cmd : Cmd) (arg : Nat) (d : Dev) (s : σ) {e : Errno}
    (h : (ioctl P vdd cmd arg (d, s)).1 = .error e) : (ioctl P vdd cmd arg (d, s)).2.1 = d := by
  cases cmd with
  | measure =>
    rw [ioctl, Drv.state_bind_pure]
    rw [ioctl] at h
    have he := Drv.error_of_bind_pure h
    rcases measure_cases P vdd d s with ⟨_, _, hm⟩ | ⟨_, _, -, -, _, hm⟩ <;> rw [hm] at he ⊢
    cases he
  | temperature | pressure => cases h
  | reset =>
    rw [ioctl, Drv.state_bind_pure]
    rw [ioctl] at h
    have he := Drv.error_of_bind_pure h
    rcases reset_spec P d s with ⟨_, _, _, _, -, -, -, -, hr⟩ | ⟨_, _, hr⟩ <;> rw [hr] at he ⊢
    cases he
  | oversampling =>
    rw [ioctl, Drv.state_bind_pure]
    rw [ioctl] at h
    have he := Drv.error_of_bind_pure h
    rcases setosr_cases (BitVec.ofNat 16 arg) d s with ⟨-, hs⟩ | ⟨_, -, hs⟩ <;> rw [hs] at he ⊢
    cases he
  | unrecognized => rfl

/-- What a call of `ms58xx_ioctl` keeps, on any bus: the address, the model and the constants
always; the coefficients unless it is a successful `SNIOC_RESET`, the reading unless it is a
successful `SNIOC_MEASURE`, and the ratio bits and the delay unless it is a successful
`SNIOC_OVERSAMPLING`. -/
theorem ioctl_frame (vdd : Int) (cmd : Cmd) (arg : Nat) (d : Dev) (s : σ) :
    (ioctl P vdd cmd arg (d, s)).2.1.addr = d.addr ∧
      (ioctl P vdd cmd arg (d, s)).2.1.model = d.model ∧
      (ioctl P vdd cmd arg (d, s)).2.1.consts = d.consts ∧
      (¬ (cmd = .measure ∧ (ioctl P vdd cmd arg (d, s)).1 = .ok none) →
        (ioctl P vdd cmd arg (d, s)).2.1.temp = d.temp ∧
          (ioctl P vdd cmd arg (d, s)).2.1.press = d.press) ∧
      (¬ (cmd = .reset ∧ (ioctl P vdd cmd arg (d, s)).1 = .ok none) →
        (ioctl P vdd cmd arg (d, s)).2.1.calib = d.calib) ∧
      (¬ (cmd = .oversampling ∧ (ioctl P vdd cmd arg (d, s)).1 = .ok none) →
        (ioctl P vdd cmd arg (d, s)).2.1.osr = d.osr ∧
          (ioctl P vdd cmd arg (d, s)).2.1.delay = d.delay) := by
  cases cmd with
  | measure =>
    simp only [ioctl]
    rcases measure_cases P vdd d s with ⟨_, _, h⟩ | ⟨_, _, -, -, _, h⟩
    · rw [Drv.bind_run_error h]; simp
    · rw [Drv.bind_run_ok h]; simp
  | temperature | pressure | unrecognized =>
    exact ⟨rfl, rfl, rfl, fun _ => ⟨rfl, rfl⟩, fun _ => rfl, fun _ => ⟨rfl, rfl⟩⟩
  | reset =>
    simp only [ioctl]
    rcases reset_spec P d s with ⟨_, _, _, _, -, -, -, -, h⟩ | ⟨_, _, h⟩
    · rw [Drv.bind_run_ok h]; simp
    · rw [Drv.bind_run_error h]; simp
  | oversampling =>
    simp only [ioctl]
    rcases setosr_cases (BitVec.ofNat 16 arg) d s with ⟨-, h⟩ | ⟨_, -, h⟩
    · rw [Drv.bind_run_error h]; simp
    · rw [Drv.bind_run_ok h]; simp

/-- Each command of `ms58xx_ioctl` changes only its own fields, on any bus: the address, the
model and the constants never change; only `SNIOC_MEASURE` changes the reading, only
`SNIOC_RESET` the coefficients, and only `SNIOC_OVERSAMPLING` the ratio bits and the delay. -/
theorem ioctl_fields (vdd : Int) (cmd : Cmd) (arg : Nat) (d : Dev) (s : σ) :
    (ioctl P vdd cmd arg (d, s)).2.1.addr = d.addr ∧
      (ioctl P vdd cmd arg (d, s)).2.1.model = d.model ∧
      (ioctl P vdd cmd arg (d, s)).2.1.consts = d.consts ∧
      (cmd ≠ .measure → (ioctl P vdd cmd arg (d, s)).2.1.temp = d.temp ∧
        (ioctl P vdd cmd arg (d, s)).2.1.press = d.press) ∧
      (cmd ≠ .reset → (ioctl P vdd cmd arg (d, s)).2.1.calib = d.calib) ∧
      (cmd ≠ .oversampling → (ioctl P vdd cmd arg (d, s)).2.1.osr = d.osr ∧
        (ioctl P vdd cmd arg (d, s)).2.1.delay = d.delay) := by
  obtain ⟨ha, hm, hk, hr, hc, ho⟩ := ioctl_frame P vdd cmd arg d s
  exact ⟨ha, hm, hk, fun h => hr (h ·.1), fun h => hc (h ·.1), fun h => ho (h ·.1)⟩

/-- A successful `ms58xx_register` ends with a successful `ms58xx_reset` of the device it set
up (the arguments, zero readings, the model's constants and the ratio's delay and bits), on the
bus as `kmm_malloc` left it. -/
theorem register_ok_reset {devpath : String} {addr : BitVec 8} {osr : BitVec 16} {model : Model}
    {d0 d : Dev} {s s' : σ} (h : register P devpath addr osr model (d0, s) = (.ok (), d, s')) :
    ∃ delay s2, osrDelay model osr.toNat = some delay ∧
      reset P ({ registerPriv addr model d0 with delay := delay, osr := osrBits osr },
        (P.kmmMalloc s).2) = (.ok (), d, s2) := by
  obtain ⟨allocated, st1, h1, h⟩ := Drv.bind_ok_inv h
  cases h1
  cases hm : (P.kmmMalloc s).1
  · rw [hm] at h; cases h
  rw [hm, if_pos rfl] at h
  obtain ⟨_, st2, h2, h⟩ := Drv.bind_ok_inv h
  cases h2
  obtain ⟨_, st3, h3, h⟩ := Drv.bind_ok_inv h
  rcases setosr_cases osr _ _ with ⟨-, he⟩ | ⟨delay, hd, he⟩ <;> rw [he] at h3 <;> cases h3
  obtain ⟨_, ⟨d4, s4⟩, h4, h⟩ := Drv.bind_ok_inv h
  obtain ⟨_, st5, h5, h⟩ := Drv.bind_ok_inv h
  cases h5
  simp only [Drv.ofExcept_run, Prod.mk.injEq] at h
  rw [← h.2.1]
  exact ⟨delay, _, hd, h4⟩

/-- What a successful `ms58xx_register` leaves: the arguments, zero readings, the model's
constants, the conversion time and bits of the ratio, and the coefficients of a PROM image that
passed the CRC check. -/
theorem register_ok {devpath : String} {addr : BitVec 8} {osr : BitVec 16} {model : Model}
    {d0 d : Dev} {s s' : σ} (h : register P devpath addr osr model (d0, s) = (.ok (), d, s')) :
    ∃ delay words prom, osrDelay model osr.toNat = some delay ∧
      promCheck model words = some prom ∧
      d = { d0 with addr := addr, model := model, temp := 0, press := 0,
                    consts := Consts.ofModel model, delay := delay, osr := osrBits osr,
                    calib := promCalib model prom } := by
  obtain ⟨delay, s2, hd, hr⟩ := register_ok_reset P h
  rcases reset_spec P _ _ with ⟨_, words, _, prom, -, -, -, hc, he⟩ | ⟨e, _, he⟩ <;>
    rw [he] at hr <;> cases hr
  exact ⟨delay, words, prom, hd, hc, by simp only [registerPriv, Consts.ofModel_eq]⟩

end Driver

/-! ## Reachable states -/

/-- The device states a run of the driver reaches: a successful `ms58xx_register`, then any
sequence of `ms58xx_ioctl` calls, each with any command and argument and on any bus. -/
inductive Reachable (vdd : Int) : Dev → Prop
  | register {σ : Type} (P : Platform σ) (devpath : String) (addr : BitVec 8) (osr : BitVec 16)
      (model : Model) (d0 : Dev) (s : σ) {d : Dev} {s' : σ} :
      register P devpath addr osr model (d0, s) = (.ok (), d, s') → Reachable vdd d
  | ioctl {σ : Type} (P : Platform σ) (cmd : Cmd) (arg : Nat) (s : σ) {d : Dev} :
      Reachable vdd d → Reachable vdd (ioctl P vdd cmd arg (d, s)).2.1

/-- The ratio bits and the conversion time `ms58xx_setosr` writes for the ratio `256 * 2^k`. -/
def OsrPair (model : Model) (osr : BitVec 8) (delay : Nat) : Prop :=
  ∃ k < 6, osr = BitVec.ofNat 8 ((2 ^ k - 1) * 2) ∧
    delay = [600, 1170, 2280, 4540, 9040, 18080].getD k 0 ∧ (k = 5 → model.compact)

theorem osrPair_of_osrDelay {model : Model} {osr : BitVec 16} {delay : Nat}
    (h : osrDelay model osr.toNat = some delay) : OsrPair model (osrBits osr) delay := by
  rw [osrBits]
  generalize osr.toNat = n at h ⊢
  unfold osrDelay at h
  split at h <;> (try split at h) <;> cases h
  exacts [⟨0, by decide, by decide, rfl, by omega⟩, ⟨1, by decide, by decide, rfl, by omega⟩,
    ⟨2, by decide, by decide, rfl, by omega⟩, ⟨3, by decide, by decide, rfl, by omega⟩,
    ⟨4, by decide, by decide, rfl, by omega⟩, ⟨5, by decide, by decide, rfl, fun _ => ‹_›⟩]

/-- The two conversion commands of a supported ratio are the same byte exactly for the ratios
4096 and 8192, whose conversion times are 9040 and 18080 us. -/
theorem OsrPair.commands_eq_iff {model : Model} {osr : BitVec 8} {delay : Nat}
    (h : OsrPair model osr delay) : pressReg ||| osr = tempReg ||| osr ↔ 9040 ≤ delay := by
  obtain ⟨k, hk, rfl, rfl, -⟩ := h
  interval_cases k <;> decide

/-- The invariant of the reachable states. -/
structure DevInv (d : Dev) : Prop where
  consts : d.consts = Consts.ofModel d.model
  osr : OsrPair d.model d.osr d.delay

theorem Effect.inv {vdd : Int} {d d' : Dev} (he : Effect vdd d d') (hi : DevInv d) :
    DevInv d' := by
  cases he with
  | keep => exact hi
  | measured | calibrated => exact ⟨hi.consts, hi.osr⟩
  | oversampled osr delay h => exact ⟨hi.consts, osrPair_of_osrDelay h⟩

theorem devInv_of_reachable {vdd : Int} {d : Dev} (hd : Reachable vdd d) : DevInv d := by
  induction hd with
  | register P devpath addr osr model d0 s h =>
    obtain ⟨delay, words, prom, hd, -, rfl⟩ := register_ok P h
    exact ⟨rfl, osrPair_of_osrDelay hd⟩
  | ioctl P cmd arg s _ ih => exact (ioctl_effect P _ cmd arg _ s).inv ih

/-! ## A run on a quiet bus -/

/-- A bus on which every transfer succeeds and every read returns zeros: its PROM is all zeros,
which passes the CRC check. -/
def zeroBus : Platform Unit where
  write _ _ _ := (.ok (), ())
  read _ _ _ := (.ok fun _ => 0, ())
  udelay _ _ := ()
  kmmMalloc _ := (true, ())
  registerDriver _ _ := (.ok (), ())

/-- A device structure whose memory held zeros. -/
def zeroDev : Dev := ⟨0, .ms5803_02, 0, 0, 0, 0, ⟨0, 0, 0, 0, 0, 0, 0, 0⟩, Consts.ofModel .ms5803_02⟩

theorem readWords_zeroBus (i n : Nat) (d : Dev) :
    readWords zeroBus i n (d, ()) = (.ok (List.replicate n 0), d, ()) := by
  induction n generalizing i with
  | zero => rfl
  | succ n ih =>
    rw [readWords, Drv.bind_run_ok (rfl : readu16 zeroBus _ (d, ()) = (.ok 0, d, ())),
      Drv.bind_run_ok (ih _)]
    rfl

theorem reset_zeroBus {prom : List (BitVec 16)} (d : Dev)
    (hc : promCheck d.model (List.replicate (promLayout d.model).1 0) = some prom) :
    reset zeroBus (d, ()) = (.ok (), { d with calib := promCalib d.model prom }, ()) := by
  rcases reset_cases zeroBus d () with ⟨e, s1, hw, -⟩ | ⟨s1, -, h⟩
  · cases hw
  obtain ⟨r, s2, hr, hp⟩ := readprom_cases zeroBus d s1
  rw [readWords_zeroBus] at hr
  cases hr
  rw [h, hp]
  simp only [hc]

theorem register_zeroBus (addr : BitVec 8) (osr : BitVec 16) (model : Model) {delay : Nat}
    {prom : List (BitVec 16)} (hd : osrDelay model osr.toNat = some delay)
    (hc : promCheck model (List.replicate (promLayout model).1 0) = some prom) (d0 : Dev) :
    register zeroBus "/dev/press0" addr osr model (d0, ()) =
      (.ok (), { registerPriv addr model d0 with delay := delay, osr := osrBits osr,
                                                 calib := promCalib model prom }, ()) := by
  rw [register, Drv.bind_run_ok (kmmMalloc_run _ _ _),
    if_pos (show (zeroBus.kmmMalloc ()).1 = true from rfl), Drv.bind_run_ok (modifyPriv_run _ _)]
  have hm : (registerPriv addr model d0).model = model := rfl
  rcases setosr_cases osr (registerPriv addr model d0) () with ⟨hn, -⟩ | ⟨delay', hd', hs⟩
  · rw [hm, hd] at hn; cases hn
  rw [hm, hd] at hd'
  cases hd'
  rw [Drv.bind_run_ok hs,
    Drv.bind_run_ok (reset_zeroBus { registerPriv addr model d0 with delay := delay, osr := osrBits osr } hc)]
  rfl

/-- A registration on `zeroBus` starts a run. -/
theorem reachable_zeroBus (vdd : Int) (addr : BitVec 8) (osr : BitVec 16) (model : Model)
    (prom : List (BitVec 16)) {delay : Nat} (hd : osrDelay model osr.toNat = some delay)
    (hc : promCheck model (List.replicate (promLayout model).1 0) = some prom) :
    Reachable vdd { registerPriv addr model zeroDev with delay := delay, osr := osrBits osr,
                                                         calib := promCalib model prom } :=
  .register zeroBus "/dev/press0" addr osr model zeroDev () (register_zeroBus addr osr model hd hc _)

/-- The state a registration of an `MS5803_02` at `0x76` with the ratio 4096 leaves on
`zeroBus`. -/
def zeroRun : Dev :=
  { registerPriv 0x76 .ms5803_02 zeroDev with delay := 9040, osr := osrBits 4096,
                                              calib := promCalib .ms5803_02 (List.replicate 8 0) }

set_option maxRecDepth 40000 in
theorem reachable_zeroRun (vdd : Int) : Reachable vdd zeroRun :=
  reachable_zeroBus vdd 0x76 4096 .ms5803_02 _ rfl (by decide)

/-! ## Runs -/

/-- In every reachable state `osr` and `delay` are the pair `ms58xx_setosr` writes for one
supported ratio. -/
theorem reachable_osr_delay {vdd : Int} {d : Dev} (hd : Reachable vdd d) :
    OsrPair d.model d.osr d.delay :=
  (devInv_of_reachable hd).osr

theorem reachable_osr_delay_zeroRun :
    Reachable 0 zeroRun ∧ OsrPair zeroRun.model zeroRun.osr zeroRun.delay :=
  ⟨reachable_zeroRun 0, reachable_osr_delay (reachable_zeroRun 0)⟩

set_option maxRecDepth 40000 in
/-- A run registered with the ratio 4096 holds the ratio bits 30, and its pressure and
temperature commands are both `0x5e`. -/
theorem reachable_osr_commands_collide (vdd : Int) :
    ∃ d, Reachable vdd d ∧ d.osr = 30#8 ∧ d.delay = 9040 ∧ pressReg ||| d.osr = tempReg ||| d.osr :=
  ⟨zeroRun, reachable_zeroRun vdd, by decide⟩

/-- A measurement in a reachable state either fails with `priv` as it was, or stores what the
overflow-checked reading of `ms58xx_measure`'s arithmetic returns for two 24-bit ADC values. -/
theorem measure_stores_checked {vdd : Int} {d : Dev} (hd : Reachable vdd d) {σ : Type}
    (P : Platform σ) (s : σ) :
    (∃ e s', measure P vdd (d, s) = (.error e, d, s')) ∨
      ∃ rawpress rawtemp : Nat, rawpress < 2 ^ 24 ∧ rawtemp < 2 ^ 24 ∧ ∃ temp press s',
        compensate checked vdd d.model d.consts d.calib rawpress rawtemp = some (temp, press) ∧
          measure P vdd (d, s) = (.ok (), { d with temp := temp, press := press }, s') := by
  rcases measure_cases P vdd d s with h | ⟨rp, rt, hp, ht, s', h⟩
  · exact .inl h
  have hk : ConstsBounds d.consts := (devInv_of_reachable hd).consts ▸ Consts.ofModel_bounds _
  exact .inr ⟨rp.toNat, rt.toNat, hp, ht, _, _, s',
    compensate_checked_of_bounds vdd d.model hk d.calib hp ht, h⟩

theorem measure_stores_checked_zeroRun :
    Reachable 0 zeroRun ∧
      ((∃ e s', measure zeroBus 0 (zeroRun, ()) = (.error e, zeroRun, s')) ∨
        ∃ rawpress rawtemp : Nat, rawpress < 2 ^ 24 ∧ rawtemp < 2 ^ 24 ∧ ∃ temp press s',
          compensate checked 0 zeroRun.model zeroRun.consts zeroRun.calib rawpress rawtemp =
              some (temp, press) ∧
            measure zeroBus 0 (zeroRun, ()) =
              (.ok (), { zeroRun with temp := temp, press := press }, s')) :=
  ⟨reachable_zeroRun 0, measure_stores_checked (reachable_zeroRun 0) zeroBus ()⟩

/-- A bus on which every write succeeds and every read fails with `-EIO`. -/
def readFails : Platform Unit where
  write _ _ _ := (.ok (), ())
  read _ _ _ := (.error ⟨-5, by decide⟩, ())
  udelay _ _ := ()
  kmmMalloc _ := (true, ())
  registerDriver _ _ := (.ok (), ())

/-- `SNIOC_RESET` on `readFails`: the reset command goes out, the first PROM read fails, and the
device keeps its coefficients. -/
theorem ioctl_error_unchanged_readFails :
    (ioctl readFails 0 .reset 0 (zeroRun, ())).1 = .error ⟨-5, by decide⟩ ∧
      (ioctl readFails 0 .reset 0 (zeroRun, ())).2.1 = zeroRun :=
  ⟨rfl, ioctl_error_unchanged readFails 0 .reset 0 zeroRun () rfl⟩

/-- In every reachable state the pressure and the temperature commands `ms58xx_convert` writes
are the same byte exactly when the ratio is 4096 or 8192. -/
theorem reachable_commands_collide_iff {vdd : Int} {d : Dev} (hd : Reachable vdd d) :
    pressReg ||| d.osr = tempReg ||| d.osr ↔ 9040 ≤ d.delay :=
  (devInv_of_reachable hd).osr.commands_eq_iff

theorem reachable_commands_collide_iff_zeroRun :
    Reachable 0 zeroRun ∧ (pressReg ||| zeroRun.osr = tempReg ||| zeroRun.osr ↔ 9040 ≤ zeroRun.delay) :=
  ⟨reachable_zeroRun 0, reachable_commands_collide_iff (reachable_zeroRun 0)⟩

/-! ## The oversampling command -/

theorem osrDelay_eq_none_iff (model : Model) (n : Nat) :
    osrDelay model n = none ↔
      ¬ (n ∈ [256, 512, 1024, 2048, 4096] ∨ (n = 8192 ∧ model.compact)) := by
  unfold osrDelay
  split <;> (try split) <;> simp_all

section Driver

variable {σ : Type} (P : Platform σ)

/-- `SNIOC_OVERSAMPLING` returns `OK` exactly when its argument modulo `2^16` is a ratio the
model supports; otherwise it returns `-EINVAL` with the device and the bus as they were. -/
theorem ioctl_oversampling_iff (vdd : Int) (arg : Nat) (d : Dev) (s : σ) :
    ((ioctl P vdd .oversampling arg (d, s)).1 = .ok none ↔
      arg % 2 ^ 16 ∈ [256, 512, 1024, 2048, 4096] ∨ (arg % 2 ^ 16 = 8192 ∧ d.model.compact)) ∧
    ((ioctl P vdd .oversampling arg (d, s)).1 ≠ .ok none →
      ioctl P vdd .oversampling arg (d, s) = (.error EINVAL, d, s)) := by
  have hn : (BitVec.ofNat 16 arg).toNat = arg % 2 ^ 16 := BitVec.toNat_ofNat _ _
  rcases setosr_cases (BitVec.ofNat 16 arg) d s with ⟨hd, h⟩ | ⟨delay, hd, h⟩
  · have he : ioctl P vdd .oversampling arg (d, s) = (.error EINVAL, d, s) := by
      rw [ioctl, Drv.bind_run_error h]
    rw [hn, osrDelay_eq_none_iff] at hd
    rw [he]
    exact ⟨⟨fun h => Except.noConfusion h, fun h => absurd h hd⟩, fun _ => rfl⟩
  · have ho : (ioctl P vdd .oversampling arg (d, s)).1 = .ok none := by
      rw [ioctl, Drv.bind_run_ok h]; rfl
    have hs : osrDelay d.model (arg % 2 ^ 16) ≠ none := by rw [← hn, hd]; exact Option.some_ne_none _
    rw [Ne, osrDelay_eq_none_iff, not_not] at hs
    exact ⟨iff_of_true ho hs, fun h => absurd ho h⟩

end Driver

/-- The argument 65792 is not a ratio, but its low 16 bits are 256: the command returns `OK`
and sets the ratio 256. -/
theorem ioctl_oversampling_wraps :
    65792 ∉ [256, 512, 1024, 2048, 4096, 8192] ∧
      ioctl zeroBus 0 .oversampling 65792 (zeroDev, ()) =
        (.ok none, { zeroDev with delay := 600, osr := 0 }, ()) :=
  ⟨by decide, rfl⟩

end Ms58xx
