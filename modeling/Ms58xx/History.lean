import Ms58xx.Driver
import Ms58xx.Detection

/-!
# Ms58xx.History

What the coefficients and the reading of a reachable state came from. `Reachable` forgets the
history of a run; `Run` keeps two ghost records of it, each stated through the bus and the
callee that produced it:

* the words the last successful `ms58xx_reset` read (`ResetRead`): the reset inside
  `ms58xx_register`, then each successful `SNIOC_RESET`;
* the coefficients the device held at its last successful `SNIOC_MEASURE`, with the values its
  two `ms58xx_convert` calls returned (`ConvertRead`); `none` before any.

Every reachable state has such a history (`Run.reachable`, `run_of_reachable`). What a reset
makes of the words it read is stated in the terms of `ms58xx_readprom`'s own steps, not through
`promCheck` and `promCalib` (`Decoded`). Along a run:

* `reset_all_or_nothing`: each `ms58xx_reset` either succeeds, after the reset command and every
  PROM read succeeded and the nibble equalled `ms58xx_crc` of the masked block, with `c1..c8`
  taken from the words just read; or fails with the error the bus returned for the reset
  command or for a PROM transfer, or with `-ENODEV` on a CRC mismatch, and `priv` as it was. The
  coefficients of every state are decoded from the words the last successful reset read.
* `run_reading`: the reading is the zeros of `ms58xx_register`, or the overflow-free
  compensation, under the coefficients held at the last measurement, of the values its two
  conversions returned.
-/

namespace Ms58xx

/-- What a successful `ms58xx_reset` makes of the words it read, in the terms of
`ms58xx_readprom`'s own steps: as many words as the model's PROM holds; their CRC nibble equals
`ms58xx_crc` of the block with the nibble cleared; `c1..c6` are words 1..6, and `c7`, `c8` the bit
fields of word 7 that lines 428–457 mask out for the two models that have them. -/
structure Decoded (model : Model) (words : List (BitVec 16)) (c : Calib) : Prop where
  length : words.length = (promLayout model).1
  nibble : promNibble model words = crc (promBytes (promMasked model words))
  c1 : c.c1 = words.getD 1 0
  c2 : c.c2 = words.getD 2 0
  c3 : c.c3 = words.getD 3 0
  c4 : c.c4 = words.getD 4 0
  c5 : c.c5 = words.getD 5 0
  c6 : c.c6 = words.getD 6 0
  c7 : c.c7 = match model with
    | .ms5803_07 => ((words.getD 7 0 &&& 0x03f0#16) >>> 4).setWidth 8
    | .ms5806_02 => ((words.getD 7 0 &&& 0x0ff0#16) >>> 4).setWidth 8
    | _ => 0
  c8 : c.c8 = match model with
    | .ms5803_07 => ((words.getD 7 0 &&& 0xf700#16) >>> 10).setWidth 8
    | _ => 0

theorem decoded_of_promCheck {model : Model} {words prom : List (BitVec 16)}
    (hw : words.length = (promLayout model).1) (hc : promCheck model words = some prom) :
    Decoded model words (promCalib model prom) := by
  have hn := promNibble_of_check model hc
  obtain rfl : prom = promMasked model words := by
    rw [promCheck_eq, hn] at hc
    simpa using hc.symm
  have hk : ∀ k, 1 ≤ k → k ≤ 6 → (promMasked model words).getD k 0 = words.getD k 0 :=
    fun k h1 h6 => getD_promMasked_ne model words (by rw [promLayout_index]; split <;> omega)
  have h7 : model.compact = false →
      (promMasked model words).getD 7 0 = words.getD 7 0 &&& ~~~0xf#16 := by
    intro hm
    have := getD_promMasked_index model hw
    rwa [promLayout_index, hm, if_neg Bool.false_ne_true, promMask, promLayout_shift, hm,
      if_neg Bool.false_ne_true, BitVec.shiftLeft_zero] at this
  have hm : ~~~0xf#16 &&& 0x03f0#16 = 0x03f0#16 ∧ ~~~0xf#16 &&& 0x0ff0#16 = 0x0ff0#16 ∧
      ~~~0xf#16 &&& 0xf700#16 = 0xf700#16 := by decide
  refine ⟨hw, hn, hk 1 (by decide) (by decide), hk 2 (by decide) (by decide),
    hk 3 (by decide) (by decide), hk 4 (by decide) (by decide), hk 5 (by decide) (by decide),
    hk 6 (by decide) (by decide), ?_, ?_⟩ <;> cases model <;>
  first
  | rfl
  | simp only [promCalib, h7 rfl, BitVec.and_assoc, hm.1, hm.2.1, hm.2.2]

section Bus

variable {σ : Type} (P : Platform σ)

/-- `words` are what the PROM reads of an `ms58xx_reset` from `(d, s)` returned: the reset
command was written, and the loop of `ms58xx_readprom` read `words`. -/
def ResetRead (d : Dev) (s : σ) (words : List (BitVec 16)) : Prop :=
  ∃ s1 s2, P.write s d.addr [resetReg] = (.ok (), s1) ∧
    readWords P 0 (promLayout d.model).1 (d, s1) = (.ok words, d, s2)

/-- `rawpress` and `rawtemp` are what the two `ms58xx_convert` calls of an `ms58xx_measure` from
`(d, s)` returned. -/
def ConvertRead (d : Dev) (s : σ) (rawpress rawtemp : Nat) : Prop :=
  ∃ (a b : BitVec 32) (s1 s2 : σ), convert P pressReg (d, s) = (.ok a, d, s1) ∧
    convert P tempReg (d, s1) = (.ok b, d, s2) ∧ a.toNat = rawpress ∧ b.toNat = rawtemp

/-- `e` is what the bus returned to one of the transfers of the PROM loop on the address `addr`:
the write of one of the first `len` PROM addresses, or a two-byte read. -/
def PromTransferError (addr : BitVec 8) (len : Nat) (e : Errno) : Prop :=
  (∃ s k, k < len ∧ (P.write s addr [promReg + BitVec.ofNat 8 (k * 2)]).1 = .error e) ∨
    ∃ s, (P.read s addr 2).1 = .error e

/-- Everything `ms58xx_reset` can do, stated without `promCheck` and `promCalib`. -/
theorem reset_outcomes (d : Dev) (s : σ) :
    (∃ s1 words s2 c, P.write s d.addr [resetReg] = (.ok (), s1) ∧
      readWords P 0 (promLayout d.model).1 (d, s1) = (.ok words, d, s2) ∧
      Decoded d.model words c ∧ reset P (d, s) = (.ok (), { d with calib := c }, s2)) ∨
    (∃ e s1, P.write s d.addr [resetReg] = (.error e, s1) ∧ reset P (d, s) = (.error e, d, s1)) ∨
    (∃ s1 e s2, P.write s d.addr [resetReg] = (.ok (), s1) ∧
      readWords P 0 (promLayout d.model).1 (d, s1) = (.error e, d, s2) ∧
      PromTransferError P d.addr (promLayout d.model).1 e ∧ reset P (d, s) = (.error e, d, s2)) ∨
    (∃ s1 words s2, P.write s d.addr [resetReg] = (.ok (), s1) ∧
      readWords P 0 (promLayout d.model).1 (d, s1) = (.ok words, d, s2) ∧
      promNibble d.model words ≠ crc (promBytes (promMasked d.model words)) ∧
      reset P (d, s) = (.error ENODEV, d, s2)) := by
  rcases reset_cases P d s with ⟨e, s1, hw, h⟩ | ⟨s1, hw, h⟩
  · exact .inr (.inl ⟨e, s1, hw, h⟩)
  obtain ⟨r, s2, hr, hp⟩ := readprom_cases P d s1
  rw [hp] at h
  rcases r with e | words
  · have he : PromTransferError P d.addr (promLayout d.model).1 e :=
      (readWords_error P 0 (promLayout d.model).1 (by rw [hr])).imp_left
        fun ⟨s', k, _, hk, hw'⟩ => ⟨s', k, by omega, hw'⟩
    exact .inr (.inr (.inl ⟨s1, e, s2, hw, hr, he, h⟩))
  have hl := readWords_length P 0 _ _ _ words hr
  cases hc : promCheck d.model words with
  | none =>
    simp only [hc] at h
    refine .inr (.inr (.inr ⟨s1, words, s2, hw, hr, fun hn => ?_, h⟩))
    rw [promCheck_eq, hn] at hc
    simp at hc
  | some prom =>
    simp only [hc] at h
    exact .inl ⟨s1, words, s2, _, hw, hr, decoded_of_promCheck hl hc, h⟩

theorem resetRead_of_ok {d d' : Dev} {s s' : σ} (h : reset P (d, s) = (.ok (), d', s')) :
    ∃ words, ResetRead P d s words := by
  rcases reset_spec P d s with ⟨s1, words, s2, -, hw, hr, -⟩ | ⟨e, s1, he⟩
  · exact ⟨words, s1, s2, hw, hr⟩
  · rw [he] at h; cases h

/-- After a successful reset, the coefficients are the decoding of the words its PROM reads
returned. -/
theorem reset_ok_decoded {d d' : Dev} {s s' : σ} {words : List (BitVec 16)}
    (hr : ResetRead P d s words) (h : reset P (d, s) = (.ok (), d', s')) :
    Decoded d'.model words d'.calib := by
  obtain ⟨s1, s2, hw, hrd⟩ := hr
  rcases reset_outcomes P d s with ⟨s1', words', s2', c, hw', hrd', hdec, he⟩ | ⟨e, s1', -, he⟩ |
      ⟨s1', e, s2', -, -, -, he⟩ | ⟨s1', words', s2', -, -, -, he⟩ <;> rw [he] at h <;> cases h
  cases hw.symm.trans hw'
  cases hrd.symm.trans hrd'
  exact hdec

theorem convertRead_of_ok {vdd : Int} {d d' : Dev} {s s' : σ}
    (h : measure P vdd (d, s) = (.ok (), d', s')) :
    ∃ rawpress rawtemp, ConvertRead P d s rawpress rawtemp := by
  obtain ⟨r1, s1, h1, -⟩ := convert_cases P pressReg d s
  obtain ⟨r2, s2, h2, -⟩ := convert_cases P tempReg d s1
  rcases r1 with e | a
  · cases h.symm.trans (Drv.bind_run_error h1 _)
  rcases r2 with e | b
  · cases h.symm.trans ((Drv.bind_run_ok h1 _).trans (Drv.bind_run_error h2 _))
  exact ⟨a.toNat, b.toNat, a, b, s1, s2, h1, h2, rfl, rfl⟩

end Bus

/-! ## Runs with their history -/

/-- The runs of the driver with two ghost records: the words the last successful `ms58xx_reset`
read, and the coefficients and raw values of the last successful `SNIOC_MEASURE`. Each call may
use any bus; a call that is neither a successful reset nor a successful measurement keeps both
records. -/
inductive Run (vdd : Int) : Dev → List (BitVec 16) → Option (Calib × Nat × Nat) → Prop
  | register {σ : Type} (P : Platform σ) (devpath : String) (addr : BitVec 8) (osr : BitVec 16)
      (model : Model) (d0 : Dev) (s : σ) {d : Dev} {s' : σ} {delay : Nat}
      {words : List (BitVec 16)} :
      register P devpath addr osr model (d0, s) = (.ok (), d, s') →
      osrDelay model osr.toNat = some delay →
      ResetRead P { registerPriv addr model d0 with delay := delay, osr := osrBits osr }
        (P.kmmMalloc s).2 words →
      Run vdd d words none
  | reset {σ : Type} (P : Platform σ) (arg : Nat) (s : σ) {d : Dev}
      {words words' : List (BitVec 16)} {m : Option (Calib × Nat × Nat)} :
      Run vdd d words m → (ioctl P vdd .reset arg (d, s)).1 = .ok none →
      ResetRead P d s words' → Run vdd (ioctl P vdd .reset arg (d, s)).2.1 words' m
  | measure {σ : Type} (P : Platform σ) (arg : Nat) (s : σ) {d : Dev}
      {words : List (BitVec 16)} {m : Option (Calib × Nat × Nat)} {rawpress rawtemp : Nat} :
      Run vdd d words m → (ioctl P vdd .measure arg (d, s)).1 = .ok none →
      ConvertRead P d s rawpress rawtemp →
      Run vdd (ioctl P vdd .measure arg (d, s)).2.1 words (some (d.calib, rawpress, rawtemp))
  | other {σ : Type} (P : Platform σ) (cmd : Cmd) (arg : Nat) (s : σ) {d : Dev}
      {words : List (BitVec 16)} {m : Option (Calib × Nat × Nat)} :
      Run vdd d words m →
      ¬ ((cmd = .reset ∨ cmd = .measure) ∧ (ioctl P vdd cmd arg (d, s)).1 = .ok none) →
      Run vdd (ioctl P vdd cmd arg (d, s)).2.1 words m

theorem Run.reachable {vdd : Int} {d : Dev} {words : List (BitVec 16)}
    {m : Option (Calib × Nat × Nat)} (h : Run vdd d words m) : Reachable vdd d := by
  induction h with
  | register P devpath addr osr model d0 s h => exact .register P devpath addr osr model d0 s h
  | reset P arg s _ _ _ ih => exact .ioctl P .reset arg s ih
  | measure P arg s _ _ _ ih => exact .ioctl P .measure arg s ih
  | other P cmd arg s _ _ ih => exact .ioctl P cmd arg s ih

/-- Every reachable state is the end of a run with a history. -/
theorem run_of_reachable {vdd : Int} {d : Dev} (hd : Reachable vdd d) :
    ∃ words m, Run vdd d words m := by
  induction hd with
  | register P devpath addr osr model d0 s h =>
    obtain ⟨delay, s2, hdl, hr⟩ := register_ok_reset P h
    obtain ⟨words, hw⟩ := resetRead_of_ok P hr
    exact ⟨words, none, .register P devpath addr osr model d0 s h hdl hw⟩
  | @ioctl σ P cmd arg s d _ ih =>
    obtain ⟨words, m, hrun⟩ := ih
    by_cases hc : (cmd = .reset ∨ cmd = .measure) ∧ (ioctl P vdd cmd arg (d, s)).1 = .ok none
    · obtain ⟨rfl | rfl, hok⟩ := hc
      · obtain ⟨words', hw⟩ := resetRead_of_ok P (Drv.ok_of_bind_pure hok)
        exact ⟨words', m, .reset P arg s hrun hok hw⟩
      · obtain ⟨rp, rt, hcv⟩ := convertRead_of_ok P (Drv.ok_of_bind_pure hok)
        exact ⟨words, _, .measure P arg s hrun hok hcv⟩
    · exact ⟨words, m, .other P cmd arg s hrun hc⟩

/-- The coefficients of every state are decoded from the words the last successful reset
read. -/
theorem decoded_of_run {vdd : Int} {d : Dev} {words : List (BitVec 16)}
    {m : Option (Calib × Nat × Nat)} (h : Run vdd d words m) : Decoded d.model words d.calib := by
  induction h with
  | register P devpath addr osr model d0 s h hdl hw =>
    obtain ⟨delay', s2, hdl', hr⟩ := register_ok_reset P h
    cases hdl.symm.trans hdl'
    exact reset_ok_decoded P hw hr
  | @reset σ P arg s d words words' m _ hok hw _ =>
    exact reset_ok_decoded P hw (Drv.ok_of_bind_pure hok)
  | @measure σ P arg s d words m rp rt _ _ _ ih =>
    obtain ⟨-, hm, -, -, hc, -⟩ := ioctl_frame P vdd .measure arg d s
    rw [hm, hc (fun h => nomatch h.1)]
    exact ih
  | @other σ P cmd arg s d words m _ hn ih =>
    obtain ⟨-, hm, -, -, hc, -⟩ := ioctl_frame P vdd cmd arg d s
    rw [hm, hc (fun h => hn ⟨.inl h.1, h.2⟩)]
    exact ih

/-- `ms58xx_reset` either succeeds after the reset command and every PROM read succeeded and the
nibble equalled `ms58xx_crc` of the masked block, replacing `c1..c8`, and nothing else, by the
decoding of the words just read; or fails with the error the bus returned, or with `-ENODEV` on a
CRC mismatch, and `priv` as it was. So along every run the coefficients are decoded from the
words the last successful reset read, and every reachable state is the end of such a run. -/
theorem reset_all_or_nothing :
    (∀ {σ : Type} (P : Platform σ) (d : Dev) (s : σ),
      (∃ s1 words s2 c, P.write s d.addr [resetReg] = (.ok (), s1) ∧
        readWords P 0 (promLayout d.model).1 (d, s1) = (.ok words, d, s2) ∧
        Decoded d.model words c ∧ reset P (d, s) = (.ok (), { d with calib := c }, s2)) ∨
      (∃ e s1, P.write s d.addr [resetReg] = (.error e, s1) ∧
        reset P (d, s) = (.error e, d, s1)) ∨
      (∃ s1 e s2, P.write s d.addr [resetReg] = (.ok (), s1) ∧
        readWords P 0 (promLayout d.model).1 (d, s1) = (.error e, d, s2) ∧
        PromTransferError P d.addr (promLayout d.model).1 e ∧
        reset P (d, s) = (.error e, d, s2)) ∨
      (∃ s1 words s2, P.write s d.addr [resetReg] = (.ok (), s1) ∧
        readWords P 0 (promLayout d.model).1 (d, s1) = (.ok words, d, s2) ∧
        promNibble d.model words ≠ crc (promBytes (promMasked d.model words)) ∧
        reset P (d, s) = (.error ENODEV, d, s2))) ∧
    (∀ {vdd : Int} {d : Dev} {words : List (BitVec 16)} {m : Option (Calib × Nat × Nat)},
      Run vdd d words m → Decoded d.model words d.calib) ∧
    ∀ {vdd : Int} {d : Dev}, Reachable vdd d → ∃ words m, Run vdd d words m :=
  ⟨reset_outcomes, decoded_of_run, run_of_reachable⟩

set_option maxRecDepth 40000 in
/-- The registration of `zeroRun` on `zeroBus` reads the all-zero PROM. -/
theorem run_zeroRun (vdd : Int) : Run vdd zeroRun (List.replicate 8 0) none :=
  .register zeroBus "/dev/press0" 0x76 4096 .ms5803_02 zeroDev ()
    (@register_zeroBus 0x76 4096 .ms5803_02 9040 (List.replicate 8 0) rfl (by decide) zeroDev) rfl
    ⟨(), (), rfl, readWords_zeroBus 0 8 _⟩

set_option maxRecDepth 40000 in
/-- After the registration, a successful `SNIOC_RESET` on `zeroBus` reads the PROM again. -/
theorem reset_all_or_nothing_zeroRun :
    Run 0 (ioctl zeroBus 0 .reset 0 (zeroRun, ())).2.1 (List.replicate 8 0) none ∧
      Decoded (ioctl zeroBus 0 .reset 0 (zeroRun, ())).2.1.model (List.replicate 8 0)
        (ioctl zeroBus 0 .reset 0 (zeroRun, ())).2.1.calib := by
  have hok : (ioctl zeroBus 0 .reset 0 (zeroRun, ())).1 = .ok none := by
    rw [ioctl, Drv.bind_run_ok (@reset_zeroBus (List.replicate 8 0) zeroRun (by decide))]
    rfl
  have hrun := Run.reset zeroBus 0 () (run_zeroRun 0) hok ⟨(), (), rfl, readWords_zeroBus 0 8 _⟩
  exact ⟨hrun, reset_all_or_nothing.2.1 hrun⟩

/-- The reading a run leaves: the zeros of `ms58xx_register` before any measurement; after one,
the overflow-checked compensation, with the model's table, of the values its two conversions
returned under the coefficients held then. -/
def Reading (vdd : Int) (d : Dev) : Option (Calib × Nat × Nat) → Prop
  | none => d.temp = 0 ∧ d.press = 0
  | some (c, rawpress, rawtemp) => rawpress < 2 ^ 24 ∧ rawtemp < 2 ^ 24 ∧
      compensate checked vdd d.model d.consts c rawpress rawtemp = some (d.temp, d.press)

theorem Reading.congr {vdd : Int} {d d' : Dev} {m : Option (Calib × Nat × Nat)}
    (hr : Reading vdd d m) (hm : d'.model = d.model) (hk : d'.consts = d.consts)
    (ht : d'.temp = d.temp ∧ d'.press = d.press) : Reading vdd d' m := by
  rcases m with _ | ⟨c, rp, rt⟩ <;> simp only [Reading, hm, hk, ht.1, ht.2] at hr ⊢ <;> exact hr

/-- Along every run, the reading is the zeros of `ms58xx_register` before any measurement, and
after one the overflow-checked compensation, with the model's table, of the values the last
measurement's two conversions returned, under the coefficients the device held then. -/
theorem reading_of_run {vdd : Int} {d : Dev} {words : List (BitVec 16)}
    {m : Option (Calib × Nat × Nat)} (h : Run vdd d words m) : Reading vdd d m := by
  induction h with
  | register P devpath addr osr model d0 s h =>
    obtain ⟨_, _, _, -, -, rfl⟩ := register_ok P h
    exact ⟨rfl, rfl⟩
  | @reset σ P arg s d words words' m _ _ _ ih =>
    obtain ⟨-, hm, hk, ht, -⟩ := ioctl_frame P vdd .reset arg d s
    exact ih.congr hm hk (ht fun h => nomatch h.1)
  | @measure σ P arg s d words m rp rt hrun _ hcv _ =>
    obtain ⟨a, b, s1, s2, h1, h2, rfl, rfl⟩ := hcv
    have ha := convert_lt P h1
    have hb := convert_lt P h2
    have hk : ConstsBounds d.consts :=
      (devInv_of_reachable hrun.reachable).consts ▸ Consts.ofModel_bounds _
    rw [ioctl, Drv.bind_run_ok (measure_run P vdd h1 h2)]
    exact ⟨ha, hb, compensate_checked_of_bounds vdd d.model hk d.calib ha hb⟩
  | @other σ P cmd arg s d words m _ hn ih =>
    obtain ⟨-, hm, hk, ht, -⟩ := ioctl_frame P vdd cmd arg d s
    exact ih.congr hm hk (ht fun h => hn ⟨.inr h.1, h.2⟩)

/-- Along every run the reading is the one its history determines (`Reading`), and every
reachable state is the end of such a run. -/
theorem run_reading :
    (∀ {vdd : Int} {d : Dev} {words : List (BitVec 16)} {m : Option (Calib × Nat × Nat)},
      Run vdd d words m → Reading vdd d m) ∧
    ∀ {vdd : Int} {d : Dev}, Reachable vdd d → ∃ words m, Run vdd d words m :=
  ⟨reading_of_run, run_of_reachable⟩

theorem run_reading_zeroRun :
    Run 0 (ioctl zeroBus 0 .measure 0 (zeroRun, ())).2.1 (List.replicate 8 0)
        (some (zeroRun.calib, 0, 0)) ∧
      Reading 0 (ioctl zeroBus 0 .measure 0 (zeroRun, ())).2.1 (some (zeroRun.calib, 0, 0)) := by
  have hm := measure_run zeroBus 0
    (show convert zeroBus pressReg (zeroRun, ()) = (.ok 0, zeroRun, ()) from rfl)
    (show convert zeroBus tempReg (zeroRun, ()) = (.ok 0, zeroRun, ()) from rfl)
  have hok : (ioctl zeroBus 0 .measure 0 (zeroRun, ())).1 = .ok none := by
    rw [ioctl, Drv.bind_run_ok hm]
    rfl
  have hrun := Run.measure zeroBus 0 () (run_zeroRun 0) hok ⟨0, 0, (), (), rfl, rfl, rfl, rfl⟩
  exact ⟨hrun, run_reading.1 hrun⟩

end Ms58xx
