import Ms58xx.Device

/-!
# Ms58xx.Drv

How the driver's functions run. A function of `ms58xx.c` reads and writes the device structure
`priv` and talks to the platform: the I2C lower half, the busy-wait timer, the allocator and the
driver registry. `Drv σ α` runs on `priv` and the platform's state `σ`; it either returns an `α`
or stops early with the negated errno value the C function returned. An early return keeps every
write made before it, as in C.

A `Platform σ` is any behaviour of the lower half: each transfer may fail with any errno and a
read may return any bytes, as a function of a state that every call may change. The driver's
results are stated for every `σ` and every `Platform σ`.

* `Drv.bind_run_ok`, `Drv.bind_run_error`: the two ways a sequence continues, and
  `Drv.bind_ok_inv`: a sequence that succeeded ran its first part to success.
* `Drv.Frames`: a computation leaves `priv` unchanged; it is closed under `bind`, so a function
  built from framing parts frames.
-/

namespace Ms58xx

/-- A negated errno value: what the lower half and the driver return on failure. -/
structure Errno where
  val : Int
  neg : val < 0
deriving DecidableEq, Repr

/-- Modelled from the spec: `errno.h` is not among the sources; §7 names the error kinds and the
code the macros, whose values are NuttX's. -/
def ENOMEM : Errno := ⟨-12, by decide⟩
def ENODEV : Errno := ⟨-19, by decide⟩
def EINVAL : Errno := ⟨-22, by decide⟩
def ENOTTY : Errno := ⟨-25, by decide⟩

/-- The C return value of a driver function: `OK` or the negated errno. -/
def Errno.ret {α : Type} : Except Errno α → Int
  | .ok _ => 0
  | .error e => e.val

/-- The platform the driver runs on, with state `σ`. Every I2C transfer goes to the address set
by the `I2C_SETADDRESS` before it, the device's `addr`. -/
structure Platform (σ : Type) where
  /-- `I2C_WRITE`: `OK` or a negated errno. -/
  write : σ → BitVec 8 → List (BitVec 8) → Except Errno Unit × σ
  /-- `I2C_READ` of `n` bytes, a restart after the write before it. -/
  read : σ → BitVec 8 → (n : Nat) → Except Errno (Fin n → BitVec 8) × σ
  /-- `up_udelay`: a busy wait of that many microseconds. -/
  udelay : σ → Nat → σ
  /-- `kmm_malloc` of the device structure: whether it returned memory. -/
  kmmMalloc : σ → Bool × σ
  /-- `register_driver` of the character device at a path. -/
  registerDriver : σ → String → Except Errno Unit × σ

/-- A driver function on `priv` and the platform state. -/
def Drv (σ α : Type) : Type := Dev × σ → Except Errno α × Dev × σ

namespace Drv

variable {σ α β : Type}

instance : Monad (Drv σ) where
  pure a := fun st => (.ok a, st)
  bind x f := fun st =>
    match x st with
    | (.ok a, st') => f a st'
    | (.error e, st') => (.error e, st')

instance : MonadExceptOf Errno (Drv σ) where
  throw e := fun st => (.error e, st)
  tryCatch x h := fun st =>
    match x st with
    | (.error e, st') => h e st'
    | r => r

@[simp] theorem pure_run (a : α) (st : Dev × σ) : (pure a : Drv σ α) st = (.ok a, st) := rfl

@[simp] theorem throw_run (e : Errno) (st : Dev × σ) :
    (throw e : Drv σ α) st = (.error e, st) := rfl

@[simp] theorem ofExcept_run (r : Except Errno α) (st : Dev × σ) :
    (ofExcept r : Drv σ α) st = (r, st) := by
  cases r <;> rfl

theorem bind_run_ok {x : Drv σ α} {st st' : Dev × σ} {a : α} (h : x st = (.ok a, st'))
    (f : α → Drv σ β) : (x >>= f) st = f a st' := by
  show (match x st with | (.ok a, st') => f a st' | (.error e, st') => (.error e, st')) = _
  rw [h]

theorem bind_run_error {x : Drv σ α} {st st' : Dev × σ} {e : Errno} (h : x st = (.error e, st'))
    (f : α → Drv σ β) : (x >>= f) st = (.error e, st') := by
  show (match x st with | (.ok a, st') => f a st' | (.error e, st') => (.error e, st')) = _
  rw [h]

/-- A sequence that succeeded ran its first part to success. -/
theorem bind_ok_inv {x : Drv σ α} {f : α → Drv σ β} {st st' : Dev × σ} {b : β}
    (h : (x >>= f) st = (.ok b, st')) : ∃ a st1, x st = (.ok a, st1) ∧ f a st1 = (.ok b, st') := by
  rcases hx : x st with ⟨_ | a, st1⟩
  · rw [bind_run_error hx] at h; cases h
  · exact ⟨a, st1, rfl, by rwa [bind_run_ok hx] at h⟩

/-- A sequence that failed failed in its first part, or ran it to success and failed after. -/
theorem bind_error_inv {x : Drv σ α} {f : α → Drv σ β} {st st' : Dev × σ} {e : Errno}
    (h : (x >>= f) st = (.error e, st')) :
    (x st).1 = .error e ∨ ∃ a st1, x st = (.ok a, st1) ∧ f a st1 = (.error e, st') := by
  rcases hx : x st with ⟨e' | a, st1⟩
  · rw [bind_run_error hx] at h; cases h; exact .inl rfl
  · exact .inr ⟨a, st1, rfl, by rwa [bind_run_ok hx] at h⟩

/-- `x` leaves `priv` unchanged. -/
def Frames (x : Drv σ α) : Prop := ∀ st, (x st).2.1 = st.1

theorem Frames.bind {x : Drv σ α} {f : α → Drv σ β} (hx : Frames x)
    (hf : ∀ a, Frames (f a)) : Frames (x >>= f) := by
  intro st
  rcases h : x st with ⟨_ | a, st'⟩
  · rw [bind_run_error h]; simpa [h] using hx st
  · rw [bind_run_ok h, hf a st']; simpa [h] using hx st

theorem frames_pure (a : α) : Frames (pure a : Drv σ α) := fun _ => rfl

theorem frames_ofExcept (r : Except Errno α) : Frames (ofExcept r : Drv σ α) := fun _ => by simp

/-- A framing computation returns `priv` as it found it. -/
theorem Frames.run {x : Drv σ α} (hx : Frames x) (d : Dev) (s : σ) :
    ∃ r s', x (d, s) = (r, d, s') :=
  ⟨(x (d, s)).1, (x (d, s)).2.2, by
    have := hx (d, s)
    rcases h : x (d, s) with ⟨r, d', s'⟩
    rw [h] at this
    simp_all⟩

end Drv

section Primitives

variable {σ : Type} (P : Platform σ)

/-- Read `priv`. -/
def getPriv : Drv σ Dev := fun st => (.ok st.1, st)

/-- Replace `priv`: the field writes of a C function, at once. -/
def setPriv (d : Dev) : Drv σ Unit := fun st => (.ok (), d, st.2)

/-- `I2C_SETADDRESS(priv->i2c, priv->addr, 7)` and `I2C_WRITE`: its return value. -/
def i2cWrite (buf : List (BitVec 8)) : Drv σ (Except Errno Unit) :=
  fun st => (.ok (P.write st.2 st.1.addr buf).1, st.1, (P.write st.2 st.1.addr buf).2)

/-- `I2C_READ` of `n` bytes: its return value and the buffer. -/
def i2cRead (n : Nat) : Drv σ (Except Errno (Fin n → BitVec 8)) :=
  fun st => (.ok (P.read st.2 st.1.addr n).1, st.1, (P.read st.2 st.1.addr n).2)

/-- `up_udelay`. -/
def udelay (us : Nat) : Drv σ Unit := fun st => (.ok (), st.1, P.udelay st.2 us)

/-- `kmm_malloc` of the device structure: whether it returned memory. The structure then holds
whatever the memory held, the `priv` the computation runs on. -/
def kmmMalloc : Drv σ Bool := fun st => (.ok (P.kmmMalloc st.2).1, st.1, (P.kmmMalloc st.2).2)

/-- `register_driver`: its return value. -/
def registerDriver (path : String) : Drv σ (Except Errno Unit) :=
  fun st => (.ok (P.registerDriver st.2 path).1, st.1, (P.registerDriver st.2 path).2)

@[simp] theorem getPriv_run (st : Dev × σ) : (getPriv : Drv σ Dev) st = (.ok st.1, st) := rfl

@[simp] theorem setPriv_run (d : Dev) (st : Dev × σ) :
    (setPriv d : Drv σ Unit) st = (.ok (), d, st.2) := rfl

@[simp] theorem i2cWrite_run (buf : List (BitVec 8)) (d : Dev) (s : σ) :
    i2cWrite P buf (d, s) = (.ok (P.write s d.addr buf).1, d, (P.write s d.addr buf).2) := rfl

@[simp] theorem i2cRead_run (n : Nat) (d : Dev) (s : σ) :
    i2cRead P n (d, s) = (.ok (P.read s d.addr n).1, d, (P.read s d.addr n).2) := rfl

@[simp] theorem udelay_run (us : Nat) (d : Dev) (s : σ) :
    udelay P us (d, s) = (.ok (), d, P.udelay s us) := rfl

@[simp] theorem kmmMalloc_run (d : Dev) (s : σ) :
    kmmMalloc P (d, s) = (.ok (P.kmmMalloc s).1, d, (P.kmmMalloc s).2) := rfl

@[simp] theorem registerDriver_run (path : String) (d : Dev) (s : σ) :
    registerDriver P path (d, s) =
      (.ok (P.registerDriver s path).1, d, (P.registerDriver s path).2) := rfl

theorem frames_getPriv : Drv.Frames (getPriv : Drv σ Dev) := fun _ => rfl
theorem frames_i2cWrite (buf : List (BitVec 8)) : Drv.Frames (i2cWrite P buf) := fun _ => rfl
theorem frames_i2cRead (n : Nat) : Drv.Frames (i2cRead P n) := fun _ => rfl
theorem frames_udelay (us : Nat) : Drv.Frames (udelay P us) := fun _ => rfl

end Primitives

end Ms58xx
