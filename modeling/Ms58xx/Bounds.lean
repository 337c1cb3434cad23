import Ms58xx.Compensate

/-!
# Ms58xx.Bounds

`ms58xx_measure` never leaves its C types: for every model's constant table, every calibration
and every pair of 24-bit ADC values, the checked reading of `compensate` returns the exact one.

The argument follows the statements of the source, one lemma a stage, each saying that the
checked reading of the stage returns the exact value and in what range that value lies:

* `firstOrder_checked`: `diff` lies in `(-256, 2^24)`, so the first-order `temp` is at least
  `1999`: the code's `diff` subtracts `C5 / 2^8`, at most `255`, from a non-negative `rawtemp`.
  Hence the second-order branch is the low one only at `temp = 1999`, where `tm = 1`, and the
  very-low branch is never taken (`firstOrder_temp_ge`).
* `secondOrder_checked`, `pressure_checked`, `postCorrect_checked`: the rest, from those ranges.
* `compensate_checked`: the whole computation, for the tables of `ms58xx_register`.

Bounds are stated on `Int.natAbs` as powers of two. Each intermediate is bounded from its
operands (`natAbs_mul_lt`, `natAbs_add_lt`, `natAbs_sub_lt`, `natAbs_tdiv_pow_lt`), and
`checked_int_of_lt` turns its bound into the success of its statement. `omega` is kept for
small contexts: it splits on every `natAbs` it sees.
-/

namespace Ms58xx

/-! ## The checked operations -/

theorem inRange_of_natAbs {w : Nat} {x : Int} (h : x.natAbs < 2 ^ (w - 1)) : InRange w x := by
  have hp : ((2 ^ (w - 1) : Nat) : Int) = 2 ^ (w - 1) := by push_cast; rfl
  unfold InRange; omega

theorem checked_int {w : Nat} {x : Int} (h : x.natAbs < 2 ^ (w - 1)) :
    checked.int w x = some x := by
  simp only [checked, if_pos (inRange_of_natAbs h)]

theorem checked_shl {w n : Nat} (h : n + 1 < w) : checked.shl w n = some (2 ^ n) := by
  simp [checked, h]

theorem checked_div {w : Nat} {a b : Int} (hb : b ≠ 0) (h : (a.tdiv b).natAbs < 2 ^ (w - 1)) :
    checked.div w a b = some (a.tdiv b) := by
  simp only [checked, if_neg hb, if_pos (inRange_of_natAbs h)]

theorem checked_int_of_lt {w n : Nat} {x : Int} (h : x.natAbs < 2 ^ n) (hn : n < w) :
    checked.int w x = some x :=
  checked_int (h.trans_le (Nat.pow_le_pow_right (by decide) (by omega)))

theorem checked_div_of_lt {w n : Nat} {a b : Int} (hb : b ≠ 0) (h : (a.tdiv b).natAbs < 2 ^ n)
    (hn : n < w) : checked.div w a b = some (a.tdiv b) :=
  checked_div hb (h.trans_le (Nat.pow_le_pow_right (by decide) (by omega)))

/-- One statement of the checked reading succeeded; the next runs on its value. -/
theorem bind_of_some {α β : Type} {x : Option α} {a : α} (h : x = some a) (f : α → Option β) :
    x >>= f = f a := by
  rw [h]; rfl

/-! ## Bounds on products and quotients -/

theorem natAbs_mul_lt {a b : Int} {m n : Nat} (ha : a.natAbs < 2 ^ m) (hb : b.natAbs < 2 ^ n) :
    (a * b).natAbs < 2 ^ (m + n) := by
  rw [Int.natAbs_mul, pow_add]; exact Nat.mul_lt_mul_of_lt_of_lt ha hb

theorem natAbs_lt_of_le {a : Int} {m n : Nat} (ha : a.natAbs < 2 ^ m) (hmn : m ≤ n) :
    a.natAbs < 2 ^ n :=
  ha.trans_le (Nat.pow_le_pow_right (by decide) hmn)

theorem natAbs_add_lt {a b : Int} {n : Nat} (ha : a.natAbs < 2 ^ n) (hb : b.natAbs < 2 ^ n) :
    (a + b).natAbs < 2 ^ (n + 1) := by
  have := Int.natAbs_add_le a b; rw [pow_succ]; omega

theorem natAbs_sub_lt {a b : Int} {n : Nat} (ha : a.natAbs < 2 ^ n) (hb : b.natAbs < 2 ^ n) :
    (a - b).natAbs < 2 ^ (n + 1) := by
  have := Int.natAbs_sub_le a b; rw [pow_succ]; omega

theorem natAbs_tdiv_pow (a : Int) (s : Nat) : (a.tdiv (2 ^ s)).natAbs = a.natAbs / 2 ^ s := by
  rw [Int.natAbs_tdiv, Int.natAbs_pow]; rfl

theorem natAbs_tdiv_pow_lt {a : Int} {n s : Nat} (h : a.natAbs < 2 ^ (n + s)) :
    (a.tdiv (2 ^ s)).natAbs < 2 ^ n := by
  rw [natAbs_tdiv_pow, Nat.div_lt_iff_lt_mul (by positivity), ← pow_add]; exact h

theorem natAbs_tdiv_le (a b : Int) : (a.tdiv b).natAbs ≤ a.natAbs := by
  rw [Int.natAbs_tdiv]; exact Nat.div_le_self _ _

theorem natAbs_toNat_lt {w : Nat} (x : BitVec w) : ((x.toNat : Int)).natAbs < 2 ^ w := by
  simpa using x.isLt

theorem natAbs_tdiv_lt {a b : Int} {n : Nat} (h : a.natAbs < n * b.natAbs) :
    (a.tdiv b).natAbs < n := by
  rw [Int.natAbs_tdiv]; exact Nat.div_lt_of_lt_mul (by rwa [Nat.mul_comm])

/-- A larger divisor exponent keeps a quotient bound. -/
theorem natAbs_tdiv_pow_lt_of_le {a : Int} {n s t : Nat} (h : a.natAbs < 2 ^ (n + t)) (hts : t ≤ s) :
    (a.tdiv (2 ^ s)).natAbs < 2 ^ n :=
  natAbs_tdiv_pow_lt (h.trans_le (Nat.pow_le_pow_right two_pos (by omega)))

/-! ## What the proof needs of a constant table -/

/-- The facts about a model's constants the range argument uses: every shift is below 63, and
the scalings and multipliers are small enough for `int64_t`. -/
structure ConstsBounds (k : Consts) : Prop where
  c1s : k.c1s ≤ 18
  c2s : k.c2s ≤ 18
  c3s : 5 ≤ k.c3s ∧ k.c3s < 63
  c4s : 5 ≤ k.c4s ∧ k.c4s < 63
  diffl : k.diffmull < 2 ^ 4 ∧ k.diffmull * 2 ^ 48 < 2 ^ 18 * 2 ^ k.diffdivls ∧ k.diffdivls < 63
  diffh : k.diffmulh < 2 ^ 4 ∧ k.diffmulh * 2 ^ 48 < 2 ^ 18 * 2 ^ k.diffdivhs ∧ k.diffdivhs < 63
  offl : k.offmull < 2 ^ 36 ∧ k.offdivls < 63
  sensl : k.sensmull < 2 ^ 36 ∧ k.sensdivls < 63
  offh : k.offmulh < 2 ^ 2 ∧ k.offdivhs < 63
  sensh : k.sensmulh < 2 ^ 2 ∧ k.sensdivhs < 63
  pressdivs : 13 ≤ k.pressdivs ∧ k.pressdivs < 63

theorem Consts.ofModel_bounds (model : Model) : ConstsBounds (Consts.ofModel model) := by
  cases model <;> constructor <;> decide

/-! ## First order -/

theorem diffOf_checked (c5 : BitVec 16) {rawtemp : Nat} (ht : rawtemp < 2 ^ 24) :
    diffOf checked c5 rawtemp = some (Id.run (diffOf exact c5 rawtemp)) ∧
      -256 < Id.run (diffOf exact c5 rawtemp) ∧ Id.run (diffOf exact c5 rawtemp) < 2 ^ 24 := by
  have h5 : ((c5.toNat : Int).tdiv (2 ^ 8)).natAbs < 2 ^ 8 :=
    natAbs_tdiv_pow_lt (natAbs_toNat_lt c5)
  have hq : 0 ≤ (c5.toNat : Int).tdiv (2 ^ 8) := Int.tdiv_nonneg (by omega) (by positivity)
  refine ⟨?_, by rw [diffOf_exact]; omega, by rw [diffOf_exact]; omega⟩
  rw [diffOf, bind_of_some (checked_int (by simpa using (by omega : rawtemp < 2 ^ 31))),
    bind_of_some (checked_shl (by decide)), bind_of_some (checked_div (by positivity) (by omega))]
  exact checked_int (by omega)

/-- `diff > -256` bounds the quotient by `2^23` from below by `-1`. -/
theorem tdiv_ge_neg_one {diff : Int} (c6 : BitVec 16) (hd : -256 < diff) :
    -1 ≤ (diff * c6.toNat).tdiv (2 ^ 23) := by
  rcases le_or_lt 0 diff with h | h
  · exact le_trans (by decide) (Int.tdiv_nonneg (Int.mul_nonneg h (by omega)) (by positivity))
  · have hp : (diff * c6.toNat).natAbs < 2 ^ (1 + 23) :=
      (natAbs_mul_lt (m := 8) (by omega) (natAbs_toNat_lt c6)).trans_le (by decide)
    have := natAbs_tdiv_pow_lt hp
    omega

/-- The first-order temperature from a `diff` above `-256` is at least `1999`. -/
theorem tempOf_ge (c6 : BitVec 16) {diff : Int} (hd : -256 < diff) :
    1999 ≤ Id.run (tempOf exact c6 diff) := by
  rw [tempOf_exact]; have := tdiv_ge_neg_one c6 hd; omega

theorem tempOf_checked (c6 : BitVec 16) {diff : Int} (hd : -256 < diff ∧ diff < 2 ^ 24) :
    tempOf checked c6 diff = some (Id.run (tempOf exact c6 diff)) ∧
      1999 ≤ Id.run (tempOf exact c6 diff) ∧ Id.run (tempOf exact c6 diff) < 2000 + 2 ^ 17 := by
  have hp : (diff * c6.toNat).natAbs < 2 ^ (17 + 23) :=
    natAbs_mul_lt (m := 24) (by omega) (natAbs_toNat_lt c6)
  have hq := natAbs_tdiv_pow_lt hp
  have hl := tdiv_ge_neg_one c6 hd.1
  refine ⟨?_, tempOf_ge c6 hd.1, by rw [tempOf_exact]; omega⟩
  rw [tempOf, bind_of_some (checked_int (by omega)), bind_of_some (checked_shl (by decide)),
    bind_of_some (checked_div (by positivity) (by omega)), bind_of_some (checked_int (by omega))]
  exact checked_int (by omega)

theorem firstOrderTerm_checked (ca cb : BitVec 16) {sa sb : Nat} {diff : Int} (hsa : sa ≤ 18)
    (hsb : 5 ≤ sb ∧ sb < 63) (hd : diff.natAbs < 2 ^ 24) :
    firstOrderTerm checked ca sa cb sb diff =
        some (Id.run (firstOrderTerm exact ca sa cb sb diff)) ∧
      (Id.run (firstOrderTerm exact ca sa cb sb diff)).natAbs < 2 ^ 36 := by
  have h1 : ((ca.toNat : Int) * 2 ^ sa).natAbs < 2 ^ (16 + 19) :=
    natAbs_mul_lt (natAbs_toNat_lt ca)
      (by rw [Int.natAbs_pow]; exact Nat.pow_lt_pow_right (by decide) (by omega))
  have h2 : ((cb.toNat : Int) * diff).natAbs < 2 ^ (16 + 24) :=
    natAbs_mul_lt (natAbs_toNat_lt cb) hd
  have h3 : (((cb.toNat : Int) * diff).tdiv (2 ^ sb)).natAbs < 2 ^ 35 :=
    natAbs_tdiv_pow_lt_of_le (t := 5) h2 hsb.1
  refine ⟨?_, by rw [firstOrderTerm_exact]; omega⟩
  rw [firstOrderTerm, bind_of_some (checked_shl (by omega)),
    bind_of_some (checked_int (by omega)), bind_of_some (checked_int (by omega)),
    bind_of_some (checked_shl (by omega)), bind_of_some (checked_div (by positivity) (by omega))]
  exact checked_int (by omega)

/-- The ranges of `diff`, `temp`, `off` and `sens` after the first-order statements. -/
structure FirstRange (v : First) : Prop where
  diff : -256 < v.diff ∧ v.diff < 2 ^ 24
  temp : 1999 ≤ v.temp ∧ v.temp < 2000 + 2 ^ 17
  off : v.off.natAbs < 2 ^ 36
  sens : v.sens.natAbs < 2 ^ 36

theorem firstOrder_checked {k : Consts} (hk : ConstsBounds k) (c : Calib) {rawtemp : Nat}
    (ht : rawtemp < 2 ^ 24) :
    firstOrder checked k c rawtemp = some (Id.run (firstOrder exact k c rawtemp)) ∧
      FirstRange (Id.run (firstOrder exact k c rawtemp)) := by
  obtain ⟨hd, hdr⟩ := diffOf_checked c.c5 ht
  obtain ⟨htm, htr⟩ := tempOf_checked c.c6 hdr
  have hda : (Id.run (diffOf exact c.c5 rawtemp)).natAbs < 2 ^ 24 := by omega
  obtain ⟨ho, hor⟩ := firstOrderTerm_checked c.c2 c.c4 hk.c2s hk.c4s hda
  obtain ⟨hs, hsr⟩ := firstOrderTerm_checked c.c1 c.c3 hk.c1s hk.c3s hda
  rw [firstOrder, bind_of_some hd, bind_of_some htm, bind_of_some ho, bind_of_some hs]
  exact ⟨rfl, hdr, htr, hor, hsr⟩

/-- The first-order temperature of the code is never below 19.99 °C. -/
theorem firstOrder_temp_ge (k : Consts) (c : Calib) (rawtemp : Nat) :
    1999 ≤ (Id.run (firstOrder exact k c rawtemp)).temp := by
  have hq : (c.c5.toNat : Int).tdiv (2 ^ 8) < 2 ^ 8 := by
    have := natAbs_tdiv_pow_lt (n := 8) (s := 8) (natAbs_toNat_lt c.c5); omega
  have hd : -256 < Id.run (diffOf exact c.c5 rawtemp) := by rw [diffOf_exact]; omega
  exact tempOf_ge c.c6 hd

/-! ## Second order -/

/-- What the second-order statements need of the selected branch at the first-order `temp`. -/
structure BranchBounds (b : Branch) (temp : Int) : Prop where
  diffmul : 0 ≤ b.diffmul ∧ b.diffmul < 2 ^ 4
  diffdiv : 0 < b.diffdiv ∧ b.diffmul * 2 ^ 48 < 2 ^ 18 * b.diffdiv
  offa : (b.offmula * ((temp - 2000) * (temp - 2000))).natAbs < 2 ^ 36 ∧ 0 < b.offdiva
  sensa : (b.sensmula * ((temp - 2000) * (temp - 2000))).natAbs < 2 ^ 36 ∧ 0 < b.sensdiva
  offmulb : b.offmulb = 0
  sensmulb : b.sensmulb = 0

theorem selectBranch_checked {k : Consts} (hk : ConstsBounds k) (temp : Int) :
    selectBranch checked k temp = some (Id.run (selectBranch exact k temp)) := by
  unfold selectBranch
  split
  · rw [bind_of_some (checked_shl (by have := hk.diffl; omega : k.diffdivls + 1 < 64)),
      bind_of_some (checked_shl (by have := hk.offl; omega : k.offdivls + 1 < 64)),
      bind_of_some (checked_shl (by have := hk.sensl; omega : k.sensdivls + 1 < 64))]
    split <;> rfl
  · rw [bind_of_some (checked_shl (by have := hk.diffh; omega : k.diffdivhs + 1 < 64)),
      bind_of_some (checked_shl (by have := hk.offh; omega : k.offdivhs + 1 < 64)),
      bind_of_some (checked_shl (by have := hk.sensh; omega : k.sensdivhs + 1 < 64))]
    rfl

/-- A multiplier below `2^m` times the square of `temp - 2000`, for `temp` in range. -/
theorem natAbs_mul_sq_lt {mul : Nat} {temp : Int} {m : Nat} (hm : mul < 2 ^ m)
    (ht : 0 ≤ temp - 2000 ∧ temp - 2000 < 2 ^ 17) :
    ((mul : Int) * ((temp - 2000) * (temp - 2000))).natAbs < 2 ^ (m + (17 + 17)) :=
  natAbs_mul_lt (by simpa using hm) (natAbs_mul_lt (by omega) (by omega))

theorem selectBranch_bounds {k : Consts} (hk : ConstsBounds k) {temp : Int}
    (ht : 1999 ≤ temp ∧ temp < 2000 + 2 ^ 17) :
    BranchBounds (Id.run (selectBranch exact k temp)) temp := by
  by_cases h : temp < 2000
  · -- low branch: only `temp = 1999`, where `tm = 1`
    have h1999 : temp = 1999 := by omega
    subst h1999
    rw [selectBranch_exact_low k h (by decide)]
    exact ⟨⟨by positivity, (by exact_mod_cast hk.diffl.1 : (k.diffmull : Int) < 2 ^ 4)⟩,
      ⟨by positivity, (by exact_mod_cast hk.diffl.2.1 :
        (k.diffmull : Int) * 2 ^ 48 < 2 ^ 18 * 2 ^ k.diffdivls)⟩,
      ⟨by simpa using hk.offl.1, by positivity⟩, ⟨by simpa using hk.sensl.1, by positivity⟩, rfl, rfl⟩
  · -- high branch
    rw [selectBranch_exact_high k h]
    have ht' : 0 ≤ temp - 2000 ∧ temp - 2000 < 2 ^ 17 := by omega
    exact ⟨⟨by positivity, (by exact_mod_cast hk.diffh.1 : (k.diffmulh : Int) < 2 ^ 4)⟩,
      ⟨by positivity, (by exact_mod_cast hk.diffh.2.1 :
        (k.diffmulh : Int) * 2 ^ 48 < 2 ^ 18 * 2 ^ k.diffdivhs)⟩,
      ⟨(natAbs_mul_sq_lt hk.offh.1 ht').trans_le (by decide), by positivity⟩,
      ⟨(natAbs_mul_sq_lt hk.sensh.1 ht').trans_le (by decide), by positivity⟩, rfl, rfl⟩

theorem secondOrderTerm_checked {v mula diva mulb tm : Int} (tp : Int) (hv : v.natAbs < 2 ^ 36)
    (hm : (mula * tm).natAbs < 2 ^ 36) (hd : 0 < diva) (hb : mulb = 0) :
    secondOrderTerm checked v mula diva mulb tm tp =
        some (Id.run (secondOrderTerm exact v mula diva mulb tm tp)) ∧
      (Id.run (secondOrderTerm exact v mula diva mulb tm tp)).natAbs < 2 ^ 37 := by
  subst hb
  have hq := natAbs_tdiv_le (mula * tm) diva
  refine ⟨?_, by rw [secondOrderTerm_exact]; simp only [zero_mul, add_zero]; omega⟩
  rw [secondOrderTerm, bind_of_some (checked_int (by omega)),
    bind_of_some (checked_div hd.ne' (by omega)), bind_of_some (checked_int (by simp)),
    bind_of_some (checked_int (by simp only [zero_mul, add_zero]; omega))]
  exact checked_int (by simp only [zero_mul, add_zero]; omega)

theorem tempCorrect_checked {diffmul diffdiv diff temp : Int}
    (hm : 0 ≤ diffmul ∧ diffmul < 2 ^ 4) (hdiv : 0 < diffdiv ∧ diffmul * 2 ^ 48 < 2 ^ 18 * diffdiv)
    (hd : diff.natAbs < 2 ^ 24) (ht : temp.natAbs < 2 ^ 18) :
    tempCorrect checked diffmul diffdiv diff temp =
        some (Id.run (tempCorrect exact diffmul diffdiv diff temp)) ∧
      (Id.run (tempCorrect exact diffmul diffdiv diff temp)).natAbs < 2 ^ 19 := by
  have h1 : (diffmul * diff).natAbs < 2 ^ (4 + 24) := natAbs_mul_lt (by omega) hd
  have h2 : (diffmul * diff * diff).natAbs ≤ diffmul.natAbs * 2 ^ 48 := by
    rw [Int.natAbs_mul, Int.natAbs_mul, mul_assoc, show (2 : Nat) ^ 48 = 2 ^ 24 * 2 ^ 24 by norm_num]
    exact Nat.mul_le_mul_left _ (Nat.mul_le_mul hd.le hd.le)
  have h3 : ((diffmul * diff * diff).tdiv diffdiv).natAbs < 2 ^ 18 := by
    have : diffmul.natAbs * 2 ^ 48 < 2 ^ 18 * diffdiv.natAbs := by omega
    rw [Int.natAbs_tdiv]
    exact (Nat.div_lt_iff_lt_mul (by omega)).2 (by omega)
  have h4 := natAbs_sub_lt ht h3
  refine ⟨?_, by rw [tempCorrect_exact]; exact h4⟩
  rw [tempCorrect, bind_of_some (checked_int_of_lt h1 (by decide)),
    bind_of_some (checked_int_of_lt (natAbs_mul_lt h1 hd) (by decide)),
    bind_of_some (checked_div_of_lt hdiv.1.ne' h3 (by decide)),
    bind_of_some (checked_int_of_lt h3 (by decide))]
  exact checked_int_of_lt h4 (by decide)

/-- The ranges of `temp`, `off` and `sens` after the second-order statements. -/
structure SecondRange (w : Second) : Prop where
  temp : w.temp.natAbs < 2 ^ 19
  off : w.off.natAbs < 2 ^ 37
  sens : w.sens.natAbs < 2 ^ 37

theorem secondOrder_checked {k : Consts} (hk : ConstsBounds k) {v : First} (hv : FirstRange v) :
    secondOrder checked k v = some (Id.run (secondOrder exact k v)) ∧
      SecondRange (Id.run (secondOrder exact k v)) := by
  have hb := selectBranch_bounds hk hv.temp
  have hvt := hv.temp
  have ht : v.temp.natAbs < 2 ^ 18 := by omega
  have htm : ((v.temp - 2000) * (v.temp - 2000)).natAbs < 2 ^ (18 + 18) :=
    natAbs_mul_lt (by omega) (by omega)
  have htp : ((v.temp + 1500) * (v.temp + 1500)).natAbs < 2 ^ (19 + 19) :=
    natAbs_mul_lt (by omega) (by omega)
  obtain ⟨ho, hor⟩ := secondOrderTerm_checked ((v.temp + 1500) * (v.temp + 1500)) hv.off
    hb.offa.1 hb.offa.2 hb.offmulb
  obtain ⟨hs, hsr⟩ := secondOrderTerm_checked ((v.temp + 1500) * (v.temp + 1500)) hv.sens
    hb.sensa.1 hb.sensa.2 hb.sensmulb
  obtain ⟨htc, htcr⟩ := tempCorrect_checked hb.diffmul hb.diffdiv
    (by have := hv.diff; omega : v.diff.natAbs < 2 ^ 24) ht
  rw [secondOrder, bind_of_some (selectBranch_checked hk v.temp),
    bind_of_some (checked_int (by omega)), bind_of_some (checked_int (by omega)),
    bind_of_some (checked_int (by omega)), bind_of_some (checked_int (by omega)),
    bind_of_some ho, bind_of_some hs, bind_of_some htc]
  exact ⟨rfl, htcr, hor, hsr⟩

/-! ## Pressure and post-correction -/

theorem pressure_checked {k : Consts} (hk : ConstsBounds k) {rawpress : Nat} {off sens : Int}
    (hp : rawpress < 2 ^ 24) (hoff : off.natAbs < 2 ^ 37) (hsens : sens.natAbs < 2 ^ 37) :
    pressure checked k rawpress off sens = some (Id.run (pressure exact k rawpress off sens)) ∧
      (Id.run (pressure exact k rawpress off sens)).natAbs < 2 ^ 28 := by
  have h1 : ((rawpress : Int) * sens).natAbs < 2 ^ (24 + 37) :=
    natAbs_mul_lt (by simpa using hp) hsens
  have h2 : (((rawpress : Int) * sens).tdiv (2 ^ 21)).natAbs < 2 ^ 40 := natAbs_tdiv_pow_lt h1
  have h3 := natAbs_sub_lt h2 (natAbs_lt_of_le hoff (by decide))
  have h4 : ((((rawpress : Int) * sens).tdiv (2 ^ 21) - off).tdiv (2 ^ k.pressdivs)).natAbs <
      2 ^ 28 :=
    natAbs_tdiv_pow_lt_of_le (t := 13) h3 hk.pressdivs.1
  refine ⟨?_, by rw [pressure_exact]; exact h4⟩
  rw [pressure, bind_of_some (checked_int_of_lt h1 (by decide)),
    bind_of_some (checked_shl (by decide)),
    bind_of_some (checked_div_of_lt (by positivity) h2 (by decide)),
    bind_of_some (checked_int_of_lt h3 (by decide)),
    bind_of_some (checked_shl (by have := hk.pressdivs; omega)),
    bind_of_some (checked_div_of_lt (by positivity) h4 (by decide))]
  exact checked_int_of_lt h4 (by decide)

/-- The `MS5803_07` correction: the bound of every intermediate, then the statements. -/
theorem postCorrect_ms5803_07_checked (vdd : Int) (c : Calib) {temp press : Int}
    (ht : temp.natAbs < 2 ^ 19) (hp : press.natAbs < 2 ^ 28) :
    postCorrect checked vdd .ms5803_07 c temp press =
      some (Id.run (postCorrect exact vdd .ms5803_07 c temp press)) := by
  simp only [postCorrect]
  split
  · have hc7 : ((c.c7.toNat : Int) - 2 ^ 5).natAbs < 2 ^ 8 := by
      have := natAbs_toNat_lt c.c7; omega
    have hc8 : ((c.c8.toNat : Int) - 2 ^ 5).natAbs < 2 ^ 8 := by
      have := natAbs_toNat_lt c.c8; omega
    have ht' : (temp - 2000).natAbs < 2 ^ 20 := by omega
    have hp' : (press - 110000).natAbs < 2 ^ 29 := by omega
    have ha1 := natAbs_mul_lt (n := 7) hc7 (by decide : (100 : Int).natAbs < 2 ^ 7)
    have ha := natAbs_mul_lt (n := 3) ha1 (by decide : ((2 : Int) ^ 2).natAbs < 2 ^ 3)
    have hb1 := natAbs_mul_lt hc8 ht'
    have hb := natAbs_tdiv_pow_lt (s := 4) (n := 24) hb1
    have hab := natAbs_sub_lt (natAbs_lt_of_le ha (by decide)) hb
    have hm := natAbs_mul_lt hab hp'
    have hq := natAbs_tdiv_lt (b := 49000000) (n := 2 ^ 29) (hm.trans_le (by decide))
    have hpt := natAbs_add_lt (natAbs_lt_of_le hp (by decide)) hq
    rw [bind_of_some (checked_shl (by decide)), bind_of_some (checked_int_of_lt hc7 (by decide)),
      bind_of_some (checked_int_of_lt ha1 (by decide)), bind_of_some (checked_shl (by decide)),
      bind_of_some (checked_int_of_lt ha (by decide)), bind_of_some (checked_shl (by decide)),
      bind_of_some (checked_int_of_lt hc8 (by decide)),
      bind_of_some (checked_int_of_lt ht' (by decide)),
      bind_of_some (checked_int_of_lt hb1 (by decide)), bind_of_some (checked_shl (by decide)),
      bind_of_some (checked_div_of_lt (by decide) hb (by decide)),
      bind_of_some (checked_int_of_lt hab (by decide)),
      bind_of_some (checked_int_of_lt hp' (by decide)),
      bind_of_some (checked_int_of_lt hm (by decide)),
      bind_of_some (checked_div_of_lt (by decide) hq (by decide)),
      bind_of_some (checked_int_of_lt hq (by decide))]
    exact checked_int_of_lt hpt (by decide)
  · rfl

/-- The `MS5806_02` correction, compiled in when `22 ≤ CONFIG_MS58XX_VDD ≤ 30`. -/
theorem postCorrect_ms5806_02_checked (vdd : Int) (c : Calib) {temp press : Int}
    (hp : press.natAbs < 2 ^ 28) :
    postCorrect checked vdd .ms5806_02 c temp press =
      some (Id.run (postCorrect exact vdd .ms5806_02 c temp press)) := by
  simp only [postCorrect]
  split
  · have hv : (30 - vdd).natAbs < 2 ^ 4 := by omega
    have hm := natAbs_mul_lt hv (natAbs_toNat_lt c.c7)
    have hq := (natAbs_tdiv_le ((30 - vdd) * c.c7.toNat) (2 ^ 6 * 10)).trans_lt hm
    have hpt := natAbs_add_lt hp (natAbs_lt_of_le hq (by decide))
    rw [bind_of_some (checked_int_of_lt hv (by decide)),
      bind_of_some (checked_int_of_lt hm (by decide)), bind_of_some (checked_shl (by decide)),
      bind_of_some (checked_int (by decide)),
      bind_of_some (checked_div_of_lt (by decide) hq (by decide)),
      bind_of_some (checked_int_of_lt hq (by decide))]
    exact checked_int_of_lt hpt (by decide)
  · rfl

theorem postCorrect_checked (vdd : Int) (model : Model) (c : Calib) {temp press : Int}
    (ht : temp.natAbs < 2 ^ 19) (hp : press.natAbs < 2 ^ 28) :
    postCorrect checked vdd model c temp press =
      some (Id.run (postCorrect exact vdd model c temp press)) := by
  cases model
  case ms5803_07 => exact postCorrect_ms5803_07_checked vdd c ht hp
  case ms5806_02 => exact postCorrect_ms5806_02_checked vdd c hp
  all_goals rfl

/-! ## The whole computation -/

theorem compensate_checked_of_bounds (vdd : Int) (model : Model) {k : Consts}
    (hk : ConstsBounds k) (c : Calib) {rawpress rawtemp : Nat} (hp : rawpress < 2 ^ 24)
    (ht : rawtemp < 2 ^ 24) :
    compensate checked vdd model k c rawpress rawtemp =
      some (Id.run (compensate exact vdd model k c rawpress rawtemp)) := by
  obtain ⟨h1, r1⟩ := firstOrder_checked hk c ht
  obtain ⟨h2, r2⟩ := secondOrder_checked hk r1
  obtain ⟨h3, r3⟩ := pressure_checked hk hp r2.off r2.sens
  rw [compensate, bind_of_some h1, bind_of_some h2, bind_of_some h3,
    bind_of_some (postCorrect_checked vdd model c r2.temp r3)]
  rfl

/-- For every model's table, every calibration and every pair of 24-bit ADC values, every
operation of `ms58xx_measure` stays inside its C type: the checked reading returns the exact
value. -/
theorem compensate_checked (vdd : Int) (model : Model) (c : Calib) {rawpress rawtemp : Nat}
    (hp : rawpress < 2 ^ 24) (ht : rawtemp < 2 ^ 24) :
    compensate checked vdd model (Consts.ofModel model) c rawpress rawtemp =
      some (Id.run (compensate exact vdd model (Consts.ofModel model) c rawpress rawtemp)) :=
  compensate_checked_of_bounds vdd model (Consts.ofModel_bounds model) c hp ht

theorem compensate_checked_sample :
    (6465444 < 2 ^ 24 ∧ 8077636 < 2 ^ 24) ∧
      compensate checked 30 .ms5803_02 (Consts.ofModel .ms5803_02) sampleCalib 6465444 8077636 =
        some (Id.run (compensate exact 30 .ms5803_02 (Consts.ofModel .ms5803_02) sampleCalib
          6465444 8077636)) :=
  ⟨⟨by decide, by decide⟩, compensate_checked 30 .ms5803_02 sampleCalib (by decide) (by decide)⟩

end Ms58xx
