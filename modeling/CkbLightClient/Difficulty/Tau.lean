import CkbLightClient.Difficulty.Trend

/-!
# CkbLightClient — the tau checks against exact arithmetic

`check_tau` multiplies by `tau` with `saturating_mul` and divides by `tau` with floor
division, `epochs_switch_count` times; `calculate_tau_exponent` runs the same steps in a
loop that returns at the first one that reaches the end difficulty. Neither ever changes
its verdict against exact arithmetic:

* the iterated saturating product is the exact product clamped once at `2 ^ 256 - 1`
  (`U256.val_iterate_saturatingMul`), and an end difficulty never exceeds the clamp, so
  `check_tau` is the exact bound (`checkTau_new_exact`);
* the loop returns the least index whose iterate is found (`findExponent_eq_some_iff`),
  so `calculate_tau_exponent` returns the least `k` for which `check_tau` passes with
  `k + 1` switches, and it returns one below `N` exactly when `check_tau` passes with `N`
  (`calculateTauExponent_new_least`).

`tau` is a `u64` in the source, so every value of it is below `2 ^ 256`, the bound
`U256::from(tau)` needs here.
-/

namespace CkbLightClient

/-! ## Iterated operations on `U256` -/

/-- Clamping before a multiplication and after it is clamping once. -/
theorem min_clamp_mul (x t m : Nat) : min (min x m * t) m = min (x * t) m := by
  rcases le_total x m with hx | hx
  · rw [min_eq_left hx]
  · rw [min_eq_right hx]
    rcases Nat.eq_zero_or_pos t with rfl | ht
    · simp
    · rw [min_eq_right (Nat.le_mul_of_pos_right m ht),
        min_eq_right (hx.trans (Nat.le_mul_of_pos_right x ht))]

namespace U256

theorem val_le_max (a : U256) : a.val ≤ size - 1 := Nat.le_sub_one_of_lt a.isLt

/-- Saturating along the way is clamping the exact product once. -/
theorem val_iterate_saturatingMul {tau : Nat} (h : tau < size) (a : U256) (n : Nat) :
    ((fun x => x.saturatingMul (ofNat tau))^[n] a).val = min (a.val * tau ^ n) (size - 1) := by
  induction n with
  | zero => simp [min_eq_left a.val_le_max]
  | succ n ih =>
    rw [Function.iterate_succ_apply', val_saturatingMul, ih, val_ofNat_of_lt h, min_clamp_mul,
      pow_succ, Nat.mul_assoc]

theorem val_iterate_divU64 (tau : Nat) (a : U256) (n : Nat) :
    ((fun x => x.divU64 tau)^[n] a).val = a.val / tau ^ n := by
  induction n with
  | zero => simp
  | succ n ih => rw [Function.iterate_succ_apply', val_divU64, ih, Nat.div_div_eq_div_mul, pow_succ]

end U256

namespace EpochDifficultyTrend

/-! ## `check_tau` -/

theorem checkTau_increased {start end_ : U256} {tau : Nat} (h : tau < U256.size) (n : Nat) :
    (increased start end_).checkTau tau n = true ↔ end_.val ≤ start.val * tau ^ n := by
  rw [checkTau, decide_eq_true_iff, U256.le_def, U256.val_iterate_saturatingMul h, le_min_iff]
  exact and_iff_left end_.val_le_max

theorem checkTau_decreased {start end_ : U256} (tau n : Nat) :
    (decreased start end_).checkTau tau n = true ↔ start.val / tau ^ n ≤ end_.val := by
  rw [checkTau, decide_eq_true_iff, U256.le_def, U256.val_iterate_divU64]

/-- **`check_tau` is the exact bound.** For every two epoch difficulties, `check_tau` with
saturating products and floor quotients passes exactly when the end difficulty is the
start one, or at most `start * tau ^ N` over the naturals, or at least `⌊start / tau ^ N⌋`
(that is, `start < (end + 1) * tau ^ N`). -/
theorem checkTau_new_exact (a b : U256) {tau : Nat} (htau : 1 ≤ tau) (hfit : tau < U256.size)
    (N : Nat) :
    (new a b).checkTau tau N = true ↔
      a = b ∨ (a < b ∧ b.val ≤ a.val * tau ^ N) ∨
        (b < a ∧ a.val / tau ^ N ≤ b.val ∧ a.val < (b.val + 1) * tau ^ N) := by
  have hdiv : a.val / tau ^ N ≤ b.val ↔ a.val < (b.val + 1) * tau ^ N := by
    rw [← Nat.lt_succ_iff, Nat.div_lt_iff_lt_mul (Nat.pos_pow_of_pos N htau)]
  rcases lt_trichotomy a b with hlt | rfl | hgt
  · rw [new_of_lt hlt, checkTau_increased hfit]
    simp [hlt, hlt.ne, not_lt_of_lt hlt]
  · rw [new_of_eq rfl]
    simp [checkTau]
  · rw [new_of_gt hgt, checkTau_decreased, ← hdiv]
    simp [hgt, hgt.ne', not_lt_of_lt hgt]

/-- A start difficulty `2 ^ 255` times `tau = 4` saturates at `2 ^ 256 - 1` after one
switch, and the end difficulty `2 ^ 256 - 1` still passes, as over the naturals. -/
theorem checkTau_new_exact_saturated :
    1 ≤ 4 ∧ 4 < U256.size ∧ (new (.ofNat (2 ^ 255)) U256.maxValue).checkTau 4 1 = true :=
  ⟨by decide, by decide,
    (checkTau_new_exact _ _ (by decide) (by decide) 1).mpr
      (.inr (.inl ⟨by decide, by decide⟩))⟩

/-- With `tau ≥ 1`, more switches allow more. -/
theorem checkTau_mono {tau : Nat} (htau : 1 ≤ tau) (hfit : tau < U256.size)
    {trend : EpochDifficultyTrend} {n m : Nat} (hnm : n ≤ m) (h : trend.checkTau tau n = true) :
    trend.checkTau tau m = true := by
  have hpow : tau ^ n ≤ tau ^ m := Nat.pow_le_pow_right htau hnm
  cases trend with
  | unchanged => rfl
  | increased start end_ =>
    rw [checkTau_increased hfit] at h ⊢
    exact h.trans (Nat.mul_le_mul_left _ hpow)
  | decreased start end_ =>
    rw [checkTau_decreased] at h ⊢
    exact (Nat.div_le_div_left hpow (Nat.pos_pow_of_pos n htau)).trans h

/-! ## The loop of `calculate_tau_exponent` -/

section Loop

variable {step : U256 → U256} {found : U256 → Bool}

/-- Starting the loop one index later shifts what it returns. -/
theorem findExponent_succ_start (k count : Nat) (x : U256) :
    findExponent step found (k + 1) count x = (findExponent step found k count x).map (· + 1) := by
  induction count generalizing k x with
  | zero => rfl
  | succ count ih =>
    simp only [findExponent]
    split
    · rfl
    · exact ih (k + 1) (step x)

theorem findExponent_zero_succ (count : Nat) (x : U256) :
    findExponent step found 0 (count + 1) x =
      if found (step x) then some 0
      else (findExponent step found 0 count (step x)).map (· + 1) := by
  rw [findExponent, findExponent_succ_start]

/-- What the loop returns is an index below its count whose iterate is found, and no earlier
iterate is. -/
theorem findExponent_eq_some {count j : Nat} {x : U256}
    (h : findExponent step found 0 count x = some j) :
    j < count ∧ found (step^[j + 1] x) = true ∧ ∀ i < j, found (step^[i + 1] x) = false := by
  induction count generalizing x j with
  | zero => cases h
  | succ count ih =>
    rw [findExponent_zero_succ] at h
    split at h
    next hfound =>
      cases h
      exact ⟨Nat.succ_pos _, hfound, fun _ hi => absurd hi (Nat.not_lt_zero _)⟩
    next hfound =>
      obtain ⟨j, hj, rfl⟩ := Option.map_eq_some'.mp h
      obtain ⟨hlt, hj, hmin⟩ := ih hj
      refine ⟨Nat.succ_lt_succ hlt, hj, fun i hi => ?_⟩
      cases i with
      | zero => exact Bool.eq_false_iff.mpr hfound
      | succ i => exact hmin i (Nat.lt_of_succ_lt_succ hi)

/-- The loop runs out exactly when no iterate below its count is found. -/
theorem findExponent_eq_none {count : Nat} {x : U256} :
    findExponent step found 0 count x = none ↔ ∀ i < count, found (step^[i + 1] x) = false := by
  induction count generalizing x with
  | zero => simp [findExponent]
  | succ count ih =>
    rw [findExponent_zero_succ]
    split
    next hfound =>
      simp only [reduceCtorEq, false_iff, not_forall]
      exact ⟨0, Nat.succ_pos _, by simp [hfound]⟩
    next hfound =>
      rw [Option.map_eq_none', ih]
      constructor
      · intro h i hi
        cases i with
        | zero => exact Bool.eq_false_iff.mpr hfound
        | succ i => exact h i (Nat.lt_of_succ_lt_succ hi)
      · exact fun h i hi => h (i + 1) (Nat.succ_lt_succ hi)

/-- **The loop returns the least index found.** -/
theorem findExponent_eq_some_iff {count j : Nat} {x : U256} :
    findExponent step found 0 count x = some j ↔
      j < count ∧ found (step^[j + 1] x) = true ∧
        ∀ i < j, found (step^[i + 1] x) = false := by
  refine ⟨findExponent_eq_some, fun ⟨hlt, hj, hmin⟩ => ?_⟩
  cases h : findExponent step found 0 count x with
  | none => exact absurd ((findExponent_eq_none.mp h j hlt).symm.trans hj) Bool.false_ne_true
  | some j' =>
    obtain ⟨-, hj', hmin'⟩ := findExponent_eq_some h
    rcases lt_trichotomy j' j with hj'j | rfl | hjj'
    · exact absurd ((hmin j' hj'j).symm.trans hj') Bool.false_ne_true
    · rfl
    · exact absurd ((hmin' j hjj').symm.trans hj) Bool.false_ne_true

end Loop

/-! ## `calculate_tau_exponent` -/

section Exponent

variable {trend : EpochDifficultyTrend} {tau limit : Nat}

/-- Away from `Unchanged`, `calculate_tau_exponent` returns the least `k < limit` for which
`check_tau` passes with `k + 1` switches. -/
theorem calculateTauExponent_eq_some_iff (h : trend ≠ .unchanged) {k : Nat} :
    trend.calculateTauExponent tau limit = some k ↔
      k < limit ∧ trend.checkTau tau (k + 1) = true ∧
        ∀ j < k, trend.checkTau tau (j + 1) = false := by
  cases trend with
  | unchanged => exact absurd rfl h
  | increased => exact findExponent_eq_some_iff
  | decreased => exact findExponent_eq_some_iff

theorem calculateTauExponent_eq_none_iff (h : trend ≠ .unchanged) :
    trend.calculateTauExponent tau limit = none ↔
      ∀ k < limit, trend.checkTau tau (k + 1) = false := by
  cases trend with
  | unchanged => exact absurd rfl h
  | increased => exact findExponent_eq_none
  | decreased => exact findExponent_eq_none

end Exponent

theorem new_ne_unchanged {a b : U256} (h : a ≠ b) : new a b ≠ .unchanged := by
  rcases lt_or_gt_of_ne h with hlt | hgt
  · rw [new_of_lt hlt]; exact fun h => nomatch h
  · rw [new_of_gt hgt]; exact fun h => nomatch h

theorem checkTau_new_zero {a b : U256} (h : a ≠ b) (tau : Nat) :
    (new a b).checkTau tau 0 = false := by
  rcases lt_or_gt_of_ne h with hlt | hgt
  · rw [new_of_lt hlt]; simp [checkTau, not_le.mpr hlt]
  · rw [new_of_gt hgt]; simp [checkTau, not_le.mpr hgt]

/-- `calculate_tau_exponent(tau, N)` finds an exponent exactly when `check_tau(tau, N)`
passes. -/
theorem isSome_calculateTauExponent_new {tau : Nat} (htau : 1 ≤ tau) (hfit : tau < U256.size)
    (a b : U256) (N : Nat) :
    ((new a b).calculateTauExponent tau N).isSome = (new a b).checkTau tau N := by
  by_cases hab : a = b
  · rw [new_of_eq hab]; rfl
  · rw [Bool.eq_iff_iff, Option.isSome_iff_ne_none, Ne,
      calculateTauExponent_eq_none_iff (new_ne_unchanged hab)]
    simp only [not_forall, Bool.not_eq_false, exists_prop]
    constructor
    · rintro ⟨k, hk, hck⟩
      exact checkTau_mono htau hfit hk hck
    · intro h
      cases N with
      | zero => rw [checkTau_new_zero hab] at h; cases h
      | succ N => exact ⟨N, Nat.lt_succ_self N, h⟩

/-- **`calculate_tau_exponent` returns the least feasible exponent.** For two equal epoch
difficulties it returns `0`; for a rise, the least `k < limit` with
`b ≤ a * tau ^ (k + 1)` over the naturals, and `None` when there is none; for a fall, the
least `k < limit` with `⌊a / tau ^ (k + 1)⌋ ≤ b`, and `None` when there is none. So it
finds an exponent below `N` exactly when `check_tau` passes with `N` switches. -/
theorem calculateTauExponent_new_least (a b : U256) {tau : Nat} (htau : 1 ≤ tau)
    (hfit : tau < U256.size) (limit : Nat) :
    (a = b → (new a b).calculateTauExponent tau limit = some 0) ∧
    (a < b → ∀ k, (new a b).calculateTauExponent tau limit = some k ↔
      k < limit ∧ b.val ≤ a.val * tau ^ (k + 1) ∧
        ∀ j < k, a.val * tau ^ (j + 1) < b.val) ∧
    (a < b → ((new a b).calculateTauExponent tau limit = none ↔
      ∀ k < limit, a.val * tau ^ (k + 1) < b.val)) ∧
    (b < a → ∀ k, (new a b).calculateTauExponent tau limit = some k ↔
      k < limit ∧ a.val / tau ^ (k + 1) ≤ b.val ∧
        ∀ j < k, b.val < a.val / tau ^ (j + 1)) ∧
    (b < a → ((new a b).calculateTauExponent tau limit = none ↔
      ∀ k < limit, b.val < a.val / tau ^ (k + 1))) ∧
    ∀ N, ((new a b).calculateTauExponent tau N).isSome = (new a b).checkTau tau N := by
  have hrise (n : Nat) : (increased a b).checkTau tau n = false ↔ a.val * tau ^ n < b.val := by
    rw [Bool.eq_false_iff, ne_eq, checkTau_increased hfit, not_le]
  have hfall (n : Nat) : (decreased a b).checkTau tau n = false ↔ b.val < a.val / tau ^ n := by
    rw [Bool.eq_false_iff, ne_eq, checkTau_decreased, not_le]
  refine ⟨fun h => by rw [new_of_eq h]; rfl, fun hlt k => ?_, fun hlt => ?_, fun hgt k => ?_,
    fun hgt => ?_, isSome_calculateTauExponent_new htau hfit a b⟩
  · rw [calculateTauExponent_eq_some_iff (new_ne_unchanged hlt.ne), new_of_lt hlt,
      checkTau_increased hfit]
    simp only [hrise]
  · rw [calculateTauExponent_eq_none_iff (new_ne_unchanged hlt.ne), new_of_lt hlt]
    simp only [hrise]
  · rw [calculateTauExponent_eq_some_iff (new_ne_unchanged hgt.ne'), new_of_gt hgt,
      checkTau_decreased]
    simp only [hfall]
  · rw [calculateTauExponent_eq_none_iff (new_ne_unchanged hgt.ne'), new_of_gt hgt]
    simp only [hfall]

/-- From the epoch difficulty 100 to 1000 with `tau = 2`: `100 * 2 ^ 3 < 1000 ≤ 100 * 2 ^ 4`,
so the exponent is 3. -/
theorem calculateTauExponent_new_least_example :
    1 ≤ 2 ∧ 2 < U256.size ∧
      (new (.ofNat 100) (.ofNat 1000)).calculateTauExponent 2 10 = some 3 :=
  ⟨by decide, by decide,
    ((calculateTauExponent_new_least _ _ (by decide) (by decide) 10).2.1 (by decide) 3).mpr
      ⟨by decide, by decide, by decide⟩⟩

end EpochDifficultyTrend

end CkbLightClient
