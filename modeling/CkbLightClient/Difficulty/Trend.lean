import CkbLightClient.Core.Header

/-!
# CkbLightClient — the epoch difficulty trend

`EpochDifficultyTrend` classifies two epoch difficulties and answers the three questions
the verifier asks about the epochs between them:

* `checkTau` — can the difficulty move from the start to the end value in `N` epoch
  switches, each changing it by at most a factor `tau`?
* `calculateTauExponent` — the least number of switches (minus one) that suffices;
* `splitEpochs`, `EpochDifficultyTrendDetails.removeLastEpoch`,
  `calculateTotalDifficultyLimit` — the estimated least and greatest total difficulty of
  the full epochs between the two ends.

The loops of the source are `Nat.iterate` (a fixed number of steps) and `findExponent`
(a loop with an early return). The `u64` counts of `splitEpochs` and the running sum of
`calculateTotalDifficultyLimit` panic on overflow, as in the source.
-/

namespace CkbLightClient

/-- `EpochDifficultyTrend`. (`end` is a keyword, so the second field is `end_`.) -/
inductive EpochDifficultyTrend where
  | unchanged
  | increased (start end_ : U256)
  | decreased (start end_ : U256)
  deriving DecidableEq, Repr

/-- `EstimatedLimit`. -/
inductive EstimatedLimit where
  | min
  | max
  deriving DecidableEq, Repr

/-- `EpochCountGroupByTrend`: a number of epochs whose difficulty all rise, or all fall. -/
inductive EpochCountGroupByTrend where
  | increased (count : Nat)
  | decreased (count : Nat)
  deriving DecidableEq, Repr

/-- `EpochDifficultyTrendDetails`: the epochs before and after the turn. -/
structure EpochDifficultyTrendDetails where
  start : EpochCountGroupByTrend
  end_ : EpochCountGroupByTrend
  deriving DecidableEq, Repr

namespace EpochDifficultyTrend

/-- `EpochDifficultyTrend::new`. -/
def new (startEpochDifficulty endEpochDifficulty : U256) : EpochDifficultyTrend :=
  match compare startEpochDifficulty endEpochDifficulty with
  | .eq => .unchanged
  | .lt => .increased startEpochDifficulty endEpochDifficulty
  | .gt => .decreased startEpochDifficulty endEpochDifficulty

theorem new_of_eq {a b : U256} (h : a = b) : new a b = .unchanged := by
  rw [new, compare_eq_iff_eq.mpr h]

theorem new_of_lt {a b : U256} (h : a < b) : new a b = .increased a b := by
  simp [new, compare_lt_iff_lt.mpr h]

theorem new_of_gt {a b : U256} (h : b < a) : new a b = .decreased a b := by
  simp [new, compare_gt_iff_gt.mpr h]

/-- `check_tau`: the end difficulty is within `tau ^ epochs_switch_count` of the start,
computed by repeated saturating multiplication or repeated division. -/
def checkTau (trend : EpochDifficultyTrend) (tau epochsSwitchCount : Nat) : Bool :=
  match trend with
  | .unchanged => true
  | .increased start end_ =>
      decide (end_ ≤ (fun x => x.saturatingMul (U256.ofNat tau))^[epochsSwitchCount] start)
  | .decreased start end_ => decide ((fun x => x.divU64 tau)^[epochsSwitchCount] start ≤ end_)

/-- The loop `for k in k..k + count { tmp = step(tmp); if found(tmp) { return Some(k); } }`
followed by `None`. -/
def findExponent (step : U256 → U256) (found : U256 → Bool) :
    Nat → Nat → U256 → Option Nat
  | _, 0, _ => none
  | k, count + 1, tmp =>
      if found (step tmp) then some k else findExponent step found (k + 1) count (step tmp)

/-- `calculate_tau_exponent`: the least `k < limit` such that `k + 1` changes by `tau`
reach the end difficulty. -/
def calculateTauExponent (trend : EpochDifficultyTrend) (tau limit : Nat) : Option Nat :=
  match trend with
  | .unchanged => some 0
  | .increased start end_ =>
      findExponent (fun x => x.saturatingMul (U256.ofNat tau)) (fun x => decide (end_ ≤ x))
        0 limit start
  | .decreased start end_ =>
      findExponent (fun x => x.divU64 tau) (fun x => decide (x ≤ end_)) 0 limit start

section Fallible

variable {ε : Type}

/-- The `(increased, decreased)` pair of `split_epochs`, one arm per limit and trend. -/
def increasedDecreased (trend : EpochDifficultyTrend) (limit : EstimatedLimit) (n k : Nat) :
    Except (Exit ε) (Nat × Nat) :=
  match limit, trend with
    | .min, .unchanged => do
        let decreased := (← addU64 n 1) / 2
        pure (← subU n decreased, decreased)
    | .max, .unchanged => do
        let increased := (← addU64 n 1) / 2
        pure (increased, ← subU n increased)
    | .min, .increased .. => do
        let decreased := (← addU64 (← subU n k) 1) / 2
        pure (← subU n decreased, decreased)
    | .max, .increased .. => do
        let increased ← addU64 ((← addU64 (← subU n k) 1) / 2) k
        pure (increased, ← subU n increased)
    | .min, .decreased .. => do
        let decreased ← addU64 ((← addU64 (← subU n k) 1) / 2) k
        pure (← subU n decreased, decreased)
    | .max, .decreased .. => do
        let increased := (← addU64 (← subU n k) 1) / 2
        pure (increased, ← subU n increased)

/-- `split_epochs`: the counts of falling and rising epochs for the estimated least (fall
first, then rise) or greatest (rise first, then fall) total difficulty. -/
def splitEpochs (trend : EpochDifficultyTrend) (limit : EstimatedLimit) (n k : Nat) :
    Except (Exit ε) EpochDifficultyTrendDetails := do
  let (increasedCount, decreasedCount) ← trend.increasedDecreased limit n k
  match limit with
  | .min => pure ⟨.decreased decreasedCount, .increased increasedCount⟩
  | .max => pure ⟨.increased increasedCount, .decreased decreasedCount⟩

end Fallible

end EpochDifficultyTrend

namespace EpochCountGroupByTrend

variable {ε : Type}

/-- `subtract1`: one epoch fewer; panics on an empty group. -/
def subtract1 : EpochCountGroupByTrend → Except (Exit ε) EpochCountGroupByTrend
  | .increased count => return .increased (← subU count 1)
  | .decreased count => return .decreased (← subU count 1)

/-- `epochs_count`. -/
def epochsCount : EpochCountGroupByTrend → Nat
  | .increased count | .decreased count => count

end EpochCountGroupByTrend

/-- `remove_last_epoch`: the last epoch is accounted for separately, so drop one epoch
from the end group, or from the start group when the end group is empty. -/
def EpochDifficultyTrendDetails.removeLastEpoch {ε : Type}
    (details : EpochDifficultyTrendDetails) :
    Except (Exit ε) EpochDifficultyTrendDetails :=
  if details.end_.epochsCount = 0 then
    return ⟨← details.start.subtract1, details.end_⟩
  else
    return ⟨details.start, ← details.end_.subtract1⟩

/-- `total_epochs_count` (a test helper of the source). -/
def EpochDifficultyTrendDetails.totalEpochsCount (details : EpochDifficultyTrendDetails) : Nat :=
  details.start.epochsCount + details.end_.epochsCount

/-! ## Every epoch switch is counted once -/

section Counts

variable {ε : Type}

/-- Both counts of `split_epochs` together make up the `n` epoch switches, in every arm. -/
theorem EpochDifficultyTrend.increasedDecreased_add {trend : EpochDifficultyTrend}
    {limit : EstimatedLimit} {n k i d : Nat}
    (h : (trend.increasedDecreased limit n k : Except (Exit ε) (Nat × Nat)) = .ok (i, d)) :
    i + d = n := by
  cases limit <;> cases trend <;>
    simp only [EpochDifficultyTrend.increasedDecreased, bind_eq_ok, pure_eq_ok, subU_eq_ok,
      addU64_eq_ok, Except.ok.injEq, Prod.mk.injEq] at h
  all_goals
    repeat obtain ⟨_, ⟨_, rfl⟩, h⟩ := h
    omega

/-- **`split_epochs` loses no epoch.** Whatever the trend and the limit, the two groups it
returns hold `n` epochs together. -/
theorem EpochDifficultyTrend.splitEpochs_totalEpochsCount {trend : EpochDifficultyTrend}
    {limit : EstimatedLimit} {n k : Nat} {details : EpochDifficultyTrendDetails}
    (h : (trend.splitEpochs limit n k : Except (Exit ε) _) = .ok details) :
    details.totalEpochsCount = n := by
  obtain ⟨⟨i, d⟩, hsplit, h⟩ := bind_eq_ok.mp h
  have hsum := EpochDifficultyTrend.increasedDecreased_add hsplit
  cases limit <;> obtain rfl := Except.ok.inj h <;>
    simp only [EpochDifficultyTrendDetails.totalEpochsCount, EpochCountGroupByTrend.epochsCount]
    <;> omega

theorem EpochCountGroupByTrend.subtract1_epochsCount {group group' : EpochCountGroupByTrend}
    (h : (group.subtract1 : Except (Exit ε) _) = .ok group') :
    group'.epochsCount + 1 = group.epochsCount := by
  cases group <;>
    simp only [EpochCountGroupByTrend.subtract1, bind_eq_ok, pure_eq_ok, subU_eq_ok,
      Except.ok.injEq] at h <;>
    obtain ⟨_, ⟨_, rfl⟩, rfl⟩ := h <;>
    simp only [EpochCountGroupByTrend.epochsCount] <;> omega

/-- **`remove_last_epoch` drops exactly one epoch**, from whichever group it takes it. -/
theorem EpochDifficultyTrendDetails.removeLastEpoch_totalEpochsCount
    {details details' : EpochDifficultyTrendDetails}
    (h : (details.removeLastEpoch : Except (Exit ε) _) = .ok details') :
    details'.totalEpochsCount + 1 = details.totalEpochsCount := by
  unfold EpochDifficultyTrendDetails.removeLastEpoch at h
  split at h <;> obtain ⟨_, hsub, h⟩ := bind_eq_ok.mp h <;> obtain rfl := Except.ok.inj h <;>
    have := EpochCountGroupByTrend.subtract1_epochsCount hsub <;>
    simp only [EpochDifficultyTrendDetails.totalEpochsCount] <;> omega

end Counts

/-- One group of `calculate_total_difficulty_limit`: `count` times, move the current epoch
difficulty one step and add it to the total with `checked_add`, panicking on overflow. -/
def accumulateEpochs {ε : Type} (step : U256 → U256) :
    Nat → U256 → U256 → Except (Exit ε) (U256 × U256)
  | 0, curr, total => .ok (curr, total)
  | count + 1, curr, total =>
      match total.checkedAdd (step curr) with
      | some total' => accumulateEpochs step count (step curr) total'
      | none => .error .panic

/-- The step of a group: divide by `tau`, or multiply by it with saturation. -/
def EpochCountGroupByTrend.step (tau : Nat) : EpochCountGroupByTrend → U256 → U256
  | .decreased _ => fun x => x.divU64 tau
  | .increased _ => fun x => x.saturatingMul (U256.ofNat tau)

/-- `calculate_total_difficulty_limit`: the start group, then the end group, from the start
epoch difficulty. (`self` appears in the source only in the panic message.) -/
def calculateTotalDifficultyLimit {ε : Type} (startEpochDifficulty : U256) (tau : Nat)
    (details : EpochDifficultyTrendDetails) : Except (Exit ε) U256 := do
  let (curr, total) ← accumulateEpochs (details.start.step tau) details.start.epochsCount
    startEpochDifficulty (U256.ofNat 0)
  let (_, total) ← accumulateEpochs (details.end_.step tau) details.end_.epochsCount curr total
  return total

end CkbLightClient
