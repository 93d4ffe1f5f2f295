import CkbLightClient.Difficulty.Trend
import Mathlib.Data.List.Chain

/-!
# CkbLightClient — `verify_tau` and `verify_total_difficulty`

The two checks that compare the epochs of two headers:

* `verifyTau` — the difficulty change from the first sampled header to the last
  returned header respects `tau` (`check_tau` over the epoch switches between them);
* `verifyTotalDifficulty` — the total difficulty gained from the previously proved tip
  to the new one is what the two epochs and the epochs between them allow.

`compact_to_difficulty` (of `ckb_types`) is a parameter of both: every result here holds
for every decoding of compact targets. Its `u64` subtractions, `U256` operators and the
running sums of `calculateTotalDifficultyLimit` panic as in the source.
-/

namespace CkbLightClient

/-- `verify_tau`: `Ok(true)` when the change is within bound, `Ok(false)` when it is not,
`Err(InvalidCompactTarget)` for two compact targets in one epoch. -/
def verifyTau (compactToDifficulty : UInt32 → U256) (startEpoch : EpochNumberWithFraction)
    (startCompactTarget : UInt32) (endEpoch : EpochNumberWithFraction) (endCompactTarget : UInt32)
    (tau : Nat) : Except (Exit Status) Bool := do
  if startEpoch.number = endEpoch.number then
    if startCompactTarget ≠ endCompactTarget then
      throw (.err StatusCode.invalidCompactTarget.status)
    return true
  else
    let startBlockDifficulty := compactToDifficulty startCompactTarget
    let endBlockDifficulty := compactToDifficulty endCompactTarget
    let startEpochDifficulty ← mulU256 startBlockDifficulty startEpoch.length
    let endEpochDifficulty ← mulU256 endBlockDifficulty endEpoch.length
    let epochsSwitchCount ← subU endEpoch.number startEpoch.number
    let epochDifficultyTrend := EpochDifficultyTrend.new startEpochDifficulty endEpochDifficulty
    return epochDifficultyTrend.checkTau tau epochsSwitchCount

/-- The failures of `verify_total_difficulty`, one per message template of the source. -/
inductive TotalDifficultyError where
  /-- "failed since total difficulty is decreased …" -/
  | decreased
  /-- "… but the calculated is … (= … * …)" for two headers in one epoch. -/
  | sameEpochMismatch
  /-- "failed since the epoch difficulty changed too fast …" -/
  | changedTooFast
  /-- "… but the calculated is … (= … * … + … * …)" across one epoch switch. -/
  | adjacentEpochMismatch
  /-- "failed since total difficulty (…) isn't in the range (…+[…,…])" -/
  | outOfRange
  deriving DecidableEq, Repr

/-- `verify_total_difficulty`. -/
def verifyTotalDifficulty (compactToDifficulty : UInt32 → U256)
    (startEpoch : EpochNumberWithFraction) (startCompactTarget : UInt32)
    (startTotalDifficulty : U256) (endEpoch : EpochNumberWithFraction) (endCompactTarget : UInt32)
    (endTotalDifficulty : U256) (tau : Nat) : Except (Exit TotalDifficultyError) Unit := do
  if startTotalDifficulty > endTotalDifficulty then
    throw (.err .decreased)
  let totalDifficulty ← subU256 endTotalDifficulty startTotalDifficulty
  let startBlockDifficulty := compactToDifficulty startCompactTarget
  if startEpoch.number = endEpoch.number then
    let totalBlocksCount ← subU endEpoch.index startEpoch.index
    let totalDifficultyCalculated ← mulU256 startBlockDifficulty totalBlocksCount
    if totalDifficulty ≠ totalDifficultyCalculated then
      throw (.err .sameEpochMismatch)
  else
    let endBlockDifficulty := compactToDifficulty endCompactTarget
    let startEpochDifficulty ← mulU256 startBlockDifficulty startEpoch.length
    let endEpochDifficulty ← mulU256 endBlockDifficulty endEpoch.length
    let epochsSwitchCount ← subU endEpoch.number startEpoch.number
    let epochDifficultyTrend := EpochDifficultyTrend.new startEpochDifficulty endEpochDifficulty
    -- Step-1: the magnitude of the difficulty change.
    let some k := epochDifficultyTrend.calculateTauExponent tau epochsSwitchCount
      | throw (.err .changedTooFast)
    -- Step-2: the range of the total difficulty.
    let startEpochBlocksCount ← subU (← subU startEpoch.length startEpoch.index) 1
    let endEpochBlocksCount ← addU64 endEpoch.index 1
    let unalignedDifficultyCalculated ←
      addU256 (← mulU256 startBlockDifficulty startEpochBlocksCount)
        (← mulU256 endBlockDifficulty endEpochBlocksCount)
    if epochsSwitchCount = 1 then
      if totalDifficulty ≠ unalignedDifficultyCalculated then
        throw (.err .adjacentEpochMismatch)
    else
      let n := epochsSwitchCount
      let alignedDifficultyMin ← calculateTotalDifficultyLimit startEpochDifficulty tau
        (← (← epochDifficultyTrend.splitEpochs .min n k).removeLastEpoch)
      let alignedDifficultyMax ← calculateTotalDifficultyLimit startEpochDifficulty tau
        (← (← epochDifficultyTrend.splitEpochs .max n k).removeLastEpoch)
      let totalDifficultyMin ← addU256 unalignedDifficultyCalculated alignedDifficultyMin
      let totalDifficultyMax ← addU256 unalignedDifficultyCalculated alignedDifficultyMax
      if totalDifficulty < totalDifficultyMin ∨ totalDifficulty > totalDifficultyMax then
        throw (.err .outOfRange)

/-- Two headers of one epoch given in the wrong order: `end.index - start.index` underflows,
whatever the difficulty of the compact targets. -/
theorem verifyTotalDifficulty_index_underflow (compactToDifficulty : UInt32 → U256) :
    verifyTotalDifficulty compactToDifficulty (.ofFields 5 3 10) 0 0 (.ofFields 5 1 10) 0 0 2 =
      .error .panic := rfl

/-! ## An honest chain the range check rejects -/

/-- The tau rule between consecutive epoch difficulties: `⌊a / tau⌋ ≤ b ≤ a * tau`. -/
def TauStep (tau a b : Nat) : Prop := a / tau ≤ b ∧ b ≤ a * tau

instance (tau a b : Nat) : Decidable (TauStep tau a b) := inferInstanceAs (Decidable (_ ∧ _))

/-- **An honest chain the range check rejects.** With `tau = 2` and both compact targets of
difficulty `d`, the epoch difficulties run `16d, 8d, 4d, 2d, 2d, 4d` from a 16-block start
epoch (the start header its last block) to a 4-block end epoch (the end header its first
block), every step within the tau rule; the total difficulty gained is `0 + d` for the
unaligned blocks plus `8d + 4d + 2d + 2d` for the full epochs. The least estimate falls
three epochs and rises one, `8d + 4d + 2d + 4d = 18d > 16d`, and rejects it. -/
theorem verifyTotalDifficulty_rejects_flat_step (compactToDifficulty : UInt32 → U256)
    (startCompactTarget endCompactTarget : UInt32) (t d : Nat)
    (hstart : compactToDifficulty startCompactTarget = .ofNat d)
    (hend : compactToDifficulty endCompactTarget = .ofNat d)
    (hd : 0 < d) (hfit : t + 256 * d < U256.size) :
    [16 * d, 8 * d, 4 * d, 2 * d, 2 * d, 4 * d].Chain' (TauStep 2) ∧
      17 * d = d * (16 - 15 - 1) + d * (0 + 1) + (8 * d + 4 * d + 2 * d + 2 * d) ∧
      verifyTotalDifficulty compactToDifficulty (.ofFields 0 15 16) startCompactTarget (.ofNat t)
        (.ofFields 5 0 4) endCompactTarget (.ofNat (t + 17 * d)) 2 = .error (.err .outOfRange) := by
  refine ⟨by simp only [List.chain'_cons, List.chain'_singleton, TauStep, and_true]; omega,
    by omega, ?_⟩
  have h16 : d * 16 / 2 = d * 8 := by omega
  have h8 : d * 8 / 2 = d * 4 := by omega
  have hgt : ¬ U256.ofNat t > U256.ofNat (t + 17 * d) := by
    rw [gt_iff_lt, not_lt, U256.ofNat_le_ofNat (by omega) (by omega)]; omega
  have hgained : (subU256 (.ofNat (t + 17 * d)) (.ofNat t) :
      Except (Exit TotalDifficultyError) U256) = .ok (.ofNat (17 * d)) := by
    rw [subU256_ofNat (by omega) (by omega), Nat.add_sub_cancel_left]
  have hstartEpoch : (mulU256 (.ofNat d) 16 : Except (Exit TotalDifficultyError) U256) =
      .ok (.ofNat (d * 16)) := mulU256_ofNat (by omega) (by omega)
  have hendEpoch : (mulU256 (.ofNat d) 4 : Except (Exit TotalDifficultyError) U256) =
      .ok (.ofNat (d * 4)) := mulU256_ofNat (by omega) (by omega)
  have hstartBlocks : (mulU256 (.ofNat d) 0 : Except (Exit TotalDifficultyError) U256) =
      .ok (.ofNat (d * 0)) := mulU256_ofNat (by omega) (by omega)
  have hendBlocks : (mulU256 (.ofNat d) 1 : Except (Exit TotalDifficultyError) U256) =
      .ok (.ofNat (d * 1)) := mulU256_ofNat (by omega) (by omega)
  have hunaligned : (addU256 (.ofNat (d * 0)) (.ofNat (d * 1)) :
      Except (Exit TotalDifficultyError) U256) = .ok (.ofNat d) := by
    rw [addU256_ofNat (by omega)]; simp
  -- the trend falls, and one division by tau does not reach the end difficulty but two do
  have htrend : EpochDifficultyTrend.new (.ofNat (d * 16)) (.ofNat (d * 4)) =
      .decreased (.ofNat (d * 16)) (.ofNat (d * 4)) :=
    EpochDifficultyTrend.new_of_gt (by rw [U256.ofNat_lt_ofNat (by omega) (by omega)]; omega)
  have hk : (EpochDifficultyTrend.decreased (.ofNat (d * 16)) (.ofNat (d * 4))).calculateTauExponent
      2 5 = some 1 := by
    have h84 : ¬ d * 8 ≤ d * 4 := by omega
    simp (disch := omega) only [EpochDifficultyTrend.calculateTauExponent,
      EpochDifficultyTrend.findExponent, U256.divU64_ofNat, U256.ofNat_le_ofNat, h16, h8, h84,
      le_refl, decide_True, decide_False, if_true, Bool.false_eq_true, if_false]
  -- the least estimate: three falling epochs, then one rising
  have hleast : (calculateTotalDifficultyLimit (.ofNat (d * 16)) 2
      ⟨.decreased 3, .increased 1⟩ : Except (Exit TotalDifficultyError) U256) =
        .ok (.ofNat (d * 18)) := by
    have h4 : d * 4 / 2 = d * 2 := by omega
    simp (disch := omega) only [calculateTotalDifficultyLimit, accumulateEpochs,
      EpochCountGroupByTrend.step, EpochCountGroupByTrend.epochsCount, U256.divU64_ofNat,
      U256.checkedAdd_ofNat, U256.saturatingMul_ofNat, h16, h8, h4, Nat.zero_add, ok_bind,
      pure_bind]
    exact congrArg (fun n => Except.ok (U256.ofNat n)) (by omega)
  -- the greatest estimate: two rising epochs, then two falling
  have hgreatest : (calculateTotalDifficultyLimit (.ofNat (d * 16)) 2
      ⟨.increased 2, .decreased 2⟩ : Except (Exit TotalDifficultyError) U256) =
        .ok (.ofNat (d * 144)) := by
    have h64 : d * 16 * 2 * 2 / 2 = d * 16 * 2 := by omega
    have h32 : d * 16 * 2 / 2 = d * 16 := by omega
    simp (disch := omega) only [calculateTotalDifficultyLimit, accumulateEpochs,
      EpochCountGroupByTrend.step, EpochCountGroupByTrend.epochsCount, U256.divU64_ofNat,
      U256.checkedAdd_ofNat, U256.saturatingMul_ofNat, h64, h32, Nat.zero_add, ok_bind, pure_bind]
    exact congrArg (fun n => Except.ok (U256.ofNat n)) (by omega)
  have hsplitMin : ((EpochDifficultyTrend.decreased (.ofNat (d * 16)) (.ofNat (d * 4))).splitEpochs
      .min 5 1 : Except (Exit TotalDifficultyError) _) = .ok ⟨.decreased 3, .increased 2⟩ := rfl
  have hsplitMax : ((EpochDifficultyTrend.decreased (.ofNat (d * 16)) (.ofNat (d * 4))).splitEpochs
      .max 5 1 : Except (Exit TotalDifficultyError) _) = .ok ⟨.increased 2, .decreased 3⟩ := rfl
  have hremoveMin : (EpochDifficultyTrendDetails.removeLastEpoch ⟨.decreased 3, .increased 2⟩ :
      Except (Exit TotalDifficultyError) _) = .ok ⟨.decreased 3, .increased 1⟩ := rfl
  have hremoveMax : (EpochDifficultyTrendDetails.removeLastEpoch ⟨.increased 2, .decreased 3⟩ :
      Except (Exit TotalDifficultyError) _) = .ok ⟨.increased 2, .decreased 2⟩ := rfl
  have hmin : (addU256 (.ofNat d) (.ofNat (d * 18)) : Except (Exit TotalDifficultyError) U256) =
      .ok (.ofNat (d + d * 18)) := addU256_ofNat (by omega)
  have hmax : (addU256 (.ofNat d) (.ofNat (d * 144)) : Except (Exit TotalDifficultyError) U256) =
      .ok (.ofNat (d + d * 144)) := addU256_ofNat (by omega)
  have hbelow : U256.ofNat (17 * d) < .ofNat (d + d * 18) := by
    rw [U256.ofNat_lt_ofNat (by omega) (by omega)]; omega
  simp only [verifyTotalDifficulty, hstart, hend, hgt, if_false, pure_bind,
    EpochNumberWithFraction.ofFields, Nat.reduceMod, Nat.reducePow, Nat.reduceEqDiff, hgained,
    ok_bind, hstartEpoch, hendEpoch, htrend, subU, Nat.reduceLeDiff, if_true, Nat.reduceSub, hk,
    addU64, u64Size, Nat.reduceAdd, Nat.reduceLT, hstartBlocks, hendBlocks, hunaligned, hsplitMin,
    hsplitMax, hremoveMin, hremoveMax, hleast, hgreatest, hmin, hmax, hbelow, true_or]
  rfl

/-- The flat step at difficulty 1 from the total difficulty 1000. -/
theorem verifyTotalDifficulty_rejects_flat_step_example :
    (0 < 1 ∧ 1000 + 256 * 1 < U256.size) ∧
      verifyTotalDifficulty (fun _ => .ofNat 1) (.ofFields 0 15 16) 0 (.ofNat 1000)
        (.ofFields 5 0 4) 0 (.ofNat (1000 + 17 * 1)) 2 = .error (.err .outOfRange) :=
  ⟨⟨Nat.one_pos, by decide⟩,
    (verifyTotalDifficulty_rejects_flat_step (fun _ => .ofNat 1) 0 0 1000 1 rfl rfl Nat.one_pos
      (by decide)).2.2⟩

end CkbLightClient
