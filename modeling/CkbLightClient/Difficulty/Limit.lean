import CkbLightClient.Difficulty.Trend

/-!
# CkbLightClient — the estimated total difficulty limits

Between two epochs `n` switches apart, `verify_total_difficulty` estimates the least and
the greatest total difficulty of the `n - 1` full epochs between them: `split_epochs`
splits the `n` switches into a falling and a rising group, `remove_last_epoch` takes the
end epoch out, and `calculate_total_difficulty_limit` adds one epoch difficulty per epoch
left.

* `split_epochs` and `remove_last_epoch` compute their `u64` counts without overflow or
  underflow whenever `k ≤ n` and `n + 1` fits a `u64` (`splitEpochs_ok`,
  `removeLastEpoch_ok`); the counts of `Trend` then give `n` and `n - 1`;
* each loop of `calculate_total_difficulty_limit` adds the values `groupValues` lists,
  and panics exactly when their sum overflows (`accumulateEpochs_eq`), so the whole
  function is the sum of `totalDifficultyValues`, one value per epoch of the two groups
  (`calculateTotalDifficultyLimit_eq`).

Together: `splitEpochs_removeLastEpoch_counts`.
-/

namespace CkbLightClient

section Fallible

variable {ε : Type}

theorem EpochDifficultyTrend.increasedDecreased_ok (trend : EpochDifficultyTrend)
    (limit : EstimatedLimit) {n k : Nat} (hk : k ≤ n) (hn : n + 1 < u64Size) :
    ∃ counts,
      (trend.increasedDecreased limit n k : Except (Exit ε) (Nat × Nat)) = .ok counts := by
  cases limit <;> cases trend <;>
    simp (disch := omega) only [EpochDifficultyTrend.increasedDecreased, subU_of_le, addU64_of_lt,
      ok_bind, pure_eq_ok] <;>
    exact ⟨_, rfl⟩

theorem EpochDifficultyTrend.splitEpochs_ok (trend : EpochDifficultyTrend)
    (limit : EstimatedLimit) {n k : Nat} (hk : k ≤ n) (hn : n + 1 < u64Size) :
    ∃ details, (trend.splitEpochs limit n k : Except (Exit ε) _) = .ok details := by
  obtain ⟨⟨i, d⟩, h⟩ := trend.increasedDecreased_ok (ε := ε) limit hk hn
  cases limit <;> exact ⟨_, by rw [EpochDifficultyTrend.splitEpochs, h]; rfl⟩

theorem EpochCountGroupByTrend.subtract1_ok (group : EpochCountGroupByTrend)
    (h : 1 ≤ group.epochsCount) :
    ∃ group', (group.subtract1 : Except (Exit ε) _) = .ok group' := by
  cases group <;> simp only [EpochCountGroupByTrend.epochsCount] at h <;>
    exact ⟨_, by rw [EpochCountGroupByTrend.subtract1, subU_of_le h]; rfl⟩

theorem EpochDifficultyTrendDetails.removeLastEpoch_ok (details : EpochDifficultyTrendDetails)
    (h : 1 ≤ details.totalEpochsCount) :
    ∃ details', (details.removeLastEpoch : Except (Exit ε) _) = .ok details' := by
  unfold EpochDifficultyTrendDetails.removeLastEpoch
  unfold EpochDifficultyTrendDetails.totalEpochsCount at h
  split
  · obtain ⟨start, hstart⟩ := details.start.subtract1_ok (ε := ε) (by omega)
    exact ⟨_, by rw [hstart]; rfl⟩
  · obtain ⟨end_, hend⟩ := details.end_.subtract1_ok (ε := ε) (by omega)
    exact ⟨_, by rw [hend]; rfl⟩

/-- The epoch difficulties one group of `calculate_total_difficulty_limit` adds: `count`
steps from `curr`, each taken from the one before. -/
def groupValues (step : U256 → U256) : Nat → U256 → List U256
  | 0, _ => []
  | count + 1, curr => step curr :: groupValues step count (step curr)

/-- The sum of difficulties, as a number. -/
def sumDifficulties : List U256 → Nat
  | [] => 0
  | a :: rest => a.val + sumDifficulties rest

theorem sumDifficulties_append (l l' : List U256) :
    sumDifficulties (l ++ l') = sumDifficulties l + sumDifficulties l' := by
  induction l with
  | nil => simp [sumDifficulties]
  | cons a l ih => rw [List.cons_append, sumDifficulties, sumDifficulties, ih, Nat.add_assoc]

theorem length_groupValues (step : U256 → U256) (count : Nat) (curr : U256) :
    (groupValues step count curr).length = count := by
  induction count generalizing curr with
  | zero => rfl
  | succ count ih => simp only [groupValues, List.length_cons, ih]

/-- **One group accumulates its values.** The loop adds the `count` values of the group
to `total`, and panics exactly when their sum does not fit. -/
theorem accumulateEpochs_eq (step : U256 → U256) (count : Nat) (curr total : U256) :
    (accumulateEpochs step count curr total : Except (Exit ε) (U256 × U256)) =
      if total.val + sumDifficulties (groupValues step count curr) < U256.size then
        .ok (step^[count] curr, .ofNat (total.val + sumDifficulties (groupValues step count curr)))
      else .error .panic := by
  induction count generalizing curr total with
  | zero => simp [accumulateEpochs, groupValues, sumDifficulties, total.isLt]
  | succ count ih =>
    simp only [accumulateEpochs, groupValues, sumDifficulties]
    split
    next total' hadd =>
      obtain ⟨-, hval⟩ := U256.checkedAdd_eq_some.mp hadd
      rw [ih, hval, Nat.add_assoc]
      rfl
    next hadd =>
      rw [U256.checkedAdd_eq_none] at hadd
      rw [if_neg (by omega)]

/-- The epoch difficulties `calculate_total_difficulty_limit` adds, in order: the start
group's from the start epoch difficulty, then the end group's from where the start group
left off. -/
def totalDifficultyValues (startEpochDifficulty : U256) (tau : Nat)
    (details : EpochDifficultyTrendDetails) : List U256 :=
  groupValues (details.start.step tau) details.start.epochsCount startEpochDifficulty ++
    groupValues (details.end_.step tau) details.end_.epochsCount
      ((details.start.step tau)^[details.start.epochsCount] startEpochDifficulty)

theorem length_totalDifficultyValues (startEpochDifficulty : U256) (tau : Nat)
    (details : EpochDifficultyTrendDetails) :
    (totalDifficultyValues startEpochDifficulty tau details).length =
      details.totalEpochsCount := by
  simp only [totalDifficultyValues, List.length_append, length_groupValues,
    EpochDifficultyTrendDetails.totalEpochsCount]

/-- **`calculate_total_difficulty_limit` sums its values.** It returns the sum of the epoch
difficulties of both groups, and panics exactly when that sum does not fit. -/
theorem calculateTotalDifficultyLimit_eq (startEpochDifficulty : U256) (tau : Nat)
    (details : EpochDifficultyTrendDetails) :
    (calculateTotalDifficultyLimit startEpochDifficulty tau details : Except (Exit ε) U256) =
      if sumDifficulties (totalDifficultyValues startEpochDifficulty tau details) < U256.size
      then .ok (.ofNat (sumDifficulties (totalDifficultyValues startEpochDifficulty tau details)))
      else .error .panic := by
  simp only [calculateTotalDifficultyLimit, accumulateEpochs_eq, totalDifficultyValues,
    sumDifficulties_append, U256.val_ofNat, Nat.zero_mod, Nat.zero_add]
  split
  next h1 =>
    simp only [ok_bind, U256.val_ofNat_of_lt h1]
    split <;> rfl
  next h1 =>
    rw [if_neg (by omega)]
    rfl

/-- **The epoch split adds up.** For every trend and limit, `n` epoch switches that fit a
`u64` with room for one more, and every `k < n`: `split_epochs` computes its counts without
overflow or underflow and they sum to `n`; `remove_last_epoch` then subtracts without
underflow and leaves `n - 1`; and `calculate_total_difficulty_limit` sums exactly those
`n - 1` epoch difficulties, one per full epoch strictly between the start and the end
epoch (every `n < 2 ^ 24`, the epoch numbers' bound, fits). -/
theorem splitEpochs_removeLastEpoch_counts (trend : EpochDifficultyTrend)
    (limit : EstimatedLimit) {n k : Nat} (hk : k < n) (hn : n + 1 < u64Size) :
    ∃ details details',
      (trend.splitEpochs limit n k : Except (Exit ε) _) = .ok details ∧
      details.totalEpochsCount = n ∧
      (details.removeLastEpoch : Except (Exit ε) _) = .ok details' ∧
      details'.totalEpochsCount = n - 1 ∧
      ∀ startEpochDifficulty tau,
        (totalDifficultyValues startEpochDifficulty tau details').length = n - 1 ∧
        (calculateTotalDifficultyLimit startEpochDifficulty tau details' :
            Except (Exit ε) U256) =
          if sumDifficulties (totalDifficultyValues startEpochDifficulty tau details') < U256.size
          then
            .ok (.ofNat (sumDifficulties (totalDifficultyValues startEpochDifficulty tau details')))
          else .error .panic := by
  obtain ⟨details, hsplit⟩ := trend.splitEpochs_ok (ε := ε) limit hk.le hn
  have htotal := EpochDifficultyTrend.splitEpochs_totalEpochsCount hsplit
  obtain ⟨details', hremove⟩ := details.removeLastEpoch_ok (ε := ε) (by omega)
  have htotal' := EpochDifficultyTrendDetails.removeLastEpoch_totalEpochsCount hremove
  refine ⟨details, details', hsplit, htotal, hremove, by omega, fun s tau => ⟨?_,
    calculateTotalDifficultyLimit_eq s tau details'⟩⟩
  rw [length_totalDifficultyValues]
  omega

end Fallible

/-- Five epoch switches of a rising trend with `k = 1`: the least estimate falls for two
epochs and rises for two, four epochs in all. -/
theorem splitEpochs_removeLastEpoch_counts_example :
    1 < 5 ∧ 5 + 1 < u64Size ∧
      ∃ details details' : EpochDifficultyTrendDetails,
        ((EpochDifficultyTrend.increased (.ofNat 1) (.ofNat 2)).splitEpochs .min 5 1 :
          Except (Exit Unit) _) = .ok details ∧
        (details.removeLastEpoch : Except (Exit Unit) _) = .ok details' ∧
        details'.totalEpochsCount = 4 :=
  have hk : 1 < 5 := by decide
  have hn : 5 + 1 < u64Size := by decide
  let ⟨details, details', hsplit, _, hremove, htotal, _⟩ :=
    splitEpochs_removeLastEpoch_counts (ε := Unit) (.increased (.ofNat 1) (.ofNat 2)) .min hk hn
  ⟨hk, hn, details, details', hsplit, hremove, htotal⟩

end CkbLightClient
