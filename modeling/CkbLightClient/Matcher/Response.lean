import CkbLightClient.Matcher.Sampling

/-!
# CkbLightClient — `check_if_response_is_matched`

The response matcher partitions the returned headers `H` into reorg headers (below
the request's `start_number`), sampled headers and the last-n run, and checks each
part against the request. The source is one function; the model cuts it at the
source's own paragraphs, each helper named after what its lines do:

* `checkReorgHeaders` — lines 650–679, the reorg headers;
* `splitCounts` — lines 681–695, the sampled and last-n counts;
* `checkLastNRange` — lines 697–712, no samples: the last-n run is `[start, tip)`;
* `checkSamples` — lines 713–804, the sampling loop of `Matcher.Sampling`;
* `matchStructure` — everything before the last two, and `checkIfResponseIsMatched`.

Every `usize`/`u64` subtraction, `u64` addition, index and slice of the source is a
fallible step (`Core.Arith`), so the model panics exactly where the source does.
-/

namespace CkbLightClient

/-! ## Counting with `take_while` -/

section TakeWhile

variable {α : Type} {l : List α} {p : α → Bool} {i : Nat} {x : α}

theorem length_takeWhile_le : (l.takeWhile p).length ≤ l.length :=
  (List.takeWhile_sublist p).length_le

/-- Every element before the end of the counted prefix satisfies the predicate. -/
theorem pred_of_lt_length_takeWhile (hi : i < (l.takeWhile p).length) (hx : l[i]? = some x) :
    p x = true := by
  induction l generalizing i with
  | nil => simp at hx
  | cons a l ih =>
    by_cases ha : p a
    · rw [List.takeWhile_cons_of_pos ha] at hi
      cases i with
      | zero => simp only [List.getElem?_cons_zero, Option.some.injEq] at hx; exact hx ▸ ha
      | succ i => exact ih (by simpa using hi) (by simpa using hx)
    · rw [List.takeWhile_cons_of_neg ha] at hi
      simp at hi

/-- The element right after the counted prefix fails the predicate. -/
theorem not_pred_at_length_takeWhile (hx : l[(l.takeWhile p).length]? = some x) : p x = false := by
  induction l with
  | nil => simp at hx
  | cons a l ih =>
    by_cases ha : p a
    · rw [List.takeWhile_cons_of_pos ha] at hx
      exact ih (by simpa using hx)
    · rw [List.takeWhile_cons_of_neg ha] at hx
      simp only [List.length_nil, List.getElem?_cons_zero, Option.some.injEq] at hx
      simpa [← hx] using ha

end TakeWhile

/-! ## The model -/

/-- `headers.windows(2).any(|hs| hs[0].header().number() >= hs[1].header().number())`. -/
def anyNotIncreasing : List VerifiableHeader → Bool
  | a :: b :: rest => decide (b.number ≤ a.number) || anyNotIncreasing (b :: rest)
  | _ => false

/-- `headers.iter().take_while(|h| h.header().number() < start_number).count()`. -/
def countReorg (startNumber : Nat) (headers : List VerifiableHeader) : Nat :=
  (headers.takeWhile fun h => decide (h.number < startNumber)).length

/-- `headers.iter().take_while(|h| h.total_difficulty() < difficulty_boundary).count()`. -/
def countBeforeBoundary (difficultyBoundary : U256) (headers : List VerifiableHeader) : Nat :=
  (headers.takeWhile fun h => decide (h.totalDifficulty < difficultyBoundary)).length

/-- Lines 650–679: the reorg headers are `last_n_blocks` many or start at block 1, and the
last of them is block `start_number - 1`. -/
def checkReorgHeaders (lastNBlocks startNumber reorgCount : Nat)
    (headers : List VerifiableHeader) : Except (Exit Status) Unit := do
  if reorgCount ≠ 0 then
    if reorgCount ≠ lastNBlocks then
      let firstReorgHeader ← getOrPanic headers 0
      if firstReorgHeader.number ≠ 1 then
        throw (.err StatusCode.invalidReorgHeaders.status)
    let lastReorgHeader ← getOrPanic headers (← subU reorgCount 1)
    if lastReorgHeader.number ≠ (← subU startNumber 1) then
      throw (.err StatusCode.invalidReorgHeaders.status)

/-- Lines 681–695: `(sampled_count, last_n_count)`. When more than `last_n_blocks`
headers follow the reorg headers, the headers from the first one at or above the
difficulty boundary on are the last-n run if they are more than `last_n_blocks`;
otherwise the last `last_n_blocks` headers are. -/
def splitCounts (lastNBlocks reorgCount : Nat) (difficultyBoundary : U256)
    (headers : List VerifiableHeader) : Except (Exit Status) (Nat × Nat) := do
  let totalCount := headers.length
  if (← subU totalCount reorgCount) > lastNBlocks then
    let beforeBoundaryCount := countBeforeBoundary difficultyBoundary headers
    let lastNCount ← subU totalCount beforeBoundaryCount
    if lastNCount > lastNBlocks then
      return (← subU beforeBoundaryCount reorgCount, lastNCount)
    else
      return (← subU (← subU totalCount reorgCount) lastNBlocks, lastNBlocks)
  else
    return (0, ← subU totalCount reorgCount)

/-- Lines 697–712: without sampled headers, the last-n run is every block of
`[start_number, last_header.number)`. -/
def checkLastNRange (startNumber reorgCount lastNCount : Nat) (headers : List VerifiableHeader)
    (lastHeader : VerifiableHeader) : Except (Exit Status) Unit := do
  if lastNCount > 0 then
    let firstLastNHeader ← getOrPanic headers reorgCount
    let lastLastNHeader ← getOrPanic headers (← subU headers.length 1)
    if firstLastNHeader.number ≠ startNumber then
      throw (.err StatusCode.malformedProtocolMessage.status)
    if (← addU64 lastLastNHeader.number 1) ≠ lastHeader.number then
      throw (.err StatusCode.malformedProtocolMessage.status)

/-- Lines 713–804: the sampled headers against the requested difficulties below the
first last-n header. -/
def checkSamples (prevRequest : GetLastStateProof) (reorgCount sampledCount : Nat)
    (headers : List VerifiableHeader) : Except (Exit Status) Unit := do
  let firstLastNTotalDifficulty :=
    (← getOrPanic headers (reorgCount + sampledCount)).totalDifficulty
  let difficulties :=
    prevRequest.difficulties.takeWhile fun d => decide (d < firstLastNTotalDifficulty)
  let sampledHeaders ← sliceOrPanic headers reorgCount (reorgCount + sampledCount)
  let remaining ← checkSampledHeaders sampledHeaders difficulties
  match remaining with
  | [] => pure ()
  | _ :: _ =>
    let _lastSampledHeader ← getOrPanic headers (← subU (reorgCount + sampledCount) 1)
    let firstLastNHeader ← getOrPanic headers (reorgCount + sampledCount)
    checkRemainingSamples firstLastNHeader remaining

/-- Lines 628–695: the structural checks and the three counts. -/
def matchStructure (lastNBlocks : Nat) (prevRequest : GetLastStateProof)
    (headers : List VerifiableHeader) : Except (Exit Status) (Nat × Nat × Nat) := do
  if headers.isEmpty then
    throw (.err (StatusCode.malformedProtocolMessage.withContext "headers should NOT be empty"))
  if anyNotIncreasing headers then
    throw (.err (StatusCode.malformedProtocolMessage.withContext
      "headers should be sorted (monotonic increasing)"))
  let startNumber := prevRequest.startNumber
  let reorgCount := countReorg startNumber headers
  checkReorgHeaders lastNBlocks startNumber reorgCount headers
  let (sampledCount, lastNCount) ←
    splitCounts lastNBlocks reorgCount prevRequest.difficultyBoundary headers
  return (reorgCount, sampledCount, lastNCount)

/-- `check_if_response_is_matched`: `(reorg_count, sampled_count, last_n_count)`. -/
def checkIfResponseIsMatched (lastNBlocks : Nat) (prevRequest : GetLastStateProof)
    (headers : List VerifiableHeader) (lastHeader : VerifiableHeader) :
    Except (Exit Status) (Nat × Nat × Nat) := do
  let (reorgCount, sampledCount, lastNCount) ← matchStructure lastNBlocks prevRequest headers
  if sampledCount = 0 then
    checkLastNRange prevRequest.startNumber reorgCount lastNCount headers lastHeader
  else
    checkSamples prevRequest reorgCount sampledCount headers
  return (reorgCount, sampledCount, lastNCount)

/-! ## What each part accepts

One lemma per helper, read off its successful runs; the theorems below use only these. -/

section Inversion

variable {L : Nat} {req : GetLastStateProof} {H : List VerifiableHeader} {r s l : Nat}

theorem anyNotIncreasing_eq_false :
    anyNotIncreasing H = false ↔ H.Chain' fun a b => a.number < b.number := by
  induction H with
  | nil => simp [anyNotIncreasing]
  | cons a t ih =>
    cases t with
    | nil => simp [anyNotIncreasing]
    | cons b t => simp [anyNotIncreasing, ih, List.chain'_cons]

theorem checkIfResponseIsMatched_eq_ok {lh : VerifiableHeader}
    (h : checkIfResponseIsMatched L req H lh = .ok (r, s, l)) :
    matchStructure L req H = .ok (r, s, l) ∧
      (if s = 0 then checkLastNRange req.startNumber r l H lh else checkSamples req r s H) =
        .ok () := by
  unfold checkIfResponseIsMatched at h
  obtain ⟨⟨r', s', l'⟩, hm, h⟩ := bind_eq_ok.mp h
  simp only at h
  split_ifs at h with hs <;> obtain ⟨⟨⟩, hb, ⟨⟩⟩ := bind_eq_ok.mp h <;>
    simp [hm, hs, hb]

theorem matchStructure_eq_ok (h : matchStructure L req H = .ok (r, s, l)) :
    H ≠ [] ∧ (H.Chain' fun a b => a.number < b.number) ∧ r = countReorg req.startNumber H ∧
      checkReorgHeaders L req.startNumber r H = .ok () ∧
      splitCounts L r req.difficultyBoundary H = .ok (s, l) := by
  unfold matchStructure at h
  cases hE : H.isEmpty <;> cases hS : anyNotIncreasing H <;>
    simp only [hE, hS, Bool.false_eq_true, ↓reduceIte, pure_bind, bind_eq_ok, throw_eq_error,
      reduceCtorEq, false_and, exists_false] at h
  obtain ⟨⟨⟩, hreorg, ⟨s', l'⟩, hsplit, ⟨⟩⟩ := h
  exact ⟨by simpa using hE, anyNotIncreasing_eq_false.mp hS, rfl, hreorg, hsplit⟩

theorem checkReorgHeaders_eq_ok {start : Nat} (h : checkReorgHeaders L start r H = .ok ())
    (hr : r ≠ 0) :
    (r ≠ L → (H[0]?).map VerifiableHeader.number = some 1) ∧
      (H[r - 1]?).map VerifiableHeader.number = some (start - 1) := by
  unfold checkReorgHeaders at h
  simp only [ne_eq, hr, not_false_eq_true, ↓reduceIte] at h
  by_cases hL : r = L
  · subst hL
    simp only [not_true_eq_false, ↓reduceIte, pure_bind, bind_eq_ok, getOrPanic_eq_ok, subU_eq_ok,
      throw_eq_error, ite_error_eq_ok, not_not] at h
    obtain ⟨_, ⟨-, rfl⟩, y, hy, _, ⟨-, rfl⟩, hy1, -⟩ := h
    exact ⟨fun h => absurd rfl h, by simp [hy, hy1]⟩
  · simp only [hL, not_false_eq_true, ↓reduceIte, bind_eq_ok, getOrPanic_eq_ok, subU_eq_ok,
      throw_eq_error, error_bind, pure_bind, ite_error_eq_ok, not_not] at h
    obtain ⟨x, hx, hx1, _, ⟨-, rfl⟩, y, hy, _, ⟨-, rfl⟩, hy1, -⟩ := h
    exact ⟨fun _ => by simp [hx, hx1], by simp [hy, hy1]⟩

/-- The three ways `splitCounts` can succeed. -/
theorem splitCounts_eq_ok {b : U256} (h : splitCounts L r b H = .ok (s, l)) :
    (L < H.length - r ∧ L < H.length - countBeforeBoundary b H ∧
        r ≤ countBeforeBoundary b H ∧
        s = countBeforeBoundary b H - r ∧ l = H.length - countBeforeBoundary b H) ∨
      (L < H.length - r ∧ H.length - countBeforeBoundary b H ≤ L ∧ s = H.length - r - L ∧
        l = L) ∨
      (r ≤ H.length ∧ H.length - r ≤ L ∧ s = 0 ∧ l = H.length - r) := by
  unfold splitCounts at h
  simp only [bind_eq_ok, subU_eq_ok] at h
  obtain ⟨_, ⟨hr, rfl⟩, h⟩ := h
  split_ifs at h with h1
  · simp only [bind_eq_ok, subU_eq_ok] at h
    obtain ⟨_, ⟨hb, rfl⟩, h⟩ := h
    split_ifs at h with h2 <;> simp only [bind_eq_ok, subU_eq_ok] at h
    · obtain ⟨_, ⟨h3, rfl⟩, ⟨⟩⟩ := h
      exact .inl ⟨h1, h2, h3, rfl, rfl⟩
    · obtain ⟨_, ⟨_, rfl⟩, _, ⟨_, rfl⟩, ⟨⟩⟩ := h
      exact .inr (.inl ⟨h1, not_lt.mp h2, rfl, rfl⟩)
  · simp only [bind_eq_ok, subU_eq_ok] at h
    obtain ⟨_, ⟨_, rfl⟩, ⟨⟩⟩ := h
    exact .inr (.inr ⟨hr, not_lt.mp h1, rfl, rfl⟩)

/-- What the three cases of `splitCounts` have in common. -/
theorem splitCounts_spec {b : U256} (h : splitCounts L r b H = .ok (s, l)) (hr : r ≤ H.length) :
    r + s + l = H.length ∧ min L (H.length - r) ≤ l ∧
      (0 < s → r + s ≤ countBeforeBoundary b H) ∧
      (L < l → r + s = countBeforeBoundary b H ∧ countBeforeBoundary b H < H.length) := by
  have hbb : countBeforeBoundary b H ≤ H.length := length_takeWhile_le
  rcases splitCounts_eq_ok h with
    ⟨h1, h2, h3, rfl, rfl⟩ | ⟨h1, h2, rfl, rfl⟩ | ⟨h1, h2, rfl, rfl⟩ <;>
    omega

theorem checkLastNRange_eq_ok {start : Nat} {lh : VerifiableHeader}
    (h : checkLastNRange start r l H lh = .ok ()) (hl : 0 < l) :
    (H[r]?).map VerifiableHeader.number = some start ∧
      (H[H.length - 1]?).map (fun x => x.number + 1) = some lh.number := by
  unfold checkLastNRange at h
  simp only [gt_iff_lt, hl, ↓reduceIte, bind_eq_ok, getOrPanic_eq_ok, subU_eq_ok,
    throw_eq_error, error_bind, pure_bind, ite_error_eq_ok, not_not, addU64_eq_ok] at h
  obtain ⟨x, hx, _, ⟨-, rfl⟩, y, hy, hx1, _, ⟨-, rfl⟩, hy1, -⟩ := h
  exact ⟨by simp [hx, hx1], by simp [hy, hy1]⟩

/-- With the first last-n header `F` in range, `checkSamples` is the sampling loop of
`Matcher.Sampling` on the slice of sampled headers. -/
theorem checkSamples_eq_ok_iff {F : VerifiableHeader} (hF : H[r + s]? = some F) (hs : 0 < s) :
    checkSamples req r s H = .ok () ↔
      ∃ R, checkSampledHeaders ((H.drop r).take s)
          (req.difficulties.takeWhile fun d => decide (d < F.totalDifficulty)) = .ok R ∧
        checkRemainingSamples F R = .ok () := by
  have hlt : r + s < H.length := (List.getElem?_eq_some_iff.mp hF).1
  have hget : (getOrPanic H (r + s) : Except (Exit Status) _) = .ok F := getOrPanic_eq_ok.mpr hF
  unfold checkSamples
  rw [hget, ok_bind, sliceOrPanic_of_le (by omega) (by omega), ok_bind, Nat.add_sub_cancel_left]
  cases hR : checkSampledHeaders ((H.drop r).take s)
      (req.difficulties.takeWhile fun d => decide (d < F.totalDifficulty)) with
  | error e => simp
  | ok R =>
    cases R with
    | nil => simp [checkRemainingSamples]
    | cons d R =>
      simp [subU_of_le (show 1 ≤ r + s by omega),
        getOrPanic_of_lt (show r + s - 1 < H.length by omega), hget]

end Inversion

/-! ## The partition -/

section Partition

variable {L : Nat} {req : GetLastStateProof} {H : List VerifiableHeader} {r s l : Nat}

/-- Block numbers increase along an accepted response. -/
theorem number_lt_of_lt (hs : H.Chain' fun a b => a.number < b.number) {i j : Nat}
    {x y : VerifiableHeader} (hij : i < j) (hx : H[i]? = some x) (hy : H[j]? = some y) :
    x.number < y.number := by
  have hp : (H.map VerifiableHeader.number).Pairwise (· < ·) :=
    List.chain'_iff_pairwise.mp (List.chain'_map _ |>.mpr hs)
  obtain ⟨hi, rfl⟩ := List.getElem?_eq_some_iff.mp hx
  obtain ⟨hj, rfl⟩ := List.getElem?_eq_some_iff.mp hy
  have := List.pairwise_iff_getElem.mp hp i j (by simpa using hi) (by simpa using hj) hij
  rwa [List.getElem_map, List.getElem_map] at this

/-- On increasing block numbers, the reorg count is exactly the number of headers below
`start_number`. -/
theorem lt_countReorg_iff (hs : H.Chain' fun a b => a.number < b.number) {start i : Nat}
    {x : VerifiableHeader} (hx : H[i]? = some x) : i < countReorg start H ↔ x.number < start := by
  refine ⟨fun hi => by simpa using pred_of_lt_length_takeWhile hi hx, fun hlt => ?_⟩
  by_contra hge
  have hle := not_lt.mp hge
  obtain ⟨y, hy⟩ : ∃ y, H[countReorg start H]? = some y :=
    ⟨_, List.getElem?_eq_getElem (lt_of_le_of_lt hle (List.getElem?_eq_some_iff.mp hx).1)⟩
  have hy' : ¬ y.number < start := by simpa using not_pred_at_length_takeWhile hy
  rcases Nat.lt_or_eq_of_le hle with hlt' | heq
  · exact hy' (lt_trans (number_lt_of_lt hs hlt' hy hx) hlt)
  · rw [heq, hx, Option.some.injEq] at hy
    exact hy' (hy ▸ hlt)

/-- The indices and slices `execute` takes from the counts: `headers[reorg_count]` and
`headers[reorg_count + sampled_count + last_n_count - 1]` when there are samples,
`&headers[..reorg_count - 1]`, `&headers[reorg_count + sampled_count..]`,
`&headers[..reorg_count]` and `&headers[headers.len() - last_n_count..]`. (The
`split_off` at `last_n_count - last_n_blocks` is within the `last_n_count` headers for
every count.) -/
def ExecuteIndicesInRange (len r s l : Nat) : Prop :=
  (s ≠ 0 → r < len ∧ r + s + l - 1 < len) ∧ (r ≠ 0 → r - 1 ≤ len) ∧
    r + s ≤ len ∧ r ≤ len ∧ l ≤ len

/-- **The matcher's output partitions the response.** The counts add up to `|H|`; the
reorg headers are exactly those below `start_number` and end at `start_number - 1`; the
last-n run has at least `min(L, |H| - r)` headers; sampled headers are below the
boundary; a last-n run longer than `L` starts at the first header at or above the
boundary; without samples the last-n run is `[start_number, last_header.number)`; and
every index `execute` takes from the counts is in range. -/
theorem checkIfResponseIsMatched_partition {lh : VerifiableHeader}
    (hok : checkIfResponseIsMatched L req H lh = .ok (r, s, l)) :
    r + s + l = H.length ∧
      (∀ i x, H[i]? = some x → (x.number < req.startNumber ↔ i < r)) ∧
      (0 < r → (H[r - 1]?).map VerifiableHeader.number = some (req.startNumber - 1)) ∧
      min L (H.length - r) ≤ l ∧
      (0 < s → ∀ i x, r ≤ i → i < r + s → H[i]? = some x →
        x.totalDifficulty < req.difficultyBoundary) ∧
      (L < l → (∃ x, H[r + s]? = some x ∧ req.difficultyBoundary ≤ x.totalDifficulty) ∧
        ∀ i x, i < r + s → H[i]? = some x → x.totalDifficulty < req.difficultyBoundary) ∧
      (s = 0 → 0 < l → (H[r]?).map VerifiableHeader.number = some req.startNumber ∧
        (H[H.length - 1]?).map (fun x => x.number + 1) = some lh.number) ∧
      ExecuteIndicesInRange H.length r s l := by
  obtain ⟨hm, hbranch⟩ := checkIfResponseIsMatched_eq_ok hok
  obtain ⟨hne, hsorted, rfl, hreorg, hsplit⟩ := matchStructure_eq_ok hm
  have hr : countReorg req.startNumber H ≤ H.length := length_takeWhile_le
  obtain ⟨hsum, hmin, hsampled, hlastN⟩ := splitCounts_spec hsplit hr
  have hlen : 0 < H.length := List.length_pos.mpr hne
  have below : ∀ i x, i < countBeforeBoundary req.difficultyBoundary H → H[i]? = some x →
      x.totalDifficulty < req.difficultyBoundary := fun i x hi hx => by
    simpa using pred_of_lt_length_takeWhile hi hx
  refine ⟨hsum, fun i x hx => (lt_countReorg_iff hsorted hx).symm,
    fun hr0 => (checkReorgHeaders_eq_ok hreorg hr0.ne').2, hmin,
    fun hs i x _ hi hx => below i x (lt_of_lt_of_le hi (hsampled hs)) hx, fun hl => ?_,
    fun hs hl => ?_, by unfold ExecuteIndicesInRange; omega⟩
  · obtain ⟨heq, hbb⟩ := hlastN hl
    refine ⟨?_, fun i x hi hx => below i x (heq ▸ hi) hx⟩
    obtain ⟨x, hx⟩ : ∃ x, H[countBeforeBoundary req.difficultyBoundary H]? = some x :=
      ⟨_, List.getElem?_eq_getElem hbb⟩
    exact ⟨x, heq ▸ hx, by simpa using not_pred_at_length_takeWhile hx⟩
  · simp only [hs, ↓reduceIte] at hbranch
    exact checkLastNRange_eq_ok hbranch hl

end Partition

/-- A header of the example responses below: block `n` in epoch 0, hash `n` and parent
hash `n - 1`, of compact target `difficulty` on a parent chain of total difficulty
`parent`; its total difficulty is built from them with `plainDifficulty`. -/
def exampleHeader (n parent difficulty : Nat) : VerifiableHeader :=
  .ofParent plainDifficulty (.ofFields n (.ofFields 0 n 2000) (UInt32.ofNat difficulty) n (n - 1))
    ⟨.ofNat parent, n - 1⟩

/-- A sampling request from block 400 with boundary 500 and four samples. -/
def exampleRequest : GetLastStateProof := ⟨400, 500, [100, 200, 300, 475]⟩

/-- An honest answer to `exampleRequest` for the tip `1002` with `last_n_blocks = 2`:
four sampled blocks, each holding one sample, then the blocks 1000 and 1001. -/
def exampleResponse : List VerifiableHeader :=
  [exampleHeader 500 90 30, exampleHeader 700 190 30, exampleHeader 900 290 60,
    exampleHeader 999 470 10, exampleHeader 1000 480 10, exampleHeader 1001 490 10]

example : ∀ h ∈ exampleResponse, h.Consistent plainDifficulty := by decide

theorem checkIfResponseIsMatched_partition_example :
    checkIfResponseIsMatched 2 exampleRequest exampleResponse (exampleHeader 1002 500 10) =
        .ok (0, 4, 2) ∧ 0 + 4 + 2 = exampleResponse.length :=
  ⟨rfl, (checkIfResponseIsMatched_partition (show checkIfResponseIsMatched 2 exampleRequest
    exampleResponse (exampleHeader 1002 500 10) = .ok (0, 4, 2) from rfl)).1⟩

/-- Reorg headers already at the difficulty boundary: fewer headers lie before the
boundary than are reorg headers, and `before_boundary_count - reorg_count` underflows. -/
theorem checkIfResponseIsMatched_reorg_at_boundary_panics :
    checkIfResponseIsMatched 1 ⟨10, 5, []⟩
        [exampleHeader 9 90 10, exampleHeader 10 100 10, exampleHeader 11 110 10]
        (exampleHeader 12 120 10) = .error .panic := rfl

/-! ## Sampling is exactly FlyClient coverage -/

section Sampling

variable {L : Nat} {req : GetLastStateProof} {H : List VerifiableHeader} {r s l : Nat}

/-- On strictly increasing samples, `take_while (· < c)` is `filter (· < c)`. -/
theorem takeWhile_lt_eq_filter {ds : List U256} (hs : ds.Sorted (· < ·)) (c : U256) :
    ds.takeWhile (fun d => decide (d < c)) = ds.filter (fun d => decide (d < c)) := by
  induction ds with
  | nil => rfl
  | cons d ds ih =>
    by_cases hd : d < c
    · rw [List.takeWhile_cons_of_pos (by simpa using hd),
        List.filter_cons_of_pos (by simpa using hd), ih hs.of_cons]
    · rw [List.takeWhile_cons_of_neg (by simpa using hd),
        List.filter_cons_of_neg (by simpa using hd)]
      refine (List.filter_eq_nil_iff.mpr fun e he => ?_).symm
      simpa using fun hec => hd (lt_trans (List.rel_of_sorted_cons hs e he) hec)

/-- **The sampling check is exactly the FlyClient coverage condition.** For a response
that passes the structural checks with `s > 0` sampled headers `S = H[r..r+s]`, first
last-n header `F = H[r+s]` and the requested (strictly increasing) samples `D` below
`td(F)`: an accepted response meets the coverage condition, and when the intervals are
ascending, the coverage condition makes the matcher accept. -/
theorem checkIfResponseIsMatched_sampling_iff_coverage {lh F : VerifiableHeader}
    (hD : req.difficulties.Sorted (· < ·)) (hm : matchStructure L req H = .ok (r, s, l))
    (hs : 0 < s) (hF : H[r + s]? = some F) :
    (checkIfResponseIsMatched L req H lh = .ok (r, s, l) →
        Coverage ((H.drop r).take s)
          (req.difficulties.filter fun d => decide (d < F.totalDifficulty)) F) ∧
      (Ascending ((H.drop r).take s) F →
        Coverage ((H.drop r).take s)
          (req.difficulties.filter fun d => decide (d < F.totalDifficulty)) F →
        checkIfResponseIsMatched L req H lh = .ok (r, s, l)) := by
  have hD' := hD.sublist (List.filter_sublist (p := fun d => decide (d < F.totalDifficulty)) _)
  refine ⟨fun hok => ?_, fun hasc hcov => ?_⟩
  · have hbranch := (checkIfResponseIsMatched_eq_ok hok).2
    simp only [hs.ne', ↓reduceIte] at hbranch
    obtain ⟨R, hloop, hrest⟩ := (checkSamples_eq_ok_iff hF hs).mp hbranch
    rw [takeWhile_lt_eq_filter hD] at hloop
    exact sampling_sound hD' hloop hrest
  · obtain ⟨R, hloop, hrest⟩ := sampling_complete hD' hasc hcov
    have hsamples : checkSamples req r s H = .ok () :=
      (checkSamples_eq_ok_iff hF hs).mpr ⟨R, by rwa [takeWhile_lt_eq_filter hD], hrest⟩
    simp [checkIfResponseIsMatched, hm, hs.ne', hsamples]

/-- The example response passes the structural checks with four sampled headers. -/
theorem checkIfResponseIsMatched_sampling_iff_coverage_example :
    exampleRequest.difficulties.Sorted (· < ·) ∧
      matchStructure 2 exampleRequest exampleResponse = .ok (0, 4, 2) ∧ 0 < 4 ∧
      exampleResponse[0 + 4]? = some (exampleHeader 1000 480 10) ∧
      (checkIfResponseIsMatched 2 exampleRequest exampleResponse (exampleHeader 1002 500 10) =
          .ok (0, 4, 2) →
        Coverage ((exampleResponse.drop 0).take 4)
          (exampleRequest.difficulties.filter fun d =>
            decide (d < (exampleHeader 1000 480 10).totalDifficulty))
          (exampleHeader 1000 480 10)) :=
  ⟨by decide, rfl, by decide, rfl,
    (checkIfResponseIsMatched_sampling_iff_coverage (by decide)
      (show matchStructure 2 exampleRequest exampleResponse = .ok (0, 4, 2) from rfl) (by decide)
      (show exampleResponse[0 + 4]? = some (exampleHeader 1000 480 10) from rfl)).1⟩

end Sampling

end CkbLightClient
