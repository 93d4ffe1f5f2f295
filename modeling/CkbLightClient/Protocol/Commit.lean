import CkbLightClient.Protocol.Rejection

/-!
# CkbLightClient — what `execute` commits

The state `execute` passes to `commit_prove_state` comes from one path only: the request
selected, every check passed, the tau check did not fail, and `buildLastHeaders` gave its
reorg headers and last headers (`execute_commits`). From that path:

* the last headers are never more than `last_n_blocks` (`execute_commit_lastHeaders_length_le`);
* but nothing makes the last headers reach the tip, nor the reorg headers be the run of
  `last_n_blocks` blocks below the start, nor the tau check run on epochs in order: the
  three runs at the end of the module commit or panic on such responses.
-/

namespace CkbLightClient

namespace Outcome

/-- `o` passed `state` to `commit_prove_state`. -/
def Commits (o : Outcome) (state : ProveState) : Prop :=
  ∃ result, Effect.commitProveState state result ∈ o.effects

theorem not_commits_done (s : Status) (state : ProveState) : ¬ (done s).Commits state :=
  fun ⟨_, h⟩ => nomatch h

theorem not_commits_abort (state : ProveState) : ¬ abort.Commits state :=
  fun ⟨_, h⟩ => nomatch h

theorem commits_after {e : Effect} {o : Outcome} {state : ProveState} :
    (after e o).Commits state ↔ (∃ r, e = .commitProveState state r) ∨ o.Commits state := by
  simp only [Commits, after, List.mem_cons, exists_or, eq_comm]

theorem Commits.of_bindChecked {α : Type} {x : Except (Exit Status) α} {k : α → Outcome}
    {state : ProveState} (h : (bindChecked x k).Commits state) :
    ∃ a, x = .ok a ∧ (k a).Commits state :=
  match x, h with
  | .ok a, h => ⟨a, rfl, h⟩
  | .error (.err _), h => absurd h (not_commits_done _ _)
  | .error .panic, h => absurd h (not_commits_abort _)

theorem Commits.of_call {α : Type} {effect : Except Status α → Effect}
    {result : Except Status α} {k : α → Outcome} {state : ProveState}
    (h : (call effect result k).Commits state) :
    (∃ r, effect result = .commitProveState state r) ∨
      ∃ a, result = .ok a ∧ (k a).Commits state := by
  cases result with
  | ok a => exact (commits_after.mp h).imp id fun h => ⟨a, rfl, h⟩
  | error s => exact (commits_after.mp h).imp id fun h => absurd h (not_commits_done _ _)

/-- A recheck request commits nothing. -/
theorem not_commits_recheck {request : ProveRequest} {result : Except Status Unit}
    {content : GetLastStateProof} {s : Status} {state : ProveState} :
    ¬ (call (.updateProveRequest request) result fun () =>
      after (.reply content) (done s)).Commits state := by
  intro h
  rcases Commits.of_call h with ⟨_, ⟨⟩⟩ | ⟨_, _, h⟩
  rcases commits_after.mp h with ⟨_, ⟨⟩⟩ | h
  exact not_commits_done _ _ h

end Outcome

open Outcome

/-! ## The only path to a commit -/

section Path

variable {ctx : Context} {peerState : PeerState}

theorem commitResponse_commits {originalRequest : ProveRequest} {isTrustedState : Bool}
    {lastHeader : VerifiableHeader} {v : Verified} {state : ProveState}
    (h : (commitResponse ctx peerState originalRequest isTrustedState lastHeader v).Commits state) :
    v.failedToVerifyTau = false ∧ originalRequest.ifLongForkDetected = false ∧
      ∃ reorgLastHeaders lastHeaders,
        buildLastHeaders peerState ctx.lastNBlocks v = .ok (reorgLastHeaders, lastHeaders) ∧
        state = .newFromRequest originalRequest reorgLastHeaders lastHeaders := by
  unfold commitResponse at h
  split at h
  · split at h
    · exact absurd h not_commits_recheck
    · exact absurd h (not_commits_done _ _)
  next htau =>
    obtain ⟨⟨reorgLastHeaders, lastHeaders⟩, hb, h⟩ := Commits.of_bindChecked h
    refine ⟨Bool.eq_false_iff.mpr htau, ?_⟩
    dsimp only at h
    split at h
    · exact absurd h (not_commits_abort _)
    next hfork =>
      refine ⟨Bool.eq_false_iff.mpr hfork, reorgLastHeaders, lastHeaders, hb, ?_⟩
      rcases Commits.of_call h with ⟨_, hst⟩ | ⟨_, _, h⟩
      · exact (Effect.commitProveState.inj hst).1.symm
      · -- after the commit: the request from genesis, or nothing
        split at h
        · split at h
          · exact absurd h (not_commits_abort _)
          · split at h
            · exact absurd h not_commits_recheck
            · exact absurd h (not_commits_done _ _)
        · exact absurd h (not_commits_done _ _)

/-- **The only path to a commit.** A state `execute` commits comes from the selected
request (without the long fork flag, and awaiting this tip unless it is the trusted
state's), a response that passed every check, a tau check that did not fail, and
`buildLastHeaders`. -/
theorem execute_commits {message : SendLastStateProof} {state : ProveState}
    (h : (execute ctx (some peerState) message).Commits state) :
    ∃ originalRequest isTrustedState v reorgLastHeaders lastHeaders,
      selectRequest ctx peerState message.lastHeader = .ok (originalRequest, isTrustedState) ∧
      (isTrustedState = false → originalRequest.isSameAs message.lastHeader = true) ∧
      verifyResponse ctx peerState originalRequest message = .ok v ∧
      v.failedToVerifyTau = false ∧ originalRequest.ifLongForkDetected = false ∧
      buildLastHeaders peerState ctx.lastNBlocks v = .ok (reorgLastHeaders, lastHeaders) ∧
      state = .newFromRequest originalRequest reorgLastHeaders lastHeaders := by
  obtain ⟨⟨originalRequest, isTrustedState⟩, hsel, h⟩ := Commits.of_bindChecked h
  dsimp only at h
  split at h
  · -- a new last state commits nothing
    split at h
    · rcases Commits.of_call h with ⟨_, ⟨⟩⟩ | ⟨_, _, h⟩
      rcases Commits.of_call h with ⟨_, ⟨⟩⟩ | ⟨_, _, h⟩
      exact absurd h (not_commits_done _ _)
    · exact absurd h (not_commits_done _ _)
  next hsame =>
    obtain ⟨v, hv, h⟩ := Commits.of_bindChecked h
    obtain ⟨htau, hfork, reorgLastHeaders, lastHeaders, hb, rfl⟩ := commitResponse_commits h
    refine ⟨originalRequest, isTrustedState, v, reorgLastHeaders, lastHeaders, hsel, ?_, hv, htau,
      hfork, hb, rfl⟩
    simpa using hsame

/-! ## What a commit proves -/

/-- `peerState` awaits the proof of `lastHeader`: its pending request is for this tip, or,
with none pending, its trusted state's request pins the tip's hash and the tip passed
`check_verifiable_header`. -/
def Awaits (ctx : Context) (peerState : PeerState) (lastHeader : VerifiableHeader) : Prop :=
  (∃ request, peerState.proveRequest = some request ∧ request.isSameAs lastHeader = true) ∨
    peerState.proveRequest = none ∧ ∃ request, peerState.proveRequestForTrustedState = some request ∧
      ctx.checkVerifiableHeader lastHeader = .ok () ∧ lastHeader.header.hash = request.trustedHash

/-- The request `selectRequest` answers with, when it awaits this tip or is the trusted
state's, is for the tip, and the slot awaits the tip. -/
theorem selectRequest_awaits {lastHeader : VerifiableHeader} {request : ProveRequest}
    {isTrustedState : Bool}
    (h : selectRequest ctx peerState lastHeader = .ok (request, isTrustedState))
    (hsame : isTrustedState = false → request.isSameAs lastHeader = true) :
    Awaits ctx peerState lastHeader ∧ request.lastHeader = lastHeader := by
  unfold selectRequest at h
  split at h
  next hpending =>
    cases h
    exact ⟨.inl ⟨_, hpending, hsame rfl⟩, by simpa [ProveRequest.isSameAs] using hsame rfl⟩
  next hnone htrusted =>
    obtain ⟨_, hcheck, h⟩ := bind_eq_ok.mp h
    split at h
    next hhash =>
      cases h
      exact ⟨.inr ⟨hnone, _, htrusted, mapError_err_eq_ok.mp hcheck, hhash⟩, rfl⟩
    · cases h
  · cases h

/-- The checks of `verifyResponse` over the whole response that do not depend on the
request: the chain roots, the proof of work, and the MMR proof against the tip. -/
theorem verifyResponse_eq_ok {originalRequest : ProveRequest} {message : SendLastStateProof}
    {v : Verified} (h : verifyResponse ctx peerState originalRequest message = .ok v) :
    ctx.checkChainRootForHeaders message.headers = .ok () ∧
      ctx.checkPowForHeaders (message.headers.map (·.header)) = .ok () ∧
      verifyMmrProof ctx.mmr ctx.mmrActivatedEpoch message.lastHeader message.proof
        (message.headers.map (·.header)) = .ok () := by
  simp only [verifyResponse, bind_eq_ok, mapError_err_eq_ok] at h
  obtain ⟨_, -, _, hroot, _, hpow, _, -, h⟩ := h
  refine ⟨hroot, hpow, ?_⟩
  -- the rest of the checks, after the reorg headers' continuity check or without it
  split at h <;> simp only [bind_eq_ok] at h
  · obtain ⟨_, -, _, -, _, -, _, -, _, -, _, hmmr, -⟩ := h
    exact hmmr
  · obtain ⟨_, -, _, -, _, -, _, hmmr, -⟩ := h
    exact hmmr

/-- `message`, received at the slot `peerState`, proves the tip of `state`: the tip is the
message's own, the slot awaited it, and the returned headers passed the chain root and
proof-of-work checks and the MMR proof against it. -/
def ProvesTip (ctx : Context) (peerState : PeerState) (message : SendLastStateProof)
    (state : ProveState) : Prop :=
  state.lastHeader = message.lastHeader ∧ Awaits ctx peerState message.lastHeader ∧
    ctx.checkChainRootForHeaders message.headers = .ok () ∧
    ctx.checkPowForHeaders (message.headers.map (·.header)) = .ok () ∧
    verifyMmrProof ctx.mmr ctx.mmrActivatedEpoch message.lastHeader message.proof
      (message.headers.map (·.header)) = .ok ()

/-- Every state `execute` commits is the tip of the message, which the slot awaited,
proved by the message. -/
theorem execute_commits_provesTip {message : SendLastStateProof} {state : ProveState}
    (h : (execute ctx (some peerState) message).Commits state) :
    ProvesTip ctx peerState message state := by
  obtain ⟨_, _, _, _, _, hsel, hsame, hv, -, -, -, rfl⟩ := execute_commits h
  obtain ⟨hawaits, htip⟩ := selectRequest_awaits hsel hsame
  exact ⟨htip, hawaits, verifyResponse_eq_ok hv⟩

end Path

/-! ## The last headers -/

section LastHeaders

variable {peerState : PeerState} {lastNBlocks : Nat} {v : Verified}

theorem buildLastHeaders_eq_ok {reorgLastHeaders lastHeaders : List Header}
    (h : buildLastHeaders peerState lastNBlocks v = .ok (reorgLastHeaders, lastHeaders)) :
    reorgLastHeaders = v.headers.take v.reorgCount ∧ v.lastNCount ≤ v.headers.length ∧
      matchLastHeaders peerState lastNBlocks v (v.headers.drop (v.headers.length - v.lastNCount)) =
        .ok lastHeaders := by
  simp only [buildLastHeaders, bind_eq_ok, pure_eq_ok, sliceOrPanic_eq_ok, subU_eq_ok] at h
  obtain ⟨_, ⟨-, -, rfl⟩, _, ⟨hl, rfl⟩, _, ⟨-, -, rfl⟩, _, hm, ⟨⟩⟩ := h
  refine ⟨by simp, hl, ?_⟩
  rwa [List.take_of_length_le (by simp)] at hm

/-- Completing fewer than `last_n_blocks` new headers from older ones keeps at most
`last_n_blocks`. -/
theorem complete_length_le {oldLastHeaders newLastHeaders lastHeaders : List Header}
    (hnew : newLastHeaders.length = v.lastNCount) (hlt : v.lastNCount < lastNBlocks)
    (h : (if oldLastHeaders.isEmpty then pure newLastHeaders else do
        let requiredCount ← subU lastNBlocks v.lastNCount
        pure (oldLastHeaders.drop (oldLastHeaders.length - requiredCount) ++ newLastHeaders) :
          Except (Exit Status) (List Header)) = .ok lastHeaders) :
    lastHeaders.length ≤ lastNBlocks := by
  split at h
  · cases h; omega
  · simp only [bind_eq_ok, pure_eq_ok, subU_eq_ok] at h
    obtain ⟨_, ⟨-, rfl⟩, ⟨⟩⟩ := h
    simp only [List.length_append, List.length_drop]
    omega

/-- `matchLastHeaders` keeps at most `last_n_blocks` headers: the new ones cut to it, or
completed up to it. -/
theorem matchLastHeaders_length_le {newLastHeaders lastHeaders : List Header}
    (hnew : newLastHeaders.length = v.lastNCount)
    (h : matchLastHeaders peerState lastNBlocks v newLastHeaders = .ok lastHeaders) :
    lastHeaders.length ≤ lastNBlocks := by
  unfold matchLastHeaders at h
  rcases lt_trichotomy v.lastNCount lastNBlocks with hlt | heq | hgt
  · simp only [compare_lt_iff_lt.mpr hlt] at h
    cases hps : peerState.proveState with
    | some proveState =>
      simp only [hps] at h
      split at h
      · exact complete_length_le hnew hlt h
      · obtain ⟨_, -, h⟩ := bind_eq_ok.mp h
        exact complete_length_le hnew hlt h
    | none =>
      simp only [hps] at h
      split at h
      · cases h; omega
      · cases h
  · simp only [compare_eq_iff_eq.mpr heq] at h
    cases h; omega
  · simp only [compare_gt_iff_gt.mpr hgt, bind_eq_ok, subU_eq_ok, splitOffOrPanic_eq_ok] at h
    obtain ⟨_, ⟨-, rfl⟩, -, rfl⟩ := h
    simp only [List.length_drop]
    omega

/-- **Committed last headers fit `last_n_blocks`.** Every state `execute` commits holds at
most `last_n_blocks` last headers, whatever the response and the previous state. -/
theorem execute_commit_lastHeaders_length_le {ctx : Context} {message : SendLastStateProof}
    {state : ProveState} (h : (execute ctx (some peerState) message).Commits state) :
    state.lastHeaders.length ≤ ctx.lastNBlocks := by
  obtain ⟨_, _, v, _, _, -, -, -, -, -, hb, rfl⟩ := execute_commits h
  obtain ⟨-, hl, hm⟩ := buildLastHeaders_eq_ok hb
  exact matchLastHeaders_length_le (by simp; omega) hm

end LastHeaders

/-! ## Three responses the checks let through -/

/-- **Committed last headers need not reach the tip.** With `last_n_blocks = 1`, a
response for the tip 10 made of block 5 (the sample) and block 8 (the last-n run) passes
every check, and block 8, not block 9, is committed as the last header before the tip:
only the last-n run is checked for continuity, and with samples nothing ties it to the
tip. -/
theorem execute_commits_last_headers_short_of_tip :
    let content : GetLastStateProof := ⟨0, 60, [45]⟩
    let tip := chainHeader 10 0 10 90
    let lastN := chainHeader 8 0 10 70
    let message : SendLastStateProof := ⟨tip, [], [chainHeader 5 0 10 40, lastN]⟩
    message.Receivable (acceptingContext 1 content).compactToDifficulty ∧
    (execute (acceptingContext 1 content) (some (.awaiting tip content false)) message).effects =
      [.commitProveState ⟨tip, [], [lastN.header]⟩ (.ok true)] ∧
    lastN.number ≠ tip.number - 1 :=
  ⟨by decide, rfl, by decide⟩

/-- **Committed reorg headers need not be the run below the start.** With
`last_n_blocks = 2` and the start 5, the reorg headers 1, 2, 4 pass: they start at block 1
(so their count is not checked against `last_n_blocks`) and end at block 4, and the
continuity check over `headers[..reorg_count - 1]` leaves out the link from 2 to 4. Three
headers, not `min 2 4`, are committed, and 2 is not the parent of 4. -/
theorem execute_commits_unlinked_reorg_headers :
    let content : GetLastStateProof := ⟨5, 0, []⟩
    let tip := chainHeader 7 0 10 60
    let reorg := [chainHeader 1 0 10 0, chainHeader 2 0 10 10, chainHeader 4 0 10 30]
    let lastN := [chainHeader 5 0 10 40, chainHeader 6 0 10 50]
    let message : SendLastStateProof := ⟨tip, [], reorg ++ lastN⟩
    message.Receivable (acceptingContext 2 content).compactToDifficulty ∧
    (execute (acceptingContext 2 content) (some (.awaiting tip content false)) message).effects =
      [.commitProveState ⟨tip, reorg.map (·.header), lastN.map (·.header)⟩ (.ok true)] ∧
    reorg.length ≠ min 2 (content.startNumber - 1) ∧
    (acceptingContext 2 content).isParentOf (chainHeader 2 0 10 10).header
      (chainHeader 4 0 10 30).header = false :=
  ⟨by decide, rfl, by decide, rfl⟩

/-- **The tau check can start at a later epoch than it ends.** With `last_n_blocks = 1`,
the sampled block 5 in epoch 3 and the last-n block 8 in epoch 2 pass the matcher (only
block numbers must increase), and `verify_tau` subtracts epoch 3 from epoch 2. -/
theorem execute_tau_check_epoch_underflow :
    let content : GetLastStateProof := ⟨0, 60, [45]⟩
    let tip := chainHeader 10 2 10 90
    let sampled := chainHeader 5 3 10 40
    let lastN := chainHeader 8 2 10 70
    (⟨tip, [], [sampled, lastN]⟩ : SendLastStateProof).Receivable
      (acceptingContext 1 content).compactToDifficulty ∧
    checkIfResponseIsMatched 1 content [sampled, lastN] tip = .ok (0, 1, 1) ∧
    lastN.header.epoch.number < sampled.header.epoch.number ∧
    verifyTau (acceptingContext 1 content).compactToDifficulty sampled.header.epoch
        sampled.header.compactTarget lastN.header.epoch lastN.header.compactTarget 2 =
      .error .panic ∧
    (execute (acceptingContext 1 content) (some (.awaiting tip content false))
        ⟨tip, [], [sampled, lastN]⟩).ending = .panic :=
  ⟨by decide, rfl, by decide, rfl, rfl⟩

end CkbLightClient
