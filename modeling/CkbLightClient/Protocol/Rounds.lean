import CkbLightClient.Protocol.Moves

/-!
# CkbLightClient — the long fork flag across rounds

When `commit_prove_state` finds a long fork, `execute` asks the peer again from genesis
with a request flagged `long_fork_detected`; the answer to a flagged request is never
committed, and one that passes every check panics instead
(`execute_flagged_never_commits`).

The flag lives on the pending request only, and the tau recheck builds its new request
with `ProveRequest::new`, which clears it: one round later, the same answer is committed
(`step_tau_recheck_forgets_long_fork`, on a message whose headers carry the total
difficulties the chain gives them).

Along a whole run, the proved state changes only by a commit (`step_cases`), so what
every commit satisfies holds of every proved state the run reaches: it is the tip of one
of the run's messages, which the slot the run had reached awaited, proved by that message
(`run_proveState_provesTip`), and its last headers never exceed `last_n_blocks`
(`run_lastHeadersFit`).
-/

namespace CkbLightClient

open Outcome

/-- **A flagged request is never committed.** While the pending request carries the long
fork flag, `execute` passes no state to `commit_prove_state`, whatever the response and
the registry's answers; an answer for its tip that passes every check, the tau check
included, and whose last headers can be built, reaches the fatal long fork panic. -/
theorem execute_flagged_never_commits {ctx : Context} {peerState : PeerState}
    {message : SendLastStateProof} {request : ProveRequest} {state : ProveState}
    (hrequest : peerState.proveRequest = some request) (hflag : request.ifLongForkDetected = true) :
    ¬ (execute ctx (some peerState) message).Commits state ∧
      ∀ v headers, request.isSameAs message.lastHeader = true →
        verifyResponse ctx peerState request message = .ok v → v.failedToVerifyTau = false →
        buildLastHeaders peerState ctx.lastNBlocks v = .ok headers →
        (execute ctx (some peerState) message).ending = .panic := by
  have hsel : selectRequest ctx peerState message.lastHeader = .ok (request, false) :=
    selectRequest_of_proveRequest hrequest
  refine ⟨fun h => ?_, fun v headers hsame hv htau hbuild => ?_⟩
  · obtain ⟨_, _, _, _, _, hsel', -, -, -, hfork, -⟩ := execute_commits h
    obtain ⟨rfl, -⟩ := Prod.mk.inj (Except.ok.inj (hsel.symm.trans hsel'))
    simp [hflag] at hfork
  · rw [(Answers.mk hsel (fun _ => hsame) hv).execute_eq]
    simp only [commitResponse, htau, hbuild, hflag, Bool.false_eq_true, ↓reduceIte, bindChecked]
    rfl

/-- A flagged request for the tip 5, answered by its two last-n blocks: nothing is
committed, and the round panics. -/
theorem execute_flagged_never_commits_example :
    let content : GetLastStateProof := ⟨3, 0, []⟩
    let tip := chainHeader 5 0 10 40
    let request : ProveRequest := ⟨tip, content, false, true⟩
    let lastN := [chainHeader 3 0 10 20, chainHeader 4 0 10 30]
    let ctx := acceptingContext 2 content
    let message : SendLastStateProof := ⟨tip, [], lastN⟩
    (PeerState.awaiting tip content true).proveRequest = some request ∧
      request.ifLongForkDetected = true ∧
      ¬ (execute ctx (some (.awaiting tip content true)) message).Commits
        ⟨tip, [], lastN.map (·.header)⟩ ∧
      (execute ctx (some (.awaiting tip content true)) message).ending = .panic :=
  have h := @execute_flagged_never_commits (acceptingContext 2 ⟨3, 0, []⟩)
    (.awaiting (chainHeader 5 0 10 40) ⟨3, 0, []⟩ true)
    ⟨chainHeader 5 0 10 40, [], [chainHeader 3 0 10 20, chainHeader 4 0 10 30]⟩
    ⟨chainHeader 5 0 10 40, ⟨3, 0, []⟩, false, true⟩
    ⟨chainHeader 5 0 10 40, [], [(chainHeader 3 0 10 20).header, (chainHeader 4 0 10 30).header]⟩
    rfl rfl
  ⟨rfl, rfl, h.1, h.2 _ _ rfl rfl rfl rfl⟩

/-- **A tau recheck forgets a detected long fork.** A peer awaits the answer to a flagged
request for the tip 10 (total difficulty 370). The answer samples block 5 of epoch 1
(difficulty 1, total difficulty 45) and ends with block 8 of epoch 2 (difficulty 100,
total difficulty 170), each header's total difficulty its parent's plus its own: a message
a node can send. The difficulty grows more than `TAU = 2` times in one epoch switch, so
the tau check fails and the new request, built by `ProveRequest::new` and marked
`skip_check_tau`, has no long fork flag. The same answer, sent again, is then
committed. -/
theorem step_tau_recheck_forgets_long_fork :
    let content : GetLastStateProof := ⟨0, 60, [45]⟩
    let tip := chainHeader 10 2 100 270
    let lastN := chainHeader 8 2 100 70
    let message : SendLastStateProof := ⟨tip, [], [chainHeader 5 1 1 44, lastN]⟩
    let ctx := acceptingContext 1 content
    let flagged := PeerState.awaiting tip content true
    message.Receivable ctx.compactToDifficulty ∧
      (execute ctx (some flagged) message).ending =
        .status (StatusCode.requireRecheck.withContext "failed to verify TAU") ∧
      (step ctx flagged message).proveRequest = some (ProveRequest.new tip content).skipCheckTau ∧
      (ProveRequest.new tip content).skipCheckTau.ifLongForkDetected = false ∧
      (execute ctx (some (step ctx flagged message)) message).effects =
        [.commitProveState ⟨tip, [], [lastN.header]⟩ (.ok true)] :=
  ⟨by decide, rfl, rfl, rfl, rfl⟩

/-! ## Proved states along a run -/

/-- The proved state holds at most `lastNBlocks` last headers. -/
def LastHeadersFit (lastNBlocks : Nat) (peerState : PeerState) : Prop :=
  ∀ state, peerState.proveState = some state → state.lastHeaders.length ≤ lastNBlocks

section Run

variable {ctx : Context}

/-- After one round, the proved state is the one before, or the message's tip, proved by
the message at the slot the round started from. -/
theorem step_proveState (peerState : PeerState) (message : SendLastStateProof) :
    (step ctx peerState message).proveState = peerState.proveState ∨
      ∃ state, (step ctx peerState message).proveState = some state ∧
        ProvesTip ctx peerState message state := by
  rcases step_cases ctx peerState message with h | ⟨_, h⟩ | ⟨state, hc, h⟩ <;> rw [h]
  · exact .inl rfl
  · exact .inl rfl
  · exact .inr ⟨state, rfl, execute_commits_provesTip hc⟩

/-- **Every tip a run holds was proved by one of its messages.** Whatever the messages,
the proved state a run ends with is the one it started with, or the tip of the `i`-th
message, which the slot the run had reached awaited (its pending request for that tip, or
the trusted state's request for its hash), and whose headers passed the chain root,
proof-of-work and MMR checks against it. -/
theorem run_proveState_provesTip (peerState : PeerState) (messages : List SendLastStateProof) :
    (run ctx peerState messages).proveState = peerState.proveState ∨
      ∃ i message state, messages[i]? = some message ∧
        (run ctx peerState messages).proveState = some state ∧
        ProvesTip ctx (run ctx peerState (messages.take i)) message state := by
  induction messages generalizing peerState with
  | nil => exact .inl rfl
  | cons message messages ih =>
    cases hend : (execute ctx (some peerState) message).ending with
    | panic =>
      simp only [run, hend]
      exact (step_proveState peerState message).imp_right
        fun ⟨state, h, hp⟩ => ⟨0, message, state, List.getElem?_cons_zero, h, hp⟩
    | status s =>
      simp only [run, hend]
      rcases ih (step ctx peerState message) with h | ⟨i, m, state, hm, h, hp⟩
      · rcases step_proveState peerState message with h' | ⟨state, h', hp⟩
        · exact .inl (h.trans h')
        · exact .inr ⟨0, message, state, List.getElem?_cons_zero, h.trans h', hp⟩
      · refine .inr ⟨i + 1, m, state, List.getElem?_cons_succ.trans hm, h, ?_⟩
        simpa only [List.take_succ_cons, run, hend] using hp

theorem step_lastHeadersFit {peerState : PeerState} (message : SendLastStateProof)
    (h : LastHeadersFit ctx.lastNBlocks peerState) :
    LastHeadersFit ctx.lastNBlocks (step ctx peerState message) := by
  rcases step_cases ctx peerState message with hstep | ⟨_, hstep⟩ | ⟨_, hc, hstep⟩ <;>
    rw [hstep]
  · exact h
  · exact h
  · rintro _ ⟨⟩
    exact execute_commit_lastHeaders_length_le hc

/-- **The last headers fit along every run.** From a slot whose proved state holds at
most `last_n_blocks` last headers, every run of `execute`, over any messages, reaches
only such slots. -/
theorem run_lastHeadersFit {peerState : PeerState}
    (h : LastHeadersFit ctx.lastNBlocks peerState) (messages : List SendLastStateProof) :
    LastHeadersFit ctx.lastNBlocks (run ctx peerState messages) := by
  induction messages generalizing peerState with
  | nil => exact h
  | cons message messages ih =>
    unfold run
    split
    · exact step_lastHeadersFit message h
    · exact ih (step_lastHeadersFit message h)

end Run

/-- A peer with no proved state answered twice for the tip 5 with `last_n_blocks = 2`. -/
theorem run_lastHeadersFit_example :
    let content : GetLastStateProof := ⟨3, 0, []⟩
    let tip := chainHeader 5 0 10 40
    let message : SendLastStateProof :=
      ⟨tip, [], [chainHeader 3 0 10 20, chainHeader 4 0 10 30]⟩
    LastHeadersFit (acceptingContext 2 content).lastNBlocks (.awaiting tip content false) ∧
      LastHeadersFit (acceptingContext 2 content).lastNBlocks
        (run (acceptingContext 2 content) (.awaiting tip content false) [message, message]) :=
  have h : LastHeadersFit 2 (.awaiting (chainHeader 5 0 10 40) ⟨3, 0, []⟩ false) :=
    fun _ h => nomatch h
  ⟨h, run_lastHeadersFit h _⟩

end CkbLightClient
