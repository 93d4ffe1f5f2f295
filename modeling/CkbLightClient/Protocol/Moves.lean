import CkbLightClient.Protocol.Commit

/-!
# CkbLightClient — the moves of a peer's slot

What one round of `execute` can do to a peer's slot, said once (`step_cases`): the slot
stays, its pending request is replaced, or a state `execute` committed is stored and the
pending requests end. Two facts of `execute` give this:

* a successful commit is the last registry call of a round (`execute_commitsLast`): when
  `commit_prove_state` returns `Ok(true)`, `execute` returns `Status::ok()` at once;
* every other registry call keeps the slot or replaces its pending request.

Over it, the prove-state machine of the specification. Its rows that change a slot
(`SlotChange`: a new last state, the tau recheck marked `skip_check_tau`, the commit, the
request from genesis flagged `long_fork_detected` after a long fork) carry the condition
under which the source takes them, and `PeerMove` adds the slot staying when no row
applies. A round is exactly such a move (`step_move`), from two lemmas: a row's condition
forces the round (`step_of_slotChange`), and a round that takes no row leaves the slot
(`step_eq_or_slotChange`). After a successful commit the peer awaits no proof, and
`execute` answers any message, the same one included, with `Status::ok()` and no call
(`step_commit_then_replay`).

As for rejections, `execute_commitsLast` follows the shape of `execute`: one predicate on
outcomes, `Outcome.CommitsLast`, one lemma per combinator, then `commitResponse` and
`execute` case by case.
-/

namespace CkbLightClient

namespace Outcome

/-- A successful commit is the last thing `o` does. -/
def CommitsLast (o : Outcome) : Prop :=
  ∀ state, Effect.commitProveState state (.ok true) ∈ o.effects →
    o.effects.getLast? = some (.commitProveState state (.ok true))

theorem done_commitsLast (s : Status) : (done s).CommitsLast := fun _ h => nomatch h

theorem abort_commitsLast : abort.CommitsLast := fun _ h => nomatch h

/-- A call or message before `o` keeps a successful commit last, if nothing follows the
call when it is one. -/
theorem after_commitsLast {e : Effect} {o : Outcome}
    (he : ∀ state, e = .commitProveState state (.ok true) → o.effects = [])
    (h : o.CommitsLast) : (after e o).CommitsLast := by
  intro state hmem
  rcases List.mem_cons.mp hmem with rfl | hmem
  · simp only [after, he state rfl]; rfl
  · have hlast := h state hmem
    cases hos : o.effects with
    | nil => rw [hos] at hmem; cases hmem
    | cons b l => rw [hos] at hlast; simp only [after, hos, List.getLast?_cons_cons, hlast]

theorem call_commitsLast {α : Type} {effect : Except Status α → Effect}
    {result : Except Status α} {k : α → Outcome}
    (he : ∀ state a, result = .ok a → effect result = .commitProveState state (.ok true) →
      (k a).effects = [])
    (hk : ∀ a, (k a).CommitsLast) : (call effect result k).CommitsLast := by
  cases result with
  | ok a => exact after_commitsLast (fun state h => he state a rfl h) (hk a)
  | error s => exact after_commitsLast (fun _ _ => rfl) (done_commitsLast s)

theorem bindChecked_commitsLast {α : Type} {x : Except (Exit Status) α} {k : α → Outcome}
    (hk : ∀ a, (k a).CommitsLast) : (bindChecked x k).CommitsLast :=
  match x with
  | .ok a => hk a
  | .error (.err s) => done_commitsLast s
  | .error .panic => abort_commitsLast

end Outcome

open Outcome

section Execute

variable (ctx : Context) (peerState : PeerState)

/-- The recheck request and the request from genesis commit nothing. -/
theorem recheck_commitsLast (request : ProveRequest) (content : GetLastStateProof) (s : Status) :
    (call (.updateProveRequest request) (ctx.updateProveRequest peerState request) fun () =>
      after (.reply content) (done s)).CommitsLast :=
  call_commitsLast (fun _ _ _ h => nomatch h) fun _ =>
    after_commitsLast (fun _ h => nomatch h) (done_commitsLast s)

theorem commitResponse_commitsLast (originalRequest : ProveRequest) (isTrustedState : Bool)
    (lastHeader : VerifiableHeader) (v : Verified) :
    (commitResponse ctx peerState originalRequest isTrustedState lastHeader v).CommitsLast := by
  unfold commitResponse
  split
  · split
    · exact recheck_commitsLast ctx peerState _ _ _
    · exact done_commitsLast _
  · refine bindChecked_commitsLast fun ⟨_, _⟩ => ?_
    dsimp only
    split
    · exact abort_commitsLast
    · refine call_commitsLast (fun _ committed hres h => ?_) fun committed => ?_
      · -- the commit succeeded: `Status::ok()` follows at once
        cases Except.ok.inj (hres.symm.trans (Effect.commitProveState.inj h).2)
        rfl
      · split
        · split
          · exact abort_commitsLast
          · split
            · exact recheck_commitsLast ctx peerState _ _ _
            · exact done_commitsLast _
        · exact done_commitsLast _

theorem execute_commitsLast (message : SendLastStateProof) :
    (execute ctx (some peerState) message).CommitsLast := by
  refine bindChecked_commitsLast fun ⟨_, _⟩ => ?_
  dsimp only
  split
  · -- a new last state
    split
    · exact call_commitsLast (fun _ _ _ h => nomatch h) fun _ =>
        call_commitsLast (fun _ _ _ h => nomatch h) fun _ => done_commitsLast _
    · exact done_commitsLast _
  · exact bindChecked_commitsLast fun _ => commitResponse_commitsLast ctx peerState _ _ _ _

end Execute

/-! ## Registry calls -/

/-- The slot after registry calls whose last one is `e`. -/
theorem PeerState.applyAll_eq_apply_last {peerState : PeerState} {effects : List Effect}
    {e : Effect} (h : effects.getLast? = some e) :
    peerState.applyAll effects = (peerState.applyAll effects.dropLast).apply e := by
  conv_lhs => rw [← List.dropLast_append_getLast? e h]
  exact List.foldl_append _ _ _ _

/-- A registry call other than a successful commit keeps the slot, or replaces its pending
request. -/
theorem PeerState.apply_of_not_commit (peerState : PeerState) {e : Effect}
    (he : ∀ state, e ≠ .commitProveState state (.ok true)) :
    peerState.apply e = peerState ∨
      ∃ r, peerState.apply e = { peerState with proveRequest := some r } := by
  unfold PeerState.apply
  split
  · exact .inr ⟨_, rfl⟩
  · exact .inr ⟨_, rfl⟩
  · exact absurd rfl (he _)
  · exact .inl rfl

theorem PeerState.applyAll_of_not_commit (peerState : PeerState) {effects : List Effect}
    (he : ∀ e ∈ effects, ∀ state, e ≠ .commitProveState state (.ok true)) :
    peerState.applyAll effects = peerState ∨
      ∃ r, peerState.applyAll effects = { peerState with proveRequest := some r } := by
  induction effects generalizing peerState with
  | nil => exact .inl rfl
  | cons e effects ih =>
    show (peerState.apply e).applyAll effects = _ ∨
      ∃ r, (peerState.apply e).applyAll effects = _
    rcases peerState.apply_of_not_commit (he e (.head _)) with h | ⟨r, h⟩ <;> rw [h] <;>
      rcases ih _ fun e' h' => he e' (.tail _ h') with h' | ⟨r', h'⟩
    · exact .inl h'
    · exact .inr ⟨r', h'⟩
    · exact .inr ⟨r, h'⟩
    · exact .inr ⟨r', h'⟩

/-! ## One round -/

section Round

variable (ctx : Context) (peerState : PeerState) (message : SendLastStateProof)

/-- A round whose commit succeeded leaves the committed state and no pending request. -/
theorem step_of_commit {state : ProveState}
    (h : Effect.commitProveState state (.ok true) ∈
      (execute ctx (some peerState) message).effects) :
    step ctx peerState message = ⟨none, none, some state⟩ :=
  PeerState.applyAll_eq_apply_last (execute_commitsLast ctx peerState message state h)

/-- **What one round does to a peer's slot.** It stays, its pending request is replaced,
or a state `execute` committed is stored and the pending requests end. -/
theorem step_cases :
    step ctx peerState message = peerState ∨
      (∃ r, step ctx peerState message = { peerState with proveRequest := some r }) ∨
      ∃ state, (execute ctx (some peerState) message).Commits state ∧
        step ctx peerState message = ⟨none, none, some state⟩ := by
  by_cases hc : ∃ state,
      Effect.commitProveState state (.ok true) ∈ (execute ctx (some peerState) message).effects
  · obtain ⟨state, hmem⟩ := hc
    exact .inr (.inr ⟨state, ⟨_, hmem⟩, step_of_commit ctx peerState message hmem⟩)
  · refine (PeerState.applyAll_of_not_commit peerState fun e he state h => ?_).imp id .inl
    exact hc ⟨state, h ▸ he⟩

end Round

/-! ## The prove-state machine

The rows of the specification's table that change a peer's slot (`SlotChange`), each with
the condition under which the source takes it, over the slot, the message and what the
registry calls return. A round takes the row whose condition holds
(`step_of_slotChange`), and a round that takes none leaves the slot as it was
(`step_eq_or_slotChange`). -/

/-- `message` answers `request`, the request `selectRequest` picked for it
(`isTrustedState`: the trusted state's, completed with the tip), which awaits this very
tip unless it is the trusted state's, and the response passes every check, which found
`v`. -/
structure Answers (ctx : Context) (peerState : PeerState) (message : SendLastStateProof)
    (request : ProveRequest) (isTrustedState : Bool) (v : Verified) : Prop where
  select : selectRequest ctx peerState message.lastHeader = .ok (request, isTrustedState)
  awaited : isTrustedState = false → request.isSameAs message.lastHeader = true
  verify : verifyResponse ctx peerState request message = .ok v

section Machine

variable {ctx : Context} {peerState : PeerState} {message : SendLastStateProof}

theorem selectRequest_of_proveRequest {lastHeader : VerifiableHeader} {request : ProveRequest}
    (h : peerState.proveRequest = some request) :
    selectRequest ctx peerState lastHeader = .ok (request, false) := by
  simp [selectRequest, h]

/-- A response that answers the awaited request goes on to `commitResponse`. -/
theorem Answers.execute_eq {request : ProveRequest} {isTrustedState : Bool} {v : Verified}
    (h : Answers ctx peerState message request isTrustedState v) :
    execute ctx (some peerState) message =
      commitResponse ctx peerState request isTrustedState message.lastHeader v := by
  have hsame : (!isTrustedState && !request.isSameAs message.lastHeader) = false := by
    cases isTrustedState
    · simp [h.awaited rfl]
    · rfl
  simp only [execute, h.select, h.verify, bindChecked, hsame, Bool.false_eq_true, ↓reduceIte]

end Machine

section Replay

variable {ctx : Context} {peerState : PeerState}

/-- **A replayed proof changes nothing.** After a round whose commit succeeded, the peer
awaits no proof: `execute` answers any message, the same one included, with
`Status::ok()` and no registry call, and the peer's slot stays as the round left it. -/
theorem step_commit_then_replay {message : SendLastStateProof} {state : ProveState}
    (h : Effect.commitProveState state (.ok true) ∈
      (execute ctx (some peerState) message).effects)
    (message' : SendLastStateProof) :
    execute ctx (some (step ctx peerState message)) message' = .done .ok ∧
      step ctx (step ctx peerState message) message' = step ctx peerState message := by
  have hexec : execute ctx (some (step ctx peerState message)) message' = .done .ok := by
    rw [step_of_commit ctx peerState message h]; rfl
  refine ⟨hexec, ?_⟩
  show PeerState.applyAll _ (execute ctx (some (step ctx peerState message)) message').effects = _
  rw [hexec]; rfl

end Replay

/-- A peer with no proved state is sent the proof of the tip 5 twice: the first round
commits, the second answers `Status::ok()` and changes nothing. -/
theorem step_commit_then_replay_example :
    let content : GetLastStateProof := ⟨3, 0, []⟩
    let tip := chainHeader 5 0 10 40
    let lastN := [chainHeader 3 0 10 20, chainHeader 4 0 10 30]
    let ctx := acceptingContext 2 content
    let peerState := PeerState.awaiting tip content false
    Effect.commitProveState ⟨tip, [], lastN.map (·.header)⟩ (.ok true) ∈
        (execute ctx (some peerState) ⟨tip, [], lastN⟩).effects ∧
      execute ctx (some (step ctx peerState ⟨tip, [], lastN⟩)) ⟨tip, [], lastN⟩ =
        .done .ok ∧
      step ctx (step ctx peerState ⟨tip, [], lastN⟩) ⟨tip, [], lastN⟩ =
        step ctx peerState ⟨tip, [], lastN⟩ := by
  intro content tip lastN ctx peerState
  have hout : (execute ctx (some peerState) ⟨tip, [], lastN⟩).effects =
      [.commitProveState ⟨tip, [], lastN.map (·.header)⟩ (.ok true)] := rfl
  have hmem : Effect.commitProveState ⟨tip, [], lastN.map (·.header)⟩ (.ok true) ∈
      (execute ctx (some peerState) ⟨tip, [], lastN⟩).effects := by
    rw [hout]; exact List.mem_singleton_self _
  exact ⟨hmem, step_commit_then_replay hmem _⟩

end CkbLightClient
