import CkbLightClient.Protocol.Execute

/-!
# CkbLightClient — rejections come before every registry call

`execute` runs all its checks (`verifyResponse`) before its first registry call, and the
only check after a call is the result of that call. So a rejecting status is either the
failure of a registry call that `execute` made, or `execute` made no call and sent
nothing, and the peer's slot is as it was.

The argument follows the shape of `execute`: two predicates on outcomes,

* `Outcome.Accountable` — every rejection is the failure of a call made;
* `Outcome.RejectsFirst` — every rejection is such a failure, or nothing was done;

one lemma per combinator of outcomes (`done`, `abort`, `after`, `call`, `bindChecked`),
then `commitResponse` and `execute` case by case.
-/

namespace CkbLightClient

@[simp] theorem PeerState.applyAll_nil (peerState : PeerState) :
    peerState.applyAll [] = peerState :=
  rfl

namespace Outcome

/-- Every rejection `o` returns is the failure of a registry call it made. -/
def Accountable (o : Outcome) : Prop :=
  ∀ s, o.ending = .status s → s.isRejection → ∃ e ∈ o.effects, e.failure = some s

/-- Every rejection `o` returns is the failure of a registry call it made, or `o` made no
call and sent nothing. -/
def RejectsFirst (o : Outcome) : Prop :=
  ∀ s, o.ending = .status s → s.isRejection →
    o.effects = [] ∨ ∃ e ∈ o.effects, e.failure = some s

theorem Accountable.rejectsFirst {o : Outcome} (h : o.Accountable) : o.RejectsFirst :=
  fun s hs hr => .inr (h s hs hr)

theorem done_rejectsFirst (s : Status) : (done s).RejectsFirst :=
  fun _ _ _ => .inl rfl

theorem done_accountable {s : Status} (hs : ¬ s.isRejection) : (done s).Accountable := by
  rintro _ ⟨⟩ hr
  exact absurd hr hs

theorem abort_accountable : abort.Accountable :=
  fun _ h => nomatch h

theorem after_accountable (e : Effect) {o : Outcome} (h : o.Accountable) :
    (after e o).Accountable :=
  fun s hs hr =>
    let ⟨e', he', hf⟩ := h s hs hr
    ⟨e', .tail _ he', hf⟩

/-- A registry call keeps its continuation accountable: if the call fails, the status is
its failure. -/
theorem call_accountable {α : Type} {effect : Except Status α → Effect}
    (hfail : ∀ s, (effect (.error s)).failure = some s) {result : Except Status α}
    {k : α → Outcome} (hk : ∀ a, (k a).Accountable) : (call effect result k).Accountable := by
  cases result with
  | ok a => exact after_accountable _ (hk a)
  | error s =>
    rintro _ ⟨⟩ -
    exact ⟨_, .head _, hfail s⟩

/-- A check rejects before anything is done. -/
theorem bindChecked_rejectsFirst {α : Type} {x : Except (Exit Status) α} {k : α → Outcome}
    (hk : ∀ a, (k a).RejectsFirst) : (bindChecked x k).RejectsFirst :=
  match x with
  | .ok a => hk a
  | .error (.err s) => done_rejectsFirst s
  | .error .panic => abort_accountable.rejectsFirst

end Outcome

open Outcome

section Execute

variable (ctx : Context) (peerState : PeerState)

/-- The recheck request after a failed tau check and the request from genesis after a
long fork: one registry call, then `RequireRecheck`. -/
theorem recheck_accountable (request : ProveRequest) (content : GetLastStateProof) (text : String) :
    (call (.updateProveRequest request) (ctx.updateProveRequest peerState request) fun () =>
      after (.reply content) (done (StatusCode.requireRecheck.withContext text))).Accountable :=
  call_accountable (fun _ => by rfl) fun _ =>
    after_accountable _ (done_accountable (StatusCode.requireRecheck_not_isRejection text))

theorem commitResponse_rejectsFirst (originalRequest : ProveRequest) (isTrustedState : Bool)
    (lastHeader : VerifiableHeader) (v : Verified) :
    (commitResponse ctx peerState originalRequest isTrustedState lastHeader v).RejectsFirst := by
  unfold commitResponse
  split
  · -- tau failed: ask again
    split
    · exact Accountable.rejectsFirst (recheck_accountable ctx peerState _ _ _)
    · exact done_rejectsFirst _
  · -- commit, after `buildLastHeaders` (whose rejection comes first)
    refine bindChecked_rejectsFirst fun ⟨_, _⟩ => ?_
    dsimp only
    split
    · exact Accountable.rejectsFirst abort_accountable
    · refine Accountable.rejectsFirst (call_accountable (fun _ => by rfl) fun committed => ?_)
      split
      · split
        · exact abort_accountable
        · split
          · exact recheck_accountable ctx peerState _ _ _
          · exact done_accountable Status.ok_not_isRejection
      · exact done_accountable Status.ok_not_isRejection

theorem execute_rejectsFirst (message : SendLastStateProof) :
    (execute ctx (some peerState) message).RejectsFirst := by
  refine bindChecked_rejectsFirst fun ⟨_, _⟩ => ?_
  dsimp only
  split
  · -- a new last state
    split
    · exact Accountable.rejectsFirst (call_accountable (fun _ => by rfl) fun _ =>
        call_accountable (fun _ => by rfl) fun _ => done_accountable Status.ok_not_isRejection)
    · exact done_rejectsFirst _
  · exact bindChecked_rejectsFirst fun _ => commitResponse_rejectsFirst ctx peerState _ _ _ _

/-- **Rejections leave the peer untouched.** When `execute` returns a rejecting status
that no registry call of its own returned, it made no registry call and sent no message,
so the peer's pending request and proved state are as before. -/
theorem execute_rejection_leaves_peer_state (message : SendLastStateProof) {s : Status}
    (hend : (execute ctx (some peerState) message).ending = .status s) (hrej : s.isRejection)
    (hcall : ∀ e ∈ (execute ctx (some peerState) message).effects, e.failure ≠ some s) :
    (execute ctx (some peerState) message).effects = [] ∧
      peerState.applyAll (execute ctx (some peerState) message).effects = peerState := by
  obtain h | ⟨e, he, hf⟩ := execute_rejectsFirst ctx peerState message s hend hrej
  · exact ⟨h, by rw [h, PeerState.applyAll_nil]⟩
  · exact absurd hf (hcall e he)

end Execute

/-- A reorg without a proved state: blocks 1 and 2 before the start 3, then blocks 3 and 4
for the tip 5, fewer than `last_n_blocks = 3`. The checks pass, and `buildLastHeaders`
rejects it with `InvalidReorgHeaders` before the commit. -/
theorem execute_rejection_leaves_peer_state_example :
    let content : GetLastStateProof := ⟨3, 0, []⟩
    let peerState := PeerState.awaiting (chainHeader 5 0 10 40) content false
    let message : SendLastStateProof := ⟨chainHeader 5 0 10 40, [],
      [chainHeader 1 0 10 0, chainHeader 2 0 10 10, chainHeader 3 0 10 20,
        chainHeader 4 0 10 30]⟩
    let status := StatusCode.invalidReorgHeaders.withContext
      "no previous prove state but has reorg blocks"
    (execute (acceptingContext 3 content) (some peerState) message).ending = .status status ∧
      status.isRejection ∧
      (∀ e ∈ (execute (acceptingContext 3 content) (some peerState) message).effects,
        e.failure ≠ some status) ∧
      ((execute (acceptingContext 3 content) (some peerState) message).effects = [] ∧
        peerState.applyAll (execute (acceptingContext 3 content) (some peerState) message).effects =
          peerState) := by
  intro content peerState message status
  have hout : execute (acceptingContext 3 content) (some peerState) message = .done status := rfl
  have hend : (execute (acceptingContext 3 content) (some peerState) message).ending =
      .status status := by rw [hout]; rfl
  have hcall : ∀ e ∈ (execute (acceptingContext 3 content) (some peerState) message).effects,
      e.failure ≠ some status := by rw [hout]; exact fun _ h => nomatch h
  exact ⟨hend, by decide, hcall,
    execute_rejection_leaves_peer_state _ _ _ hend (by decide) hcall⟩

end CkbLightClient
