import Mathlib.Data.List.AList
import CkbLightClient.Protocol.Execute

/-!
# CkbLightClient — the peer registry of `peers.rs`

`Peers` maps each connected peer to its slot: the pending prove request, the proved
state and the time the slot was last touched. The registry never reads a request or a
state, so it is modelled over any request type `ρ` and state type `σ`. The `HashMap` is
an `AList` (its keys are unique by construction); its iteration order is unspecified in the
source, so the results about the two queries are about membership, not order. The clock
(`unix_time_as_millis()`) is the `now` argument of the calls that read it.

* `PeerState`, `Peer`, `Peers` and their methods, as in the source; the three calls that
  write through `get_mut` are one `Peers.modify` with their own updates;
* `Op`, `Peers.apply`, `Peers.run` — the registry over a sequence of calls.

The results:

* `run_lookup_filter` — peers do not interfere: a peer's slot after a run is the one the
  calls addressed to it alone produce;
* `getPeersWhichRequireUpdating_spec`, `getPeersWhichAreProved_spec` — what the sweeper and
  the proved-peers query list, each peer once;
* `run_keeps_proved` — a proved peer stays proved until it is removed or added again, and
  its state only ever becomes one that a `commit_prove_state` of the run stored;
* `applyAll_toRegistry` — the slot of the spec's registry, cut to the fields of
  `peers.rs`, moves as `peers.rs` moves under the calls `execute` makes.
-/

namespace CkbLightClient

/-- `ckb_network::PeerIndex`. -/
structure PeerIndex where
  index : Nat
  deriving DecidableEq, Repr

namespace Registry

/-- `PeerState` of `peers.rs`: the pending request and the proved state. -/
structure PeerState (ρ σ : Type) where
  proveRequest : Option ρ
  proveState : Option σ
  deriving DecidableEq, Repr

namespace PeerState

variable {ρ σ : Type}

/-- `PeerState::default()`: no request, no state. -/
def default : PeerState ρ σ := ⟨none, none⟩

/-- `is_ready`: the peer has been asked for a proof, or has proved a state. -/
def isReady (state : PeerState ρ σ) : Bool := state.proveRequest.isSome || state.proveState.isSome

/-- `submit_prove_request`. -/
def submitProveRequest (state : PeerState ρ σ) (request : ρ) : PeerState ρ σ :=
  { state with proveRequest := some request }

/-- `commit_prove_state`: store the state and end the request. -/
def commitProveState (state : PeerState ρ σ) (proveState : σ) : PeerState ρ σ :=
  { state with proveState := some proveState, proveRequest := none }

end PeerState

/-- `Peer`: a slot and the time it was last touched. -/
structure Peer (ρ σ : Type) where
  state : PeerState ρ σ
  updateTimestamp : Nat
  deriving DecidableEq, Repr

/-- `Peer::new(update_timestamp)`. -/
def Peer.new {ρ σ : Type} (updateTimestamp : Nat) : Peer ρ σ := ⟨.default, updateTimestamp⟩

/-- `Peers`: the `HashMap<PeerIndex, Peer>`. -/
structure Peers (ρ σ : Type) where
  inner : AList fun _ : PeerIndex => Peer ρ σ

namespace Peers

variable {ρ σ : Type}

/-- `add_peer(index)` at time `now`: a fresh slot, replacing any slot the peer had. -/
def addPeer (peers : Peers ρ σ) (index : PeerIndex) (now : Nat) : Peers ρ σ :=
  ⟨peers.inner.insert index (.new now)⟩

/-- `remove_peer(index)`. -/
def removePeer (peers : Peers ρ σ) (index : PeerIndex) : Peers ρ σ :=
  ⟨peers.inner.erase index⟩

/-- `get_state(index)`. -/
def getState (peers : Peers ρ σ) (index : PeerIndex) : Option (PeerState ρ σ) :=
  (peers.inner.lookup index).map (·.state)

/-- `if let Some(peer) = self.inner.get_mut(&index) { ... }`: update a registered peer,
and leave the registry as it is for any other. -/
def modify (peers : Peers ρ σ) (index : PeerIndex) (update : Peer ρ σ → Peer ρ σ) :
    Peers ρ σ :=
  match peers.inner.lookup index with
  | some peer => ⟨peers.inner.insert index (update peer)⟩
  | none => peers

/-- `update_timestamp(index, timestamp)`. -/
def updateTimestamp (peers : Peers ρ σ) (index : PeerIndex) (timestamp : Nat) : Peers ρ σ :=
  peers.modify index fun peer => { peer with updateTimestamp := timestamp }

/-- `submit_prove_request(index, request)` at time `now`. -/
def submitProveRequest (peers : Peers ρ σ) (index : PeerIndex) (request : ρ) (now : Nat) :
    Peers ρ σ :=
  peers.modify index fun peer => ⟨peer.state.submitProveRequest request, now⟩

/-- `commit_prove_state(index, state)` at time `now`. -/
def commitProveState (peers : Peers ρ σ) (index : PeerIndex) (state : σ) (now : Nat) :
    Peers ρ σ :=
  peers.modify index fun peer => ⟨peer.state.commitProveState state, now⟩

/-- `get_peers_which_require_updating(before_timestamp)`: the peers that are not ready or
were last touched before `beforeTimestamp`. -/
def getPeersWhichRequireUpdating (peers : Peers ρ σ) (beforeTimestamp : Nat) :
    List PeerIndex :=
  peers.inner.entries.filterMap fun entry =>
    if !entry.2.state.isReady || decide (entry.2.updateTimestamp < beforeTimestamp) then
      some entry.1
    else none

/-- `get_peers_which_are_proved()`: the peers with a proved state, with that state. -/
def getPeersWhichAreProved (peers : Peers ρ σ) : List (PeerIndex × σ) :=
  peers.inner.entries.filterMap fun entry => entry.2.state.proveState.map (entry.1, ·)

end Peers

/-! ## Runs -/

/-- A call on the registry, with the time the clock gave it. -/
inductive Op (ρ σ : Type) where
  | addPeer (index : PeerIndex) (now : Nat)
  | removePeer (index : PeerIndex)
  | updateTimestamp (index : PeerIndex) (timestamp : Nat)
  | submitProveRequest (index : PeerIndex) (request : ρ) (now : Nat)
  | commitProveState (index : PeerIndex) (state : σ) (now : Nat)

namespace Op

variable {ρ σ : Type}

/-- The peer a call addresses. -/
def index : Op ρ σ → PeerIndex
  | .addPeer index _ | .removePeer index | .updateTimestamp index _
  | .submitProveRequest index _ _ | .commitProveState index _ _ => index

/-- The calls that keep a peer registered: all but `add_peer` and `remove_peer`. -/
def keepsSlot : Op ρ σ → Bool
  | .addPeer .. | .removePeer _ => false
  | _ => true

end Op

namespace Peers

variable {ρ σ : Type}

/-- One call. -/
def apply (peers : Peers ρ σ) : Op ρ σ → Peers ρ σ
  | .addPeer index now => peers.addPeer index now
  | .removePeer index => peers.removePeer index
  | .updateTimestamp index timestamp => peers.updateTimestamp index timestamp
  | .submitProveRequest index request now => peers.submitProveRequest index request now
  | .commitProveState index state now => peers.commitProveState index state now

/-- A sequence of calls, in order. -/
def run (peers : Peers ρ σ) (ops : List (Op ρ σ)) : Peers ρ σ := ops.foldl apply peers

end Peers

/-! ## Each call writes one slot -/

namespace Peers

variable {ρ σ : Type}

theorem lookup_addPeer (peers : Peers ρ σ) (index index' : PeerIndex) (now : Nat) :
    (peers.addPeer index now).inner.lookup index' =
      if index' = index then some (.new now) else peers.inner.lookup index' := by
  by_cases h : index' = index
  · subst h; simp [addPeer, AList.lookup_insert]
  · simp [addPeer, AList.lookup_insert_ne h, h]

theorem lookup_removePeer (peers : Peers ρ σ) (index index' : PeerIndex) :
    (peers.removePeer index).inner.lookup index' =
      if index' = index then none else peers.inner.lookup index' := by
  by_cases h : index' = index
  · subst h; simp [removePeer, AList.lookup_erase]
  · simp [removePeer, AList.lookup_erase_ne h, h]

theorem lookup_modify (peers : Peers ρ σ) (index index' : PeerIndex)
    (update : Peer ρ σ → Peer ρ σ) :
    (peers.modify index update).inner.lookup index' =
      if index' = index then (peers.inner.lookup index).map update
      else peers.inner.lookup index' := by
  unfold modify
  split
  next peer hpeer =>
    by_cases h : index' = index
    · subst h; simp [AList.lookup_insert, hpeer]
    · simp [AList.lookup_insert_ne h, h]
  next hnone =>
    by_cases h : index' = index
    · subst h; simp [hnone]
    · simp [h]

/-- A call leaves the slots of the other peers as they are. -/
theorem lookup_apply_ne {peers : Peers ρ σ} {op : Op ρ σ} {index : PeerIndex}
    (h : op.index ≠ index) : (peers.apply op).inner.lookup index = peers.inner.lookup index := by
  cases op <;>
    simp only [apply, updateTimestamp, submitProveRequest, commitProveState, lookup_addPeer,
      lookup_removePeer, lookup_modify] <;>
    exact if_neg (Ne.symm h)

/-- A call's new slot for a peer depends on nothing but that peer's old slot. -/
theorem lookup_apply_congr {peers peers' : Peers ρ σ} {op : Op ρ σ} {index : PeerIndex}
    (h : peers.inner.lookup index = peers'.inner.lookup index) :
    (peers.apply op).inner.lookup index = (peers'.apply op).inner.lookup index := by
  by_cases hop : op.index = index
  · subst hop
    cases op <;> simp only [Op.index] at h <;>
      simp [apply, Op.index, updateTimestamp, submitProveRequest, commitProveState, lookup_addPeer,
        lookup_removePeer, lookup_modify, h]
  · rw [lookup_apply_ne hop, lookup_apply_ne hop, h]

theorem lookup_run_congr {peers peers' : Peers ρ σ} {index : PeerIndex}
    (h : peers.inner.lookup index = peers'.inner.lookup index) (ops : List (Op ρ σ)) :
    (peers.run ops).inner.lookup index = (peers'.run ops).inner.lookup index := by
  induction ops generalizing peers peers' with
  | nil => exact h
  | cons op ops ih => exact ih (lookup_apply_congr h)

/-- **Peers do not interfere.** After any sequence of calls, a peer's slot is the one the
calls addressed to that peer, run alone from the same registry, produce: no call on one peer
ever changes another's slot, its request, its state or its timestamp. -/
theorem run_lookup_filter (peers : Peers ρ σ) (ops : List (Op ρ σ)) (index : PeerIndex) :
    (peers.run ops).inner.lookup index =
      (peers.run (ops.filter fun op => decide (op.index = index))).inner.lookup index := by
  induction ops generalizing peers with
  | nil => rfl
  | cons op ops ih =>
    by_cases h : op.index = index
    · simp only [run, List.foldl_cons, List.filter_cons, h, decide_True, if_true] at ih ⊢
      exact ih _
    · simp only [run, List.foldl_cons, List.filter_cons, h, decide_False] at ih ⊢
      exact (ih _).trans (lookup_run_congr (lookup_apply_ne h) _)

end Peers

/-! ## The queries -/

/-- A `filter_map` over entries with unique keys that keeps at most an entry's key lists
each key once. -/
theorem nodup_map_filterMap_of_key {β : PeerIndex → Type} {α : Type}
    {l : List (Sigma β)} (hl : l.NodupKeys) (f : Sigma β → Option α) (key : α → PeerIndex)
    (hf : ∀ entry a, f entry = some a → key a = entry.1) :
    ((l.filterMap f).map key).Nodup := by
  induction l with
  | nil => exact List.nodup_nil
  | cons entry rest ih =>
    obtain ⟨hfresh, hrest⟩ := List.nodupKeys_cons.mp hl
    rw [List.filterMap_cons]
    split
    · exact ih hrest
    next a ha =>
      refine List.nodup_cons.mpr ⟨fun hmem => hfresh ?_, ih hrest⟩
      obtain ⟨a', ha', hkey⟩ := List.mem_map.mp hmem
      obtain ⟨entry', hentry', hf'⟩ := List.mem_filterMap.mp ha'
      rw [← hf entry a ha, ← hkey, hf entry' a' hf']
      exact List.mem_keys_of_mem hentry'

namespace Peers

variable {ρ σ : Type}

/-- **What the sweeper lists.** `get_peers_which_require_updating(before)` lists each
registered peer at most once, and lists exactly those that are not ready or were last
touched before `before`. -/
theorem getPeersWhichRequireUpdating_spec (peers : Peers ρ σ) (beforeTimestamp : Nat) :
    (peers.getPeersWhichRequireUpdating beforeTimestamp).Nodup ∧
      ∀ index, index ∈ peers.getPeersWhichRequireUpdating beforeTimestamp ↔
        ∃ peer, peers.inner.lookup index = some peer ∧
          (peer.state.isReady = false ∨ peer.updateTimestamp < beforeTimestamp) := by
  refine ⟨?_, fun index => ?_⟩
  · rw [← List.map_id (peers.getPeersWhichRequireUpdating beforeTimestamp)]
    refine nodup_map_filterMap_of_key peers.inner.nodupKeys _ id fun entry a h => ?_
    split at h <;> simp_all
  · simp only [getPeersWhichRequireUpdating, List.mem_filterMap, Option.ite_none_right_eq_some,
      Option.some.injEq, Bool.or_eq_true, Bool.not_eq_true', decide_eq_true_eq]
    constructor
    · rintro ⟨⟨index', peer⟩, hmem, hcond, rfl⟩
      exact ⟨peer, AList.mem_lookup_iff.mpr hmem, hcond⟩
    · rintro ⟨peer, hpeer, hcond⟩
      exact ⟨⟨index, peer⟩, AList.mem_lookup_iff.mp hpeer, hcond, rfl⟩

theorem mem_getPeersWhichAreProved {peers : Peers ρ σ} {index : PeerIndex} {state : σ} :
    (index, state) ∈ peers.getPeersWhichAreProved ↔
      ∃ peer, peers.inner.lookup index = some peer ∧ peer.state.proveState = some state := by
  simp only [getPeersWhichAreProved, List.mem_filterMap, Option.map_eq_some', Prod.mk.injEq]
  constructor
  · rintro ⟨⟨index', peer⟩, hmem, state', hstate, rfl, rfl⟩
    exact ⟨peer, AList.mem_lookup_iff.mpr hmem, hstate⟩
  · rintro ⟨peer, hpeer, hstate⟩
    exact ⟨⟨index, peer⟩, AList.mem_lookup_iff.mp hpeer, state, hstate, rfl, rfl⟩

/-- **What the proved-peers query lists.** `get_peers_which_are_proved()` lists each
registered peer at most once, and lists a peer with a state exactly when that is the peer's
proved state. -/
theorem getPeersWhichAreProved_spec (peers : Peers ρ σ) :
    (peers.getPeersWhichAreProved.map Prod.fst).Nodup ∧
      ∀ index state, (index, state) ∈ peers.getPeersWhichAreProved ↔
        ∃ peer, peers.inner.lookup index = some peer ∧ peer.state.proveState = some state := by
  refine ⟨nodup_map_filterMap_of_key peers.inner.nodupKeys _ Prod.fst fun entry a h => ?_,
    fun _ _ => mem_getPeersWhichAreProved⟩
  obtain ⟨_, _, rfl⟩ := Option.map_eq_some'.mp h
  rfl

end Peers

/-! ## A proved peer stays proved -/

namespace Peers

variable {ρ σ : Type}

/-- One call keeps a proved peer proved, unless it removes or adds that peer; the state
changes only by a commit to that peer. -/
theorem apply_keeps_proved {peers : Peers ρ σ} {op : Op ρ σ} {index : PeerIndex}
    {peer : Peer ρ σ} {state : σ} (hpeer : peers.inner.lookup index = some peer)
    (hstate : peer.state.proveState = some state) (hkeep : op.index = index → op.keepsSlot) :
    ∃ peer' state', (peers.apply op).inner.lookup index = some peer' ∧
      peer'.state.proveState = some state' ∧
      (state' = state ∨ ∃ now, op = .commitProveState index state' now) := by
  by_cases hop : op.index = index
  · have hslot := hkeep hop
    cases op with
    | addPeer => nomatch hslot
    | removePeer => nomatch hslot
    | updateTimestamp i timestamp =>
      obtain rfl : i = index := hop
      exact ⟨{ peer with updateTimestamp := timestamp }, state,
        by simp [apply, updateTimestamp, lookup_modify, hpeer], hstate, .inl rfl⟩
    | submitProveRequest i request now =>
      obtain rfl : i = index := hop
      exact ⟨⟨peer.state.submitProveRequest request, now⟩, state,
        by simp [apply, submitProveRequest, lookup_modify, hpeer], hstate, .inl rfl⟩
    | commitProveState i state' now =>
      obtain rfl : i = index := hop
      exact ⟨⟨peer.state.commitProveState state', now⟩, state',
        by simp [apply, commitProveState, lookup_modify, hpeer], rfl, .inr ⟨now, rfl⟩⟩
  · exact ⟨peer, state, (lookup_apply_ne hop).trans hpeer, hstate, .inl rfl⟩

/-- **A proved peer stays proved.** Along any sequence of calls with no `add_peer` or
`remove_peer` for it, a peer listed as proved stays listed, with its state or with a state
that one of the run's `commit_prove_state` calls stored for it. -/
theorem run_keeps_proved {peers : Peers ρ σ} {ops : List (Op ρ σ)} {index : PeerIndex}
    {state : σ} (hproved : (index, state) ∈ peers.getPeersWhichAreProved)
    (hkeep : ∀ op ∈ ops, op.index = index → op.keepsSlot) :
    ∃ state', (index, state') ∈ (peers.run ops).getPeersWhichAreProved ∧
      (state' = state ∨ ∃ now, Op.commitProveState index state' now ∈ ops) := by
  induction ops generalizing peers state with
  | nil => exact ⟨state, hproved, .inl rfl⟩
  | cons op ops ih =>
    obtain ⟨peer, hpeer, hstate⟩ := mem_getPeersWhichAreProved.mp hproved
    obtain ⟨peer', state', hpeer', hstate', hstep⟩ :=
      apply_keeps_proved hpeer hstate (hkeep op (List.mem_cons_self _ _))
    obtain ⟨state'', hproved'', hrun⟩ :=
      ih (mem_getPeersWhichAreProved.mpr ⟨peer', hpeer', hstate'⟩)
        fun op' hop' => hkeep op' (List.mem_cons_of_mem _ hop')
    refine ⟨state'', hproved'', ?_⟩
    rcases hrun with rfl | ⟨now, hcommit⟩
    · rcases hstep with rfl | ⟨now, rfl⟩
      · exact .inl rfl
      · exact .inr ⟨now, List.mem_cons_self _ _⟩
    · exact .inr ⟨now, List.mem_cons_of_mem _ hcommit⟩

theorem run_keeps_proved_example :
    let peers : Peers Nat Nat := run ⟨∅⟩ [.addPeer ⟨0⟩ 1, .addPeer ⟨1⟩ 1, .commitProveState ⟨0⟩ 7 2]
    let ops : List (Op Nat Nat) :=
      [.submitProveRequest ⟨0⟩ 3 4, .removePeer ⟨1⟩, .commitProveState ⟨0⟩ 9 5]
    ((⟨0⟩, 7) ∈ peers.getPeersWhichAreProved ∧
      ∀ op ∈ ops, op.index = ⟨0⟩ → op.keepsSlot) ∧
      ∃ state', (⟨0⟩, state') ∈ (peers.run ops).getPeersWhichAreProved ∧
        (state' = 7 ∨ ∃ now, Op.commitProveState ⟨0⟩ state' now ∈ ops) :=
  have h : ((⟨0⟩, 7) ∈ (run ⟨∅⟩ [.addPeer ⟨0⟩ 1, .addPeer ⟨1⟩ 1,
      .commitProveState ⟨0⟩ 7 2] : Peers Nat Nat).getPeersWhichAreProved ∧
      ∀ op ∈ ([.submitProveRequest ⟨0⟩ 3 4, .removePeer ⟨1⟩, .commitProveState ⟨0⟩ 9 5] :
        List (Op Nat Nat)), op.index = ⟨0⟩ → op.keepsSlot) := by decide
  ⟨h, run_keeps_proved h.1 h.2⟩

end Peers

end Registry

/-! ## The spec's registry calls, on the fields of `peers.rs` -/

/-- The slot of the spec's registry, cut to the two fields `peers.rs` has. -/
def PeerState.toRegistry (peerState : PeerState) : Registry.PeerState ProveRequest ProveState :=
  ⟨peerState.proveRequest, peerState.proveState⟩

/-- The `peers.rs` call that a registry call of `execute` stands for: recording a request is
`submit_prove_request`, a commit that finds no long fork is `commit_prove_state`, and the
other calls write neither field. -/
def Effect.onRegistry (state : Registry.PeerState ProveRequest ProveState) :
    Effect → Registry.PeerState ProveRequest ProveState
  | .getLastStateProof (.ok (some request)) | .updateProveRequest request (.ok ()) =>
      state.submitProveRequest request
  | .commitProveState proveState (.ok true) => state.commitProveState proveState
  | _ => state

theorem PeerState.apply_toRegistry (peerState : PeerState) (effect : Effect) :
    (peerState.apply effect).toRegistry = Effect.onRegistry peerState.toRegistry effect := by
  cases effect with
  | getLastStateProof result => rcases result with _ | _ | _ <;> rfl
  | updateProveRequest request result => rcases result with _ | _ <;> rfl
  | commitProveState proveState result => rcases result with _ | _ | _ <;> rfl
  | processLastState | reply => rfl

/-- The calls of a round, applied by the spec's registry, move the two fields `peers.rs` has
as `peers.rs` moves them. -/
theorem PeerState.applyAll_toRegistry (peerState : PeerState) (effects : List Effect) :
    (peerState.applyAll effects).toRegistry =
      effects.foldl Effect.onRegistry peerState.toRegistry := by
  induction effects generalizing peerState with
  | nil => rfl
  | cons effect effects ih =>
    simp only [PeerState.applyAll, List.foldl_cons, ← apply_toRegistry] at ih ⊢
    exact ih _

end CkbLightClient
