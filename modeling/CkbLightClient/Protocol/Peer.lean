import CkbLightClient.Matcher.Response
import CkbLightClient.Difficulty.Verify

/-!
# CkbLightClient — requests, proved states and the peer registry

`execute` reads a peer's pending request and proved state, calls the registry and
replies to the peer. The registry (`LightClientProtocol`, `Peers`) is not in `src/`
(the `peers.rs` there is an older version without reorg headers or trusted states), so
what its calls do is modelled from the spec, and what they return is a parameter of the
model (`Context`): every result about `execute` holds whatever they return.

* `ProveRequest`, `TrustedStateRequest`, `ProveState`, `PeerState` — the peer's slot;
* `Effect` — a registry call or a message, with what the call returned;
* `PeerState.apply` — what a registry call does to the slot;
* `Context` — the node's parameters and the collaborators outside `src/`.
-/

namespace CkbLightClient

/-- Modelled from the spec: `ProveRequest`, the pending request of a peer. It holds the
advertised tip (`LastState`), the sampling content sent for it, and the two flags read by
`if_skip_check_tau()` and `if_long_fork_detected()`. -/
structure ProveRequest where
  lastHeader : VerifiableHeader
  content : GetLastStateProof
  ifSkipCheckTau : Bool
  ifLongForkDetected : Bool
  deriving DecidableEq, Repr

namespace ProveRequest

/-- `ProveRequest::new(LastState::new(last_header), content)`: both flags unset. -/
def new (lastHeader : VerifiableHeader) (content : GetLastStateProof) : ProveRequest :=
  ⟨lastHeader, content, false, false⟩

/-- `skip_check_tau()`. -/
def skipCheckTau (r : ProveRequest) : ProveRequest := { r with ifSkipCheckTau := true }

/-- `long_fork_detected()`. -/
def longForkDetected (r : ProveRequest) : ProveRequest := { r with ifLongForkDetected := true }

/-- `is_same_as(&last_header)`: the request awaits this tip. -/
def isSameAs (r : ProveRequest) (lastHeader : VerifiableHeader) : Bool :=
  decide (r.lastHeader = lastHeader)

end ProveRequest

/-- Modelled from the spec: the pending request for a trusted state, which waits for the
header of a pinned hash and becomes a `ProveRequest` for it (`complete`). -/
structure TrustedStateRequest where
  trustedHash : Nat
  content : GetLastStateProof
  deriving DecidableEq, Repr

/-- Modelled from the spec: `complete(last_header)`, the request for the trusted header. -/
def TrustedStateRequest.complete (r : TrustedStateRequest) (lastHeader : VerifiableHeader) :
    ProveRequest :=
  .new lastHeader r.content

/-- Modelled from the spec: `ProveState`, the accepted tip with the reorg headers and the
last headers before it. -/
structure ProveState where
  lastHeader : VerifiableHeader
  reorgLastHeaders : List Header
  lastHeaders : List Header
  deriving DecidableEq, Repr

/-- `ProveState::new_from_request(request, reorg_last_headers, last_headers)`. -/
def ProveState.newFromRequest (request : ProveRequest)
    (reorgLastHeaders lastHeaders : List Header) : ProveState :=
  ⟨request.lastHeader, reorgLastHeaders, lastHeaders⟩

/-- Modelled from the spec: a peer's slot, read by `get_prove_request()`,
`get_prove_request_for_trusted_state()` and `get_prove_state()`. -/
structure PeerState where
  proveRequest : Option ProveRequest
  proveRequestForTrustedState : Option TrustedStateRequest
  proveState : Option ProveState
  deriving DecidableEq, Repr

/-- `packed::SendLastStateProof`. -/
structure SendLastStateProof where
  lastHeader : VerifiableHeader
  proof : List HeaderDigest
  headers : List VerifiableHeader
  deriving DecidableEq, Repr

/-- A message a node can send: its tip and every returned header carry the total
difficulty the chain gives them. -/
def SendLastStateProof.Receivable (compactToDifficulty : UInt32 → U256)
    (message : SendLastStateProof) : Prop :=
  message.lastHeader.Consistent compactToDifficulty ∧
    ∀ h ∈ message.headers, h.Consistent compactToDifficulty

instance (compactToDifficulty : UInt32 → U256) (message : SendLastStateProof) :
    Decidable (message.Receivable compactToDifficulty) :=
  inferInstanceAs (Decidable (_ ∧ _))

/-- A registry call or an outgoing message of `execute`, with what the call returned. -/
inductive Effect where
  /-- `process_last_state(peer, last_header)`. -/
  | processLastState (lastHeader : VerifiableHeader) (result : Except Status Unit)
  /-- `get_last_state_proof(nc, peer)`: builds, records and sends a new request when it
  decides to (`some`). -/
  | getLastStateProof (result : Except Status (Option ProveRequest))
  /-- `peers().update_prove_request(peer, request)`. -/
  | updateProveRequest (request : ProveRequest) (result : Except Status Unit)
  /-- `commit_prove_state(peer, state)`: `Ok(false)` when it detects a long fork. -/
  | commitProveState (state : ProveState) (result : Except Status Bool)
  /-- `nc.reply(peer, GetLastStateProof(content))`. -/
  | reply (content : GetLastStateProof)
  deriving Repr

/-- The status a registry call failed with, if it failed. -/
def Effect.failure : Effect → Option Status
  | .processLastState _ (.error s) | .getLastStateProof (.error s)
  | .updateProveRequest _ (.error s) | .commitProveState _ (.error s) => some s
  | _ => none

/-- Modelled from the spec: what a registry call does to the peer's slot. A new request
replaces the pending one; a commit that succeeds and finds no long fork stores the state
and ends the pending request; failed calls, a detected long fork and messages change
nothing. -/
def PeerState.apply (ps : PeerState) : Effect → PeerState
  | .getLastStateProof (.ok (some r)) => { ps with proveRequest := some r }
  | .updateProveRequest r (.ok ()) => { ps with proveRequest := some r }
  | .commitProveState st (.ok true) =>
      { ps with proveState := some st, proveRequest := none, proveRequestForTrustedState := none }
  | _ => ps

/-- The verifier of `ckb_merkle_mountain_range` and the MMR parts of `ckb_types`:
`VerifiableHeader::is_valid`, the leaf mappings, `HeaderDigest::verify` on a header's
digest and `MMRProof::verify`. -/
structure MmrVerifier where
  isValid : VerifiableHeader → Nat → Bool
  leafIndexToMmrSize : Nat → Nat
  leafIndexToPos : Nat → Nat
  digestVerify : Header → Except String Unit
  verify :
    Nat → List HeaderDigest → HeaderDigest → List (Nat × Header) → Except String Bool

/-- The node's parameters (`last_n_blocks`, the MMR activation epoch, `TAU`) and the
collaborators of `execute` outside `src/`: `compact_to_difficulty`,
`HeaderView::is_parent_of`, the header checks of the protocol, the MMR verifier, the
request builders and the results of the registry calls. -/
structure Context where
  lastNBlocks : Nat
  mmrActivatedEpoch : Nat
  tau : Nat
  compactToDifficulty : UInt32 → U256
  isParentOf : Header → Header → Bool
  unknownPeer : Status
  checkVerifiableHeader : VerifiableHeader → Except Status Unit
  checkChainRootForHeaders : List VerifiableHeader → Except Status Unit
  checkPowForHeaders : List Header → Except Status Unit
  mmr : MmrVerifier
  buildProveRequestContent : PeerState → VerifiableHeader → Option GetLastStateProof
  buildProveRequestContentFromGenesis : VerifiableHeader → Option GetLastStateProof
  processLastState : PeerState → VerifiableHeader → Except Status Unit
  getLastStateProof : PeerState → VerifiableHeader → Except Status (Option ProveRequest)
  updateProveRequest : PeerState → ProveRequest → Except Status Unit
  commitProveState : PeerState → ProveState → Except Status Bool

end CkbLightClient
