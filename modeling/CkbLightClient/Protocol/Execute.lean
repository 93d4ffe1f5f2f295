import CkbLightClient.Protocol.Peer

/-!
# CkbLightClient — `SendLastStateProofProcess::execute`

The handler of a peer's `SendLastStateProof`, split where the source's own phases are:

* `selectRequest` — the request the response answers: the pending one, or the trusted
  state's request completed with the returned tip;
* `verifyResponse` — every check, from `check_if_response_is_matched` to the total
  difficulty: it calls no registry function and sends nothing;
* `buildLastHeaders`, `matchLastHeaders` — the `reorg_last_headers` and `last_headers` of
  the new state;
* `commitResponse` — the recheck request when tau failed, else the commit and the long
  fork branch;
* `execute` — the whole handler, as an `Outcome`: the registry calls and messages it made,
  in order, and the status it returned (or its panic).

An early `return status` of the source is `.error (.err status)` in the checks' monad,
and a panic (an out-of-range index or slice, an arithmetic overflow, `panic!`,
`assert!`) is `.error .panic`.
-/

namespace CkbLightClient

/-! ## The checks over the returned headers -/

/-- `check_continuous_headers`: in every window of two headers the first is the parent of
the second. -/
def checkContinuousHeaders (isParentOf : Header → Header → Bool) :
    List Header → Except (Exit Status) Unit
  | parent :: child :: rest =>
      if isParentOf parent child then checkContinuousHeaders isParentOf (child :: rest)
      else throw (.err StatusCode.invalidParentBlock.status)
  | _ => pure ()

/-- `verify_mmr_proof`: the tip's extra hash, every header's digest, then the proof of the
headers' digests against the tip's parent chain root. -/
def verifyMmrProof (mmr : MmrVerifier) (mmrActivatedEpoch : Nat) (lastHeader : VerifiableHeader)
    (rawProof : List HeaderDigest) (headers : List Header) : Except (Exit Status) Unit := do
  if !mmr.isValid lastHeader mmrActivatedEpoch then
    throw (.err StatusCode.invalidProof.status)
  let parentChainRoot := lastHeader.parentChainRoot
  let mmrSize := mmr.leafIndexToMmrSize parentChainRoot.endNumber
  let digests := headers.mapM fun header => do
    mmr.digestVerify header
    pure (mmr.leafIndexToPos header.number, header)
  let some digestsWithPositions := digests.toOption
    | throw (.err StatusCode.invalidProof.status)
  match mmr.verify mmrSize rawProof parentChainRoot digestsWithPositions with
  | .ok true => pure ()
  | .ok false => throw (.err (StatusCode.invalidProof.withContext
      "failed to verify the mmr proof since the result is false"))
  | .error _ => throw (.err StatusCode.invalidProof.status)

/-! ## The phases of `execute` -/

section Phases

variable (ctx : Context) (peerState : PeerState)

/-- The request a response answers, and whether it is the trusted state's. Ends with
`Status::ok()` when the peer is not waiting for a proof. -/
def selectRequest (lastHeader : VerifiableHeader) : Except (Exit Status) (ProveRequest × Bool) :=
  match peerState.proveRequest, peerState.proveRequestForTrustedState with
  | some originalRequest, _ => pure (originalRequest, false)
  | none, some originalRequest => do
      (ctx.checkVerifiableHeader lastHeader).mapError .err
      if lastHeader.header.hash = originalRequest.trustedHash then
        pure (originalRequest.complete lastHeader, true)
      else
        throw (.err StatusCode.notTrustedState.status)
  | none, none => throw (.err .ok)

/-- The tau check of the samples: `true` when it failed. -/
def checkTauOfSamples (originalRequest : ProveRequest) (headers : List Header)
    (reorgCount sampledCount lastNCount : Nat) : Except (Exit Status) Bool :=
  if originalRequest.ifSkipCheckTau then pure false
  else if sampledCount ≠ 0 then do
    let startHeader ← getOrPanic headers reorgCount
    let endHeader ← getOrPanic headers (← subU (reorgCount + sampledCount + lastNCount) 1)
    let result ← verifyTau ctx.compactToDifficulty startHeader.epoch startHeader.compactTarget
      endHeader.epoch endHeader.compactTarget ctx.tau
    pure !result
  else pure false

/-- The total difficulty check against the previously proved tip, when there are samples. -/
def checkTotalDifficulty (lastHeader : VerifiableHeader) (sampledCount : Nat) :
    Except (Exit Status) Unit :=
  if sampledCount ≠ 0 then
    match peerState.proveState with
    | some proveState =>
        let prevLastHeader := proveState.lastHeader
        let startHeader := prevLastHeader.header
        let endHeader := lastHeader.header
        match verifyTotalDifficulty ctx.compactToDifficulty startHeader.epoch
            startHeader.compactTarget prevLastHeader.totalDifficulty endHeader.epoch
            endHeader.compactTarget lastHeader.totalDifficulty ctx.tau with
        | .ok () => pure ()
        | .error (.err _) => throw (.err StatusCode.invalidTotalDifficulty.status)
        | .error .panic => throw .panic
    | none => pure ()
  else pure ()

/-- What the checks hand to the commit: the returned headers, the three counts, and
whether tau failed. -/
structure Verified where
  headers : List Header
  reorgCount : Nat
  sampledCount : Nat
  lastNCount : Nat
  failedToVerifyTau : Bool
  deriving DecidableEq, Repr

/-- Every check of `execute`, in the source's order. -/
def verifyResponse (originalRequest : ProveRequest) (message : SendLastStateProof) :
    Except (Exit Status) Verified := do
  let lastHeader := message.lastHeader
  let (reorgCount, sampledCount, lastNCount) ←
    checkIfResponseIsMatched ctx.lastNBlocks originalRequest.content message.headers lastHeader
  (ctx.checkChainRootForHeaders message.headers).mapError .err
  let headers := message.headers.map (·.header)
  (ctx.checkPowForHeaders headers).mapError .err
  let failedToVerifyTau ←
    checkTauOfSamples ctx originalRequest headers reorgCount sampledCount lastNCount
  if reorgCount ≠ 0 then
    checkContinuousHeaders ctx.isParentOf (← sliceOrPanic headers 0 (← subU reorgCount 1))
  checkContinuousHeaders ctx.isParentOf
    (← sliceOrPanic headers (reorgCount + sampledCount) headers.length)
  verifyMmrProof ctx.mmr ctx.mmrActivatedEpoch lastHeader message.proof headers
  checkTotalDifficulty ctx peerState lastHeader sampledCount
  return ⟨headers, reorgCount, sampledCount, lastNCount, failedToVerifyTau⟩

/-- The `match last_n_count.cmp(&last_n_blocks)` of `execute`: the new last headers, cut
to `last_n_blocks`, or completed from the previous state's last headers (or the reorg
headers) when there are fewer. -/
def matchLastHeaders (lastNBlocks : Nat) (v : Verified) (newLastHeaders : List Header) :
    Except (Exit Status) (List Header) :=
  match compare v.lastNCount lastNBlocks with
  | .eq => pure newLastHeaders
  | .gt => do splitOffOrPanic newLastHeaders (← subU v.lastNCount lastNBlocks)
  | .lt =>
    match peerState.proveState with
    | some proveState => do
        let oldLastHeaders ←
          if v.reorgCount = 0 then pure proveState.lastHeaders
          else sliceOrPanic v.headers 0 v.reorgCount
        if oldLastHeaders.isEmpty then pure newLastHeaders
        else do
          let requiredCount ← subU lastNBlocks v.lastNCount
          pure (oldLastHeaders.drop (oldLastHeaders.length - requiredCount) ++ newLastHeaders)
    | none =>
        if v.reorgCount = 0 then pure newLastHeaders
        else throw (.err (StatusCode.invalidReorgHeaders.withContext
          "no previous prove state but has reorg blocks"))

/-- The `reorg_last_headers` and `last_headers` of the state to commit: the reorg headers,
and the last `last_n_count` returned headers through `matchLastHeaders`. -/
def buildLastHeaders (lastNBlocks : Nat) (v : Verified) :
    Except (Exit Status) (List Header × List Header) := do
  let headers := v.headers
  let reorgLastHeaders ← sliceOrPanic headers 0 v.reorgCount
  let newLastHeaders ← sliceOrPanic headers (← subU headers.length v.lastNCount) headers.length
  let lastHeaders ← matchLastHeaders peerState lastNBlocks v newLastHeaders
  return (reorgLastHeaders, lastHeaders)

end Phases

/-! ## Outcomes -/

/-- How `execute` ended: the status it returned, or a panic. -/
inductive Ending where
  | status (s : Status)
  | panic
  deriving DecidableEq, Repr

/-- One call of `execute`: its registry calls and messages, in order, and how it ended. -/
structure Outcome where
  effects : List Effect
  ending : Ending
  deriving Repr

namespace Outcome

/-- Return `s` with nothing more done. -/
def done (s : Status) : Outcome := ⟨[], .status s⟩

/-- Panic with nothing more done. -/
def abort : Outcome := ⟨[], .panic⟩

/-- A call or message made before the rest of `o`. -/
def after (e : Effect) (o : Outcome) : Outcome := ⟨e :: o.effects, o.ending⟩

/-- `return_if_failed!` over a check: go on with its value, or end as it did. -/
def bindChecked {α : Type} (x : Except (Exit Status) α) (k : α → Outcome) : Outcome :=
  match x with
  | .ok a => k a
  | .error (.err s) => done s
  | .error .panic => abort

/-- `return_if_failed!` over a registry call: the call is made, then go on with its value
or return its error. -/
def call {α : Type} (effect : Except Status α → Effect) (result : Except Status α)
    (k : α → Outcome) : Outcome :=
  after (effect result) <|
    match result with
    | .ok a => k a
    | .error s => done s

end Outcome

section Execute

variable (ctx : Context) (peerState : PeerState)

/-- The lines of `execute` after the checks: ask again (and skip tau) when tau failed,
otherwise commit the new state, and ask again from genesis when the commit finds a long
fork. -/
def commitResponse (originalRequest : ProveRequest) (isTrustedState : Bool)
    (lastHeader : VerifiableHeader) (v : Verified) : Outcome :=
  if v.failedToVerifyTau then
    match ctx.buildProveRequestContent peerState lastHeader with
    | some content =>
        let proveRequest := (ProveRequest.new lastHeader content).skipCheckTau
        .call (.updateProveRequest proveRequest) (ctx.updateProveRequest peerState proveRequest)
          fun () => .after (.reply content)
            (.done (StatusCode.requireRecheck.withContext "failed to verify TAU"))
    | none => .done .ok
  else
    .bindChecked (buildLastHeaders peerState ctx.lastNBlocks v)
      fun (reorgLastHeaders, lastHeaders) =>
        let proveState := ProveState.newFromRequest originalRequest reorgLastHeaders lastHeaders
        if originalRequest.ifLongForkDetected then .abort
        else
          .call (.commitProveState proveState) (ctx.commitProveState peerState proveState)
            fun committed =>
              if !committed then
                if isTrustedState then .abort
                else
                  let lastHeader := proveState.lastHeader
                  match ctx.buildProveRequestContentFromGenesis lastHeader with
                  | some content =>
                      let proveRequest := (ProveRequest.new lastHeader content).longForkDetected
                      .call (.updateProveRequest proveRequest)
                        (ctx.updateProveRequest peerState proveRequest)
                        fun () => .after (.reply content)
                          (.done (StatusCode.requireRecheck.withContext "long fork detected"))
                  | none => .done .ok
              else .done .ok

/-- `SendLastStateProofProcess::execute` for a peer whose slot is `peerState` (`none`: the
peer is not registered). A response for another tip than the pending request's is a new
last state when it carries no proof. -/
def execute (peerState : Option PeerState) (message : SendLastStateProof) : Outcome :=
  match peerState with
  | none => .done ctx.unknownPeer
  | some peerState =>
    let lastHeader := message.lastHeader
    .bindChecked (selectRequest ctx peerState lastHeader) fun (originalRequest, isTrustedState) =>
      if !isTrustedState && !originalRequest.isSameAs lastHeader then
        if message.proof.isEmpty then
          .call (.processLastState lastHeader) (ctx.processLastState peerState lastHeader)
            fun () => .call .getLastStateProof (ctx.getLastStateProof peerState lastHeader)
              fun _ => .done .ok
        else .done .ok
      else
        .bindChecked (verifyResponse ctx peerState originalRequest message) fun v =>
          commitResponse ctx peerState originalRequest isTrustedState lastHeader v

end Execute

/-! ## Rounds -/

/-- The peer's slot after registry calls, applied in order. -/
def PeerState.applyAll (peerState : PeerState) (effects : List Effect) : PeerState :=
  effects.foldl PeerState.apply peerState

/-- One round: the peer's slot after `execute` handles `message`. -/
def step (ctx : Context) (peerState : PeerState) (message : SendLastStateProof) : PeerState :=
  peerState.applyAll (execute ctx (some peerState) message).effects

/-- A run: rounds of `execute` for one peer, in order, up to the first round that panics
(whose registry calls are the last ones made). -/
def run (ctx : Context) : PeerState → List SendLastStateProof → PeerState
  | peerState, [] => peerState
  | peerState, message :: messages =>
    match (execute ctx (some peerState) message).ending with
    | .panic => step ctx peerState message
    | .status _ => run ctx (step ctx peerState message) messages

/-! ## A node whose collaborators accept everything

The concrete runs of the protocol modules use this node: every header, proof and registry
call is accepted, `is_parent_of` links consecutive numbers, a compact target decodes to
its own value (`plainDifficulty`), `TAU` is 2, and a new request asks for `content` again. -/

/-- The accepting node for `last_n_blocks = lastNBlocks`. -/
def acceptingContext (lastNBlocks : Nat) (content : GetLastStateProof) : Context where
  lastNBlocks := lastNBlocks
  mmrActivatedEpoch := 0
  tau := 2
  compactToDifficulty := plainDifficulty
  isParentOf := fun parent child => decide (parent.number + 1 = child.number)
  unknownPeer := StatusCode.malformedProtocolMessage.status
  checkVerifiableHeader := fun _ => pure ()
  checkChainRootForHeaders := fun _ => pure ()
  checkPowForHeaders := fun _ => pure ()
  mmr := ⟨fun _ _ => true, id, id, fun _ => pure (), fun _ _ _ _ => pure true⟩
  buildProveRequestContent := fun _ _ => some content
  buildProveRequestContentFromGenesis := fun _ => some content
  processLastState := fun _ _ => pure ()
  getLastStateProof := fun _ _ => pure none
  updateProveRequest := fun _ _ => pure ()
  commitProveState := fun _ _ => pure true

/-- A peer that awaits the proof of `lastHeader` for `content`, with no proved state. -/
def PeerState.awaiting (lastHeader : VerifiableHeader) (content : GetLastStateProof)
    (longForkDetected : Bool) : PeerState :=
  ⟨some ⟨lastHeader, content, false, longForkDetected⟩, none, none⟩

/-- Block `n` of epoch `epoch` (the epoch's only block) with compact target
`compactTarget`, on a parent chain of total difficulty `parentTd`: its total difficulty
adds the target as the accepting node decodes it. -/
def chainHeader (n epoch compactTarget parentTd : Nat) : VerifiableHeader :=
  .ofParent plainDifficulty
    (.ofFields n (.ofFields epoch 0 1) (UInt32.ofNat compactTarget) n (n - 1))
    ⟨.ofNat parentTd, n - 1⟩

end CkbLightClient
