import CkbLightClient.Protocol.Execute

/-!
# CkbLightClient — `SendTransactionsProofProcess::execute`

The handler of a peer's `SendTransactionsProof`, the answer to a request for transactions
of the chain the peer proved. It reuses `verify_mmr_proof` and calls the registry and the
storage:

* `verifyBlock`, `verifyFilteredBlocks` — the Merkle check of each filtered block's
  transactions against its header's transactions root;
* `verifyResponse` — every check before anything is stored, in the source's order;
* `storeTransactions` — the last loop: `add_transaction`, then `add_fetched_tx` for the
  transactions the registry takes;
* `executeInternally`, `execute` — the handler, as a `TxsOutcome`;
* `stepTxs`, `rounds` — the peer's pending request after a round, and a run of rounds.

The results:

* `execute_stores_only_proven` — a stored transaction comes from a block of a response to
  the pending request whose every check passed, and is stored right after the round's
  `add_transaction` call for it answered `true`;
* `rounds_after_first_idle` — a request is answered once: every later response of a run
  stores nothing, calls nothing but the clearing of the request, and is refused.
-/

namespace CkbLightClient

/-- `packed::MerkleProof` of a filtered block: leaf indices and lemmas (hashes as
numbers). -/
structure MerkleProof where
  indices : List Nat
  lemmas : List Nat
  deriving DecidableEq, Repr

/-- `packed::FilteredBlock`: a header, its witnesses root, the transactions the peer returns
from it, and their Merkle proof. -/
structure FilteredBlock (τ : Type) where
  header : Header
  witnessesRoot : Nat
  transactions : List τ
  proof : MerkleProof

/-- `packed::SendTransactionsProof`. -/
structure SendTransactionsProof (τ : Type) where
  lastHeader : VerifiableHeader
  proof : List HeaderDigest
  filteredBlocks : List (FilteredBlock τ)
  missingTxHashes : List Nat

/-- The headers of the filtered blocks, in order. -/
def SendTransactionsProof.headers {τ : Type} (message : SendTransactionsProof τ) :
    List Header :=
  message.filteredBlocks.map (·.header)

/-- The transactions of the filtered blocks, each with its block's header, in the order of
the last loop. -/
def SendTransactionsProof.transactionsWithHeaders {τ : Type}
    (message : SendTransactionsProof τ) : List (τ × Header) :=
  message.filteredBlocks.flatMap fun block => block.transactions.map (·, block.header)

/-- Modelled from how `execute` reads it: the peer's pending transactions proof request,
through its last hash (its transaction hashes are read by `check_tx_hashes`, a
collaborator). -/
structure TxsProofRequest where
  lastHash : Nat
  deriving DecidableEq, Repr

/-- The collaborators of `SendTransactionsProofProcess::execute` outside `src/`: the MMR
verifier, `calc_tx_hash`, the header's `transactions_root`, `MerkleProof::root` and `merkle_root`,
`check_tx_hashes`, the protocol's checks, and what the registry calls return
(`add_transaction` answers from the calls made before it in the round). -/
structure TxsContext (τ : Type) where
  mmrActivatedEpoch : Nat
  mmr : MmrVerifier
  unknownPeer : Status
  txHash : τ → Nat
  transactionsRoot : Header → Nat
  merkleProofRoot : MerkleProof → List Nat → Option Nat
  merkleRoot : List Nat → Nat
  checkTxHashes : TxsProofRequest → List Nat → List Nat → Bool
  checkPowForHeaders : List Header → Except Status Unit
  processLastState : VerifiableHeader → Except Status Unit
  addTransaction : List (Nat × Nat) → Nat → Nat → Bool

/-- A registry or storage call of `SendTransactionsProofProcess::execute`, with what it
returned. -/
inductive TxsEffect (τ : Type) where
  /-- `process_last_state(peer, last_header)`. -/
  | processLastState (lastHeader : VerifiableHeader) (result : Except Status Unit)
  /-- `peers().mark_fetching_txs_timeout(peer)`. -/
  | markFetchingTxsTimeout
  /-- `peers().add_transaction(tx_hash, block_hash)`. -/
  | addTransaction (txHash blockHash : Nat) (added : Bool)
  /-- `storage().add_fetched_tx(tx, header)`. -/
  | addFetchedTx (tx : τ) (header : Header)
  /-- `peers().update_txs_proof_request(peer, None)`. -/
  | updateTxsProofRequest

/-- One call of the handler: its registry and storage calls, in order, and how it ended. -/
structure TxsOutcome (τ : Type) where
  effects : List (TxsEffect τ)
  ending : Ending

namespace SendTransactionsProofProcess

variable {τ : Type} (ctx : TxsContext τ)

/-! ## The checks -/

/-- The check of one filtered block: the root of its Merkle proof over its transactions'
hashes, with its witnesses root, is its header's transactions root. -/
def verifyBlock (block : FilteredBlock τ) : Bool :=
  match (ctx.merkleProofRoot block.proof (block.transactions.map ctx.txHash)).map
      fun rawTransactionsRoot =>
        decide (ctx.transactionsRoot block.header =
          ctx.merkleRoot [rawTransactionsRoot, block.witnessesRoot]) with
  | some true => true
  | _ => false

/-- The loop over the filtered blocks: `InvalidProof` at the first block that fails (its
context, a `format!` of the block hash, is not modelled). -/
def verifyFilteredBlocks : List (FilteredBlock τ) → Except (Exit Status) Unit
  | [] => pure ()
  | block :: rest =>
      if verifyBlock ctx block then verifyFilteredBlocks rest
      else throw (.err StatusCode.invalidProof.status)

/-- The hashes of the returned transactions, in order. -/
def receivedTxHashes (message : SendTransactionsProof τ) : List Nat :=
  message.filteredBlocks.flatMap fun block => block.transactions.map ctx.txHash

/-- The checks of a response for the awaited last state, in the source's order. -/
def verifyResponse (originalRequest : TxsProofRequest) (message : SendTransactionsProof τ) :
    Except (Exit Status) Unit := do
  if !ctx.checkTxHashes originalRequest (receivedTxHashes ctx message)
      message.missingTxHashes then
    throw (.err StatusCode.unexpectedResponse.status)
  (ctx.checkPowForHeaders message.headers).mapError .err
  verifyMmrProof ctx.mmr ctx.mmrActivatedEpoch message.lastHeader message.proof message.headers
  verifyFilteredBlocks ctx message.filteredBlocks

/-! ## The handler -/

/-- The last loop: each transaction is offered to the registry (`add_transaction`, whose
answer depends on the calls made before), and stored when the registry takes it. -/
def storeTransactions (earlier : List (Nat × Nat)) : List (τ × Header) → List (TxsEffect τ)
  | [] => []
  | (tx, header) :: rest =>
      let added := ctx.addTransaction earlier (ctx.txHash tx) header.hash
      .addTransaction (ctx.txHash tx) header.hash added ::
        ((if added then [.addFetchedTx tx header] else []) ++
          storeTransactions (earlier ++ [(ctx.txHash tx, header.hash)]) rest)

/-- The `(tx_hash, block_hash)` pairs offered to `add_transaction` by the calls `effects`,
in order: what the registry has seen of the round when it answers the next call. -/
def offered (effects : List (TxsEffect τ)) : List (Nat × Nat) :=
  effects.filterMap fun
    | .addTransaction txHash blockHash _ => some (txHash, blockHash)
    | _ => none

@[simp] theorem offered_nil : offered ([] : List (TxsEffect τ)) = [] := rfl

@[simp] theorem offered_append (effects effects' : List (TxsEffect τ)) :
    offered (effects ++ effects') = offered effects ++ offered effects' :=
  List.filterMap_append _ _ _

@[simp] theorem offered_addTransaction (txHash blockHash : Nat) (added : Bool)
    (effects : List (TxsEffect τ)) :
    offered (.addTransaction txHash blockHash added :: effects) =
      (txHash, blockHash) :: offered effects := rfl

@[simp] theorem offered_addFetchedTx (tx : τ) (header : Header) (effects : List (TxsEffect τ)) :
    offered (.addFetchedTx tx header :: effects) = offered effects := rfl

/-- `execute_internally`, for a peer whose slot holds `slot` (`none`: the peer is not
registered; `some none`: it has no pending transactions proof request). A response for
another last state is a new last state when it carries nothing else. -/
def executeInternally (slot : Option (Option TxsProofRequest))
    (message : SendTransactionsProof τ) : TxsOutcome τ :=
  match slot with
  | none => ⟨[], .status ctx.unknownPeer⟩
  | some none => ⟨[], .status StatusCode.peerIsNotOnProcess.status⟩
  | some (some originalRequest) =>
    let lastHeader := message.lastHeader
    if originalRequest.lastHash ≠ lastHeader.header.hash then
      if message.proof.isEmpty && message.filteredBlocks.isEmpty &&
          message.missingTxHashes.isEmpty then
        match ctx.processLastState lastHeader with
        | .ok () =>
            ⟨[.processLastState lastHeader (.ok ()), .markFetchingTxsTimeout], .status .ok⟩
        | .error s => ⟨[.processLastState lastHeader (.error s)], .status s⟩
      else ⟨[], .status StatusCode.unexpectedResponse.status⟩
    else
      match verifyResponse ctx originalRequest message with
      | .ok () => ⟨storeTransactions ctx [] message.transactionsWithHeaders, .status .ok⟩
      | .error (.err s) => ⟨[], .status s⟩
      | .error .panic => ⟨[], .panic⟩

/-- `execute`: `execute_internally`, then the pending request is cleared. -/
def execute (slot : Option (Option TxsProofRequest)) (message : SendTransactionsProof τ) :
    TxsOutcome τ :=
  match executeInternally ctx slot message with
  | ⟨effects, .status s⟩ => ⟨effects ++ [.updateTxsProofRequest], .status s⟩
  | ⟨effects, .panic⟩ => ⟨effects, .panic⟩

/-! ## Rounds -/

/-- The pending request after one of the handler's calls: `update_txs_proof_request(peer,
None)` clears it, and no other call of the handler writes it. -/
def applyEffect (request : Option TxsProofRequest) : TxsEffect τ → Option TxsProofRequest
  | .updateTxsProofRequest => none
  | _ => request

/-- One round: the peer's slot after the handler answers `message` (the registry changes
only a registered peer). -/
def stepTxs (slot : Option (Option TxsProofRequest)) (message : SendTransactionsProof τ) :
    Option (Option TxsProofRequest) :=
  slot.map fun request => (execute ctx slot message).effects.foldl applyEffect request

/-- A run: the outcomes of the rounds of the handler for one peer, in order, up to the first
round that panics. -/
def rounds : Option (Option TxsProofRequest) → List (SendTransactionsProof τ) →
    List (TxsOutcome τ)
  | _, [] => []
  | slot, message :: messages =>
    match (execute ctx slot message).ending with
    | .panic => [execute ctx slot message]
    | .status _ => execute ctx slot message :: rounds (stepTxs ctx slot message) messages

/-! ## The checks, as statements -/

theorem verifyFilteredBlocks_eq_ok {blocks : List (FilteredBlock τ)} :
    verifyFilteredBlocks ctx blocks = .ok () ↔ ∀ block ∈ blocks, verifyBlock ctx block := by
  induction blocks with
  | nil => simp [verifyFilteredBlocks]
  | cons block rest ih => by_cases h : verifyBlock ctx block <;> simp [verifyFilteredBlocks, h, ih]

/-- A response passes exactly when the requested hashes match, the headers' proof of work,
the MMR proof and every block's Merkle proof check out. -/
theorem verifyResponse_eq_ok {originalRequest : TxsProofRequest}
    {message : SendTransactionsProof τ} :
    verifyResponse ctx originalRequest message = .ok () ↔
      ctx.checkTxHashes originalRequest (receivedTxHashes ctx message)
          message.missingTxHashes ∧
        ctx.checkPowForHeaders message.headers = .ok () ∧
        verifyMmrProof ctx.mmr ctx.mmrActivatedEpoch message.lastHeader message.proof
          message.headers = .ok () ∧
        ∀ block ∈ message.filteredBlocks, verifyBlock ctx block := by
  simp [verifyResponse, bind_eq_ok, verifyFilteredBlocks_eq_ok, Unique.exists_iff]

/-- What the last loop stores was offered by it, right before, and the registry took it:
`add_transaction`, having seen the earlier offers of the round, answered `true`. -/
theorem storeTransactions_of_store {earlier : List (Nat × Nat)} {pairs : List (τ × Header)}
    {tx : τ} {header : Header}
    (h : .addFetchedTx tx header ∈ storeTransactions ctx earlier pairs) :
    (tx, header) ∈ pairs ∧ ∃ before after, storeTransactions ctx earlier pairs =
        before ++ .addTransaction (ctx.txHash tx) header.hash true :: .addFetchedTx tx header :: after ∧
      ctx.addTransaction (earlier ++ offered before) (ctx.txHash tx) header.hash = true := by
  induction pairs generalizing earlier with
  | nil => simp [storeTransactions] at h
  | cons pair rest ih =>
    obtain ⟨tx', header'⟩ := pair
    simp only [storeTransactions, List.mem_cons, List.mem_append] at h
    rcases h with h | h | h
    · nomatch h
    · -- stored here: the call just before took it
      cases hadded : ctx.addTransaction earlier (ctx.txHash tx') header'.hash <;>
        simp only [hadded, Bool.false_eq_true, ↓reduceIte, List.not_mem_nil,
          List.mem_singleton, TxsEffect.addFetchedTx.injEq] at h
      obtain ⟨rfl, rfl⟩ := h
      exact ⟨.head _, [], storeTransactions ctx (earlier ++ [(ctx.txHash tx, header.hash)]) rest,
        by simp [storeTransactions, hadded], by simpa using hadded⟩
    · -- stored later: the calls of this pair come before
      obtain ⟨hmem, before, after, heq, hadd⟩ := ih h
      refine ⟨.tail _ hmem, .addTransaction (ctx.txHash tx') header'.hash
          (ctx.addTransaction earlier (ctx.txHash tx') header'.hash) ::
        ((if ctx.addTransaction earlier (ctx.txHash tx') header'.hash then
          [.addFetchedTx tx' header'] else []) ++ before), after,
        by simp [storeTransactions, heq], ?_⟩
      split <;> simpa using hadd

/-! ## What is stored is proven -/

/-- A store happens only in the branch for the awaited last state, after every check. -/
theorem executeInternally_of_store {slot : Option (Option TxsProofRequest)}
    {message : SendTransactionsProof τ} {tx : τ} {header : Header}
    (h : .addFetchedTx tx header ∈ (executeInternally ctx slot message).effects) :
    ∃ originalRequest, slot = some (some originalRequest) ∧
      originalRequest.lastHash = message.lastHeader.header.hash ∧
      verifyResponse ctx originalRequest message = .ok () ∧
      executeInternally ctx slot message =
        ⟨storeTransactions ctx [] message.transactionsWithHeaders, .status .ok⟩ := by
  rcases slot with _ | _ | originalRequest
  · simp [executeInternally] at h
  · simp [executeInternally] at h
  refine ⟨originalRequest, rfl, ?_⟩
  by_cases hhash : originalRequest.lastHash = message.lastHeader.header.hash
  · refine ⟨hhash, ?_⟩
    simp only [executeInternally, hhash, ne_eq, not_true_eq_false, if_false] at h ⊢
    split at h
    next hverify => exact ⟨hverify, rfl⟩
    all_goals simp at h
  · simp only [executeInternally, hhash, ne_eq, not_false_eq_true, if_true] at h
    split at h
    · split at h <;> simp at h
    · simp at h

/-- The clearing of the request is the only call `execute` adds. -/
theorem mem_execute_effects {slot : Option (Option TxsProofRequest)}
    {message : SendTransactionsProof τ} {effect : TxsEffect τ}
    (h : effect ∈ (execute ctx slot message).effects) :
    effect ∈ (executeInternally ctx slot message).effects ∨ effect = .updateTxsProofRequest := by
  unfold execute at h
  split at h <;> simp_all

/-- **Every transaction the handler stores is proven.** It comes from a filtered block of a
response to the peer's pending request, for the very last state the request awaits; the
returned hashes matched the request, the headers' proof of work, the MMR proof of the
headers and the Merkle proof of every block passed; and the store follows at once the
round's `add_transaction` call for it, which answered `true` given the round's earlier
offers. The handler then reports success. -/
theorem execute_stores_only_proven {slot : Option (Option TxsProofRequest)}
    {message : SendTransactionsProof τ} {tx : τ} {header : Header}
    (h : .addFetchedTx tx header ∈ (execute ctx slot message).effects) :
    ∃ originalRequest, slot = some (some originalRequest) ∧
      originalRequest.lastHash = message.lastHeader.header.hash ∧
      ctx.checkTxHashes originalRequest (receivedTxHashes ctx message)
        message.missingTxHashes ∧
      ctx.checkPowForHeaders message.headers = .ok () ∧
      verifyMmrProof ctx.mmr ctx.mmrActivatedEpoch message.lastHeader message.proof
        message.headers = .ok () ∧
      (∀ block ∈ message.filteredBlocks, verifyBlock ctx block) ∧
      (∃ block ∈ message.filteredBlocks, block.header = header ∧ tx ∈ block.transactions) ∧
      (∃ before after, (execute ctx slot message).effects =
          before ++ .addTransaction (ctx.txHash tx) header.hash true :: .addFetchedTx tx header ::
            after ∧
        ctx.addTransaction (offered before) (ctx.txHash tx) header.hash = true) ∧
      (execute ctx slot message).ending = .status .ok := by
  have hinternal : .addFetchedTx tx header ∈ (executeInternally ctx slot message).effects :=
    (mem_execute_effects ctx h).resolve_right nofun
  obtain ⟨originalRequest, rfl, hhash, hverify, heq⟩ := executeInternally_of_store ctx hinternal
  obtain ⟨htx, hpow, hmmr, hblocks⟩ := (verifyResponse_eq_ok ctx).mp hverify
  rw [heq] at hinternal
  obtain ⟨hpair, before, after, hstore, hadd⟩ := storeTransactions_of_store ctx hinternal
  obtain ⟨block, hblock, hmem⟩ := List.mem_flatMap.mp hpair
  obtain ⟨tx', htx', hpair'⟩ := List.mem_map.mp hmem
  obtain ⟨rfl, rfl⟩ := Prod.mk.inj hpair'
  refine ⟨originalRequest, rfl, hhash, htx, hpow, hmmr, hblocks, ⟨block, hblock, rfl, htx'⟩,
    ⟨before, after ++ [.updateTxsProofRequest], by simp [execute, heq, hstore], by simpa using hadd⟩,
    by simp [execute, heq]⟩

/-- The node whose collaborators accept every response: transactions are their own hashes,
every Merkle proof gives root 0, and the registry takes a hash the first time it is
offered. -/
def acceptingTxsContext : TxsContext Nat where
  mmrActivatedEpoch := 0
  mmr := ⟨fun _ _ => true, id, id, fun _ => pure (), fun _ _ _ _ => pure true⟩
  unknownPeer := StatusCode.malformedProtocolMessage.status
  txHash := id
  transactionsRoot := fun _ => 0
  merkleProofRoot := fun _ _ => some 0
  merkleRoot := fun _ => 0
  checkTxHashes := fun _ _ _ => true
  checkPowForHeaders := fun _ => pure ()
  processLastState := fun _ => pure ()
  addTransaction := fun earlier txHash _ => decide (txHash ∉ earlier.map Prod.fst)

/-- The tip 5's block 4 returns the transaction 7 twice: the first is stored, right after
the registry takes it. -/
theorem execute_stores_only_proven_example :
    let tip := chainHeader 5 0 10 40
    let block : FilteredBlock Nat := ⟨(chainHeader 4 0 10 30).header, 0, [7, 7], ⟨[0, 1], []⟩⟩
    let message : SendTransactionsProof Nat := ⟨tip, [], [block], []⟩
    let ctx := acceptingTxsContext
    TxsEffect.addFetchedTx 7 block.header ∈ (execute ctx (some (some ⟨5⟩)) message).effects ∧
      ∃ originalRequest, some (some ⟨5⟩) = some (some originalRequest) ∧
        originalRequest.lastHash = message.lastHeader.header.hash ∧
        ctx.checkTxHashes originalRequest (receivedTxHashes ctx message)
          message.missingTxHashes ∧
        ctx.checkPowForHeaders message.headers = .ok () ∧
        verifyMmrProof ctx.mmr ctx.mmrActivatedEpoch message.lastHeader message.proof
          message.headers = .ok () ∧
        (∀ block ∈ message.filteredBlocks, verifyBlock ctx block) ∧
        (∃ block' ∈ message.filteredBlocks, block'.header = block.header ∧
          7 ∈ block'.transactions) ∧
        (∃ before after, (execute ctx (some (some ⟨5⟩)) message).effects =
            before ++ .addTransaction (ctx.txHash 7) block.header.hash true ::
              .addFetchedTx 7 block.header :: after ∧
          ctx.addTransaction (offered before) (ctx.txHash 7) block.header.hash = true) ∧
        (execute ctx (some (some ⟨5⟩)) message).ending = .status .ok :=
  have h : TxsEffect.addFetchedTx 7 (chainHeader 4 0 10 30).header ∈
      (execute acceptingTxsContext (some (some ⟨5⟩))
        ⟨chainHeader 5 0 10 40, [],
          [⟨(chainHeader 4 0 10 30).header, 0, [7, 7], ⟨[0, 1], []⟩⟩], []⟩).effects :=
    List.mem_cons_of_mem _ (List.mem_cons_self _ _)
  ⟨h, execute_stores_only_proven acceptingTxsContext h⟩

/-! ## A request is answered once -/

/-- After a round that ends with a status, the peer has no pending request. -/
theorem stepTxs_of_status {slot : Option (Option TxsProofRequest)}
    {message : SendTransactionsProof τ} {s : Status}
    (h : (execute ctx slot message).ending = .status s) :
    stepTxs ctx slot message = slot.map fun _ => none := by
  unfold stepTxs
  congr 1
  funext request
  unfold execute at h ⊢
  split at h
  · simp [applyEffect]
  · nomatch h

/-- A peer with no pending request is refused, and only the clearing of the request is
called. -/
theorem execute_idle (slot : Option (Option TxsProofRequest))
    (message : SendTransactionsProof τ) :
    execute ctx (slot.map fun _ => none) message =
      ⟨[.updateTxsProofRequest],
        .status (if slot.isSome then StatusCode.peerIsNotOnProcess.status else ctx.unknownPeer)⟩ := by
  cases slot <;> rfl

/-- From a peer with no pending request, every round is refused and changes nothing. -/
theorem rounds_idle (slot : Option (Option TxsProofRequest))
    (messages : List (SendTransactionsProof τ)) :
    rounds ctx (slot.map fun _ => none) messages =
      List.replicate messages.length ⟨[.updateTxsProofRequest],
        .status (if slot.isSome then StatusCode.peerIsNotOnProcess.status else ctx.unknownPeer)⟩ := by
  induction messages with
  | nil => rfl
  | cons message messages ih =>
    have hstep : stepTxs ctx (slot.map fun _ => none) message = slot.map fun _ => none := by
      rw [stepTxs_of_status ctx (by rw [execute_idle]), Option.map_map]; rfl
    simp only [rounds, execute_idle, hstep, ih, List.length_cons, List.replicate_succ]

/-- **A request is answered once.** Along any run of responses from one peer, whatever its
slot at the start, every round after the first is refused (the peer is not waiting for a
proof, or is unknown), stores nothing and calls nothing but the clearing of the request. -/
theorem rounds_after_first_idle (slot : Option (Option TxsProofRequest))
    (messages : List (SendTransactionsProof τ)) :
    ∃ n, (rounds ctx slot messages).tail = List.replicate n ⟨[.updateTxsProofRequest],
      .status (if slot.isSome then StatusCode.peerIsNotOnProcess.status else ctx.unknownPeer)⟩ := by
  cases messages with
  | nil => exact ⟨0, rfl⟩
  | cons message messages =>
    unfold rounds
    split
    · exact ⟨0, rfl⟩
    · rename_i s hs
      exact ⟨messages.length, by rw [List.tail_cons, stepTxs_of_status ctx hs, rounds_idle]⟩

end SendTransactionsProofProcess

end CkbLightClient
