import CkbLightClient.Core.Arith

/-!
# CkbLightClient — headers, epochs and statuses

The data the proof verifier reads from a peer's message. Only the fields that a
modelled function reads are kept; the rest of a header (its raw bytes, nonce,
extension) is read by collaborators outside this repository, which the protocol
modules take as parameters.

* `EpochNumberWithFraction` — the packed `number/index/length` of a header's epoch,
  each field bounded by its bit width.
* `Header` — `HeaderView`: number, epoch, compact target, own and parent hash.
* `HeaderDigest` — an MMR node; the verifier reads its total difficulty and end number.
* `VerifiableHeader` — a header with its parent chain root and its total difficulty;
  `Consistent` says that the total difficulty is the one the chain gives the header.
* `Status` — the status code and, where the source writes a literal text, its context.
-/

namespace CkbLightClient

/-- `EpochNumberWithFraction`: a header's epoch number (24 bits), its index inside the
epoch and the epoch's length (16 bits each). -/
structure EpochNumberWithFraction where
  number : Nat
  index : Nat
  length : Nat
  number_lt : number < 2 ^ 24
  index_lt : index < 2 ^ 16
  length_lt : length < 2 ^ 16
  deriving DecidableEq, Repr

/-- An epoch from its three fields, each reduced to its bit width. -/
def EpochNumberWithFraction.ofFields (number index length : Nat) : EpochNumberWithFraction :=
  ⟨number % 2 ^ 24, index % 2 ^ 16, length % 2 ^ 16, Nat.mod_lt _ (Nat.two_pow_pos _),
    Nat.mod_lt _ (Nat.two_pow_pos _), Nat.mod_lt _ (Nat.two_pow_pos _)⟩

/-- `HeaderView`. Hashes (`Byte32`) are kept as numbers; only their equality matters
here. -/
structure Header where
  number : Nat
  epoch : EpochNumberWithFraction
  compactTarget : UInt32
  hash : Nat
  parentHash : Nat
  number_lt : number < u64Size
  deriving DecidableEq, Repr

/-- A header from its fields, the number reduced to a `u64`. -/
def Header.ofFields (number : Nat) (epoch : EpochNumberWithFraction) (compactTarget : UInt32)
    (hash parentHash : Nat) : Header :=
  ⟨number % u64Size, epoch, compactTarget, hash, parentHash, Nat.mod_lt _ (Nat.two_pow_pos _)⟩

/-- `HeaderDigest`, a node of the chain's Merkle mountain range. Its child hashes are
read only by the MMR library. -/
structure HeaderDigest where
  totalDifficulty : U256
  endNumber : Nat
  deriving DecidableEq, Repr

/-- `VerifiableHeader`: a header, the chain root of its parent (the MMR over all its
ancestors) and the total difficulty up to and including the header. -/
structure VerifiableHeader where
  header : Header
  parentChainRoot : HeaderDigest
  totalDifficulty : U256
  deriving DecidableEq, Repr

namespace VerifiableHeader

/-- `h.header().number()`. -/
def number (h : VerifiableHeader) : Nat := h.header.number

/-- `h.parent_chain_root().total_difficulty()`. -/
def parentTotalDifficulty (h : VerifiableHeader) : U256 := h.parentChainRoot.totalDifficulty

/-- The header's total difficulty is the one the chain gives it: its parent chain root's,
plus its own difficulty as `compactToDifficulty` decodes its compact target. A node only
sends such headers. -/
def Consistent (compactToDifficulty : UInt32 → U256) (h : VerifiableHeader) : Prop :=
  h.totalDifficulty.val =
    h.parentTotalDifficulty.val + (compactToDifficulty h.header.compactTarget).val

instance (compactToDifficulty : UInt32 → U256) (h : VerifiableHeader) :
    Decidable (h.Consistent compactToDifficulty) :=
  inferInstanceAs (Decidable (_ = _))

/-- `header` on the chain root `parentChainRoot`, with the total difficulty the chain gives
it. -/
def ofParent (compactToDifficulty : UInt32 → U256) (header : Header)
    (parentChainRoot : HeaderDigest) : VerifiableHeader :=
  ⟨header, parentChainRoot, .ofNat
    (parentChainRoot.totalDifficulty.val + (compactToDifficulty header.compactTarget).val)⟩

end VerifiableHeader

/-- The decoding of compact targets in the concrete runs of this development: a compact
target stands for its own value (`compact_to_difficulty` is outside this repository). -/
def plainDifficulty (compactTarget : UInt32) : U256 := .ofNat compactTarget.toNat

/-- `packed::GetLastStateProof`, the content of a sampling request: the first block
number of the new suffix, the difficulty boundary below which blocks are sampled, and the
sampled difficulties. -/
structure GetLastStateProof where
  startNumber : Nat
  difficultyBoundary : U256
  difficulties : List U256
  deriving DecidableEq, Repr

/-- `StatusCode`. The codes the source names; `other` stands for the codes returned by
collaborators whose code is not in this repository. -/
inductive StatusCode where
  | ok
  | malformedProtocolMessage
  | invalidReorgHeaders
  | invalidSamples
  | invalidParentBlock
  | invalidProof
  | invalidCompactTarget
  | invalidTotalDifficulty
  | notTrustedState
  | requireRecheck
  | peerIsNotOnProcess
  | unexpectedResponse
  | other (code : Nat)
  deriving DecidableEq, Repr

/-- `Status`: a code and an optional context. Contexts built with `format!` from
runtime values are not modelled (`none`); literal texts are kept. -/
structure Status where
  code : StatusCode
  context : Option String
  deriving DecidableEq, Repr

/-- `Status::ok()`. -/
def Status.ok : Status := ⟨.ok, none⟩

/-- `code.with_context(text)` for a literal text. -/
def StatusCode.withContext (code : StatusCode) (text : String) : Status := ⟨code, some text⟩

/-- `code.into()`: a status without context. -/
def StatusCode.status (code : StatusCode) : Status := ⟨code, none⟩

/-- A status the caller treats as a failure: neither `OK` nor `RequireRecheck`. -/
def Status.isRejection (s : Status) : Prop := s.code ≠ .ok ∧ s.code ≠ .requireRecheck

instance (s : Status) : Decidable s.isRejection := inferInstanceAs (Decidable (_ ∧ _))

theorem Status.ok_not_isRejection : ¬ Status.ok.isRejection := fun h => h.1 rfl

theorem StatusCode.requireRecheck_not_isRejection (text : String) :
    ¬ (StatusCode.requireRecheck.withContext text).isRejection := fun h => h.2 rfl

end CkbLightClient
