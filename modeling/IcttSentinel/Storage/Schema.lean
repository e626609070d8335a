/-
The tables a replay reads and writes, packages/storage-postgres/migrations: their rows, their keys
and the constraints a statement can violate. Keys and the one-accepted-block index are part of the
tables' types, so no table can break them; columns that nothing reads back are left out.
-/
import IcttSentinel.Lib.Keyed
import IcttSentinel.Lib.Json
import IcttSentinel.Lib.Traversal

namespace IcttSentinel.Storage

open IcttSentinel.Lib

/-! ## Facts -/

inductive ObservedClass where
  | accepted
  | candidate
  deriving DecidableEq, Repr

def ObservedClass.text : ObservedClass → String
  | .accepted => "accepted"
  | .candidate => "candidate"

structure BlockFact where
  chainKey : String
  blockHash : String
  blockNumber : Int
  parentHash : String
  blockTimestamp : Int
  observedClass : ObservedClass
  observedAt : Int
  deriving DecidableEq, Repr

structure LogFact where
  chainKey : String
  blockHash : String
  txHash : String
  logIndex : Int
  blockNumber : Int
  txIndex : Int
  address : String
  topics : List String
  data : String
  observedAt : Int
  deriving DecidableEq, Repr

structure ObservationFact where
  observationId : String
  deploymentId : String
  chainKey : String
  blockHash : String
  blockNumber : Int
  subject : String
  amount : Option Int
  finalityBasis : String
  providerGroups : List String
  payloadDigest : String
  observedAt : Int
  expiresAt : Int
  deriving DecidableEq, Repr

structure Checkpoint where
  deploymentId : String
  chainKey : String
  lastBlockNumber : Int
  lastBlockHash : String
  deriving DecidableEq, Repr

/-! ## Operational rows -/

/-- The status of a range, and of a replay: `REPLAY_STATUSES`. -/
inductive ReplayStatus where
  | pending
  | complete
  | gap
  | stale
  | divergent
  | blocked
  deriving DecidableEq, Repr

/-- A closed range of heights. -/
@[ext]
structure BlockRange where
  fromBlock : Int
  toBlock : Int
  deriving DecidableEq, Repr

structure RangeStatusRow where
  rangeId : String
  deploymentId : String
  chainKey : String
  fromBlock : Int
  toBlock : Int
  status : ReplayStatus
  reasonCode : Option String
  providerGroup : Option String
  deriving DecidableEq, Repr

structure DataQualityIncident where
  incidentId : String
  deploymentId : String
  chainKey : String
  reasonCode : String
  fromBlock : Int
  toBlock : Int
  providerGroup : Option String
  runbook : String
  detail : Json

structure IntegrityIncident where
  incidentId : String
  kind : String
  chainKey : String
  blockNumber : Option Int
  expectedHash : Option String
  observedHash : Option String
  detail : Json

structure CompletenessRow where
  deploymentId : String
  chainKey : String
  status : ReplayStatus
  verdict : String
  windowFrom : Int
  windowTo : Int
  gapCount : Int
  reasons : List String
  lastSuccessAt : Option Int
  evaluatedAt : Int
  deriving DecidableEq, Repr

/-! ## Constraints -/

/-- The errors PostgreSQL raises for a value or a row it refuses. -/
inductive Violation where
  | numericValueOutOfRange
  | checkViolation (constraint : String)
  | uniqueViolation (constraint : String)
  | foreignKeyViolation (constraint : String)
  deriving DecidableEq, Repr

def ensure (holds : Bool) (violation : Violation) : Except Violation Unit :=
  if holds then .ok () else .error violation

theorem ensure_eq_ok {holds : Bool} {violation : Violation} {u : Unit} :
    ensure holds violation = .ok u ↔ holds = true := by
  cases holds <;> simp [ensure]

/-- The range of a `bigint` column. -/
def fitsBigint (n : Int) : Bool := decide (-2 ^ 63 ≤ n) && decide (n < 2 ^ 63)

/-- The range of an `integer` column. -/
def fitsInteger (n : Int) : Bool := decide (-2 ^ 31 ≤ n) && decide (n < 2 ^ 31)

theorem fitsBigint_iff {n : Int} : fitsBigint n = true ↔ -2 ^ 63 ≤ n ∧ n < 2 ^ 63 := by
  simp [fitsBigint]

def isLowerHex (c : Char) : Bool := c.isDigit || ('a' ≤ c && c ≤ 'f')

/-- A pattern `^<start>[0-9a-f]{digits}$` of the schema. -/
def matchesHex (start : String) (digits : Nat) (s : String) : Bool :=
  start.toList.isPrefixOf s.toList && (s.toList.drop start.length).length = digits &&
    (s.toList.drop start.length).all isLowerHex

/-! ## Tables -/

def BlockFact.key (b : BlockFact) : String × String := (b.chainKey, b.blockHash)
def LogFact.key (l : LogFact) : String × String × String × Int := (l.chainKey, l.blockHash, l.txHash, l.logIndex)
def ObservationFact.identity (o : ObservationFact) : String × String × String × String :=
  (o.deploymentId, o.chainKey, o.blockHash, o.subject)
def Checkpoint.lane (c : Checkpoint) : String × String := (c.deploymentId, c.chainKey)
def CompletenessRow.lane (c : CompletenessRow) : String × String := (c.deploymentId, c.chainKey)

/-- Both blocks would hold the accepted block of one height: `chain_blocks_one_accepted_per_height`. -/
def BlockFact.competes (a b : BlockFact) : Bool :=
  decide (a.observedClass = .accepted) && decide (b.observedClass = .accepted) &&
    decide (a.chainKey = b.chainKey) && decide (a.blockNumber = b.blockNumber)

/-- `chain_blocks`, with at most one accepted block per height. -/
structure ChainBlocks where
  table : Keyed BlockFact.key
  oneAcceptedPerHeight : ∀ a ∈ table.rows, ∀ b ∈ table.rows, a.competes b = true → a = b

def ChainBlocks.empty : ChainBlocks where
  table := ∅
  oneAcceptedPerHeight := by simp

/-- Everything the store holds. Deployments and chains are registered by the operator. -/
structure Db where
  deployments : List String
  chains : List String
  chainBlocks : ChainBlocks
  chainLogs : Keyed LogFact.key
  observations : Keyed ObservationFact.identity
  integrityIncidents : Keyed IntegrityIncident.incidentId
  replayCheckpoints : Keyed Checkpoint.lane
  replayRanges : Keyed RangeStatusRow.rangeId
  dataQualityIncidents : Keyed DataQualityIncident.incidentId
  replayCompleteness : Keyed CompletenessRow.lane

/-- The store after its migrations and the registration of its deployments and chains. -/
def Db.registered (deployments chains : List String) : Db where
  deployments
  chains
  chainBlocks := .empty
  chainLogs := ∅
  observations := ∅
  integrityIncidents := ∅
  replayCheckpoints := ∅
  replayRanges := ∅
  dataQualityIncidents := ∅
  replayCompleteness := ∅

/-! ## Statements -/

/-- The database statements a replay awaits; the ledger's facts and checkpoint are one transaction. -/
inductive StoreCall where
  | readCheckpoint
  | readCompleteness
  | readCommittedRanges
  | readAcceptedHash
  | ingestTransaction
  | recordIntegrityIncident
  | recordDataQualityIncident
  | upsertRangeStatus
  | upsertCompleteness
  deriving DecidableEq, Repr

/-- How a storage function can fail. -/
inductive StorageFailure where
  | violation (violation : Violation)
  | acceptedHashConflict (chainKey : String) (blockNumber : Int) (storedHash observedHash : String)
  deriving DecidableEq, Repr

end IcttSentinel.Storage
