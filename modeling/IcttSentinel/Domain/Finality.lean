/-
Finality semantics of packages/domain/src/finality.ts: from an activation time on, an accepted block of the chains
listed no longer carries executed state, and only a settled one can back a verdict.
-/
import Mathlib.Tactic

namespace IcttSentinel.Domain

structure AcceptedStateSupersession where
  network : String
  evmChainId : Int
  blockchainId : String
  upgrade : String
  activatesAt : Int

/-- `ACCEPTED_STATE_SUPERSESSIONS`. -/
def acceptedStateSupersessions : List AcceptedStateSupersession :=
  [{ network := "mainnet"
     evmChainId := 43114
     blockchainId := "0x0427d4b22a2a78bcddd456742caf91b56badbff985ee19aef14573e7343fd652"
     upgrade := "helicon"
     activatesAt := 1790089200 },
   { network := "fuji"
     evmChainId := 43113
     blockchainId := "0x7fc93d85c6d62c5b2ac0b519c87010ea5294012d1e407030d6acd0021cac10d5"
     upgrade := "helicon"
     activatesAt := 1785250800 }]

structure ChainIdentityRef where
  evmChainId : Int
  blockchainId : String

/-- Either identifier is enough. No letter outside ASCII has a hexadecimal digit as its lower case. -/
def acceptedStateSuperseded (chain : ChainIdentityRef) (blockTimestamp : Int) : Bool :=
  acceptedStateSupersessions.any fun s =>
    (s.evmChainId = chain.evmChainId || s.blockchainId = chain.blockchainId.toLower) && blockTimestamp ≥ s.activatesAt

/-- Any basis but these two is an unnamed semantic and backs nothing. -/
def finalityBasisStands (basis : String) (chain : ChainIdentityRef) (blockTimestamp : Int) : Bool :=
  basis = "settled-quorum" || (basis = "accepted-quorum" && !acceptedStateSuperseded chain blockTimestamp)

end IcttSentinel.Domain
