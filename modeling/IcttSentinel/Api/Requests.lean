/-
What the routes of the hosted API share, apps/api/src/server.ts: the texts a request may carry, the replies, the rate
limiter. A body that is parsed is a `JsValue`.
-/
import IcttSentinel.Evidence.Bundle
import IcttSentinel.Storage.Hosted

namespace IcttSentinel.Api

open IcttSentinel.Lib IcttSentinel.Storage
open IcttSentinel.Evidence (JsValue entries? fieldOf)

def apiVersion : String := "ictt-sentinel/hosted-api/v1"

/-! ## Texts -/

/-- `[a-z0-9]` and then up to `most` characters that are admitted. -/
def isSlug (admitted : Char → Bool) (most : Nat) (s : String) : Bool :=
  match s.toList with
  | [] => false
  | c :: cs => (c.isLower || c.isDigit) && decide (cs.length ≤ most) && cs.all admitted

/-- `ID`, `[a-z0-9]` and up to 126 of `a-z`, `0-9`, `.`, `_`, `/` and `-`. -/
def isApiId (s : String) : Bool :=
  isSlug (fun c => c.isLower || c.isDigit || c = '.' || c = '_' || c = '/' || c = '-') 126 s

/-- `SEGMENT`, an `ID` without a slash. -/
def isSegment (s : String) : Bool := isSlug (fun c => c.isLower || c.isDigit || c = '.' || c = '_' || c = '-') 126 s

/-- `DIGEST` and `SIGNATURE`, `/^[0-9a-f]{64}$/`. -/
def isDigest (s : String) : Bool := matchesHex "" 64 s

/-- `IDEMPOTENCY`, `/^[A-Za-z0-9_.:-]{16,128}$/`. -/
def isIdempotencyKey (s : String) : Bool := matchesToken 16 s

/-- `NONCE`, `/^[A-Za-z0-9_.:-]{8,128}$/`. -/
def isNonce (s : String) : Bool := matchesToken 8 s

/-- `exact(v, keys)`: the sorted own keys, joined, are those asked for. -/
def exact (entries : List (String × JsValue)) (keys : List String) : Bool :=
  decide (",".intercalate (sortStrings (entries.map (·.1))) = ",".intercalate (sortStrings keys))

/-! ## Replies -/

structure Reply where
  status : Int
  body : JsValue

/-- A refusal with its code. -/
def Reply.refusal (status : Int) (error : String) : Reply where
  status
  body := .obj [("schemaVersion", .str apiVersion), ("error", .str error)]

/-- What a route that throws is answered with. -/
def Reply.thrown : Reply := .refusal 400 "invalid-request"

def orReply (holds : Bool) (reply : Reply) : Except Reply Unit := if holds then .ok () else .error reply

theorem orReply_eq_ok {holds : Bool} {reply : Reply} {u : Unit} : orReply holds reply = .ok u ↔ holds = true := by
  cases holds <;> simp [orReply]

/-! ## Rate limits -/

structure Bucket where
  key : String
  start : Int
  count : Nat

structure RateLimiter where
  limit : Nat
  windowMs : Int
  entries : Keyed Bucket.key

/-- A request takes one of the window's places, or opens the next window. -/
def RateLimiter.take (l : RateLimiter) (key : String) (now : Int) : Bool × RateLimiter :=
  match l.entries.lookup key with
  | none => (true, { l with entries := l.entries.upsert { key, start := now, count := 1 } })
  | some current =>
    if now - current.start ≥ l.windowMs then
      (true, { l with entries := l.entries.upsert { key, start := now, count := 1 } })
    else
      (decide (current.count + 1 ≤ l.limit),
        { l with entries := l.entries.upsert { current with count := current.count + 1 } })

end IcttSentinel.Api
