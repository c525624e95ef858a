import Microscope.Polling.Calls

namespace Microscope.Polling

open Std Microscope.Data

/-! # Signature discovery -/

def signaturePageLimit : Nat := 1000

def replicaSkewSlots : Slot := 32

structure CursorAheadOfHead where
  address : Address
  cursorSlot : Slot
  headSlot : Slot
deriving DecidableEq, Repr

structure HistoryUnavailable where
  firstAvailableSlot : Slot
  checkpointSlot : Slot
deriving DecidableEq, Repr

inductive PollError (Signature : Type) where
  | readSlot (error : RpcError)
  | readHistoryBoundary (error : RpcError)
  | fetchSignatures (address : Address) (error : RpcError)
  | invalidSignature (encoded : String)
  | conflictingSlots (signature : Signature) (first second : Slot)
  | cursorAheadOfHead (ahead : CursorAheadOfHead)
  | historyUnavailable (gap : HistoryUnavailable)
  | channelClosed
  /-- The source panics here: every monitored address has a cursor. -/
  | missingCursor (address : Address)
  /-- The listing outlasted the page budget of the model. -/
  | pagesExhausted
deriving DecidableEq, Repr

variable {Signature : Type} [LinearOrder Signature] [SignatureText Signature]

abbrev PollAction (Signature : Type) [LinearOrder Signature] (α : Type) :=
  Action (@Call.Response Signature) (PollingState Signature) (PollError Signature) α

/-- Leave the poller task for one operation. -/
abbrev ask (call : Call Signature) : PollAction Signature call.Response := Action.request call

def minContextSlot (headSlot replayWindowSlots : Slot) : Slot :=
  headSlot - min replicaSkewSlots replayWindowSlots

/-- The signatures and the newest slot collected so far. -/
structure Listing (Signature : Type) where
  signatures : List (DiscoveredSignature Signature) := []
  newestSlot : Option Slot := none
deriving DecidableEq, Repr

/-- Append one page down to the replay floor; the flag says whether the page
reached it. -/
def appendSignaturePage (floor : Slot) :
    List SignatureInfo → Listing Signature → Except (PollError Signature) (Listing Signature × Bool)
  | [], listing => .ok (listing, false)
  | info :: page, listing =>
      if info.slot ≤ floor then .ok (listing, true)
      else
        match SignatureText.fromText info.signature with
        | none => .error (.invalidSignature info.signature)
        | some signature =>
            appendSignaturePage floor page {
              signatures := listing.signatures ++ [{ signature, slot := info.slot }]
              newestSlot := some (listing.newestSlot.getD info.slot) }

/-- The page loop of `discover_signatures`. The source loops without a bound;
`pages` is the number of pages the model reads at most. -/
def listSignatures (address : Address) (floor minimumContext : Slot) :
    Nat → Option Signature → Listing Signature → PollAction Signature (Listing Signature × Bool)
  | 0, _, _ => .fail .pagesExhausted
  | pages + 1, before, listing => do
      let response : Except RpcError (List SignatureInfo) ←
        ask (.rpc (.getSignaturesForAddress address before signaturePageLimit minimumContext))
      match response with
      | .error error => .fail (.fetchSignatures address error)
      | .ok page =>
          if page.isEmpty then
            return (listing, false)
          let (listing, reachedReplayFloor) ← .ofExcept (appendSignaturePage floor page listing)
          if reachedReplayFloor then
            return (listing, true)
          if page.length < signaturePageLimit then
            return (listing, false)
          match listing.signatures.getLast? with
          | none => return (listing, false)
          | some pageEnd =>
              listSignatures address floor minimumContext pages (some pageEnd.signature) listing

def discoverSignatures (pages : Nat) (address : Address) (cursor : AddressCursor)
    (headSlot replayWindowSlots : Slot) : PollAction Signature (AddressBatch Signature) := do
  let floor := cursor.scannedSlot - replayWindowSlots
  let (listing, reachedReplayFloor) ←
    listSignatures address floor (minContextSlot headSlot replayWindowSlots) pages none {}
  return {
    address
    signatures := listing.signatures
    nextCursor := { scannedSlot := max headSlot (listing.newestSlot.getD cursor.scannedSlot) }
    reachedReplayFloor }

end Microscope.Polling
