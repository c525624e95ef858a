import Microscope.Polling.Completion
import Microscope.Polling.Scene

namespace Microscope.Polling

open Std Microscope.Data

/-! # Polls that fail

Wherever a poll stops with an error, the cursors it found are still there, and
it has recorded no more than it handled.
-/

variable {Signature : Type} [LinearOrder Signature] [SignatureText Signature] {pages : Nat}
  {datasource : RpcPollingDatasource} {addresses : List Address}
  {before after : PollingState Signature} {trace : List (CallEvent Signature)}
  {failure : PollError Signature}

/-- A failing poll stops in the state it has reached. -/
theorem failing_effect
    (ends : Action.Ends (poll pages datasource addresses) before trace (.error failure) after)
    (answered : Program.Allowed Call.Answered trace) :
    ∃ recorded, Effect datasource.replayWindow.slots addresses before trace after recorded := by
  obtain ⟨reached, recorded, effect, ⟨_, rfl⟩ | ⟨_, _, impossible, _⟩⟩ := poll_cases ends answered
  · exact ⟨recorded, effect⟩
  · contradiction

theorem Records.handles {signature : Signature} {slot : Slot}
    (records : Records trace after signature slot) : Handles trace after signature := by
  cases records with
  | absorbed handed => exact .inl ⟨_, handed⟩
  | queued sent _ => exact .inr (.inl sent)
  | quarantined fetched poisons quarantined _ => exact .inr (.inr ⟨_, fetched, poisons, quarantined⟩)

/-- The cursors and recent signatures from before a failing poll stay.  What it
adds is a first cursor one window below its head for a monitored address, and
signatures it absorbed, queued or quarantined. -/
theorem failing_poll_advances_nothing
    (ends : Action.Ends (poll pages datasource addresses) before trace (.error failure) after)
    (answered : Program.Allowed Call.Answered trace) :
    (∀ (address : Address) (cursor : AddressCursor), before.cursors[address]? = some cursor →
      after.cursors[address]? = some cursor) ∧
    (∀ (address : Address) (cursor : AddressCursor), before.cursors[address]? = none →
      after.cursors[address]? = some cursor → address ∈ addresses ∧ ∃ headSlot,
        headReading trace = some headSlot ∧
          cursor.scannedSlot = headSlot - datasource.replayWindow.slots) ∧
    (∀ signature ∈ before.recentSignatures, signature ∈ after.recentSignatures) ∧
    ∀ signature ∈ after.recentSignatures, signature ∉ before.recentSignatures →
      Handles trace after signature := by
  obtain ⟨recorded, effect⟩ := failing_effect ends answered
  refine ⟨fun address cursor present => effect.cursor_present present, ?_, ?_, ?_⟩
  · intro address cursor missing present
    rcases effect.cursors with same | ⟨headSlot, reading, _, prepares⟩
    · rw [same, missing] at present
      contradiction
    · rw [prepares address, missing, Option.none_or] at present
      split at present
      · rename_i monitored
        cases present
        exact ⟨monitored, headSlot, reading, rfl⟩
      · contradiction
  · intro signature member
    rw [effect.recentSignatures, OrderedMap.mem_insertAll]
    exact .inl member
  · intro signature member absent
    rw [effect.recentSignatures, OrderedMap.mem_insertAll] at member
    obtain ⟨slot, added⟩ := member.resolve_left absent
    exact (effect.justified signature slot added).handles

/-! A poll that absorbs a delivery, installs its first cursor and then finds a
gap in the history. -/

def gapScene : Scene (Fin 58) where
  headSlot := 100
  firstAvailableBlock := 95
  entries := []
  contextOf := fun _ => 100
  outcome := fun _ => .error ⟨false, "unreachable"⟩
  delivered := [(7, 96)]

def gapDatasource : RpcPollingDatasource := { sampleDatasource with delivered := true }

def gapFailure : PollError (Fin 58) := historyGap 95 90

theorem failing_poll_advances_nothing_gap :
    (gapScene.run 1 gapDatasource ["program"] {}).2.1.1 = .error gapFailure ∧
    ∀ signature ∈ (gapScene.after 1 gapDatasource ["program"] {}).recentSignatures,
      signature ∉ ({} : PollingState (Fin 58)).recentSignatures →
      Handles (gapScene.trace 1 gapDatasource ["program"] {})
        (gapScene.after 1 gapDatasource ["program"] {}) signature := by
  have failed : (gapScene.run 1 gapDatasource ["program"] {}).2.1.1 = .error gapFailure := by
    decide +kernel
  have typed : gapScene.Typed := ⟨by decide, by simp [gapScene], by decide⟩
  have ends : Action.Ends (poll 1 gapDatasource ["program"]) {}
      (gapScene.trace 1 gapDatasource ["program"] {}) (.error gapFailure)
      (gapScene.after 1 gapDatasource ["program"] {}) := failed ▸ Scene.ends gapScene
  exact ⟨failed, (failing_poll_advances_nothing ends (Scene.answered typed)).2.2.2⟩

end Microscope.Polling
