import Microscope.Polling.Scene
import Microscope.Polling.Startup
import Microscope.Shipped.Memory

namespace Microscope.Polling

open Std Microscope.Data Microscope.Shipped

/-! # Processes in fixed surroundings

A scene answers the RPC requests of a process, the site answers the others, and
Carbon processes whatever waits while the poller sleeps.  Such a process can be
computed.
-/

variable {Signature : Type} [LinearOrder Signature] [SignatureText Signature]

/-! ## Carbon's turn -/

instance (pipeline : Pipeline Signature) : Decidable pipeline.Waiting :=
  decidable_of_iff (pipeline.registered = true ∧ pipeline.processed = pipeline.received ∧
      pipeline.received < pipeline.sent.length)
    ⟨fun ⟨registered, finished, waiting⟩ => ⟨registered, finished, waiting⟩,
      fun ⟨registered, finished, waiting⟩ => ⟨registered, finished, waiting⟩⟩

namespace Site

variable (site : Site Signature)

def register : Site Signature := { site with pipeline := site.pipeline.register }

def dequeue : Site Signature :=
  if waiting : site.pipeline.Waiting then { site with pipeline := Pipeline.dequeue waiting } else site

def ship : Site Signature :=
  match site.pipeline.inFlight with
  | some (.transaction update) =>
      { site with
        journal := site.journal.record noFaults update.signature update.slot
        shipped := site.shipped ++ [(update.signature, update.slot)] }
  | _ => site

def finish : Site Signature :=
  if busy : site.pipeline.processed < site.pipeline.received then
    { site with pipeline := Pipeline.finish busy }
  else site

/-- Carbon processes one update, if one waits. -/
def consume : Site Signature := site.register.dequeue.ship.finish

/-- Carbon processes as many updates as were ever sent. -/
def consumeAll : Site Signature := Nat.iterate consume site.pipeline.sent.length site

end Site

variable {surroundings : Surroundings} {site : Site Signature}

theorem drifts_consume (admitted : noFaults ∈ surroundings.faults) :
    (siteEnvironment surroundings).Drifts site site.consume := by
  have registers : (siteEnvironment surroundings).Drifts site site.register := .single .register
  have dequeues : ∀ site : Site Signature, (siteEnvironment surroundings).Drifts site site.dequeue := by
    intro site
    unfold Site.dequeue
    split
    · exact .single (.dequeue _)
    · exact .refl
  have ships : ∀ site : Site Signature, (siteEnvironment surroundings).Drifts site site.ship := by
    intro site
    unfold Site.ship
    split
    · rename_i busy
      exact .single (.ship busy admitted)
    · exact .refl
  have finishes : ∀ site : Site Signature, (siteEnvironment surroundings).Drifts site site.finish := by
    intro site
    unfold Site.finish
    split
    · exact .single (.finish _)
    · exact .refl
  exact ((registers.trans (dequeues _)).trans (ships _)).trans (finishes _)

theorem drifts_consumeAll (admitted : noFaults ∈ surroundings.faults) :
    (siteEnvironment surroundings).Drifts site site.consumeAll := by
  have iterates : ∀ (count : Nat) (site : Site Signature),
      (siteEnvironment surroundings).Drifts site (Nat.iterate Site.consume count site) := by
    intro count
    induction count with
    | zero => exact fun site => .refl
    | succ count ih => exact fun site => (drifts_consume admitted).trans (ih _)
  exact iterates _ _

/-! ## The answers -/

/-- Nothing streams and every file operation succeeds. -/
def undisturbed (genesisHash : String) : Surroundings where
  genesisHash := genesisHash
  streaming := false
  faults := {noFaults}

/-- The scene answers RPC requests, the site everything else. -/
def Scene.perform (scene : Scene Signature) (genesisHash : String) (site : Site Signature) :
    (call : Call Signature) → call.Response × Site Signature
  | .rpc .getGenesisHash => (.ok genesisHash, site)
  | .drainDelivered => (site.deliveries, { site with deliveries := [] })
  | .stopDelivered => ((), { site with recording := false, deliveries := [] })
  | .send update => (.ok (), site.send update)
  | .channelEmpty => (site.pipeline.isEmpty, site)
  | .counter name => (site.pipeline.counter name, site)
  | .readCheckpoint => (.ok site.checkpoint, site)
  | .installCheckpoint encoded => (.ok (), site.install encoded)
  | .moveCorruptCheckpoint => (.ok (), { site with checkpoint := none })
  | .restoreShipped identity =>
      ((site.journal.restore noFaults identity).1,
        { site with journal := (site.journal.restore noFaults identity).2 })
  | .discardShipped identity => ((), { site with journal := site.journal.discard noFaults identity })
  | .compactShipped minimumSlot =>
      ((), { site with journal := site.journal.compact noFaults minimumSlot })
  | .sleep _ => (false, site.consumeAll)
  | call => (scene.answer call, site)

/-- What a journal restores are `u64` slots. -/
theorem restore_bounded {faults : Faults} {journal : Journal Signature} {identity : String} :
    ∀ entry ∈ (journal.restore faults identity).1, entry.2 ≤ u64Max := by
  intro entry member
  unfold Journal.restore at member
  cases file : journal.file with
  | none =>
      rw [file] at member
      simp [readJournal] at member
  | some raw =>
      rw [file] at member
      unfold readJournal at member
      dsimp only at member
      split at member
      · rename_i header entries read
        split at read
        · cases read
        · have parsed : (parseJournal raw).2 = entries := congrArg Prod.snd (Except.ok.inj read)
          split at member
          · rw [← parsed] at member
            exact parseJournal_bounded member
          · cases member
      · cases member

variable {scene : Scene Signature} {genesisHash : String}

/-- Nothing has been handed over. -/
def Site.Quiet (site : Site Signature) : Prop := site.deliveries = []

theorem quiet_consume (quiet : site.Quiet) : site.consume.Quiet := by
  have dequeued : site.register.dequeue.Quiet := by
    unfold Site.dequeue
    split <;> exact quiet
  have shipped : site.register.dequeue.ship.Quiet := by
    unfold Site.ship
    split <;> exact dequeued
  unfold Site.consume Site.finish
  split <;> exact shipped

theorem quiet_consumeAll (quiet : site.Quiet) : site.consumeAll.Quiet := by
  have iterates : ∀ (count : Nat) (site : Site Signature), site.Quiet →
      (Nat.iterate Site.consume count site).Quiet := by
    intro count
    induction count with
    | zero => exact fun site quiet => quiet
    | succ count ih => exact fun site quiet => ih _ (quiet_consume quiet)
  exact iterates _ _ quiet

theorem Scene.perform_honest (typed : scene.Typed) (call : Call Signature) (quiet : site.Quiet) :
    (scene.perform genesisHash site call).2.Quiet ∧
      ∃ answered, (siteEnvironment (undisturbed genesisHash)).answers site call
          (scene.perform genesisHash site call).1 answered ∧
        (siteEnvironment (undisturbed genesisHash)).Drifts answered
          (scene.perform genesisHash site call).2 := by
  have elsewhere := scene.answer_answered typed call
  have admitted : noFaults ∈ (undisturbed genesisHash).faults := rfl
  cases call with
  | rpc call =>
      cases call with
      | getGenesisHash => exact ⟨quiet, site, ⟨trivial, rfl, rfl⟩, .refl⟩
      | _ => exact ⟨quiet, site, ⟨elsewhere, rfl⟩, .refl⟩
  | drainDelivered =>
      have nothing : ∀ delivery ∈ site.deliveries, delivery.2 ≤ u64Max := by
        rw [show site.deliveries = [] from quiet]
        simp
      exact ⟨rfl, _, ⟨nothing, rfl, rfl⟩, .refl⟩
  | stopDelivered => exact ⟨rfl, _, ⟨trivial, rfl⟩, .refl⟩
  | send update => exact ⟨quiet, _, ⟨trivial, rfl⟩, .refl⟩
  | channelEmpty => exact ⟨quiet, site, ⟨trivial, rfl, rfl⟩, .refl⟩
  | counter name => exact ⟨quiet, site, ⟨trivial, rfl, rfl⟩, .refl⟩
  | readCheckpoint => exact ⟨quiet, site, ⟨trivial, rfl, rfl⟩, .refl⟩
  | installCheckpoint encoded => exact ⟨quiet, _, ⟨trivial, rfl⟩, .refl⟩
  | moveCorruptCheckpoint => exact ⟨quiet, _, ⟨trivial, rfl⟩, .refl⟩
  | restoreShipped identity =>
      exact ⟨quiet, _, ⟨restore_bounded, noFaults, admitted, rfl, rfl⟩, .refl⟩
  | discardShipped identity => exact ⟨quiet, _, ⟨trivial, noFaults, admitted, rfl⟩, .refl⟩
  | compactShipped minimumSlot => exact ⟨quiet, _, ⟨trivial, noFaults, admitted, rfl⟩, .refl⟩
  | sleep delay =>
      exact ⟨quiet_consumeAll quiet, site, ⟨trivial, rfl⟩, drifts_consumeAll admitted⟩
  | _ => exact ⟨quiet, site, ⟨trivial, rfl⟩, .refl⟩

/-! ## Runs -/

variable (scene genesisHash) (codec : JsonCodec) (datasource : RpcPollingDatasource)
  (addresses : List Address)

/-- One round of the process in this scene. -/
def Scene.round (site : Site Signature) (control : Consumption Signature) :
    List (CallEvent Signature) × (Consumption Signature ⊕ Stopped) × Site Signature :=
  Program.runWith (scene.perform genesisHash) site (consume codec datasource addresses 1 control)

variable {scene genesisHash codec datasource addresses} {control : Consumption Signature}

theorem Scene.round_spec {trace : List (CallEvent Signature)}
    {result : Consumption Signature ⊕ Stopped} {after : Site Signature} (typed : scene.Typed)
    (quiet : site.Quiet)
    (rounds : scene.round genesisHash codec datasource addresses site control = (trace, result, after)) :
    Program.Run (consume codec datasource addresses 1 control) trace result ∧
      Program.Executes (siteEnvironment (undisturbed genesisHash)) site trace after ∧ after.Quiet := by
  have run := Program.run_runWith (scene.perform genesisHash) site
    (consume codec datasource addresses 1 control)
  have honest : ∀ (site : Site Signature) (call : Call Signature), site.Quiet →
      (scene.perform genesisHash site call).2.Quiet ∧
        ∃ answered, (siteEnvironment (undisturbed genesisHash)).answers site call
            (scene.perform genesisHash site call).1 answered ∧
          (siteEnvironment (undisturbed genesisHash)).Drifts answered
            (scene.perform genesisHash site call).2 :=
    fun site call quiet => scene.perform_honest typed call quiet
  have executes := Program.executes_runWith honest quiet (consume codec datasource addresses 1 control)
  unfold Scene.round at rounds
  rw [rounds] at run executes
  exact ⟨run, executes⟩

variable (genesisHash codec datasource addresses)

/-- Rounds of one process in these scenes, unless it stops. -/
def runsIn : List (Scene Signature) → Consumption Signature → Site Signature →
    Option (Consumption Signature × Site Signature)
  | [], control, site => some (control, site)
  | scene :: scenes, control, site =>
      match scene.round genesisHash codec datasource addresses site control with
      | (_, .inl next, after) => runsIn scenes next after
      | (_, .inr _, _) => none

variable {genesisHash codec datasource addresses}

theorem rounds_runsIn {scenes : List (Scene Signature)} {start control final : Consumption Signature}
    {initial site after : Site Signature} (typed : ∀ scene ∈ scenes, scene.Typed) (quiet : site.Quiet)
    (earlier : Program.Rounds (siteEnvironment (undisturbed genesisHash))
      (consume codec datasource addresses 1) (fun _ _ _ => True) start initial control site)
    (reached : runsIn genesisHash codec datasource addresses scenes control site = some (final, after)) :
    Program.Rounds (siteEnvironment (undisturbed genesisHash))
      (consume codec datasource addresses 1) (fun _ _ _ => True) start initial final after := by
  induction scenes generalizing control site with
  | nil =>
      cases reached
      exact earlier
  | cons scene scenes ih =>
      have sceneTyped := typed scene List.mem_cons_self
      unfold runsIn at reached
      cases rounds : scene.round genesisHash codec datasource addresses site control with
      | mk trace outcome =>
          obtain ⟨result, next⟩ := outcome
          rw [rounds] at reached
          obtain ⟨run, executes, stillQuiet⟩ := scene.round_spec sceneTyped quiet rounds
          cases result with
          | inr stopped => cases reached
          | inl further =>
              have others := fun other member => typed other (List.mem_cons_of_mem _ member)
              exact ih others stillQuiet (.next earlier run executes trivial) reached

end Microscope.Polling
