import Mathlib.Data.List.Infix
import Microscope.Deploy.Reconciler

namespace Microscope.Deploy

open Microscope.Data

/-! # Recorded revisions

What holds of the host in every state that a run of reconciles reaches, and
when a recorded revision is the one that runs.
-/

/-- The running image was built from the manifest's commit, IDL digest and
program id, and the installed configuration is the manifest's. -/
def Deployed (surroundings : Surroundings) (manifest : Manifest) (host : Host) : Prop :=
  ∃ image config, host.container = some image ∧ host.checkout.bind Checkout.config = some config ∧
    surroundings.sha256 config = manifest.configSha256 ∧ manifest.commit = some image.commit ∧
    image.idlSha256 = manifest.idlSha256 ∧ programIdOf config = some image.programId

/-- What `tomllib` reads of a rendered configuration, if it accepts it. -/
def ReadsTemplate (surroundings : Surroundings) : Prop :=
  ∀ (programId : ProgramId) (rest : String),
    ∀ decoder ∈ surroundings.decoderConfig (renderedConfig programId rest),
      decoder = { programId := programId.text, idlPath }

/-- The build takes from a configuration the program that the script takes, and
the IDL that it installs. -/
def ReadsInstalled (surroundings : Surroundings) (config : String) : Prop :=
  ∀ decoder ∈ surroundings.decoderConfig config,
    programIdOf config = some decoder.programId ∧ decoder.idlPath = idlPath

theorem ReadsTemplate.installed {surroundings : Surroundings} (template : ReadsTemplate surroundings)
    (programId : ProgramId) (rest : String) :
    ReadsInstalled surroundings (renderedConfig programId rest) := by
  intro decoder read
  rw [template programId rest decoder read]
  exact ⟨programIdOf_rendered programId rest, rfl⟩

/-- A reconcile that is about to record its revision finds no unrecorded build
from other inputs. -/
def Trusted (surroundings : Surroundings) (machine : Machine) : Prop :=
  ∀ reconcile ∈ machine.running, reconcile.phase = .recordingRevision →
    ∀ image ∈ machine.host.unrecorded, reconcile.fetched.desired surroundings = some image

section Invariant

variable {surroundings : Surroundings} {fetched : Fetched} {phase : Phase} {host : Host} {image desired : Image}

/-- What holds of the host whatever runs. -/
structure Sound (host : Host) : Prop where
  heads : ∀ checkout, host.repository = .clone checkout → ∀ commit ∈ checkout.tree,
    checkout.head = some commit
  recorded : host.unrecorded = none → ∀ image ∈ host.image, host.builtInputs = some image.inputs
  latest : ∀ built ∈ host.unrecorded, ∀ image ∈ host.image, image = built

/-- The applied revision is cleared and the fetched objects are the manifest's. -/
structure Verified (surroundings : Surroundings) (fetched : Fetched) (host : Host) : Prop where
  cleared : host.appliedRevision = none
  config : surroundings.sha256 fetched.config = fetched.manifest.configSha256
  idl : surroundings.sha256 fetched.idl = fetched.manifest.idlSha256

/-- The manifest's commit is checked out. -/
structure AtCommit (surroundings : Surroundings) (fetched : Fetched) (host : Host) (checkout : Checkout) :
    Prop extends Verified surroundings fetched host where
  present : host.repository = .clone checkout
  head : checkout.head = fetched.manifest.commit
  resolved : fetched.manifest.commit.isSome = true

/-- The manifest's objects are installed. -/
structure Installed (surroundings : Surroundings) (fetched : Fetched) (host : Host) (desired : Image) :
    Prop extends Verified surroundings fetched host where
  desired : fetched.desired surroundings = some desired
  checkout : ∃ checkout, host.repository = .clone checkout ∧ checkout.head = fetched.manifest.commit ∧
    checkout.config = some fetched.config ∧ checkout.idl = some fetched.idl

/-- What a reconcile has established when it reaches its phase. -/
def Progress (surroundings : Surroundings) (fetched : Fetched) (phase : Phase) (host : Host) : Prop :=
  match phase with
  | .clearing => True
  | .verifying => host.appliedRevision = none
  | .discarding | .fetching | .checkingOut _ => Verified surroundings fetched host
  | .installingConfig => ∃ checkout, AtCommit surroundings fetched host checkout
  | .installingIdl => ∃ checkout, AtCommit surroundings fetched host checkout ∧
      checkout.config = some fetched.config ∧ (programIdOf fetched.config).isSome = true
  | .comparing | .building => ∃ desired, Installed surroundings fetched host desired
  | .recordingInputs => ∃ desired, Installed surroundings fetched host desired ∧
      host.unrecorded = some desired
  | .starting => ∃ desired, Installed surroundings fetched host desired ∧
      host.builtInputs = some desired.inputs
  | .probing | .recordingRevision => ∃ desired image, Installed surroundings fetched host desired ∧
      host.container = some image ∧ (host.unrecorded = none → image = desired) ∧
      ∀ built ∈ host.unrecorded, image = built

theorem checkout_clone {checkout : Checkout} (present : host.repository = .clone checkout) :
    host.checkout = some checkout := by
  rw [Host.checkout, present]
  rfl

theorem built_desired (sound : Sound host) (reads : ReadsInstalled surroundings fetched.config)
    (installed : Installed surroundings fetched host desired)
    (built : host.checkout.bind (Checkout.built surroundings) = some image) : image = desired := by
  obtain ⟨checkout, present, head, configured, idl⟩ := installed.checkout
  have wanted := installed.desired
  rw [checkout_clone present, Option.bind_some] at built
  cases tree : checkout.tree with
  | none => simp [Checkout.built, tree] at built
  | some commit =>
      have resolved : fetched.manifest.commit = some commit :=
        head.symm.trans (sound.heads checkout present commit tree)
      cases read : surroundings.decoderConfig fetched.config with
      | none => simp [Checkout.built, tree, configured, read] at built
      | some decoder =>
          obtain ⟨declared, named⟩ := reads decoder read
          simp only [Fetched.desired, resolved, declared, Option.bind_eq_bind, Option.bind_some] at wanted
          simp only [Checkout.built, tree, configured, read, Checkout.idlFile, if_pos named, idl,
            Option.bind_eq_bind, Option.bind_some] at built
          exact Option.some.inj (built.symm.trans wanted)

/-- A step leaves the host sound and establishes what the next phase needs. -/
theorem advance_progress (sound : Sound host) (reads : ReadsInstalled surroundings fetched.config)
    (progress : Progress surroundings fetched phase host) :
    Sound (advance surroundings fetched phase host).1 ∧
      ∀ next ∈ (advance surroundings fetched phase host).2,
        Progress surroundings fetched next (advance surroundings fetched phase host).1 := by
  obtain ⟨manifest, config, idl⟩ := fetched
  cases phase with
  | clearing =>
      refine ⟨⟨sound.heads, sound.recorded, sound.latest⟩, ?_⟩
      intro next reached
      cases reached
      exact rfl
  | verifying =>
      by_cases same : surroundings.sha256 config = manifest.configSha256 ∧
          surroundings.sha256 idl = manifest.idlSha256
      · simp only [advance, if_pos same]
        refine ⟨sound, ?_⟩
        intro next reached
        cases reached
        exact ⟨progress, same.1, same.2⟩
      · simp only [advance, if_neg same]
        exact ⟨sound, fun next reached => nomatch reached⟩
  | discarding =>
      cases present : host.repository with
      | absent =>
          simp only [advance, present]
          refine ⟨sound, ?_⟩
          intro next reached
          cases reached
          exact progress
      | leftover =>
          simp only [advance, present]
          refine ⟨sound, ?_⟩
          intro next reached
          cases reached
          exact progress
      | clone checkout =>
          by_cases other : checkout.origin ≠ manifest.repositoryUrl
          · simp only [advance, present, if_pos other]
            refine ⟨⟨(fun checkout absent => nomatch absent), sound.recorded, sound.latest⟩, ?_⟩
            intro next reached
            cases reached
            exact ⟨progress.cleared, progress.config, progress.idl⟩
          · simp only [advance, present, if_neg other]
            refine ⟨sound, ?_⟩
            intro next reached
            cases reached
            exact progress
  | fetching =>
      cases present : host.repository with
      | absent =>
          simp only [advance, present]
          refine ⟨⟨?_, sound.recorded, sound.latest⟩, ?_⟩
          · intro checkout cloned commit member
            cases cloned
            contradiction
          · intro next reached
            cases reached
            exact ⟨progress.cleared, progress.config, progress.idl⟩
      | leftover =>
          simp only [advance, present]
          exact ⟨sound, fun next reached => nomatch reached⟩
      | clone checkout =>
          simp only [advance, present]
          refine ⟨sound, ?_⟩
          intro next reached
          cases reached
          exact progress
  | checkingOut freshClone =>
      cases present : host.repository with
      | absent =>
          simp only [advance, present]
          exact ⟨sound, fun next reached => nomatch reached⟩
      | leftover =>
          simp only [advance, present]
          exact ⟨sound, fun next reached => nomatch reached⟩
      | clone checkout =>
          cases resolved : manifest.commit with
          | none =>
              simp only [advance, present, resolved]
              exact ⟨sound, fun next reached => nomatch reached⟩
          | some commit =>
              by_cases moves : freshClone = true ∨ checkout.head ≠ some commit
              · simp only [advance, present, resolved, if_pos moves]
                refine ⟨⟨?_, sound.recorded, sound.latest⟩, ?_⟩
                · intro checkout files commit member
                  cases files
                  cases member
                  rfl
                · intro next reached
                  cases reached
                  exact ⟨_, ⟨progress.cleared, progress.config, progress.idl⟩, rfl, resolved.symm,
                    by rw [resolved]; rfl⟩
              · simp only [advance, present, resolved, if_neg moves]
                have head : checkout.head = some commit := by
                  by_contra other
                  exact moves (.inr other)
                refine ⟨sound, ?_⟩
                intro next reached
                cases reached
                exact ⟨checkout, progress, present, head.trans resolved.symm, by rw [resolved]; rfl⟩
  | installingConfig =>
      obtain ⟨checkout, placed⟩ := progress
      cases declared : programIdOf config with
      | none =>
          simp only [advance, declared]
          exact ⟨sound, fun next reached => nomatch reached⟩
      | some programId =>
          have present := placed.present
          simp only [advance, declared, present, Repository.map]
          refine ⟨⟨?_, sound.recorded, sound.latest⟩, ?_⟩
          · intro files installed
            cases installed
            exact sound.heads checkout present
          · intro next reached
            cases reached
            refine ⟨_, ⟨⟨placed.cleared, placed.config, placed.idl⟩, rfl, placed.head,
              placed.resolved⟩, rfl, ?_⟩
            rw [declared]
            rfl
  | installingIdl =>
      obtain ⟨checkout, placed, configured, declared⟩ := progress
      have present := placed.present
      obtain ⟨commit, resolved⟩ := Option.isSome_iff_exists.mp placed.resolved
      obtain ⟨programId, declares⟩ := Option.isSome_iff_exists.mp declared
      simp only [advance, present, Repository.map]
      refine ⟨⟨?_, sound.recorded, sound.latest⟩, ?_⟩
      · intro files installed
        cases installed
        exact sound.heads checkout present
      · intro next reached
        cases reached
        refine ⟨{ commit, idlSha256 := surroundings.sha256 idl, programId },
          ⟨placed.cleared, placed.config, placed.idl⟩, ?_, _, rfl, placed.head, configured, rfl⟩
        dsimp only at resolved declares
        simp [Fetched.desired, resolved, declares]
  | comparing =>
      obtain ⟨desired, installed⟩ := progress
      have wanted := installed.desired
      cases tree : host.checkout.bind Checkout.tree with
      | none =>
          simp only [advance, tree]
          exact ⟨sound, fun next reached => nomatch reached⟩
      | some commit =>
          by_cases skips : host.builtInputs = some desired.inputs ∧ host.image.isSome = true
          · simp only [advance, tree, wanted, if_pos skips]
            refine ⟨sound, ?_⟩
            intro next reached
            cases reached
            exact ⟨desired, installed, skips.1⟩
          · simp only [advance, tree, wanted, if_neg skips]
            refine ⟨sound, ?_⟩
            intro next reached
            cases reached
            exact ⟨desired, installed⟩
  | building =>
      obtain ⟨desired, installed⟩ := progress
      cases built : host.checkout.bind (Checkout.built surroundings) with
      | none =>
          simp only [advance, built]
          exact ⟨sound, fun next reached => nomatch reached⟩
      | some image =>
          simp only [advance, built]
          have same := built_desired sound reads installed built
          refine ⟨⟨sound.heads, (fun absent => nomatch absent), ?_⟩, ?_⟩
          · intro built latest other present
            cases latest
            cases present
            rfl
          · intro next reached
            cases reached
            refine ⟨desired,
              ⟨⟨installed.cleared, installed.config, installed.idl⟩, installed.desired, installed.checkout⟩, ?_⟩
            rw [same]
  | recordingInputs =>
      obtain ⟨desired, installed, pending⟩ := progress
      have wanted := installed.desired
      simp only [advance, wanted]
      refine ⟨⟨sound.heads, ?_, (fun built absent => nomatch absent)⟩, ?_⟩
      · intro _ image present
        rw [sound.latest desired pending image present]
      · intro next reached
        cases reached
        exact ⟨desired, ⟨⟨installed.cleared, installed.config, installed.idl⟩, wanted, installed.checkout⟩, rfl⟩
  | starting =>
      obtain ⟨desired, installed, recorded⟩ := progress
      cases present : host.image with
      | none =>
          simp only [advance, present]
          exact ⟨sound, fun next reached => nomatch reached⟩
      | some image =>
          simp only [advance, present]
          refine ⟨⟨sound.heads, ?_, ?_⟩, ?_⟩
          · intro settled other same
            cases same
            exact sound.recorded settled image present
          · intro built pending other same
            cases same
            exact sound.latest built pending image present
          · intro next reached
            cases reached
            refine ⟨desired, image,
              ⟨⟨installed.cleared, installed.config, installed.idl⟩, installed.desired, installed.checkout⟩,
              rfl, ?_, fun built pending => sound.latest built pending image present⟩
            intro settled
            have inputs := sound.recorded settled image present
            rw [recorded] at inputs
            exact Image.inputs_injective (Option.some.inj inputs).symm
  | probing =>
      refine ⟨sound, ?_⟩
      intro next reached
      cases reached
      exact progress
  | recordingRevision =>
      exact ⟨⟨sound.heads, sound.recorded, sound.latest⟩, fun next reached => nomatch reached⟩

/-- A reconcile that has come to record its revision runs the manifest's image
if and only if it finds no unrecorded build from other inputs. -/
theorem recording_deployed_iff (progress : Progress surroundings fetched .recordingRevision host) :
    Deployed surroundings fetched.manifest host ↔
      ∀ built ∈ host.unrecorded, fetched.desired surroundings = some built := by
  obtain ⟨desired, image, installed, running, settled, latest⟩ := progress
  obtain ⟨checkout, present, head, configured, _⟩ := installed.checkout
  have config : host.checkout.bind Checkout.config = some fetched.config := by
    rw [checkout_clone present]
    exact configured
  have wanted := installed.desired
  have matching : Deployed surroundings fetched.manifest host ↔ image = desired := by
    obtain ⟨commit, resolved⟩ : ∃ commit, fetched.manifest.commit = some commit := by
      cases resolved : fetched.manifest.commit with
      | none => simp [Fetched.desired, resolved] at wanted
      | some commit => exact ⟨commit, rfl⟩
    obtain ⟨programId, declared⟩ : ∃ programId, programIdOf fetched.config = some programId := by
      cases declared : programIdOf fetched.config with
      | none => simp [Fetched.desired, resolved, declared] at wanted
      | some programId => exact ⟨programId, rfl⟩
    simp only [Fetched.desired, resolved, declared, Option.bind_eq_bind, Option.bind_some] at wanted
    have shape := (Option.some.inj wanted).symm
    constructor
    · intro deployed
      obtain ⟨other, text, runs, reads, _, commits, idl, declares⟩ := deployed
      obtain rfl : image = other := Option.some.inj (running.symm.trans runs)
      obtain rfl : fetched.config = text := Option.some.inj (config.symm.trans reads)
      rw [resolved] at commits
      rw [declared] at declares
      rw [shape, Option.some.inj commits, installed.idl, ← idl, Option.some.inj declares]
    · intro same
      refine ⟨image, fetched.config, running, config, installed.config, ?_, ?_, ?_⟩
      · rw [resolved, same, shape]
      · rw [same, shape]
        exact installed.idl
      · rw [declared, same, shape]
  rw [matching]
  constructor
  · intro same built pending
    rw [installed.desired, ← same, latest built pending]
  · intro trusted
    cases pending : host.unrecorded with
    | none => exact settled pending
    | some built =>
        have built_desired := trusted built pending
        rw [latest built pending]
        exact Option.some.inj (built_desired.symm.trans installed.desired)

theorem Installed.imageRemoved (installed : Installed surroundings fetched host desired) :
    Installed surroundings fetched { host with image := none } desired :=
  ⟨⟨installed.cleared, installed.config, installed.idl⟩, installed.desired, installed.checkout⟩

theorem AtCommit.imageRemoved {checkout : Checkout} (placed : AtCommit surroundings fetched host checkout) :
    AtCommit surroundings fetched { host with image := none } checkout :=
  ⟨⟨placed.cleared, placed.config, placed.idl⟩, placed.present, placed.head,
    placed.resolved⟩

theorem progress_imageRemoved (progress : Progress surroundings fetched phase host) :
    Progress surroundings fetched phase { host with image := none } := by
  cases phase with
  | clearing => trivial
  | verifying => exact progress
  | discarding | fetching | checkingOut _ => exact ⟨progress.cleared, progress.config, progress.idl⟩
  | installingConfig =>
      obtain ⟨checkout, placed⟩ := progress
      exact ⟨checkout, placed.imageRemoved⟩
  | installingIdl =>
      obtain ⟨checkout, placed, configured⟩ := progress
      exact ⟨checkout, placed.imageRemoved, configured⟩
  | comparing | building =>
      obtain ⟨desired, installed⟩ := progress
      exact ⟨desired, installed.imageRemoved⟩
  | recordingInputs | starting =>
      obtain ⟨desired, installed, rest⟩ := progress
      exact ⟨desired, installed.imageRemoved, rest⟩
  | probing | recordingRevision =>
      obtain ⟨desired, image, installed, rest⟩ := progress
      exact ⟨desired, image, installed.imageRemoved, rest⟩

theorem replaces_later {reconcile : Reconcile} {repository : Repository}
    (replaces : reconcile.replaces repository = true) : reconcile.phase ≠ .clearing := by
  intro first
  cases repository <;> simp [Reconcile.replaces, first] at replaces

/-- From `clearing` on, no revision is recorded. -/
theorem progress_cleared (progress : Progress surroundings fetched phase host) (later : phase ≠ .clearing) :
    host.appliedRevision = none := by
  cases phase with
  | clearing => contradiction
  | verifying => exact progress
  | discarding | fetching | checkingOut _ => exact progress.cleared
  | installingConfig | installingIdl =>
      obtain ⟨checkout, reached⟩ := progress
      first | exact reached.cleared | exact reached.1.cleared
  | comparing | building =>
      obtain ⟨desired, installed⟩ := progress
      exact installed.cleared
  | recordingInputs | starting =>
      obtain ⟨desired, installed, _⟩ := progress
      exact installed.cleared
  | probing | recordingRevision =>
      obtain ⟨desired, image, installed, _⟩ := progress
      exact installed.cleared

/-- Only the last command records a revision. -/
theorem advance_applied (earlier : phase ≠ .recordingRevision) :
    (advance surroundings fetched phase host).1.appliedRevision =
      if phase = .clearing then none else host.appliedRevision := by
  cases phase with
  | recordingRevision => contradiction
  | clearing | probing => rfl
  | discarding | checkingOut _ | comparing =>
      simp only [advance, reduceCtorEq, if_false]
      split
      · split <;> rfl
      · rfl
  | _ =>
      simp only [advance, reduceCtorEq, if_false]
      first | done | (split <;> rfl)

end Invariant

/-! ## Runs -/

section Runs

variable {surroundings : Surroundings} {machine : Machine} {event : Event} {revision : String}

/-- What holds in every state that a run reaches. -/
structure Consistent (surroundings : Surroundings) (started : List Manifest) (machine : Machine) : Prop where
  sound : Sound machine.host
  reads : ∀ reconcile ∈ machine.running, ReadsInstalled surroundings reconcile.fetched.config
  progress : ∀ reconcile ∈ machine.running,
    Progress surroundings reconcile.fetched reconcile.phase machine.host ∧
      reconcile.fetched.manifest ∈ started

theorem consistent_apply {started later : List Manifest} (kept : started ⊆ later)
    (fresh : manifestsOf [event] ⊆ later)
    (reads : ∀ config ∈ configsOf [event], ReadsInstalled surroundings config)
    (consistent : Consistent surroundings started machine) :
    Consistent surroundings later (apply surroundings machine event) := by
  have before : Consistent surroundings later machine :=
    ⟨consistent.sound, consistent.reads, fun reconcile member =>
      ⟨(consistent.progress reconcile member).1, kept (consistent.progress reconcile member).2⟩⟩
  cases event with
  | start manifest config idl =>
      cases running : machine.running with
      | some reconcile =>
          simp only [apply, running]
          exact before
      | none =>
          by_cases applied : machine.host.appliedRevision = some manifest.revision
          · simp only [apply, running, if_pos applied]
            exact before
          · simp only [apply, running, if_neg applied]
            refine ⟨consistent.sound, ?_, ?_⟩
            · intro reconcile member
              cases member
              exact reads config (by simp [configsOf])
            · intro reconcile member
              cases member
              exact ⟨trivial, fresh (by simp [manifestsOf])⟩
  | step =>
      cases running : machine.running with
      | none =>
          simp only [apply, running]
          exact before
      | some reconcile =>
          obtain ⟨progress, listed⟩ := before.progress reconcile running
          obtain ⟨sound, next⟩ :=
            advance_progress consistent.sound (consistent.reads reconcile running) progress
          simp only [apply, running]
          refine ⟨sound, ?_, ?_⟩
          · intro other member
            obtain ⟨phase, _, rfl⟩ := Option.map_eq_some_iff.mp member
            exact consistent.reads reconcile running
          · intro other member
            obtain ⟨phase, reached, rfl⟩ := Option.map_eq_some_iff.mp member
            exact ⟨next phase reached, listed⟩
  | stop => exact ⟨consistent.sound, (fun _ absent => by cases absent), (fun _ absent => by cases absent)⟩
  | stopPartway =>
      cases running : machine.running with
      | none =>
          simp only [apply, running]
          exact before
      | some reconcile =>
          simp only [apply, running]
          split
          · have sound : Sound { machine.host with repository := .leftover } :=
              ⟨(fun _ absent => by cases absent), consistent.sound.recorded, consistent.sound.latest⟩
            exact ⟨sound, (fun _ absent => by cases absent), (fun _ absent => by cases absent)⟩
          · exact ⟨consistent.sound, (fun _ absent => by cases absent), (fun _ absent => by cases absent)⟩
  | imageRemoved =>
      refine ⟨⟨consistent.sound.heads, (fun _ image absent => nomatch absent),
        (fun _ _ image absent => nomatch absent)⟩, before.reads, ?_⟩
      intro reconcile member
      obtain ⟨progress, listed⟩ := before.progress reconcile member
      exact ⟨progress_imageRemoved progress, listed⟩

theorem manifestsOf_snoc (events : List Event) (event : Event) :
    manifestsOf (events ++ [event]) = manifestsOf events ++ manifestsOf [event] :=
  List.filterMap_append

theorem consistent_after (surroundings : Surroundings) (events : List Event)
    (reads : ∀ config ∈ configsOf events, ReadsInstalled surroundings config) :
    Consistent surroundings (manifestsOf events) (after surroundings events) := by
  induction events using List.reverseRecOn with
  | nil =>
      refine ⟨⟨?_, ?_, ?_⟩, ?_, ?_⟩
      · exact fun checkout absent => nomatch absent
      · exact fun _ image absent => nomatch absent
      · exact fun built absent => nomatch absent
      · exact fun reconcile absent => nomatch absent
      · exact fun reconcile absent => nomatch absent
  | append_singleton events event ih =>
      rw [configsOf, List.filterMap_append] at reads
      obtain ⟨earlier, last⟩ := List.forall_mem_append.mp reads
      rw [after_snoc, manifestsOf_snoc]
      exact consistent_apply (List.subset_append_left _ _) (List.subset_append_right _ _) last (ih earlier)

/-- A revision is recorded by the last command of a reconcile, and then nothing
changes that it speaks of. -/
theorem applied_cases {started : List Manifest} (consistent : Consistent surroundings started machine)
    (applied : (apply surroundings machine event).host.appliedRevision = some revision) :
    (∃ fetched, machine.running = some ⟨fetched, .recordingRevision⟩ ∧ event = .step ∧
      fetched.manifest.revision = revision) ∨
    (machine.host.appliedRevision = some revision ∧
      (apply surroundings machine event).host.container = machine.host.container ∧
      (apply surroundings machine event).host.repository = machine.host.repository) := by
  cases event with
  | start manifest config idl =>
      have kept : (apply surroundings machine (.start manifest config idl)).host = machine.host := by
        cases running : machine.running with
        | some reconcile => simp only [apply, running]
        | none =>
            simp only [apply, running]
            split
            · rfl
            · rfl
      rw [kept] at applied ⊢
      exact .inr ⟨applied, rfl, rfl⟩
  | step =>
      cases running : machine.running with
      | none =>
          have kept : apply surroundings machine .step = machine := by simp only [apply, running]
          rw [kept] at applied ⊢
          exact .inr ⟨applied, rfl, rfl⟩
      | some reconcile =>
          left
          obtain ⟨fetched, phase⟩ := reconcile
          obtain ⟨progress, _⟩ := consistent.progress _ running
          simp only [apply, running] at applied
          by_cases last : phase = .recordingRevision
          · subst last
            exact ⟨fetched, rfl, rfl, Option.some.inj applied⟩
          · rw [advance_applied last] at applied
            by_cases first : phase = .clearing
            · rw [if_pos first] at applied
              contradiction
            · rw [if_neg first, progress_cleared progress first] at applied
              contradiction
  | stop => exact .inr ⟨applied, rfl, rfl⟩
  | stopPartway =>
      right
      cases running : machine.running with
      | none =>
          simp only [apply, running] at applied ⊢
          exact ⟨applied, trivial, trivial⟩
      | some reconcile =>
          obtain ⟨progress, _⟩ := consistent.progress reconcile running
          by_cases replaces : reconcile.replaces machine.host.repository = true
          · -- The revision was cleared before the repository directory is touched.
            have later := replaces_later replaces
            simp only [apply, running, if_pos replaces] at applied
            rw [progress_cleared progress later] at applied
            contradiction
          · simp only [apply, running, if_neg replaces] at applied ⊢
            exact ⟨applied, trivial, trivial⟩
  | imageRemoved => exact .inr ⟨applied, rfl, rfl⟩

/-- In every state of a run each recorded revision runs with its own inputs, if
and only if no revision is recorded over an unrecorded build from other inputs. -/
theorem recorded_revisions_deployed_iff (surroundings : Surroundings) (events : List Event)
    (template : ReadsTemplate surroundings)
    (rendered : ∀ config ∈ configsOf events, ∃ programId rest, config = renderedConfig programId rest)
    (identified : ∀ first ∈ manifestsOf events, ∀ second ∈ manifestsOf events,
      first.revision = second.revision → first = second) :
    (∀ earlier, earlier <+: events → ∀ manifest ∈ manifestsOf events,
      (after surroundings earlier).host.appliedRevision = some manifest.revision →
        Deployed surroundings manifest (after surroundings earlier).host) ↔
    ∀ earlier, earlier ++ [.step] <+: events → Trusted surroundings (after surroundings earlier) := by
  have found : ∀ {earlier}, earlier <+: events → manifestsOf earlier ⊆ manifestsOf events := by
    intro earlier reached
    exact (reached.filterMap _).subset
  have reads : ∀ {earlier}, earlier <+: events →
      ∀ config ∈ configsOf earlier, ReadsInstalled surroundings config := by
    intro earlier reached config fetched
    obtain ⟨programId, rest, rfl⟩ := rendered config ((reached.filterMap _).subset fetched)
    exact template.installed programId rest
  constructor
  · intro deployed earlier reached reconcile running last
    have before : earlier <+: events := (List.prefix_append _ _).trans reached
    have consistent := consistent_after surroundings earlier (reads before)
    obtain ⟨progress, listed⟩ := consistent.progress reconcile running
    obtain ⟨fetched, phase⟩ := reconcile
    dsimp only at last
    subst last
    have recorded : after surroundings (earlier ++ [.step]) =
        { host := { (after surroundings earlier).host with
            appliedRevision := some fetched.manifest.revision }, running := none } := by
      rw [after_snoc]
      simp only [apply, Option.mem_def.mp running]
      rfl
    have runs := deployed _ reached fetched.manifest (found before listed) (by rw [recorded])
    rw [recorded] at runs
    exact (recording_deployed_iff progress).mp runs
  · intro trusted earlier
    induction earlier using List.reverseRecOn with
    | nil =>
        intro _ manifest _ applied
        contradiction
    | append_singleton earlier event ih =>
        intro reached manifest listed applied
        have before : earlier <+: events := (List.prefix_append _ _).trans reached
        have consistent := consistent_after surroundings earlier (reads before)
        rw [after_snoc] at applied ⊢
        rcases applied_cases consistent applied with
          ⟨fetched, running, rfl, revision⟩ | ⟨kept, container, repository⟩
        · obtain ⟨progress, started⟩ := consistent.progress _ running
          obtain rfl := identified _ (found before started) _ listed revision
          have runs := (recording_deployed_iff progress).mpr (trusted earlier reached _ running rfl)
          simp only [apply, running]
          exact runs
        · obtain ⟨image, config, runs⟩ := ih before manifest listed kept
          refine ⟨image, config, ?_⟩
          rw [container, Host.checkout, repository]
          exact runs

end Runs

/-! ## A reverted revision

A reconcile of a second commit is stopped after its build.  The next revision
reverts to the first commit, whose inputs are the recorded ones.
-/

def stakeProgram : ProgramId := ⟨"Stake11111111111111111111111111111111111111", by decide, by decide⟩

def stakeConfig : String := renderedConfig stakeProgram ""

def stakeIdl : String :=
  "\x7b\"version\":\"0.1.0\",\"name\":\"stake\",\"instructions\":" ++
    "[\x7b\"name\":\"deactivate\",\"accounts\":[],\"args\":[]\x7d]\x7d\n"

def configDigest : ObjectName := ⟨"5da89469b6a0d4ec53bafe9c233a104af02d7d66f2c393ae3303b42daa339f34", by decide +kernel⟩

def idlDigest : ObjectName := ⟨"fff1fb6784c7e4c9ff7e6f1a202e04075f9a45805a03877665d66e42f576c7a8", by decide +kernel⟩

def firstCommit : ObjectName := ⟨"8ad7d21c71b049b7003ba31b5f1322974df77ac8", by decide +kernel⟩

def secondCommit : ObjectName := ⟨"352f7829a2384b001cc12b0c2613c756454a1f6a", by decide +kernel⟩

def exampleSurroundings : Surroundings where
  sha256 text := if text = stakeConfig then configDigest else idlDigest
  defaultHead _ := some secondCommit
  committed _ _ := none
  decoderConfig config := (programIdOf config).map fun programId => { programId, idlPath }
  otherFile _ _ := none

theorem exampleSurroundings_readsTemplate : ReadsTemplate exampleSurroundings := by
  intro programId rest decoder read
  have found : exampleSurroundings.decoderConfig (renderedConfig programId rest) =
      (programIdOf (renderedConfig programId rest)).map fun programId => { programId, idlPath } := rfl
  rw [found, programIdOf_rendered] at read
  exact (Option.some.inj read).symm

def manifestAt (revision : String) (commit : ObjectName) : Manifest where
  revision
  repositoryUrl := "https://example.invalid/microscope.git"
  commit := some commit
  configSha256 := configDigest
  idlSha256 := idlDigest

/-- A reconcile that takes a number of steps. -/
def reconciled (revision : String) (commit : ObjectName) (steps : Nat) : List Event :=
  .start (manifestAt revision commit) stakeConfig stakeIdl :: List.replicate steps .step

def interruptedBuild : List Event :=
  reconciled "revision-one" firstCommit 13 ++ reconciled "revision-two" secondCommit 9 ++ [.stop]

def reverted : List Event := interruptedBuild ++ reconciled "revision-three" firstCommit 11

theorem reverted_revision_runs_interrupted_build :
    (after exampleSurroundings reverted).host.appliedRevision = some "revision-three" ∧
      ¬ Deployed exampleSurroundings (manifestAt "revision-three" firstCommit)
        (after exampleSurroundings reverted).host := by
  have applied : (after exampleSurroundings reverted).host.appliedRevision = some "revision-three" := by
    decide +kernel
  have running : (after exampleSurroundings reverted).host.container.map Image.commit = some secondCommit := by
    decide +kernel
  have different : secondCommit ≠ firstCommit := by decide +kernel
  refine ⟨applied, ?_⟩
  intro deployed
  obtain ⟨image, _, runs, _, _, commit, _⟩ := deployed
  rw [runs] at running
  exact different ((Option.some.inj running).symm.trans (Option.some.inj commit).symm)

def repeated : List Event := interruptedBuild ++ reconciled "revision-two" secondCommit 13

theorem recorded_revisions_deployed_repeated :
    (∀ earlier, earlier <+: repeated → ∀ manifest ∈ manifestsOf repeated,
      (after exampleSurroundings earlier).host.appliedRevision = some manifest.revision →
        Deployed exampleSurroundings manifest (after exampleSurroundings earlier).host) ↔
    ∀ earlier, earlier ++ [.step] <+: repeated →
      Trusted exampleSurroundings (after exampleSurroundings earlier) :=
  recorded_revisions_deployed_iff exampleSurroundings repeated exampleSurroundings_readsTemplate
    (by simp [repeated, interruptedBuild, reconciled, configsOf, stakeConfig]) (by decide +kernel)

end Microscope.Deploy
