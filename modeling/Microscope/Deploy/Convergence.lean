import Microscope.Deploy.Revisions

namespace Microscope.Deploy

open Microscope.Data

/-! # Reconciles that finish

A reconcile that nothing disturbs finishes, whatever the interrupted ones
before it left, with two exceptions.  A clone that was interrupted before its
files were checked out has its head already: where that is the commit of the
manifest, the files are never checked out.  And a directory without `.git`, as
an interrupted removal leaves it, is never replaced.
-/

variable {surroundings : Surroundings} {fetched : Fetched} {phase next : Phase} {host : Host}
  {machine : Machine} {checkout : Checkout}

/-- The objects are those of the manifest, its reference resolves, and the
configuration declares a program and names the IDL that is installed. -/
structure Applicable (surroundings : Surroundings) (fetched : Fetched) : Prop where
  config : surroundings.sha256 fetched.config = fetched.manifest.configSha256
  idl : surroundings.sha256 fetched.idl = fetched.manifest.idlSha256
  resolved : fetched.manifest.commit.isSome = true
  declared : (programIdOf fetched.config).isSome = true
  named : ∃ decoder, surroundings.decoderConfig fetched.config = some decoder ∧ decoder.idlPath = idlPath

/-- A clone of the repository without files, whose head is the commit that the
manifest asks for. -/
def Stranded (manifest : Manifest) (host : Host) : Prop :=
  ∃ checkout, host.repository = .clone checkout ∧ checkout.origin = manifest.repositoryUrl ∧
    checkout.tree = none ∧ checkout.head = manifest.commit

/-! ## Finishing -/

/-- Within so many commands the reconcile records its revision. -/
inductive Finishes (surroundings : Surroundings) (fetched : Fetched) : Nat → Phase → Host → Prop where
  | records {phase : Phase} {host final : Host}
      (last : advance surroundings fetched phase host = (final, none))
      (recorded : final.appliedRevision = some fetched.manifest.revision) :
      Finishes surroundings fetched 1 phase host
  | step {count : Nat} {phase next : Phase} {host later : Host}
      (first : advance surroundings fetched phase host = (later, some next))
      (rest : Finishes surroundings fetched count next later) :
      Finishes surroundings fetched (count + 1) phase host

/-- Commands after the last one do nothing. -/
theorem steps_idle (idle : machine.running = none) (count : Nat) :
    (List.replicate count Event.step).foldl (apply surroundings) machine = machine := by
  induction count with
  | zero => rfl
  | succ count ih =>
      have still : apply surroundings machine .step = machine := by simp only [apply, idle]
      rw [List.replicate_succ, List.foldl_cons, still, ih]

theorem Finishes.recorded {count total : Nat} (finishes : Finishes surroundings fetched count phase host)
    (enough : count ≤ total) :
    ((List.replicate total Event.step).foldl (apply surroundings)
      { host, running := some { fetched, phase } }).host.appliedRevision = some fetched.manifest.revision := by
  induction finishes generalizing total with
  | records last recorded =>
      obtain ⟨more, rfl⟩ := Nat.exists_eq_add_of_le' enough
      rw [List.replicate_succ, List.foldl_cons, steps_idle]
      · simpa only [apply, last] using recorded
      · simp only [apply, last, Option.map_none]
  | step first _ ih =>
      obtain ⟨more, rfl⟩ := Nat.exists_eq_add_of_le' (Nat.le_trans (Nat.le_add_left 1 _) enough)
      have moved := ih (Nat.le_of_succ_le_succ enough)
      rw [List.replicate_succ, List.foldl_cons]
      simpa only [apply, first, Option.map_some] using moved

theorem finishes_starting (present : host.image.isSome = true) :
    Finishes surroundings fetched 3 .starting host := by
  obtain ⟨image, found⟩ := Option.isSome_iff_exists.mp present
  refine .step (by simp only [advance, found]; rfl) (.step rfl ?_)
  exact .records rfl rfl

/-- A reconcile whose files are in place builds the image if it must, and
starts it. -/
theorem finishes_comparing (host : Host) (applicable : Applicable surroundings fetched)
    (populated : host.repository = .clone checkout) (tree : checkout.tree.isSome = true)
    (config : checkout.config = some fetched.config) (idl : checkout.idl = some fetched.idl) :
    ∃ count ≤ 6, Finishes surroundings fetched count .comparing host := by
  obtain ⟨commit, files⟩ := Option.isSome_iff_exists.mp tree
  obtain ⟨wanted, resolved⟩ := Option.isSome_iff_exists.mp applicable.resolved
  obtain ⟨programId, declared⟩ := Option.isSome_iff_exists.mp applicable.declared
  obtain ⟨decoder, read, named⟩ := applicable.named
  have desired : fetched.desired surroundings =
      some { commit := wanted, idlSha256 := surroundings.sha256 fetched.idl, programId } := by
    simp [Fetched.desired, resolved, declared]
  have checkedOut : host.checkout.bind Checkout.tree = some commit := by
    rw [checkout_clone populated]
    exact files
  have built : host.checkout.bind (Checkout.built surroundings) =
      some { commit, idlSha256 := surroundings.sha256 fetched.idl, programId := decoder.programId } := by
    rw [checkout_clone populated]
    simp [Checkout.built, Checkout.idlFile, files, config, read, named, idl]
  by_cases skips : host.builtInputs = some (Image.inputs
      { commit := wanted, idlSha256 := surroundings.sha256 fetched.idl, programId }) ∧ host.image.isSome = true
  · refine ⟨4, by decide, .step ?_ (finishes_starting skips.2)⟩
    simp only [advance, checkedOut, desired, if_pos skips]
  · have recording : ∀ image, Finishes surroundings fetched 4 .recordingInputs
        { host with image := some image, unrecorded := some image } := fun image =>
      .step (by simp only [advance, desired]; rfl) (finishes_starting (by rfl))
    have building : Finishes surroundings fetched 5 .building host :=
      .step (by simp only [advance, built]; rfl) (recording _)
    exact ⟨6, le_rfl, .step (by simp only [advance, checkedOut, desired, if_neg skips]) building⟩

/-- A reconcile with a populated checkout installs the objects. -/
theorem finishes_installing (host : Host) (applicable : Applicable surroundings fetched)
    (populated : host.repository = .clone checkout) (tree : checkout.tree.isSome = true) :
    ∃ count ≤ 8, Finishes surroundings fetched count .installingConfig host := by
  obtain ⟨programId, declared⟩ := Option.isSome_iff_exists.mp applicable.declared
  let configured : Checkout := { checkout with config := some fetched.config }
  let installed : Checkout := { configured with idl := some fetched.idl }
  obtain ⟨count, few, comparing⟩ := finishes_comparing { host with repository := .clone installed }
    applicable rfl tree rfl rfl
  have copying : Finishes surroundings fetched (count + 1) .installingIdl
      { host with repository := .clone configured } :=
    .step (by simp only [advance, Repository.map]; rfl) comparing
  exact ⟨count + 2, by omega,
    .step (by simp only [advance, declared, populated, Repository.map]; rfl) copying⟩

/-- A checkout is populated unless its head is the commit already. -/
theorem finishes_checkingOut (host : Host) (freshClone : Bool) (applicable : Applicable surroundings fetched)
    (populated : host.repository = .clone checkout)
    (moves : freshClone = true ∨ checkout.head ≠ fetched.manifest.commit ∨ checkout.tree.isSome = true) :
    ∃ count ≤ 9, Finishes surroundings fetched count (.checkingOut freshClone) host := by
  obtain ⟨commit, resolved⟩ := Option.isSome_iff_exists.mp applicable.resolved
  by_cases checks : freshClone = true ∨ checkout.head ≠ some commit
  · obtain ⟨count, few, installing⟩ := finishes_installing
      { host with repository := .clone (checkout.checkOut surroundings commit) } applicable rfl rfl
    exact ⟨count + 1, by omega,
      .step (by simp only [advance, populated, resolved, if_pos checks]) installing⟩
  · have tree : checkout.tree.isSome = true := by
      rw [resolved] at moves
      tauto
    obtain ⟨count, few, installing⟩ := finishes_installing host applicable populated tree
    exact ⟨count + 1, by omega,
      .step (by simp only [advance, populated, resolved, if_neg checks]) installing⟩

/-- A reconcile that finds nothing clones the repository. -/
theorem finishes_fetching (host : Host) (applicable : Applicable surroundings fetched)
    (absent : host.repository = .absent) : ∃ count ≤ 10, Finishes surroundings fetched count .fetching host := by
  let clone : Checkout :=
    { origin := fetched.manifest.repositoryUrl
      head := surroundings.defaultHead fetched.manifest.repositoryUrl
      tree := none, config := none, idl := none }
  obtain ⟨count, few, checkingOut⟩ := finishes_checkingOut { host with repository := .clone clone } true
    applicable rfl (.inl rfl)
  exact ⟨count + 1, by omega, .step (by simp only [advance, absent]; rfl) checkingOut⟩

/-- From the beginning on, a reconcile finishes unless it finds a stranded clone
or a directory without `.git`. -/
theorem finishes_clearing (applicable : Applicable surroundings fetched)
    (populated : ¬Stranded fetched.manifest host) (git : host.repository ≠ .leftover) :
    ∃ count ≤ 13, Finishes surroundings fetched count .clearing host := by
  let cleared : Host := { host with appliedRevision := none }
  have fetches : ∃ count ≤ 11, Finishes surroundings fetched count .discarding cleared := by
    cases present : host.repository with
    | leftover => exact absurd present git
    | absent =>
        obtain ⟨count, few, cloning⟩ := finishes_fetching cleared applicable present
        exact ⟨count + 1, by omega, .step (by simp only [advance, cleared, present]) cloning⟩
    | clone checkout =>
        by_cases other : checkout.origin ≠ fetched.manifest.repositoryUrl
        · obtain ⟨count, few, cloning⟩ :=
            finishes_fetching { cleared with repository := .absent } applicable rfl
          exact ⟨count + 1, by omega,
            .step (by simp only [advance, cleared, present, if_pos other]) cloning⟩
        · have moves : checkout.head ≠ fetched.manifest.commit ∨ checkout.tree.isSome = true := by
            by_contra bare
            rw [not_or, not_not, Bool.not_eq_true, Option.isSome_eq_false_iff, Option.isNone_iff_eq_none] at bare
            exact populated ⟨checkout, present, not_not.mp other, bare.2, bare.1⟩
          obtain ⟨count, few, checkingOut⟩ := finishes_checkingOut cleared false
            applicable present (.inr moves)
          have fetching : Finishes surroundings fetched (count + 1) .fetching cleared :=
            .step (by simp only [advance, cleared, present]) checkingOut
          exact ⟨count + 2, by omega,
            .step (by simp only [advance, cleared, present, if_neg other]) fetching⟩
  obtain ⟨count, few, discarding⟩ := fetches
  have verifying : Finishes surroundings fetched (count + 1) .verifying cleared :=
    .step (by simp only [advance, if_pos (And.intro applicable.config applicable.idl)]) discarding
  exact ⟨count + 2, by omega, .step rfl verifying⟩

/-! ## Stranded clones -/

/-- The phases that a reconcile comes to without the files of the commit. -/
def Early : Phase → Prop
  | .clearing | .verifying | .discarding | .fetching | .checkingOut false | .installingConfig
  | .installingIdl | .comparing => True
  | _ => False

/-- Nothing but a cleared revision differs in what the host has applied. -/
structure Unapplied (before later : Host) : Prop where
  container : later.container = before.container
  appliedRevision : ∀ revision, later.appliedRevision = some revision → before.appliedRevision = some revision

theorem Unapplied.refl (host : Host) : Unapplied host host := ⟨rfl, fun _ same => same⟩

theorem Unapplied.trans {first second third : Host} (earlier : Unapplied first second)
    (later : Unapplied second third) : Unapplied first third where
  container := later.container.trans earlier.container
  appliedRevision revision applied := earlier.appliedRevision revision (later.appliedRevision revision applied)

/-- A step of a reconcile of a stranded commit leaves it stranded. -/
theorem advance_stranded (surroundings : Surroundings) (stranded : Stranded fetched.manifest host)
    (resolved : fetched.manifest.commit.isSome = true) (early : Early phase) :
    Stranded fetched.manifest (advance surroundings fetched phase host).1 ∧
      Unapplied host (advance surroundings fetched phase host).1 ∧
      ∀ next ∈ (advance surroundings fetched phase host).2, Early next := by
  obtain ⟨checkout, present, origin, bare, head⟩ := stranded
  have still : Stranded fetched.manifest host := ⟨checkout, present, origin, bare, head⟩
  obtain ⟨commit, wanted⟩ := Option.isSome_iff_exists.mp resolved
  cases phase with
  | clearing =>
      exact ⟨still, ⟨rfl, fun _ absent => by cases absent⟩, fun next reached => by cases reached; trivial⟩
  | verifying =>
      rw [advance]
      split_ifs
      · exact ⟨still, .refl host, fun next reached => by cases reached; trivial⟩
      · exact ⟨still, .refl host, fun next reached => by cases reached⟩
  | discarding =>
      simp only [advance, present, if_neg (not_not.mpr origin)]
      exact ⟨still, .refl host, fun next reached => by cases reached; trivial⟩
  | fetching =>
      simp only [advance, present]
      exact ⟨still, .refl host, fun next reached => by cases reached; trivial⟩
  | checkingOut freshClone =>
      cases freshClone with
      | true => exact early.elim
      | false =>
          have same : ¬((false : Bool) = true ∨ checkout.head ≠ some commit) := by simp [head, wanted]
          simp only [advance, present, wanted, if_neg same]
          exact ⟨still, .refl host, fun next reached => by cases reached; trivial⟩
  | installingConfig =>
      cases declared : programIdOf fetched.config with
      | none =>
          simp only [advance, declared]
          exact ⟨still, .refl host, fun next reached => by cases reached⟩
      | some programId =>
          simp only [advance, declared, present, Repository.map]
          exact ⟨⟨_, rfl, origin, bare, head⟩, ⟨rfl, fun _ same => same⟩,
            fun next reached => by cases reached; trivial⟩
  | installingIdl =>
      simp only [advance, present, Repository.map]
      exact ⟨⟨_, rfl, origin, bare, head⟩, ⟨rfl, fun _ same => same⟩,
        fun next reached => by cases reached; trivial⟩
  | comparing =>
      have empty : host.checkout.bind Checkout.tree = none := by
        rw [checkout_clone present]
        exact bare
      simp only [advance, empty]
      exact ⟨still, .refl host, fun next reached => by cases reached⟩
  | building | recordingInputs | starting | probing | recordingRevision => exact early.elim

/-- The reconcile that runs, if there is one, is an early one of the commit. -/
def EarlyOf (manifest : Manifest) (machine : Machine) : Prop :=
  ∀ reconcile ∈ machine.running, reconcile.fetched.manifest.repositoryUrl = manifest.repositoryUrl ∧
    reconcile.fetched.manifest.commit = manifest.commit ∧ Early reconcile.phase

theorem Stranded.congr {manifest other : Manifest} (url : other.repositoryUrl = manifest.repositoryUrl)
    (commit : other.commit = manifest.commit) : Stranded other host ↔ Stranded manifest host := by
  rw [Stranded, Stranded, url, commit]

/-- An event does not free a stranded clone as long as its commit is wanted. -/
theorem apply_stranded (surroundings : Surroundings) {manifest : Manifest} {event : Event}
    (resolved : manifest.commit.isSome = true) (stranded : Stranded manifest machine.host)
    (early : EarlyOf manifest machine)
    (wanted : ∀ other ∈ manifestsOf [event], other.repositoryUrl = manifest.repositoryUrl ∧
      other.commit = manifest.commit) :
    Stranded manifest (apply surroundings machine event).host ∧
      Unapplied machine.host (apply surroundings machine event).host ∧
      EarlyOf manifest (apply surroundings machine event) := by
  cases event with
  | start other config idl =>
      cases running : machine.running with
      | some reconcile =>
          simp only [apply, running]
          exact ⟨stranded, .refl _, early⟩
      | none =>
          by_cases applied : machine.host.appliedRevision = some other.revision
          · simp only [apply, running, if_pos applied]
            exact ⟨stranded, .refl _, early⟩
          · simp only [apply, running, if_neg applied]
            obtain ⟨url, commit⟩ := wanted other List.mem_cons_self
            refine ⟨stranded, .refl _, fun reconcile started => ?_⟩
            cases started
            exact ⟨url, commit, trivial⟩
  | step =>
      cases running : machine.running with
      | none =>
          simp only [apply, running]
          exact ⟨stranded, .refl _, early⟩
      | some reconcile =>
          obtain ⟨url, commit, soon⟩ := early reconcile running
          obtain ⟨still, unapplied, next⟩ := advance_stranded surroundings
            ((Stranded.congr url commit).mpr stranded) (by rw [commit]; exact resolved) soon
          simp only [apply, running]
          refine ⟨(Stranded.congr url commit).mp still, unapplied, fun later continued => ?_⟩
          obtain ⟨phase, reached, rfl⟩ := Option.map_eq_some_iff.mp continued
          exact ⟨url, commit, next phase reached⟩
  | stop => exact ⟨stranded, .refl _, fun reconcile running => by cases running⟩
  | stopPartway =>
      cases running : machine.running with
      | none =>
          simp only [apply, running]
          exact ⟨stranded, .refl _, early⟩
      | some reconcile =>
          obtain ⟨url, _, _⟩ := early reconcile running
          obtain ⟨checkout, present, origin, bare, head⟩ := stranded
          have stays : ¬reconcile.replaces machine.host.repository = true := by
            simp [Reconcile.replaces, present, origin, url]
          simp only [apply, running, if_neg stays]
          exact ⟨⟨checkout, present, origin, bare, head⟩, .refl _, fun _ absent => by cases absent⟩
  | imageRemoved =>
      obtain ⟨checkout, present, origin, bare, head⟩ := stranded
      exact ⟨⟨checkout, present, origin, bare, head⟩, ⟨rfl, fun _ same => same⟩, early⟩

theorem stranded_forever (surroundings : Surroundings) {manifest : Manifest} (resolved : manifest.commit.isSome = true)
    {later : List Event} (stranded : Stranded manifest machine.host) (early : EarlyOf manifest machine)
    (wanted : ∀ other ∈ manifestsOf later, other.repositoryUrl = manifest.repositoryUrl ∧
      other.commit = manifest.commit) :
    Stranded manifest (later.foldl (apply surroundings) machine).host ∧
      Unapplied machine.host (later.foldl (apply surroundings) machine).host := by
  induction later generalizing machine with
  | nil => exact ⟨stranded, .refl _⟩
  | cons event rest ih =>
      have both : manifestsOf (event :: rest) = manifestsOf [event] ++ manifestsOf rest :=
        List.filterMap_append (l := [event])
      rw [both] at wanted
      obtain ⟨still, unapplied, soon⟩ := apply_stranded surroundings resolved stranded early
        fun other listed => wanted other (List.mem_append_left _ listed)
      obtain ⟨forever, silent⟩ := ih still soon fun other listed => wanted other (List.mem_append_right _ listed)
      exact ⟨forever, unapplied.trans silent⟩

/-! ## Directories without a repository -/

/-- The phases before the repository directory is used. -/
def Unfetched : Phase → Prop
  | .clearing | .verifying | .discarding | .fetching => True
  | _ => False

theorem advance_leftover (surroundings : Surroundings) (fetched : Fetched)
    (leftover : host.repository = .leftover) (unfetched : Unfetched phase) :
    (advance surroundings fetched phase host).1.repository = .leftover ∧
      Unapplied host (advance surroundings fetched phase host).1 ∧
      ∀ next ∈ (advance surroundings fetched phase host).2, Unfetched next := by
  cases phase with
  | clearing =>
      exact ⟨leftover, ⟨rfl, fun _ absent => by cases absent⟩, fun next reached => by cases reached; trivial⟩
  | verifying =>
      rw [advance]
      split_ifs
      · exact ⟨leftover, .refl host, fun next reached => by cases reached; trivial⟩
      · exact ⟨leftover, .refl host, fun next reached => by cases reached⟩
  | discarding =>
      simp only [advance, leftover]
      exact ⟨trivial, .refl host, fun next reached => by cases reached; trivial⟩
  | fetching =>
      simp only [advance, leftover]
      exact ⟨trivial, .refl host, fun next reached => by cases reached⟩
  | checkingOut _ | installingConfig | installingIdl | comparing | building | recordingInputs | starting
  | probing | recordingRevision => exact unfetched.elim

/-- No event replaces such a directory. -/
theorem apply_leftover (surroundings : Surroundings) (event : Event)
    (leftover : machine.host.repository = .leftover)
    (unfetched : ∀ reconcile ∈ machine.running, Unfetched reconcile.phase) :
    (apply surroundings machine event).host.repository = .leftover ∧
      Unapplied machine.host (apply surroundings machine event).host ∧
      ∀ reconcile ∈ (apply surroundings machine event).running, Unfetched reconcile.phase := by
  cases event with
  | start other config idl =>
      cases running : machine.running with
      | some reconcile =>
          simp only [apply, running]
          exact ⟨leftover, .refl _, fun later same => unfetched later (running.trans same)⟩
      | none =>
          by_cases applied : machine.host.appliedRevision = some other.revision
          · simp only [apply, running, if_pos applied]
            exact ⟨leftover, .refl _, fun _ absent => by cases absent⟩
          · simp only [apply, running, if_neg applied]
            refine ⟨leftover, .refl _, fun reconcile started => ?_⟩
            cases started
            trivial
  | step =>
      cases running : machine.running with
      | none =>
          simp only [apply, running]
          exact ⟨leftover, .refl _, fun _ absent => by cases absent⟩
      | some reconcile =>
          obtain ⟨still, unapplied, next⟩ := advance_leftover surroundings reconcile.fetched leftover
            (unfetched reconcile running)
          simp only [apply, running]
          refine ⟨still, unapplied, fun later continued => ?_⟩
          obtain ⟨phase, reached, rfl⟩ := Option.map_eq_some_iff.mp continued
          exact next phase reached
  | stop => exact ⟨leftover, .refl _, fun _ absent => by cases absent⟩
  | stopPartway =>
      cases running : machine.running with
      | none =>
          simp only [apply, running]
          exact ⟨leftover, .refl _, fun _ absent => by cases absent⟩
      | some reconcile =>
          have stays : ¬reconcile.replaces machine.host.repository = true := by
            simp [Reconcile.replaces, leftover]
          simp only [apply, running, if_neg stays]
          exact ⟨leftover, .refl _, fun _ absent => by cases absent⟩
  | imageRemoved => exact ⟨leftover, ⟨rfl, fun _ same => same⟩, unfetched⟩

theorem leftover_forever (surroundings : Surroundings) {later : List Event}
    (leftover : machine.host.repository = .leftover)
    (unfetched : ∀ reconcile ∈ machine.running, Unfetched reconcile.phase) :
    Unapplied machine.host (later.foldl (apply surroundings) machine).host := by
  induction later generalizing machine with
  | nil => exact .refl _
  | cons event rest ih =>
      obtain ⟨still, unapplied, soon⟩ := apply_leftover surroundings event leftover unfetched
      exact unapplied.trans (ih still soon)

def interruptedClone : Machine :=
  after exampleSurroundings (reconciled "revision-one" secondCommit 4 ++ [.stop])

def interruptedRemoval : Machine :=
  let moved := { manifestAt "revision-two" secondCommit with repositoryUrl := "https://example.invalid/fork.git" }
  after exampleSurroundings
    (reconciled "revision-one" secondCommit 13 ++ [.start moved stakeConfig stakeIdl, .step, .step, .stopPartway])

theorem interruptedClone_stranded :
    Stranded (manifestAt "revision-one" secondCommit) interruptedClone.host := by
  have cloned : interruptedClone.host.repository = .clone
      { origin := "https://example.invalid/microscope.git", head := some secondCommit
        tree := none, config := none, idl := none } := by decide +kernel
  exact ⟨_, cloned, rfl, rfl, rfl⟩

theorem example_applicable : Applicable exampleSurroundings
    { manifest := manifestAt "revision-one" secondCommit, config := stakeConfig, idl := stakeIdl } where
  config := by decide +kernel
  idl := by decide +kernel
  resolved := rfl
  declared := by decide +kernel
  named := ⟨⟨stakeProgram.text, idlPath⟩, by decide +kernel, rfl⟩

end Microscope.Deploy
