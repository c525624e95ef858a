import Microscope.Data.Lines

namespace Microscope.Deploy

open Microscope.Data

/-! # The reconciler

`deploy-microscope.sh` as a sequence of commands on the state of the host.  A
reconcile may be stopped, by a failing command or from outside, between any two
of them.
-/

/-- The hexadecimal name of a commit or a digest. -/
structure ObjectName where
  text : String
  plain : ' ' ∉ text.toList
deriving DecidableEq

structure Manifest where
  revision : String
  repositoryUrl : String
  /-- What `repository_ref` resolves to in the repository. -/
  commit : Option ObjectName
  configSha256 : ObjectName
  idlSha256 : ObjectName
deriving DecidableEq

/-- What an image was built from. -/
structure Image where
  commit : ObjectName
  idlSha256 : ObjectName
  programId : String
deriving DecidableEq

/-- The repository directory. -/
structure Checkout where
  origin : String
  head : Option ObjectName
  /-- The commit of the checked out files; none after `git clone --no-checkout`. -/
  tree : Option ObjectName
  /-- `microscope.toml`. -/
  config : Option String
  /-- `idl/program.json`. -/
  idl : Option String
deriving DecidableEq

/-- What is at the path of the repository directory. -/
inductive Repository where
  | absent
  /-- A directory without `.git`. -/
  | leftover
  | clone (checkout : Checkout)
deriving DecidableEq

namespace Repository

def checkout : Repository → Option Checkout
  | clone checkout => some checkout
  | _ => none

def map (change : Checkout → Checkout) : Repository → Repository
  | clone checkout => clone (change checkout)
  | other => other

end Repository

structure Host where
  appliedRevision : Option String := none
  builtInputs : Option String := none
  repository : Repository := .absent
  image : Option Image := none
  /-- The image of the running indexer. -/
  container : Option Image := none
  /-- The last image built, until its inputs are recorded.  No command reads it. -/
  unrecorded : Option Image := none
deriving DecidableEq

def Host.checkout (host : Host) : Option Checkout := host.repository.checkout

/-- The two keys of the configuration that `generate-decoder.sh` reads. -/
structure DecoderConfig where
  programId : String
  idlPath : String
deriving DecidableEq

/-- What the script finds outside of the host. -/
structure Surroundings where
  sha256 : String → ObjectName
  /-- The commit that a new clone has as its head. -/
  defaultHead : String → Option ObjectName
  /-- The file that a commit has at a path. -/
  committed : ObjectName → String → Option String
  /-- `tomllib.load`, as far as `generate-decoder.sh` uses it. -/
  decoderConfig : String → Option DecoderConfig
  /-- What the build finds in a repository directory at any other path than
  that of the installed IDL. -/
  otherFile : Checkout → String → Option String

def configPath : String := "microscope.toml"

/-- Where the script installs the IDL. -/
def idlPath : String := "idl/program.json"

/-! ## Inputs of a build -/

def isBlank (character : Char) : Bool :=
  character = ' ' || ('\t'.toNat ≤ character.toNat && character.toNat ≤ '\r'.toNat)

def skipMark (mark : Char) : List Char → List Char
  | [] => []
  | character :: rest => if character = mark then rest else character :: rest

/-- The program id that a line of the configuration declares. -/
def programIdOfLine (line : List Char) : Option String := do
  let rest ← stripStart "program_id".toList (skipMark '"' (line.dropWhile isBlank))
  let value ← stripStart ['='] ((skipMark '"' rest).dropWhile isBlank)
  let quoted ← stripStart ['"'] (value.dropWhile isBlank)
  let (programId, _) ← splitOnce '"' quoted
  if programId = [] then none else some (String.ofList programId)

/-- `program_id`, the first one that the configuration declares. -/
def programIdOf (config : String) : Option String :=
  (config.toList.splitOn '\n').findSome? programIdOfLine

/-- A public key in base58, which Terraform demands of `program_id`. -/
structure ProgramId where
  text : String
  filled : text.toList ≠ []
  plain : text.toList.all Char.isAlphanum = true

/-- `microscope.toml.tftpl`, from its third line on any text. -/
def renderedConfig (programId : ProgramId) (rest : String) : String :=
  "program_id = \"" ++ programId.text ++ "\"\n" ++ "idl_path = \"" ++ idlPath ++ "\"\n" ++ rest

theorem ProgramId.not_mem {programId : ProgramId} {character : Char} (marks : character.isAlphanum = false) :
    character ∉ programId.text.toList := by
  intro member
  have plain := List.all_eq_true.mp programId.plain character member
  rw [marks] at plain
  contradiction

theorem programIdOfLine_rendered (programId : ProgramId) :
    programIdOfLine ("program_id = \"".toList ++ (programId.text.toList ++ ['"'])) = some programId.text := by
  have parts : splitOnce '"' (programId.text.toList ++ ['"']) = some (programId.text.toList, []) :=
    splitOnce_append (programId.not_mem rfl)
  have shape : programIdOfLine ("program_id = \"".toList ++ (programId.text.toList ++ ['"'])) =
      (splitOnce '"' (programId.text.toList ++ ['"'])).bind fun parts =>
        if parts.1 = [] then none else some (String.ofList parts.1) := rfl
  rw [shape, parts, Option.bind_some, if_neg programId.filled, String.ofList_toList]

/-- The script finds the program that the template names. -/
theorem programIdOf_rendered (programId : ProgramId) (rest : String) :
    programIdOf (renderedConfig programId rest) = some programId.text := by
  have quote : "\"\n".toList = ['"', '\n'] := by decide
  have shape : (renderedConfig programId rest).toList =
      ("program_id = \"".toList ++ (programId.text.toList ++ ['"'])) ++
        '\n' :: ("idl_path = \"".toList ++ (idlPath.toList ++ ("\"\n".toList ++ rest.toList))) := by
    unfold renderedConfig
    -- As variables, the literals are not unfolded.
    generalize "program_id = \"" = first
    generalize "idl_path = \"" = second
    generalize idlPath = path
    simp only [String.toList_append, quote, List.append_assoc, List.cons_append, List.nil_append]
  have oneLine : '\n' ∉ "program_id = \"".toList ++ (programId.text.toList ++ ['"']) := by
    have start : '\n' ∉ "program_id = \"".toList := by decide
    have inside : '\n' ∉ programId.text.toList := programId.not_mem rfl
    simp only [List.mem_append, not_or]
    exact ⟨start, inside, by decide⟩
  rw [programIdOf, shape, List.splitOn_append_cons_self_of_not_mem oneLine, List.findSome?_cons,
    programIdOfLine_rendered]

/-- `build_inputs`. -/
def Image.inputs (image : Image) : String :=
  image.commit.text ++ " " ++ image.idlSha256.text ++ " " ++ image.programId

/-- The file of the repository directory that `idl_path` names. -/
def Checkout.idlFile (surroundings : Surroundings) (checkout : Checkout) (path : String) : Option String :=
  if path = idlPath then checkout.idl else surroundings.otherFile checkout path

/-- What `docker compose build indexer` makes of the repository directory, in
which `generate-decoder.sh` runs. -/
def Checkout.built (surroundings : Surroundings) (checkout : Checkout) : Option Image := do
  let commit ← checkout.tree
  let config ← checkout.config
  let decoder ← surroundings.decoderConfig config
  let idl ← checkout.idlFile surroundings decoder.idlPath
  return { commit, idlSha256 := surroundings.sha256 idl, programId := decoder.programId }

/-! ## Checking out -/

/-- The file at a path after `git checkout --force`.  A file that neither commit
tracks stays. -/
def Surroundings.checkedOut (surroundings : Surroundings) (old : Option ObjectName) (new : ObjectName)
    (path : String) (content : Option String) : Option String :=
  match surroundings.committed new path with
  | some file => some file
  | none => if (old.bind (surroundings.committed · path)).isSome then none else content

/-- `git checkout --detach --force`. -/
def Checkout.checkOut (surroundings : Surroundings) (checkout : Checkout) (commit : ObjectName) : Checkout :=
  { checkout with
    head := some commit, tree := some commit,
    config := surroundings.checkedOut checkout.tree commit configPath checkout.config
    idl := surroundings.checkedOut checkout.tree commit idlPath checkout.idl }

/-! ## Steps of a reconcile -/

inductive Phase where
  | clearing
  | verifying
  | discarding
  | fetching
  | checkingOut (freshClone : Bool)
  | installingConfig
  | installingIdl
  | comparing
  | building
  | recordingInputs
  | starting
  | probing
  | recordingRevision
deriving DecidableEq

/-- A manifest and the objects fetched for it. -/
structure Fetched where
  manifest : Manifest
  config : String
  idl : String
deriving DecidableEq

/-- The image that the manifest asks for. -/
def Fetched.desired (surroundings : Surroundings) (fetched : Fetched) : Option Image := do
  let commit ← fetched.manifest.commit
  let programId ← programIdOf fetched.config
  return { commit, idlSha256 := surroundings.sha256 fetched.idl, programId }

/-- The next command; without a phase after it, the script exits. -/
def advance (surroundings : Surroundings) (fetched : Fetched) (phase : Phase) (host : Host) :
    Host × Option Phase :=
  let manifest := fetched.manifest
  match phase with
  | .clearing => ({ host with appliedRevision := none }, some .verifying)
  | .verifying =>
      if surroundings.sha256 fetched.config = manifest.configSha256 ∧
          surroundings.sha256 fetched.idl = manifest.idlSha256 then
        (host, some .discarding)
      else (host, none)
  | .discarding =>
      match host.repository with
      | .clone checkout =>
          if checkout.origin ≠ manifest.repositoryUrl then ({ host with repository := .absent }, some .fetching)
          else (host, some .fetching)
      | _ => (host, some .fetching)
  | .fetching =>
      match host.repository with
      | .clone _ => (host, some (.checkingOut false))
      | .leftover => (host, none)
      | .absent =>
          let clone : Checkout :=
            { origin := manifest.repositoryUrl, head := surroundings.defaultHead manifest.repositoryUrl,
              tree := none, config := none, idl := none }
          ({ host with repository := .clone clone }, some (.checkingOut true))
  | .checkingOut freshClone =>
      match host.repository, manifest.commit with
      | .clone checkout, some commit =>
          if freshClone ∨ checkout.head ≠ some commit then
            ({ host with repository := .clone (checkout.checkOut surroundings commit) },
              some .installingConfig)
          else (host, some .installingConfig)
      | _, _ => (host, none)
  | .installingConfig =>
      match programIdOf fetched.config with
      | none => (host, none)
      | some _ =>
          ({ host with repository := host.repository.map ({ · with config := some fetched.config }) },
            some .installingIdl)
  | .installingIdl =>
      ({ host with repository := host.repository.map ({ · with idl := some fetched.idl }) }, some .comparing)
  | .comparing =>
      -- Compose finds no project in a directory without files.
      match host.checkout.bind Checkout.tree, fetched.desired surroundings with
      | some _, some desired =>
          if host.builtInputs = some desired.inputs ∧ host.image.isSome then (host, some .starting)
          else (host, some .building)
      | _, _ => (host, none)
  | .building =>
      match host.checkout.bind (Checkout.built surroundings) with
      | none => (host, none)
      | some image => ({ host with image := some image, unrecorded := some image }, some .recordingInputs)
  | .recordingInputs =>
      match fetched.desired surroundings with
      | none => (host, none)
      | some desired =>
          ({ host with builtInputs := some desired.inputs, unrecorded := none }, some .starting)
  | .starting =>
      match host.image with
      | none => (host, none)
      | some image => ({ host with container := some image }, some .probing)
  | .probing => (host, some .recordingRevision)
  | .recordingRevision => ({ host with appliedRevision := some manifest.revision }, none)

/-! ## Runs -/

/-- A reconcile and the command that it runs next. -/
structure Reconcile where
  fetched : Fetched
  phase : Phase
deriving DecidableEq

/-- Whether the next command removes the repository directory or clones into it.
Killed in the middle, it may leave a directory without `.git`. -/
def Reconcile.replaces (reconcile : Reconcile) : Repository → Bool
  | .clone checkout =>
      reconcile.phase = .discarding ∧ checkout.origin ≠ reconcile.fetched.manifest.repositoryUrl
  | .leftover => false
  | .absent => reconcile.phase = .fetching

/-- The host and the reconcile that holds the lock. -/
structure Machine where
  host : Host := {}
  running : Option Reconcile := none
deriving DecidableEq

inductive Event where
  /-- The timer starts the script, which finds the manifest and the objects. -/
  | start (manifest : Manifest) (config idl : String)
  | step
  /-- A command fails or the script is killed. -/
  | stop
  /-- The script is killed in the middle of a command. -/
  | stopPartway
  /-- Somebody removes the image. -/
  | imageRemoved
deriving DecidableEq

def apply (surroundings : Surroundings) (machine : Machine) : Event → Machine
  | .start manifest config idl =>
      match machine.running with
      | some _ => machine
      | none =>
          if machine.host.appliedRevision = some manifest.revision then machine
          else { machine with running := some { fetched := { manifest, config, idl }, phase := .clearing } }
  | .step =>
      match machine.running with
      | none => machine
      | some reconcile =>
          let (host, next) := advance surroundings reconcile.fetched reconcile.phase machine.host
          { host, running := next.map ({ reconcile with phase := · }) }
  | .stop => { machine with running := none }
  | .stopPartway =>
      match machine.running with
      | none => machine
      | some reconcile =>
          if reconcile.replaces machine.host.repository then
            { host := { machine.host with repository := .leftover }, running := none }
          else { machine with running := none }
  | .imageRemoved => { machine with host := { machine.host with image := none } }

/-- The state after events, from a host without a deployment. -/
def after (surroundings : Surroundings) (events : List Event) : Machine :=
  events.foldl (apply surroundings) {}

/-- The manifests that were found. -/
def manifestsOf (events : List Event) : List Manifest :=
  events.filterMap fun
    | .start manifest _ _ => some manifest
    | _ => none

/-- The configurations that were fetched. -/
def configsOf (events : List Event) : List String :=
  events.filterMap fun
    | .start _ config _ => some config
    | _ => none

variable {surroundings : Surroundings}

theorem after_snoc (events : List Event) (event : Event) :
    after surroundings (events ++ [event]) = apply surroundings (after surroundings events) event := by
  rw [after, after, List.foldl_append]
  rfl

theorem Image.inputs_injective : Function.Injective Image.inputs := by
  have parts : ∀ image : Image, (splitOnce ' ' image.inputs.toList).bind (fun outer =>
      (splitOnce ' ' outer.2).map fun inner => (outer.1, inner)) =
        some (image.commit.text.toList, image.idlSha256.text.toList, image.programId.toList) := by
    intro image
    have shape : image.inputs.toList = image.commit.text.toList ++
        ' ' :: (image.idlSha256.text.toList ++ ' ' :: image.programId.toList) := by
      simp [Image.inputs]
    rw [shape, splitOnce_append image.commit.plain, Option.bind_some,
      splitOnce_append image.idlSha256.plain]
    rfl
  intro first second same
  have both := parts first
  rw [same, parts second] at both
  obtain ⟨⟨commit, _⟩, ⟨idl, _⟩, programId⟩ := first
  obtain ⟨⟨otherCommit, _⟩, ⟨otherIdl, _⟩, otherId⟩ := second
  simp only [Option.some.injEq, Prod.mk.injEq, String.toList_inj] at both
  obtain ⟨rfl, rfl, rfl⟩ := both
  rfl

end Microscope.Deploy
