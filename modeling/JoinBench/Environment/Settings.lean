import JoinBench.Grid

/-!
# Settings of an environment

The content of an environment file: where the units run, how to reach the container hosts, and
which command each phase runs.  Every setting that is not given has the value of a
single-machine setup.
-/

namespace JoinBench

/-- The files with the client certificate for remote container hosts. -/
structure TlsFiles where
  clientCert : String := ".certs/client-cert.pem"
  clientKey : String := ".certs/client-key.pem"
  caCert : String := ".certs/ca.pem"
deriving DecidableEq, Inhabited, Repr

/-- The image of the units. -/
structure ImageSettings where
  repository : String := "mppj"
  baseTag : String := "base"
deriving DecidableEq, Inhabited, Repr

/-- The command template of each phase. -/
structure Commands where
  generate : String :=
    "gen-data -source_ids \x7bsources\x7d -generate \x7bset_size\x7d -joinsize \x7bjoin_size\x7d "
      ++ "-seed \x7bseed\x7d >> data.csv"
  helper : String := "helper"
  receiver : String := "receiver"
  source : String := "cat data.csv | source"
deriving DecidableEq, Inhabited, Repr

/-- The content of an environment file. -/
structure Settings where
  sourceHosts : List String := ["localhost"]
  helperHost : String := "localhost"
  receiverHost : String := "localhost"
  helperPort : Nat := 40000
  /-- The address that sources and receiver dial, in place of the helper's host and port. -/
  helperAddress : Option String := none
  tls : Option TlsFiles := none
  /-- The number of CPUs of a source; zero is all of them. -/
  nCpuPerSource : Nat := 4
  image : ImageSettings := {}
  containerLabel : String := "mppj-exp"
  unitShell : List String := ["sh", "-c"]
  commands : Commands := {}
  cleanupDelayMs : Nat := 1000
  helperStartupDelayMs : Nat := 3000
  /-- Further grids, in ascending order of their names. -/
  grids : List (String × Grid) := []
deriving DecidableEq, Inhabited, Repr

namespace Settings

open Json

/-! ### Reading settings -/

/-- Certificate files that are being read. -/
structure TlsDraft where
  clientCert : Option String := none
  clientKey : Option String := none
  caCert : Option String := none

/-- The fields of the certificate files, all of them required. -/
def tlsRecord : Record TlsDraft where
  wanted := "struct TlsDto"
  fields :=
    [.of "clientCert" (·.clientCert) (fun d x => { d with clientCert := some x }) readText,
     .of "clientKey" (·.clientKey) (fun d x => { d with clientKey := some x }) readText,
     .of "caCert" (·.caCert) (fun d x => { d with caCert := some x }) readText]
  required := true
  closed := true

/-- Reads certificate files. -/
def readTls : Reader TlsFiles := fun room cs =>
  (readRecord tlsRecord {} room cs).map fun (d, rest) =>
    (⟨d.clientCert.getD "", d.clientKey.getD "", d.caCert.getD ""⟩, rest)

/-- An image that is being read. -/
structure ImageDraft where
  repository : Option String := none
  baseTag : Option String := none

/-- The fields of an image. -/
def imageRecord : Record ImageDraft where
  wanted := "struct ImageDto"
  fields :=
    [.of "repository" (·.repository) (fun d x => { d with repository := some x }) readText,
     .of "baseTag" (·.baseTag) (fun d x => { d with baseTag := some x }) readText]
  required := false
  closed := true

/-- Reads an image. -/
def readImage : Reader ImageSettings := fun room cs =>
  (readRecord imageRecord {} room cs).map fun (d, rest) =>
    let usual : ImageSettings := {}
    (⟨d.repository.getD usual.repository, d.baseTag.getD usual.baseTag⟩, rest)

/-- Commands that are being read. -/
structure CommandsDraft where
  generate : Option String := none
  helper : Option String := none
  receiver : Option String := none
  source : Option String := none

/-- The fields of the commands. -/
def commandsRecord : Record CommandsDraft where
  wanted := "struct CommandsDto"
  fields :=
    [.of "generate" (·.generate) (fun d x => { d with generate := some x }) readText,
     .of "helper" (·.helper) (fun d x => { d with helper := some x }) readText,
     .of "receiver" (·.receiver) (fun d x => { d with receiver := some x }) readText,
     .of "source" (·.source) (fun d x => { d with source := some x }) readText]
  required := false
  closed := true

/-- Reads commands. -/
def readCommands : Reader Commands := fun room cs =>
  (readRecord commandsRecord {} room cs).map fun (d, rest) =>
    let usual : Commands := {}
    (⟨d.generate.getD usual.generate, d.helper.getD usual.helper,
      d.receiver.getD usual.receiver, d.source.getD usual.source⟩, rest)

/-- Settings that are being read. -/
structure Draft where
  sourceHosts : Option (List String) := none
  helperHost : Option String := none
  receiverHost : Option String := none
  helperPort : Option Nat := none
  helperAddress : Option (Option String) := none
  tls : Option (Option TlsFiles) := none
  nCpuPerSource : Option Nat := none
  image : Option ImageSettings := none
  containerLabel : Option String := none
  unitShell : Option (List String) := none
  commands : Option Commands := none
  cleanupDelayMs : Option Nat := none
  helperStartupDelayMs : Option Nat := none
  grids : Option (List (String × Grid)) := none

/-- The fields of an environment file. -/
def record : Record Draft where
  wanted := "struct EnvironmentDto"
  fields :=
    [.of "sourceHosts" (·.sourceHosts) (fun d x => { d with sourceHosts := some x })
      (readList readText),
     .of "helperHost" (·.helperHost) (fun d x => { d with helperHost := some x }) readText,
     .of "receiverHost" (·.receiverHost) (fun d x => { d with receiverHost := some x }) readText,
     .of "helperPort" (·.helperPort) (fun d x => { d with helperPort := some x })
      (readNat "u16" Text.bound16),
     .of "helperAddress" (·.helperAddress) (fun d x => { d with helperAddress := some x })
      (readOptional readText),
     .of "tls" (·.tls) (fun d x => { d with tls := some x }) (readOptional readTls),
     .of "nCpuPerSource" (·.nCpuPerSource) (fun d x => { d with nCpuPerSource := some x })
      (readNat "u32" Text.bound32),
     .of "image" (·.image) (fun d x => { d with image := some x }) readImage,
     .of "containerLabel" (·.containerLabel) (fun d x => { d with containerLabel := some x })
      readText,
     .of "unitShell" (·.unitShell) (fun d x => { d with unitShell := some x })
      (readList readText),
     .of "commands" (·.commands) (fun d x => { d with commands := some x }) readCommands,
     .of "cleanupDelayMs" (·.cleanupDelayMs) (fun d x => { d with cleanupDelayMs := some x })
      (readNat "u64" Text.bound64),
     .of "helperStartupDelayMs" (·.helperStartupDelayMs)
      (fun d x => { d with helperStartupDelayMs := some x }) (readNat "u64" Text.bound64),
     .of "grids" (·.grids) (fun d x => { d with grids := some x }) (readMap Grid.read)]
  required := false
  closed := true

/-- The settings of a draft: what it lacks has its usual value. -/
def ofDraft (d : Draft) : Settings :=
  let usual : Settings := {}
  { sourceHosts := d.sourceHosts.getD usual.sourceHosts
    helperHost := d.helperHost.getD usual.helperHost
    receiverHost := d.receiverHost.getD usual.receiverHost
    helperPort := d.helperPort.getD usual.helperPort
    helperAddress := d.helperAddress.getD usual.helperAddress
    tls := d.tls.getD usual.tls
    nCpuPerSource := d.nCpuPerSource.getD usual.nCpuPerSource
    image := d.image.getD usual.image
    containerLabel := d.containerLabel.getD usual.containerLabel
    unitShell := d.unitShell.getD usual.unitShell
    commands := d.commands.getD usual.commands
    cleanupDelayMs := d.cleanupDelayMs.getD usual.cleanupDelayMs
    helperStartupDelayMs := d.helperStartupDelayMs.getD usual.helperStartupDelayMs
    grids := d.grids.getD usual.grids }

/-- Reads settings. -/
def read : Reader Settings := fun room cs =>
  (readRecord record {} room cs).map fun (d, rest) => (ofDraft d, rest)

/-- The settings in a text. -/
def parse (text : String) : Except Error Settings :=
  match ofText read text with
  | .ok settings => .ok settings
  | .error fault => .error (.json (fault.message text))

end Settings

end JoinBench
