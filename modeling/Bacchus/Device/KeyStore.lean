import Bacchus.Net.Netip
import Bacchus.Semantics.Machine
import Bacchus.Text.Hex

/-!
# The key of a device

`LoadOrGenerateKey` of `core/devicestore`, one file operation at a time, as any number of
processes run it in one directory. Every operation may fail. A power loss ends every call and may
take an entry created since the directory was flushed, and content that was not flushed.
-/

namespace Bacchus.Device

def seedSize : Nat := 32

/-- A private key, which is determined by its seed. -/
structure Key where
  seed : Bytes
  size : seed.length = seedSize
deriving DecidableEq

/-- What the file of a key holds. -/
def Key.encoded (key : Key) : String := Text.hexEncode key.seed

/-- The key in the content of a file, or `none` if the file is malformed. -/
def parseKey (content : String) : Option Key :=
  match Text.hexDecode (Netip.trimSpace content) with
  | none => none
  | some seed => if size : seed.length = seedSize then some ⟨seed, size⟩ else none

/-- `device.key`. -/
structure KeyFile where
  content : String := ""
  /-- The content has been flushed. -/
  synced : Bool := false
  /-- The directory has been flushed since the file was created. -/
  flushed : Bool := false

/-- The key file, and the credential beside it. -/
structure Directory where
  key : Option KeyFile := none
  /-- `credential.json`, and whether the directory has been flushed since it was created. -/
  credential : Option Bool := none

/-- Why there is no key. -/
inductive KeyError where
  | malformed
  | read
  | orphanedCredential
  | credentialUnknown
  | generate
  | createDirectory
  | createdByAnother
  | create
  | write
  | flush
  | close
  | flushDirectory

/-- A call of `LoadOrGenerateKey`, at the operation it makes next. -/
inductive Point where
  | read
  /-- The check of `refuseIfCredentialSurvives`. -/
  | stat
  | generate
  | createDirectory (key : Key)
  | create (key : Key)
  | write (key : Key)
  | sync (key : Key)
  | close (key : Key)
  | syncDir (key : Key)

/-- How one operation goes. -/
structure StepIo where
  fails : Bool := false
  /-- The key that is drawn, where one is. -/
  drawn : Key
  /-- How much of its content a failing write leaves in the file. -/
  written : Nat := 0

inductive Progress where
  | next (point : Point)
  | returned (result : Except KeyError Key)

def cut (count : Nat) (content : String) : String := .ofList (content.toList.take count)

/-- Change the key's file through the handle of the call that created it. -/
def Directory.update (directory : Directory) (change : KeyFile → KeyFile) : Directory :=
  { directory with key := directory.key.map change }

/-- `atomicfile.SyncDir`: every entry there is now flushed. -/
def Directory.syncDir (directory : Directory) : Directory where
  key := directory.key.map fun file => { file with flushed := true }
  credential := directory.credential.map fun _ => true

def Point.step (directory : Directory) (io : StepIo) : Point → Directory × Progress
  | .read =>
    if io.fails then (directory, .returned (.error .read))
    else
      match directory.key with
      | none => (directory, .next .stat)
      | some file =>
        match parseKey file.content with
        | none => (directory, .returned (.error .malformed))
        | some key => (directory, .returned (.ok key))
  | .stat =>
    if io.fails then (directory, .returned (.error .credentialUnknown))
    else if directory.credential.isSome then (directory, .returned (.error .orphanedCredential))
    else (directory, .next .generate)
  | .generate =>
    if io.fails then (directory, .returned (.error .generate))
    else (directory, .next (.createDirectory io.drawn))
  | .createDirectory key =>
    if io.fails then (directory, .returned (.error .createDirectory))
    else (directory, .next (.create key))
  | .create key =>
    if io.fails then (directory, .returned (.error .create))
    -- The create is exclusive.
    else if directory.key.isSome then (directory, .returned (.error .createdByAnother))
    else ({ directory with key := some {} }, .next (.write key))
  | .write key =>
    if io.fails then
      (directory.update fun file => { file with content := cut io.written key.encoded },
        .returned (.error .write))
    else
      (directory.update fun file => { file with content := key.encoded }, .next (.sync key))
  | .sync key =>
    if io.fails then (directory, .returned (.error .flush))
    else (directory.update fun file => { file with synced := true }, .next (.close key))
  | .close key =>
    if io.fails then (directory, .returned (.error .close))
    else (directory, .next (.syncDir key))
  | .syncDir key =>
    if io.fails then (directory, .returned (.error .flushDirectory))
    else (directory.syncDir, .returned (.ok key))

abbrev ProcessId := Nat

/-- A directory, the calls under way in it, and the keys returned, newest first. -/
structure Store where
  directory : Directory := {}
  calls : ProcessId → Option Point := fun _ => none
  returned : List Key := []

/-- What a power loss takes, of what it can. -/
structure Loss where
  dropsKey : Bool := true
  dropsCredential : Bool := true
  /-- How much is left of a content that was not flushed. -/
  left : Nat := 0

def Directory.afterLoss (directory : Directory) (loss : Loss) : Directory where
  key := directory.key.bind fun file =>
    if loss.dropsKey && !file.flushed then none
    else some {
      content := if file.synced then file.content else cut loss.left file.content
      synced := true
      flushed := true }
  credential := directory.credential.bind fun flushed =>
    if loss.dropsCredential && !flushed then none else some true

/-- A step of a process, or a loss of power. -/
inductive StoreLabel where
  | call (process : ProcessId)
  | step (process : ProcessId) (io : StepIo)
  /-- The client stores a credential; the rename that does it is not flushed. -/
  | enrol
  | powerLoss (loss : Loss)

/-- A device directory in any state; the content found there is flushed. -/
def deviceStore : Machine Store StoreLabel where
  initial store := (∀ process, store.calls process = none) ∧ store.returned = [] ∧
    ∀ file, store.directory.key = some file → file.synced
  step store
    | .call process =>
      match store.calls process with
      | some _ => none
      | none => some { store with calls := Function.update store.calls process (some .read) }
    | .step process io =>
      match store.calls process with
      | none => none
      | some point =>
        match point.step store.directory io with
        | (directory, .next next) =>
          some { store with
            directory
            calls := Function.update store.calls process (some next) }
        | (directory, .returned result) =>
          some {
            directory
            calls := Function.update store.calls process none
            returned := result.toOption.toList ++ store.returned }
    | .enrol =>
      let cred := store.directory.credential.getD false
      some { store with directory := { store.directory with credential := some cred } }
    | .powerLoss loss =>
      some { store with directory := store.directory.afterLoss loss, calls := fun _ => none }

end Bacchus.Device
