import Bacchus.Net.Netip
import Bacchus.Semantics.Machine

/-!
# What a device holds

The store of `core/devicestore`: the credential of a device, the issuer's certificate, and the
admission credential beside them, in memory and, with a path, in one file that is replaced as a
whole. A record that was written is read back.
-/

namespace Bacchus.Device

/-- What one issuing response gives a device. -/
structure Credential where
  device : String := ""
  issuerCert : String := ""
  admission : String := ""
deriving DecidableEq

/-- `Presentable`: it answers a coordinator's device gate, not that of admission. -/
def Credential.presentable (credential : Credential) : Bool :=
  credential.device != "" && credential.issuerCert != ""

/-- `record`, the shape on disk. -/
structure Record where
  cred : String
  issuerCert : String
  admission : String
deriving DecidableEq

def Credential.record (credential : Credential) : Record where
  cred := credential.device
  issuerCert := credential.issuerCert
  admission := credential.admission

def Record.credential (record : Record) : Credential where
  device := record.cred
  issuerCert := record.issuerCert
  admission := record.admission

/-- `credential.json`. -/
inductive CredentialFile where
  /-- There is none, or it cannot be read. -/
  | unreadable
  | corrupt
  | record (record : Record)

/-- `Store`, with the file it saves to. -/
structure CredentialStore where
  /-- Empty for a store in memory only. -/
  path : String := ""
  cred : Credential := {}
  file : CredentialFile := .unreadable

/-- `adoptLegacyAdmission`, with the content of `admission.cred` if it can be read. -/
def adoptLegacyAdmission (content : Option String) : String :=
  match content with
  | none => ""
  | some text =>
    let trimmed := Netip.trimSpace text
    if trimmed.toList.any fun char => char == '\r' || char == '\n' then "" else trimmed

/-- What a record loads as. One from before the admission credential adopts the file. -/
def Record.loaded (record : Record) (legacy : Option String) : Credential :=
  if record.admission = "" then
    { record.credential with admission := adoptLegacyAdmission legacy }
  else record.credential

namespace CredentialStore

/-- `Open`. With anything wrong with the file, the device holds nothing. -/
def opened (path : String) (file : CredentialFile) (legacy : Option String) : CredentialStore :=
  let store : CredentialStore := { path, file }
  if path = "" then store
  else
    match file with
    | .unreadable => store
    | .corrupt => store
    | .record record => { store with cred := record.loaded legacy }

def get (store : CredentialStore) : Credential × Bool := (store.cred, store.cred.presentable)

/-- What `Put` does under the lock. -/
def hold (store : CredentialStore) (credential : Credential) : CredentialStore :=
  { store with cred := credential }

/-- `save`. The file is staged; the old one stays if the save fails. -/
def save (store : CredentialStore) (record : Record) (saves : Bool) : CredentialStore × Bool :=
  if saves then ({ store with file := .record record }, true) else (store, false)

/-- `Put`, and whether it succeeds. A save that fails does not take back what is held. -/
def put (store : CredentialStore) (credential : Credential) (saves : Bool) :
    CredentialStore × Bool :=
  if store.path = "" then (store.hold credential, true)
  else (store.hold credential).save credential.record saves

/-- In memory, and on disk if the store has a file. -/
structure Holds (store : CredentialStore) (credential : Credential) : Prop where
  memory : store.cred = credential
  disk : store.path ≠ "" → store.file = .record credential.record

variable {store next : CredentialStore} {credential : Credential} {saves : Bool}

/-- A put that succeeds is held. -/
theorem holds_of_put (put : store.put credential saves = (next, true)) : next.Holds credential := by
  unfold CredentialStore.put save at put
  split_ifs at put with memory saved
  · cases put
    exact ⟨rfl, fun path => absurd memory path⟩
  · cases put
    exact ⟨rfl, fun _ => rfl⟩
  · cases put

/-- A restart loads the record of what was held. -/
theorem Holds.opened (holds : store.Holds credential) (path : store.path ≠ "")
    (legacy : Option String) :
    (opened store.path store.file legacy).cred = credential.record.loaded legacy := by
  rw [holds.disk path]
  unfold CredentialStore.opened
  rw [if_neg path]

/-- As presentable as before: a restart may add an admission credential. -/
theorem Holds.presentable_opened (holds : store.Holds credential) (path : store.path ≠ "")
    (legacy : Option String) :
    (CredentialStore.opened store.path store.file legacy).cred.presentable =
      credential.presentable := by
  rw [holds.opened path]
  unfold Record.loaded
  split_ifs <;> rfl

end CredentialStore

inductive PutPhase where
  | saving
  | returned (ok : Bool)
deriving DecidableEq

structure PutCall where
  credential : Credential
  phase : PutPhase

/-- A store, and the calls of `Put` in the order in which they took the lock. -/
structure Puts where
  store : CredentialStore
  calls : List PutCall := []

inductive PutLabel where
  | hold (credential : Credential)
  | save (index : Nat) (saves : Bool)

/-- A call holds what it is given under the lock and saves it after that. -/
def puts : Machine Puts PutLabel where
  initial state := ∃ path file legacy, state = { store := .opened path file legacy }
  step state
    | .hold credential =>
      let phase := if state.store.path = "" then .returned true else .saving
      some ⟨state.store.hold credential, state.calls ++ [⟨credential, phase⟩]⟩
    | .save index saves =>
      match state.calls[index]? with
      | some ⟨credential, .saving⟩ =>
        let (store, ok) := state.store.save credential.record saves
        some ⟨store, state.calls.set index ⟨credential, .returned ok⟩⟩
      | _ => none

/-- No call that took the lock later has returned when this one saves. -/
def InOrder (state : Puts) : PutLabel → Prop
  | .hold _ => True
  | .save index _ => ∀ call ∈ state.calls.drop (index + 1), call.phase = .saving

instance (state : Puts) : DecidablePred (InOrder state)
  | .hold _ => inferInstanceAs (Decidable True)
  | .save _ _ => inferInstanceAs (Decidable (∀ _ ∈ _, _))

def PutCall.saved (call : PutCall) : Bool := call.phase = .returned true

/-- What the last call gave is held, and what the last one to save gave is on disk. -/
structure Tracked (state : Puts) : Prop where
  memory : ∀ held ∈ (state.calls.map PutCall.credential).getLast?, state.store.cred = held
  disk : state.store.path ≠ "" → ∀ call ∈ (state.calls.filter PutCall.saved).getLast?,
    state.store.file = .record call.credential.record

variable {state next : Puts} {label : PutLabel} {labels : List PutLabel}

theorem Tracked.step (tracked : Tracked state) (ordered : InOrder state label)
    (moves : puts.step state label = some next) : Tracked next := by
  cases label with
  | hold =>
    cases moves
    refine ⟨?_, fun path => ?_⟩
    · simp [CredentialStore.hold]
    · have kept := tracked.disk path
      replace path : state.store.path ≠ "" := path
      simpa [PutCall.saved, path, CredentialStore.hold] using kept
  | save index saves =>
    simp only [puts] at moves
    split at moves
    · next credential found =>
      obtain ⟨inside, here⟩ := List.getElem?_eq_some_iff.mp found
      obtain ⟨_, after, whole, rfl, set⟩ :=
        @List.exists_of_set _ index ⟨credential, .returned saves⟩ _ inside
      rw [here] at whole
      obtain ⟨memory, disk⟩ := tracked
      have unsaved : after.filter PutCall.saved = [] := by
        refine List.filter_eq_nil_iff.mpr fun call later => ?_
        rw [PutCall.saved, ordered call (by simp [whole, later])]
        decide
      cases saves with
      | true =>
        cases moves
        simp only [CredentialStore.save, if_true, set]
        refine ⟨by simpa [whole] using memory, fun _ => ?_⟩
        simp [unsaved, PutCall.saved]
      | false =>
        cases moves
        simp only [CredentialStore.save, Bool.false_eq_true, if_false, set]
        exact ⟨by simpa [whole] using memory, by simpa [whole, PutCall.saved] using disk⟩
    · cases moves

/-- Calls that save in the order of the lock leave on disk what is held. -/
theorem puts_agree (runs : puts.Runs InOrder labels state) (path : state.store.path ≠ "")
    (called : state.calls ≠ []) (returned : ∀ call ∈ state.calls, call.phase = .returned true) :
    state.store.file = .record state.store.get.1.record ∧
      ∀ legacy, state.store.get.1.admission ≠ "" ∨ adoptLegacyAdmission legacy = "" →
        (CredentialStore.opened state.store.path state.store.file legacy).get.1 =
          state.store.get.1 := by
  have tracked : Tracked state := by
    refine runs.invariant ?_ fun holds met step => holds.step met step
    rintro _ ⟨_, _, _, rfl⟩
    exact ⟨nofun, nofun⟩
  obtain ⟨last, ends⟩ := Option.isSome_iff_exists.mp (List.getLast?_isSome.mpr called)
  have all : state.calls.filter PutCall.saved = state.calls :=
    List.filter_eq_self.mpr fun call member => decide_eq_true (returned call member)
  have held := tracked.memory last.credential (by rw [List.getLast?_map, ends]; rfl)
  have saved := tracked.disk path last (by rw [all]; exact ends)
  have same : state.store.Holds last.credential := ⟨held, fun _ => saved⟩
  rw [CredentialStore.get, held]
  refine ⟨saved, fun legacy adopted => ?_⟩
  rw [CredentialStore.get, same.opened path, Record.loaded]
  split_ifs with old
  · rw [adopted.resolve_left (not_not.mpr old), ← old]
    rfl
  · rfl

/-- Two renewals at once, and which of them saves first. -/
def twoPuts (first second : Nat) : List PutLabel :=
  [.hold ⟨"d1", "i", "a"⟩, .hold ⟨"d2", "i", "a"⟩, .save first true, .save second true]

/-- Two puts, one after the other. -/
theorem puts_agree_in_turn : ∃ state, puts.Runs InOrder (twoPuts 0 1) state ∧
    state.store.get.1.device = "d2" ∧ state.store.file = .record state.store.get.1.record := by
  obtain ⟨state, runs, path, called, returned, held⟩ : ∃ state,
      puts.Runs InOrder (twoPuts 0 1) state ∧ state.store.path ≠ "" ∧ state.calls ≠ [] ∧
      (∀ call ∈ state.calls, call.phase = .returned true) ∧ state.store.get.1.device = "d2" := by
    refine Machine.exists_runs ⟨"credential.json", .unreadable, none, rfl⟩ ?_ ?_ <;> decide
  exact ⟨state, runs, held, (puts_agree runs path called returned).1⟩

/-- The call that took the lock first saves last; a restart brings back what it gave. -/
theorem slow_save_wins : ∃ state, puts.Runs Machine.free (twoPuts 1 0) state ∧
    state.store.path ≠ "" ∧ (∀ call ∈ state.calls, call.phase = .returned true) ∧
    state.store.get.1.device = "d2" ∧
    (CredentialStore.opened state.store.path state.store.file none).get.1.device = "d1" :=
  Machine.exists_runs ⟨"credential.json", .unreadable, none, rfl⟩
    (Machine.meets_free _ _) (by decide)

end Bacchus.Device
