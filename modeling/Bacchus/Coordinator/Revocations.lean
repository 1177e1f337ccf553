import Bacchus.Delegation.Cert
import Bacchus.Semantics.Machine
import Bacchus.Storage.Ratchet
import Bacchus.Text.Json

/-!
# Revoked serials in a coordinator

Two loops fill the list of revoked serials that one gate consults: `reloadRevocationsLoop` from a
plain file, and `refreshRevocationsLoop` from a signed document. Each installs a fresh list.
-/

namespace Bacchus.Coordinator

open List Json Delegation Ratchet

open Admission (Time)
open Delegation (DelegationError)

/-- `revocation.Doc`. -/
structure RevocationsDoc where
  version : Int
  asOf : Time
  revoked : List String

structure RevocationsBundle where
  revocations : Bytes
  cert : Bytes

/-- Why a list is refused. -/
inductive RevocationError where
  | malformed
  | delegation (failure : DelegationError)
  | document (failure : DelegationError)
  | unsupportedVersion (version : Int)
  | rollback (asOf floor : Time)

/-- What the verification takes from the libraries, and the root it is anchored on. -/
structure RevocationsTrust where
  scheme : Delegation.Scheme
  codec : Json.Codec
  decodeBundle : Bytes → Option RevocationsBundle
  rootPub : Bytes

/-- `revocation.Version`. -/
def revocationsVersion : Int := 1

def RevocationsDoc.unmarshal (codec : Json.Codec) (object : Json.Object) :
    Option RevocationsDoc := do
  return {
    version := ← member "v" readInt 0 object
    asOf := ← member "as_of" codec.readTime zeroTime object
    revoked := ← member "revoked" readTexts [] object }

variable (trust : RevocationsTrust)

def RevocationsTrust.parseBundle (data : Bytes) : Except RevocationError RevocationsBundle :=
  match trust.decodeBundle data with
  | none => .error .malformed
  | some bundle =>
    if bundle.revocations = [] ∨ bundle.cert = [] then .error .malformed else .ok bundle

/-- `revocation.Verifier.Verify`. No delegation is revoked. -/
def RevocationsTrust.verify (bundle : RevocationsBundle) (now minAsOf : Time) :
    Except RevocationError RevocationsDoc :=
  match verifyDelegationCert trust.scheme trust.rootPub bundle.cert
      roleRevocations now (fun _ => false) with
  | .error failure => .error (.delegation failure)
  | .ok cert =>
    match openSigned trust.scheme cert.pub tagRevocationsDoc
        bundle.revocations with
    | .error .malformed => .error .malformed
    | .error failure => .error (.document failure)
    | .ok body =>
      match (trust.codec.read body).bind (RevocationsDoc.unmarshal trust.codec) with
      | none => .error .malformed
      | some doc =>
        if doc.version ≠ revocationsVersion then .error (.unsupportedVersion doc.version)
        else if doc.asOf < minAsOf then .error (.rollback doc.asOf minAsOf)
        else .ok doc

/-- A fetched bundle, read and verified. -/
def RevocationsTrust.accept (data : Bytes) (now minAsOf : Time) :
    Except RevocationError RevocationsDoc :=
  match trust.parseBundle data with
  | .error failure => .error failure
  | .ok bundle => trust.verify bundle now minAsOf

def revocationFileVersion : Int := 1

/-- `LoadRevocationList`: the serials in a file that could be read. -/
def loadRevocationList (codec : Json.Codec) (content : Bytes) : Option (List String) := do
  let object ← codec.read content
  let version ← member "version" readInt 0 object
  let revoked ← member "revoked" readTexts [] object
  if version = revocationFileVersion then return revoked else none

/-- One list of revoked serials and the state of its refresh loop. What each source listed last is
kept for the statements. -/
structure Revocations where
  current : List String := []
  started : Bool := false
  minAsOf : Time := zeroTime
  disk : Ratchet.Disk Time := .missing
  plain : List String := []
  signed : List String := []

/-- What a gate is told about a serial. -/
def Revocations.revoked (state : Revocations) (serial : String) : Bool := serial ∈ state.current

inductive RevocationsLabel where
  /-- A tick of the plain file, with its content if it could be read. -/
  | reload (content : Option Bytes)
  /-- The start of the signed source, which restores its cache. -/
  | restore (now : Time) (reads : Bool)
  /-- A tick of the signed source, with what it fetched if anything. -/
  | refresh (now : Time) (fetched : Option Bytes) (reads writes : Bool)

/-- `load` in `reloadRevocationsLoop`. A file that does not load leaves the list. -/
def Revocations.reload (state : Revocations) (content : Option Bytes) : Revocations :=
  match content.bind (loadRevocationList trust.codec) with
  | none => state
  | some serials => { state with current := serials, plain := serials }

/-- `installRevocationsDoc`. -/
def Revocations.install (state : Revocations) (doc : RevocationsDoc) : Revocations :=
  { state with current := doc.revoked, signed := doc.revoked }

/-- `startRevocationsNamespace`, up to its loop. -/
def Revocations.restore (state : Revocations) (now : Time) (reads : Bool) : Revocations :=
  let loaded := load zeroTime (fun data floor => (trust.accept data now floor).toOption)
    reads state.disk
  let state := { state with started := true, minAsOf := loaded.1 }
  match loaded.2 with
  | none => state
  | some doc => state.install doc

/-- `refreshRevocationsOnce`. -/
def Revocations.refresh (state : Revocations) (now : Time) (fetched : Option Bytes)
    (reads writes : Bool) : Revocations :=
  match fetched with
  | none => state
  | some data =>
    match trust.accept data now state.minAsOf with
    | .error _ => state
    | .ok doc =>
      let minAsOf := max state.minAsOf doc.asOf
      { state.install doc with
        minAsOf
        disk := store zeroTime state.disk data minAsOf reads writes }

/-- Any interleaving of the two loops, from any cache on disk. -/
def revocations : Machine Revocations RevocationsLabel where
  initial state := ∃ disk, state = { disk }
  step state
    | .reload content => some (state.reload trust content)
    | .restore now reads => if state.started then none else some (state.restore trust now reads)
    | .refresh now fetched reads writes =>
      if state.started then some (state.refresh trust now fetched reads writes) else none

/-- Everything either source listed last is revoked. -/
def Revocations.Union (state : Revocations) : Prop :=
  ∀ serial, serial ∈ state.plain ∨ serial ∈ state.signed → state.revoked serial

/-- The condition on a step: an installed list names every serial the other source listed last. -/
def Covers (state : Revocations) : RevocationsLabel → Prop
  | .reload content => ∀ serials, content.bind (loadRevocationList trust.codec) = some serials →
      state.signed ⊆ serials
  | .restore now reads => ∀ doc,
      (load zeroTime (fun data floor => (trust.accept data now floor).toOption)
        reads state.disk).2 = some doc → state.plain ⊆ doc.revoked
  | .refresh now fetched _ _ => ∀ data, fetched = some data → ∀ doc,
      trust.accept data now state.minAsOf = .ok doc → state.plain ⊆ doc.revoked

variable {trust} {state : Revocations}

theorem union_iff : state.Union ↔ state.plain ⊆ state.current ∧ state.signed ⊆ state.current := by
  simp only [Revocations.Union, Revocations.revoked, decide_eq_true_iff]
  constructor
  · intro both
    exact ⟨fun serial listed => both serial (.inl listed),
      fun serial listed => both serial (.inr listed)⟩
  · rintro ⟨plain, signed⟩ serial (listed | listed)
    · exact plain listed
    · exact signed listed

theorem union_reload_iff (union : state.Union) (content : Option Bytes) :
    (state.reload trust content).Union ↔ Covers trust state (.reload content) := by
  simp only [Revocations.reload, Covers]
  cases found : content.bind (loadRevocationList trust.codec) with
  | none => simp [union]
  | some => simp [union_iff]

theorem union_restore_iff (union : state.Union) (now : Time) (reads : Bool) :
    (state.restore trust now reads).Union ↔ Covers trust state (.restore now reads) := by
  rw [union_iff] at union ⊢
  simp only [Revocations.restore, Covers]
  cases found : (load zeroTime (fun data floor => (trust.accept data now floor).toOption)
      reads state.disk).2 with
  | none => simp [union]
  | some => simp [Revocations.install]

theorem union_refresh_iff (union : state.Union) (now : Time) (fetched : Option Bytes)
    (reads writes : Bool) :
    (state.refresh trust now fetched reads writes).Union ↔
      Covers trust state (.refresh now fetched reads writes) := by
  cases fetched with
  | none => simp [Revocations.refresh, Covers, union]
  | some data =>
    cases accepted : trust.accept data now state.minAsOf with
    | error => simp [Revocations.refresh, Covers, accepted, union]
    | ok => simp [Revocations.refresh, Covers, accepted, union_iff, Revocations.install]

/-- Along any interleaving of the two loops, everything either source listed last is revoked in
every state if and only if each list installed covers the other source's. -/
theorem union_throughout_iff {labels : List RevocationsLabel} {start final : Revocations}
    (valid : (revocations trust).initial start)
    (followed : (revocations trust).follow start labels = some final) :
    (revocations trust).Throughout Revocations.Union start labels ↔
      (revocations trust).Meets (Covers trust) start labels := by
  have initially : start.Union := by
    obtain ⟨_, rfl⟩ := valid
    rintro serial (listed | listed) <;> cases listed
  refine Machine.throughout_iff_meets ?_ initially followed
  intro state label next union transition
  cases label with
  | reload content =>
    cases transition
    exact union_reload_iff union content
  | restore now reads =>
    simp only [revocations] at transition
    split at transition
    · cases transition
    · cases transition
      exact union_restore_iff union now reads
  | refresh now fetched reads writes =>
    simp only [revocations] at transition
    split at transition
    · cases transition
      exact union_refresh_iff union now fetched reads writes
    · cases transition

/-- The certificate of the delegate, good for a thousand seconds. -/
def revocationsCert : Delegation.Cert where
  version := version
  serial := "d1"
  role := roleRevocations
  pub := replicate 32 0
  notBefore := 0
  notAfter := 10 ^ 12

/-- A trust under which every bundle holds one document. -/
def trustIn (codec : Json.Codec) (document : Json.Object) : RevocationsTrust where
  scheme := ⟨fun _ _ _ => true, fun _ => some revocationsCert⟩
  codec := codec
  decodeBundle _ := some ⟨codec.render document ++ replicate 64 0, replicate 65 0⟩
  rootPub := replicate 32 0

variable {codec : Json.Codec}

theorem accept_trustIn {document : Json.Object} {doc : RevocationsDoc}
    (spelt : RevocationsDoc.unmarshal codec document = some doc)
    (current : doc.version = revocationsVersion) {data : Bytes} {floor : Time}
    (fresh : floor ≤ doc.asOf) : (trustIn codec document).accept data 1 floor = .ok doc := by
  have cert : verifyDelegationCert (trustIn codec document).scheme
      (trustIn codec document).rootPub (replicate 65 0) roleRevocations 1
      (fun _ => false) = .ok revocationsCert := by
    apply verifyDelegationCert_eq_ok_iff.mpr
    exact ⟨rfl, rfl, rfl, by decide⟩
  have body : openSigned (trustIn codec document).scheme revocationsCert.pub
      tagRevocationsDoc (codec.render document ++ replicate 64 0) =
        .ok (codec.render document) := by
    simp [openSigned, trustIn, revocationsCert, codec.render_ne_nil]
  have parsed : (trustIn codec document).parseBundle data =
      .ok ⟨codec.render document ++ replicate 64 0, replicate 65 0⟩ := by
    simp [RevocationsTrust.parseBundle, trustIn, replicate_succ]
  have read : ((trustIn codec document).codec.read (codec.render document)).bind
      (RevocationsDoc.unmarshal (trustIn codec document).codec) = some doc := by
    rw [show (trustIn codec document).codec = codec from rfl, codec.read_render]
    exact spelt
  simp only [RevocationsTrust.accept, parsed, RevocationsTrust.verify, cert, body, read, current,
    Int.not_lt.mpr fresh, ne_eq, not_true, if_false]

/-- The plain file and the signed document of the runs below. -/
def plainFile (serials : List String) : Json.Object :=
  [("version", .number revocationFileVersion), ("revoked", .texts serials)]

def signedDocument (asOf : String) (serials : List String) : Json.Object :=
  [("v", .number revocationsVersion), ("as_of", .text asOf), ("revoked", .texts serials)]

theorem loadRevocationList_plainFile (codec : Json.Codec) (serials : List String) :
    loadRevocationList codec (codec.render (plainFile serials)) = some serials := by
  have version : member "version" readInt 0 (plainFile serials) =
      some revocationFileVersion := by
    simp +decide [plainFile, readInt, revocationFileVersion]
  have revoked : member "revoked" readTexts [] (plainFile serials) = some serials := by
    simp +decide [plainFile, readTexts]
  simp [loadRevocationList, codec.read_render, version, revoked]

/-- A signed document is read back. -/
theorem unmarshal_signedDocument {time : Time} {asOf : String}
    (parsed : codec.parseTime asOf = some time) (serials : List String) :
    RevocationsDoc.unmarshal codec (signedDocument asOf serials) =
      some ⟨revocationsVersion, time, serials⟩ := by
  simp +decide [RevocationsDoc.unmarshal, signedDocument, readInt, readTexts,
    Json.Codec.readTime, parsed, revocationsVersion]

/-- The file is loaded, the signed source starts without a cache, and a document is accepted. -/
def migration (codec : Json.Codec) : List RevocationsLabel :=
  [.reload (some (codec.render (plainFile ["01"]))), .restore 1 true,
    .refresh 1 (some []) true true]

/-- What the migration leaves when the document lists `serials`. -/
def migrated (serials : List String) : Revocations where
  current := serials
  started := true
  minAsOf := 0
  disk := .record ⟨recordVersion, 0, []⟩
  plain := ["01"]
  signed := serials

theorem follow_migration {asOf : String} (parsed : codec.parseTime asOf = some 0)
    (serials : List String) :
    (revocations (trustIn codec (signedDocument asOf serials))).follow {} (migration codec) =
      some (migrated serials) := by
  have fresh : zeroTime ≤ 0 := by decide
  have accepted : (trustIn codec (signedDocument asOf serials)).accept [] 1 zeroTime =
      .ok ⟨revocationsVersion, 0, serials⟩ :=
    accept_trustIn (unmarshal_signedDocument parsed serials) rfl fresh
  have file : loadRevocationList (trustIn codec (signedDocument asOf serials)).codec
      (codec.render (plainFile ["01"])) = some ["01"] := loadRevocationList_plainFile codec ["01"]
  simp [migration, migrated, Machine.follow, revocations, Revocations.reload, file,
    Revocations.restore, load, Revocations.refresh, accepted, Revocations.install,
    store, peek, max_eq_right fresh]

/-- A serial of the plain file is not revoked once there is a signed list. -/
theorem signed_source_drops_plain : ∃ trust labels final,
    (revocations trust).Runs Machine.free labels final ∧ "01" ∈ final.plain ∧
      final.revoked "01" = false := by
  obtain ⟨codec, formats⟩ := exists_codec
  obtain ⟨_, formatted⟩ := Option.isSome_iff_exists.mp (formats 0)
  have followed := follow_migration (codec.parseTime_of_formatTime formatted) ["07"]
  exact ⟨_, _, _, .ofFollow ⟨_, rfl⟩ followed (Machine.meets_free _ _), mem_cons_self, by decide⟩

/-- A signed list that covers the plain file. -/
theorem covering_document_keeps_both : ∃ trust labels final,
    (revocations trust).follow {} labels = some final ∧ final.plain = ["01"] ∧
      final.signed = ["01", "07"] ∧ (revocations trust).Throughout Revocations.Union {} labels := by
  obtain ⟨codec, formats⟩ := exists_codec
  obtain ⟨asOf, formatted⟩ := Option.isSome_iff_exists.mp (formats 0)
  have parsed := codec.parseTime_of_formatTime formatted
  have followed := follow_migration parsed ["01", "07"]
  refine ⟨_, _, _, followed, rfl, rfl, (union_throughout_iff ⟨_, rfl⟩ followed).mpr ?_⟩
  have file : loadRevocationList (trustIn codec (signedDocument asOf ["01", "07"])).codec
      (codec.render (plainFile ["01"])) = some ["01"] := loadRevocationList_plainFile codec ["01"]
  have accepted : ∀ data, (trustIn codec (signedDocument asOf ["01", "07"])).accept data 1
      zeroTime = .ok ⟨revocationsVersion, 0, ["01", "07"]⟩ := fun data =>
    accept_trustIn (unmarshal_signedDocument parsed ["01", "07"]) rfl (by decide)
  simp [migration, Machine.Meets, revocations, Revocations.reload, file, Revocations.restore,
    load, Covers, accepted]

end Bacchus.Coordinator
