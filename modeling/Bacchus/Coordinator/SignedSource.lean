import Bacchus.Coordinator.Revocations

/-!
# The signed source of revocations

The signed source alone, over refreshes and restarts, and beside that of the other namespace. The
floor is a time in a file. Nothing in a signed document says which list it was made for.
-/

namespace Bacchus.Coordinator

open List Machine Json Delegation Ratchet

open Admission (Time)

variable (trust : RevocationsTrust)

/-- The delegate's bundle at a time: the root's certificate for a key verifies for the role, and the
key signed the document. -/
def Published (data : Bytes) (now : Time) (doc : RevocationsDoc) : Prop :=
  ∃ bundle cert body, trust.parseBundle data = .ok bundle ∧
    verifyDelegationCert trust.scheme trust.rootPub bundle.cert roleRevocations
      now (fun _ => false) = .ok cert ∧
    openSigned trust.scheme cert.pub tagRevocationsDoc bundle.revocations =
      .ok body ∧
    (trust.codec.read body).bind (RevocationsDoc.unmarshal trust.codec) = some doc ∧
    doc.version = revocationsVersion

section

variable {trust} {data : Bytes} {now floor : Time} {doc : RevocationsDoc}

/-- A bundle of the delegate is refused for its age alone. -/
theorem Published.accept_eq (published : Published trust data now doc) (floor : Time) :
    trust.accept data now floor =
      if doc.asOf < floor then .error (.rollback doc.asOf floor) else .ok doc := by
  obtain ⟨_, _, _, parsed, delegated, opened, read, version⟩ := published
  simp only [RevocationsTrust.accept, parsed, RevocationsTrust.verify, delegated, opened, read,
    version, ne_eq, not_true, if_false]

theorem accept_eq_ok_iff :
    trust.accept data now floor = .ok doc ↔ Published trust data now doc ∧ floor ≤ doc.asOf := by
  constructor
  · intro accepted
    unfold RevocationsTrust.accept at accepted
    cases parsed : trust.parseBundle data with
    | error => simp [parsed] at accepted
    | ok bundle =>
      simp only [parsed, RevocationsTrust.verify] at accepted
      split at accepted
      · cases accepted
      · next cert delegated =>
        split at accepted
        · cases accepted
        · cases accepted
        · next body opened =>
          split at accepted
          · cases accepted
          · next found read =>
            split_ifs at accepted with version older
            cases accepted
            exact ⟨⟨bundle, cert, body, parsed, delegated, opened, read, not_not.mp version⟩,
              Int.not_lt.mp older⟩
  · rintro ⟨published, fresh⟩
    rw [published.accept_eq, if_neg (Int.not_lt.mpr fresh)]

/-- The bytes determine the document, whatever the time. -/
theorem Published.unique (published : Published trust data now doc) {later : Time}
    {other : RevocationsDoc} (again : Published trust data later other) : other = doc := by
  obtain ⟨_, _, _, parsed, delegated, opened, read, _⟩ := published
  obtain ⟨_, _, _, reparsed, redelegated, reopened, reread, _⟩ := again
  cases parsed.symm.trans reparsed
  have first := (verifyDelegationCert_eq_ok_iff.mp delegated).2.1
  have second := (verifyDelegationCert_eq_ok_iff.mp redelegated).2.1
  cases first.symm.trans second
  cases opened.symm.trans reopened
  exact Option.some.inj (reread.symm.trans read)

end

/-- The signed source of one list. -/
structure SignedSource where
  list : Revocations := {}
  /-- The as-of time of the signed set that this process enforces, if it has one. -/
  lastAsOf : Option Time := none
  /-- The as-of times of all signed sets enforced so far, the latest first. -/
  installed : List Time := []

inductive SourceLabel where
  /-- A tick, with what it fetched if anything. The cache is written. -/
  | refresh (now : Time) (fetched : Option Bytes) (reads : Bool)
  /-- A new process, which reloads the cache. -/
  | restart (now : Time) (reads : Bool)

namespace SignedSource

/-- The set `doc` is the one enforced from now on. -/
def enforce (src : SignedSource) (list : Revocations) (doc : RevocationsDoc) : SignedSource :=
  { list, lastAsOf := some doc.asOf, installed := doc.asOf :: src.installed }

/-- The document a tick accepts. -/
def accepted (src : SignedSource) (now : Time) (fetched : Option Bytes) :
    Option RevocationsDoc :=
  fetched.bind fun data => (trust.accept data now src.list.minAsOf).toOption

def refresh (src : SignedSource) (now : Time) (fetched : Option Bytes) (reads : Bool) :
    SignedSource :=
  let list := src.list.refresh trust now fetched reads true
  match src.accepted trust now fetched with
  | none => { src with list }
  | some doc => src.enforce list doc

/-- The document a restart finds in the cache. -/
def restored (src : SignedSource) (now : Time) (reads : Bool) : Option RevocationsDoc :=
  (load zeroTime (fun data floor => (trust.accept data now floor).toOption) reads
    src.list.disk).2

/-- Only the cache survives a restart. -/
def restart (src : SignedSource) (now : Time) (reads : Bool) : SignedSource :=
  let list := Revocations.restore trust { disk := src.list.disk } now reads
  match src.restored trust now reads with
  | none => { src with list, lastAsOf := none }
  | some doc => src.enforce list doc

end SignedSource

/-- Refreshes and restarts, from a coordinator that never stored anything. -/
def signedSource : Machine SignedSource SourceLabel where
  initial src := src = {}
  step src
    | .refresh now fetched reads =>
      if src.list.started then some (src.refresh trust now fetched reads) else none
    | .restart now reads => some (src.restart trust now reads)

/-- Every restart can read the cache. -/
def ReadsCache (_ : SignedSource) : SourceLabel → Prop
  | .refresh .. => True
  | .restart _ reads => reads

/-- The floor in memory is that on disk, no set enforced so far is above it, and the cached bundle
is the enforced set. -/
structure Ratcheting (src : SignedSource) : Prop where
  lowest : zeroTime ≤ src.list.minAsOf
  persisted : peek zeroTime true src.list.disk = src.list.minAsOf
  bounded : ∀ time ∈ src.installed, time ≤ src.list.minAsOf
  ordered : src.installed.Pairwise fun later earlier => earlier ≤ later
  idle : src.lastAsOf = none → src.list.current = []
  cached : src.lastAsOf ≠ none → ∃ record doc now, src.list.disk = .record record ∧
    Published trust record.bundle now doc ∧ src.list.current = doc.revoked
  coherent : ∀ record, src.list.disk = .record record → ∀ now doc,
    Published trust record.bundle now doc → doc.asOf ≤ record.floor

section

variable {trust} {src : SignedSource} {now : Time} {fetched : Option Bytes} {reads : Bool}

/-- What one refresh does: nothing, or the fetched bundle is installed and stored. -/
theorem SignedSource.refresh_cases :
    ((∀ data, fetched = some data → ∀ doc, trust.accept data now src.list.minAsOf ≠ .ok doc) ∧
      src.refresh trust now fetched reads = src) ∨
    ∃ data doc, fetched = some data ∧ trust.accept data now src.list.minAsOf = .ok doc ∧
      src.refresh trust now fetched reads =
        src.enforce
          { src.list.install doc with
            minAsOf := max src.list.minAsOf doc.asOf
            disk := store zeroTime src.list.disk data
              (max src.list.minAsOf doc.asOf) reads true } doc := by
  cases fetched with
  | none => exact .inl ⟨nofun, rfl⟩
  | some data =>
    cases verdict : trust.accept data now src.list.minAsOf with
    | error =>
      refine .inl ⟨?_, ?_⟩
      · rintro _ ⟨⟩ doc verified
        rw [verdict] at verified
        cases verified
      · simp [SignedSource.refresh, SignedSource.accepted, verdict, Except.toOption,
          Revocations.refresh]
    | ok =>
      simp [SignedSource.refresh, SignedSource.accepted, verdict, Except.toOption,
        Revocations.refresh]

/-- What a restart that can read the cache does: it starts from the floor on disk, with the cached
bundle if that still verifies, else with nothing. -/
theorem SignedSource.restart_cases :
    (src.restored trust now true = none ∧
      src.restart trust now true =
        { src with
          list :=
            { started := true
              minAsOf := peek zeroTime true src.list.disk
              disk := src.list.disk }
          lastAsOf := none }) ∨
    ∃ record doc, src.list.disk = .record record ∧ src.restored trust now true = some doc ∧
      trust.accept record.bundle now record.floor = .ok doc ∧
      src.restart trust now true =
        src.enforce
          { current := doc.revoked
            started := true
            minAsOf := record.floor
            disk := src.list.disk
            signed := doc.revoked } doc := by
  have floor : (load zeroTime (fun data floor => (trust.accept data now floor).toOption)
      true src.list.disk).1 = peek zeroTime true src.list.disk := by
    cases src.list.disk with
    | missing | garbage => rfl
    | record =>
      simp only [load, Bool.true_eq_false, if_false, peek, if_true]
      split_ifs <;> rfl
  cases found : src.restored trust now true with
  | none =>
    refine .inl ⟨rfl, ?_⟩
    have nothing := found
    unfold SignedSource.restored at nothing
    simp only [SignedSource.restart, found, Revocations.restore, nothing, floor]
  | some doc =>
    obtain ⟨record, onDisk, same, verified⟩ := record_of_load (Prod.ext rfl found)
    have accepted : trust.accept record.bundle now record.floor = .ok doc := by
      rw [same]
      generalize trust.accept record.bundle now _ = verdict at verified
      cases verdict with
      | error => cases verified
      | ok => exact congrArg Except.ok (Option.some.inj verified)
    refine .inr ⟨record, doc, onDisk, rfl, accepted, ?_⟩
    have something := found
    unfold SignedSource.restored at something
    simp only [SignedSource.restart, found, Revocations.restore, something, same,
      Revocations.install]

theorem Ratcheting.refresh (ratcheting : Ratcheting trust src) :
    Ratcheting trust (src.refresh trust now fetched reads) := by
  rcases @SignedSource.refresh_cases trust src now fetched reads with
    ⟨_, unchanged⟩ | ⟨data, doc, _, accepted, installed⟩
  · rw [unchanged]
    exact ratcheting
  · obtain ⟨published, fresh⟩ := accept_eq_ok_iff.mp accepted
    have raised : max src.list.minAsOf doc.asOf = doc.asOf := max_eq_right fresh
    have known : peek zeroTime reads src.list.disk ≤ src.list.minAsOf := by
      rw [← ratcheting.persisted]
      have lowest := ratcheting.lowest
      rw [← ratcheting.persisted] at lowest
      cases reads with
      | true => exact le_rfl
      | false =>
        refine le_trans (le_of_eq ?_) lowest
        cases src.list.disk <;> rfl
    rw [installed, raised]
    constructor
    · exact ratcheting.lowest.trans fresh
    · exact max_eq_right (known.trans fresh)
    · intro time member
      rcases mem_cons.mp member with rfl | earlier
      · exact le_rfl
      · exact (ratcheting.bounded time earlier).trans fresh
    · exact List.Pairwise.cons (fun time earlier => (ratcheting.bounded time earlier).trans fresh)
        ratcheting.ordered
    · exact nofun
    · intro _
      exact ⟨_, doc, now, rfl, published, rfl⟩
    · rintro _ ⟨⟩ later other again
      rw [published.unique again]
      exact le_max_right _ _

theorem Ratcheting.restart (ratcheting : Ratcheting trust src) :
    Ratcheting trust (src.restart trust now true) := by
  rcases @SignedSource.restart_cases trust src now with
    ⟨_, emptied⟩ | ⟨record, doc, onDisk, _, accepted, reloaded⟩
  · rw [emptied, ratcheting.persisted]
    exact ⟨ratcheting.lowest, ratcheting.persisted, ratcheting.bounded, ratcheting.ordered,
      fun _ => rfl, fun held => absurd rfl held, ratcheting.coherent⟩
  · obtain ⟨published, fresh⟩ := accept_eq_ok_iff.mp accepted
    have floor : record.floor = src.list.minAsOf := by
      rw [← ratcheting.persisted, onDisk]
      rfl
    have newest : ∀ time ∈ src.installed, time ≤ doc.asOf := by
      intro time member
      exact (ratcheting.bounded time member).trans (floor ▸ fresh)
    rw [reloaded, floor]
    constructor
    · exact ratcheting.lowest
    · exact ratcheting.persisted
    · intro time member
      rcases mem_cons.mp member with rfl | earlier
      · rw [← floor]
        exact ratcheting.coherent record onDisk now doc published
      · exact ratcheting.bounded time earlier
    · exact List.Pairwise.cons newest ratcheting.ordered
    · exact nofun
    · intro _
      exact ⟨record, doc, now, onDisk, published, rfl⟩
    · exact ratcheting.coherent

theorem ratcheting_of_runs {labels : List SourceLabel}
    (runs : (signedSource trust).Runs ReadsCache labels src) : Ratcheting trust src := by
  refine runs.invariant ?_ ?_
  · rintro _ rfl
    exact ⟨le_rfl, rfl, nofun, .nil, fun _ => rfl, fun held => absurd rfl held, nofun⟩
  · intro before label after ratcheting met moves
    cases label with
    | refresh =>
      simp only [signedSource] at moves
      split_ifs at moves
      cases moves
      exact ratcheting.refresh
    | restart =>
      cases met
      cases moves
      exact ratcheting.restart

/-- In every run whose restarts can read the cache: the as-of time of the enforced set never
decreases, a fetch or a bundle that fails changes nothing, and a restart under which the cached
bundle still verifies un-revokes nothing. -/
theorem signed_source_ratchets {labels : List SourceLabel}
    (runs : (signedSource trust).Runs ReadsCache labels src) :
    (src.installed.Pairwise fun later earlier => earlier ≤ later) ∧
      (∀ now fetched reads,
        (∀ data, fetched = some data → ∀ doc, trust.accept data now src.list.minAsOf ≠ .ok doc) →
        src.refresh trust now fetched reads = src) ∧
      ∀ now, src.lastAsOf = none ∨ (src.restored trust now true).isSome = true →
        ∀ serial, src.list.revoked serial = true →
          (src.restart trust now true).list.revoked serial = true := by
  have ratcheting := ratcheting_of_runs runs
  refine ⟨ratcheting.ordered, ?_, ?_⟩
  · intro now fetched reads refused
    rcases @SignedSource.refresh_cases trust src now fetched reads with
      ⟨_, unchanged⟩ | ⟨data, doc, served, accepted, _⟩
    · exact unchanged
    · exact absurd accepted (refused data served doc)
  · intro now restorable serial revoked
    by_cases idle : src.lastAsOf = none
    · rw [Revocations.revoked, ratcheting.idle idle] at revoked
      cases revoked
    · obtain ⟨_, doc, earlier, onDisk, published, current⟩ := ratcheting.cached idle
      rcases @SignedSource.restart_cases trust src now with
        ⟨lost, _⟩ | ⟨same, found, onDiskToo, _, accepted, reloaded⟩
      · rcases restorable with none | some
        · exact absurd none idle
        · rw [lost] at some
          cases some
      · cases onDisk.symm.trans onDiskToo
        have again := (accept_eq_ok_iff.mp accepted).1
        rw [reloaded, published.unique again]
        rw [Revocations.revoked, current] at revoked
        exact revoked

end

/-- A trust under which the bundle of a document is its spelling. -/
def spellingTrust (codec : Json.Codec) : RevocationsTrust where
  scheme := ⟨fun _ _ _ => true, fun _ => some revocationsCert⟩
  codec := codec
  decodeBundle data := some ⟨data ++ replicate 64 0, replicate 65 0⟩
  rootPub := replicate 32 0

/-- A generation of the list, as of a text that spells a time. -/
structure Generation (codec : Json.Codec) where
  text : String
  asOf : Time
  serials : List String
  spelt : codec.parseTime text = some asOf

namespace Generation

variable {codec : Json.Codec}

def bundle (generation : Generation codec) : Bytes :=
  codec.render (signedDocument generation.text generation.serials)

def doc (generation : Generation codec) : RevocationsDoc :=
  ⟨revocationsVersion, generation.asOf, generation.serials⟩

/-- Within a thousand seconds of the epoch the delegate's certificate is good. -/
theorem published (generation : Generation codec) {now : Time} (begun : 0 ≤ now)
    (live : now < 10 ^ 12) :
    Published (spellingTrust codec) generation.bundle now generation.doc := by
  have filled : generation.bundle ≠ [] := codec.render_ne_nil _
  refine ⟨⟨generation.bundle ++ replicate 64 0, replicate 65 0⟩, revocationsCert,
    generation.bundle, ?_, ?_, ?_, ?_, rfl⟩
  · simp [RevocationsTrust.parseBundle, spellingTrust, replicate_succ]
  · apply verifyDelegationCert_eq_ok_iff.mpr
    have skewed : 0 - clockSkew ≤ now := Int.le_trans (by decide) begun
    exact ⟨rfl, rfl, rfl, rfl, skewed, live⟩
  · simp [openSigned, spellingTrust, revocationsCert, filled]
  · rw [show (spellingTrust codec).codec = codec from rfl, bundle, codec.read_render]
    exact unmarshal_signedDocument generation.spelt generation.serials

/-- Later the certificate has expired. -/
theorem not_published (generation : Generation codec) {now : Time} (late : 10 ^ 12 ≤ now)
    (doc : RevocationsDoc) : ¬ Published (spellingTrust codec) generation.bundle now doc := by
  rintro ⟨bundle, cert, body, parsed, delegated, _⟩
  obtain ⟨_, certified, _, live⟩ := verifyDelegationCert_eq_ok_iff.mp delegated
  have shape : (spellingTrust codec).parseBundle generation.bundle =
      .ok ⟨generation.bundle ++ replicate 64 0, replicate 65 0⟩ := by
    simp [RevocationsTrust.parseBundle, spellingTrust, replicate_succ]
  cases shape.symm.trans parsed
  have same : parseCert (spellingTrust codec).scheme (spellingTrust codec).rootPub
      (replicate 65 0) = .ok revocationsCert := rfl
  cases same.symm.trans certified
  exact absurd live.unexpired (Int.not_lt.mpr late)

end Generation

/-- The first start and the first generation. -/
def firstGeneration {codec : Json.Codec} (generation : Generation codec) : List SourceLabel :=
  [.restart 1 true, .refresh 1 (some generation.bundle) true]

/-- What they leave. -/
def holding {codec : Json.Codec} (generation : Generation codec) : SignedSource where
  list :=
    { current := generation.serials
      started := true
      minAsOf := generation.asOf
      disk := .record ⟨recordVersion, generation.asOf, generation.bundle⟩
      signed := generation.serials }
  lastAsOf := some generation.asOf
  installed := [generation.asOf]

theorem follow_firstGeneration {codec : Json.Codec} (generation : Generation codec)
    (fresh : zeroTime ≤ generation.asOf) :
    (signedSource (spellingTrust codec)).follow {} (firstGeneration generation) =
      some (holding generation) := by
  have accepted : (spellingTrust codec).accept generation.bundle 1 zeroTime =
      .ok generation.doc :=
    accept_eq_ok_iff.mpr ⟨generation.published (by decide) (by decide), fresh⟩
  simp [firstGeneration, holding, follow, signedSource, SignedSource.restart,
    SignedSource.restored, load, Revocations.restore, SignedSource.refresh,
    SignedSource.accepted, accepted, Except.toOption, Revocations.refresh, Revocations.install,
    SignedSource.enforce, Generation.doc, store, peek, max_eq_right fresh]

/-- Two generations that revoke different serials. -/
theorem exists_generations : ∃ (codec : Json.Codec) (newer older : Generation codec),
    newer.asOf = 10 ∧ newer.serials = ["01"] ∧ older.asOf = 5 ∧ older.serials = ["02"] := by
  obtain ⟨codec, formats⟩ := exists_codec
  obtain ⟨newText, newer⟩ := Option.isSome_iff_exists.mp (formats 10)
  obtain ⟨oldText, older⟩ := Option.isSome_iff_exists.mp (formats 5)
  exact ⟨codec, ⟨newText, 10, ["01"], codec.parseTime_of_formatTime newer⟩,
    ⟨oldText, 5, ["02"], codec.parseTime_of_formatTime older⟩, rfl, rfl, rfl, rfl⟩

/-- A restart that cannot read the cache enforces the older generation, and one after the
certificate's expiry nothing. -/
theorem restart_unrevokes : ∃ (codec : Json.Codec) (newer older : Generation codec)
    (rolledBack emptied : SignedSource),
    newer.serials = ["01"] ∧
    (signedSource (spellingTrust codec)).Runs Machine.free
      (firstGeneration newer ++ [.restart 1 false, .refresh 1 (some older.bundle) true])
        rolledBack ∧
    rolledBack.installed = [5, 10] ∧ rolledBack.list.revoked "01" = false ∧
    (signedSource (spellingTrust codec)).Runs Machine.free
      (firstGeneration newer ++ [.restart (10 ^ 12) true]) emptied ∧
    emptied.list.revoked "01" = false := by
  obtain ⟨codec, newer, older, newTime, newSerials, oldTime, oldSerials⟩ := exists_generations
  have first := follow_firstGeneration newer (by rw [newTime]; decide)
  have ancient : zeroTime ≤ older.asOf := by
    rw [oldTime]
    decide
  have accepted : (spellingTrust codec).accept older.bundle 1 zeroTime = .ok older.doc :=
    accept_eq_ok_iff.mpr ⟨older.published (by decide) (by decide), ancient⟩
  have back : (signedSource (spellingTrust codec)).follow {} (firstGeneration newer ++
      [.restart 1 false, .refresh 1 (some older.bundle) true]) =
        some (((holding newer).restart (spellingTrust codec) 1 false).refresh
          (spellingTrust codec) 1 (some older.bundle) true) := by
    rw [follow_append, first]
    rfl
  have late : (signedSource (spellingTrust codec)).follow {} (firstGeneration newer ++
      [.restart (10 ^ 12) true]) =
        some ((holding newer).restart (spellingTrust codec) (10 ^ 12) true) := by
    rw [follow_append, first]
    rfl
  refine ⟨codec, newer, older, _, _, newSerials, .ofFollow rfl back (meets_free _ _), ?_, ?_,
    .ofFollow rfl late (meets_free _ _), ?_⟩
  · simp [SignedSource.restart, SignedSource.restored, load, holding, Revocations.restore,
      SignedSource.refresh, SignedSource.accepted, accepted, Except.toOption, SignedSource.enforce,
      Generation.doc, newTime, oldTime]
  · simp [SignedSource.restart, SignedSource.restored, load, holding, Revocations.restore,
      SignedSource.refresh, SignedSource.accepted, accepted, Except.toOption, SignedSource.enforce,
      Revocations.refresh, Revocations.install, Revocations.revoked, Generation.doc, oldSerials]
  · rcases @SignedSource.restart_cases (spellingTrust codec) (holding newer) (10 ^ 12) with
      ⟨_, emptied⟩ | ⟨record, doc, onDisk, _, accepted, _⟩
    · rw [emptied]
      rfl
    · cases onDisk
      exact absurd (accept_eq_ok_iff.mp accepted).1 (newer.not_published le_rfl doc)

/-- The older generation is refused; a restart in time keeps the newer one. -/
theorem older_generation_is_refused : ∃ (codec : Json.Codec) (newer older : Generation codec),
    (signedSource (spellingTrust codec)).Runs ReadsCache (firstGeneration newer) (holding newer) ∧
    (holding newer).refresh (spellingTrust codec) 1 (some older.bundle) true = holding newer ∧
    ((holding newer).restart (spellingTrust codec) 1 true).list.revoked "01" = true := by
  obtain ⟨codec, newer, older, newTime, newSerials, oldTime, _⟩ := exists_generations
  have first := follow_firstGeneration newer (by rw [newTime]; decide)
  have runs : (signedSource (spellingTrust codec)).Runs ReadsCache (firstGeneration newer)
      (holding newer) :=
    .ofFollow rfl first ⟨rfl, trivial, trivial⟩
  obtain ⟨_, refuses, keeps⟩ := signed_source_ratchets runs
  refine ⟨codec, newer, older, runs, refuses 1 _ true ?_, keeps 1 (.inr ?_) "01" ?_⟩
  · rintro _ ⟨⟩ doc accepted
    obtain ⟨published, fresh⟩ := accept_eq_ok_iff.mp accepted
    have older : Published (spellingTrust codec) older.bundle 1 older.doc :=
      older.published (by decide) (by decide)
    rw [older.unique published] at fresh
    simp only [holding, newTime, Generation.doc, oldTime] at fresh
    exact absurd fresh (by decide)
  · have accepted : (spellingTrust codec).accept newer.bundle 1 newer.asOf = .ok newer.doc :=
      accept_eq_ok_iff.mpr ⟨newer.published (by decide) (by decide), le_rfl⟩
    have filled : newer.bundle ≠ [] := codec.render_ne_nil _
    simp [SignedSource.restored, holding, load, filled, accepted, Except.toOption]
  · simp [Revocations.revoked, holding, newSerials]

inductive Namespace where
  | admission
  | device

def Namespace.other : Namespace → Namespace
  | .admission => .device
  | .device => .admission

/-- The two lists of a coordinator, each with source, cache and floor. -/
structure NamespaceLists where
  admission : Revocations := {}
  device : Revocations := {}

namespace NamespaceLists

def list (lists : NamespaceLists) : Namespace → Revocations
  | .admission => lists.admission
  | .device => lists.device

/-- `refreshRevocationsOnce` of one namespace; the verifier is shared. -/
def refresh (lists : NamespaceLists) (target : Namespace) (now : Time) (fetched : Option Bytes)
    (reads writes : Bool) : NamespaceLists :=
  match target with
  | .admission => { lists with admission := lists.admission.refresh trust now fetched reads writes }
  | .device => { lists with device := lists.device.refresh trust now fetched reads writes }

end NamespaceLists

/-- A bundle the delegate made for one namespace, of which nothing is in the bundle. -/
structure NamespaceBundle (now : Time) where
  made : Namespace
  data : Bytes
  doc : RevocationsDoc
  published : Published trust data now doc

/-- The bundle made for one namespace is installed as the set of the other. -/
def InstalledForOther {now : Time} (lists : NamespaceLists) (bundle : NamespaceBundle trust now)
    (reads writes : Bool) : Prop :=
  trust.accept bundle.data now (lists.list bundle.made.other).minAsOf = .ok bundle.doc ∧
    ((lists.refresh trust bundle.made.other now (some bundle.data) reads writes).list
      bundle.made.other).current = bundle.doc.revoked

/-- The bundle is refused, and both lists are left as they are. -/
def RefusedByOther {now : Time} (lists : NamespaceLists) (bundle : NamespaceBundle trust now)
    (reads writes : Bool) : Prop :=
  (∀ doc, trust.accept bundle.data now (lists.list bundle.made.other).minAsOf ≠ .ok doc) ∧
    lists.refresh trust bundle.made.other now (some bundle.data) reads writes = lists

variable {trust} {now : Time}

theorem NamespaceBundle.refused (bundle : NamespaceBundle trust now) {lists : NamespaceLists}
    (older : bundle.doc.asOf < (lists.list bundle.made.other).minAsOf) (reads writes : Bool) :
    RefusedByOther trust lists bundle reads writes := by
  have verdict := bundle.published.accept_eq (lists.list bundle.made.other).minAsOf
  rw [if_pos older] at verdict
  constructor
  · intro doc accepted
    rw [verdict] at accepted
    cases accepted
  · cases target : bundle.made.other with
    | admission | device =>
      rw [target] at verdict
      simp only [NamespaceLists.list] at verdict
      simp only [NamespaceLists.refresh, Revocations.refresh, verdict]

theorem NamespaceBundle.installed (bundle : NamespaceBundle trust now) {lists : NamespaceLists}
    (fresh : (lists.list bundle.made.other).minAsOf ≤ bundle.doc.asOf) (reads writes : Bool) :
    InstalledForOther trust lists bundle reads writes := by
  have verdict := bundle.published.accept_eq (lists.list bundle.made.other).minAsOf
  rw [if_neg (Int.not_lt.mpr fresh)] at verdict
  constructor
  · exact verdict
  · cases target : bundle.made.other with
    | admission | device =>
      rw [target] at verdict
      simp only [NamespaceLists.list] at verdict
      simp only [NamespaceLists.refresh, Revocations.refresh, verdict, NamespaceLists.list,
        Revocations.install]

/-- A bundle made for one namespace is kept out of the other exactly when it is older than what the
other has accepted, and is installed there otherwise. -/
theorem foreign_bundle_refused_iff (lists : NamespaceLists) (bundle : NamespaceBundle trust now)
    (reads writes : Bool) :
    (RefusedByOther trust lists bundle reads writes ↔
      bundle.doc.asOf < (lists.list bundle.made.other).minAsOf) ∧
    (InstalledForOther trust lists bundle reads writes ↔
      (lists.list bundle.made.other).minAsOf ≤ bundle.doc.asOf) := by
  by_cases older : bundle.doc.asOf < (lists.list bundle.made.other).minAsOf
  · have refused := bundle.refused older reads writes
    exact ⟨iff_of_true refused older,
      iff_of_false (fun installed => refused.1 _ installed.1) (Int.not_le.mpr older)⟩
  · have installed := bundle.installed (Int.not_lt.mp older) reads writes
    exact ⟨iff_of_false (fun refused => refused.1 _ installed.1) older,
      iff_of_true installed (Int.not_lt.mp older)⟩

/-- The admission list is filled from its own bundle; a newer one of the device list then replaces
it. -/
theorem device_bundle_replaces_admission : ∃ (trust : RevocationsTrust)
    (own foreign : NamespaceBundle trust 1) (lists : NamespaceLists),
    own.made = .admission ∧ foreign.made = .device ∧
    lists = NamespaceLists.refresh trust {} .admission 1 (some own.data) true true ∧
    lists.admission.revoked "02" = true ∧ InstalledForOther trust lists foreign true true ∧
    (lists.refresh trust .admission 1 (some foreign.data) true true).admission.revoked "02" =
      false := by
  obtain ⟨codec, newer, older, newTime, newSerials, oldTime, oldSerials⟩ := exists_generations
  have begun : (0 : Time) ≤ 1 := by decide
  have live : (1 : Time) < 10 ^ 12 := by decide
  let own : NamespaceBundle (spellingTrust codec) 1 :=
    ⟨.admission, older.bundle, older.doc, older.published begun live⟩
  let foreign : NamespaceBundle (spellingTrust codec) 1 :=
    ⟨.device, newer.bundle, newer.doc, newer.published begun live⟩
  have ancient : zeroTime ≤ older.asOf := by
    rw [oldTime]
    decide
  have accepted : (spellingTrust codec).accept older.bundle 1 zeroTime = .ok older.doc :=
    accept_eq_ok_iff.mpr ⟨older.published begun live, ancient⟩
  have filled : NamespaceLists.refresh (spellingTrust codec) {} .admission 1 (some own.data) true
      true = { admission := { (holding older).list with started := false } } := by
    simp [NamespaceLists.refresh, Revocations.refresh, own, accepted, Revocations.install, holding,
      Generation.doc, store, peek, max_eq_right ancient]
  have fresh : older.asOf ≤ newer.asOf := by
    rw [oldTime, newTime]
    decide
  have installed : InstalledForOther (spellingTrust codec)
      { admission := { (holding older).list with started := false } } foreign true true := by
    apply foreign.installed
    exact fresh
  refine ⟨_, own, foreign, _, rfl, rfl, rfl, ?_, ?_, ?_⟩ <;> rw [filled]
  · simp [Revocations.revoked, holding, oldSerials]
  · exact installed
  · have current := installed.2
    simp only [NamespaceLists.list, foreign, Namespace.other, Generation.doc, newSerials] at current
    rw [Revocations.revoked, current]
    decide

end Bacchus.Coordinator
