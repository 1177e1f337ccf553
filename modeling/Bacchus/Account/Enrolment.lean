import Bacchus.Account.Client

/-!
# A claim code is spent once

The request that carries a claim code spends it, whether or not the response arrives. So a call
sends one such request at most, and recovers from a lost response by collecting.
-/

namespace Bacchus.AccountClient

open Bacchus.Device (Credential CredentialStore)
open List Task

/-- What a call changes of the world, but for the health of addresses. -/
structure Seen where
  store : CredentialStore
  events : List Event

def World.seen (world : World) : Seen := ⟨world.store, world.events⟩

/-- From `before`, whatever is answered, the call ends as `Post` says. -/
abbrev Ensures {Result : Type} (before : Seen) (call : Call Result)
    (Post : Seen → Result → Prop) : Prop :=
  call.Tracks World.seen (fun _ => True) Post before

/-- The request that carries the claim code. -/
def Event.enrols : Event → Bool
  | .exchanged ⟨_, .enroll ..⟩ _ _ => true
  | _ => false

def Event.failedWrite : Event → Bool
  | .stored _ false => true
  | _ => false

/-- One of the events is an answer in which `base` gave out `challenge`. -/
def Issued (codec : Codec) (events : List Event) (base : String) (challenge : Bytes) : Prop :=
  ∃ body held, .exchanged ⟨base, .challenge⟩ (.answered 200 body) held ∈ events ∧
    codec.challenge (body.take maxResponseBytes) = some challenge

/-- Nothing that was done meanwhile carries a claim code. -/
def Unspent (before after : Seen) : Prop :=
  ∃ added : List Event, after.events = added ++ before.events ∧
    ∀ event ∈ added, event.enrols = false

/-- Only requests were sent. -/
structure Quiet (before after : Seen) : Prop where
  store : after.store = before.store
  unspent : Unspent before after

/-- How a credential is stored, or not, without a claim code. -/
structure Stored (before after : Seen) (outcome : Except Failure Credential) : Prop where
  unspent : Unspent before after
  holds : ∀ cred, outcome = .ok cred →
    after.store.Holds cred ∧ cred.presentable
  untouched : ∀ failure, outcome = .error failure →
    (∀ event ∈ after.events, event.failedWrite = false) → after.store = before.store

section

variable {before between after : Seen} {outcome : Except Failure Credential}

theorem Unspent.trans (first : Unspent before between) (second : Unspent between after) :
    Unspent before after := by
  obtain ⟨added, events, free⟩ := first
  obtain ⟨added', events', free'⟩ := second
  refine ⟨added' ++ added, ?_, ?_⟩
  · rw [events', events, append_assoc]
  · intro event member
    rcases mem_append.mp member with later | earlier
    · exact free' event later
    · exact free event earlier

theorem Unspent.cons {event : Event} (events : after.events = event :: before.events)
    (free : event.enrols = false) : Unspent before after :=
  ⟨[event], events, forall_mem_singleton.mpr free⟩

theorem Quiet.unsent (store : after.store = before.store) (events : after.events = before.events) :
    Quiet before after :=
  ⟨store, [], events, nofun⟩

theorem Quiet.refl (seen : Seen) : Quiet seen seen := .unsent rfl rfl

theorem Quiet.trans (first : Quiet before between) (second : Quiet between after) :
    Quiet before after :=
  ⟨second.store.trans first.store, first.unspent.trans second.unspent⟩

theorem Quiet.failed (quiet : Quiet before after) (failure : Failure) :
    Stored before after (.error failure) where
  unspent := quiet.unspent
  holds := nofun
  untouched _ _ _ := quiet.store

theorem Quiet.stored (quiet : Quiet before between) (stored : Stored between after outcome) :
    Stored before after outcome where
  unspent := quiet.unspent.trans stored.unspent
  holds := stored.holds
  untouched failure failed kept := (stored.untouched failure failed kept).trans quiet.store

theorem Stored.failed {failure : Failure} (stored : Stored before after (.error failure))
    (reported : Failure) : Stored before after (.error reported) where
  unspent := stored.unspent
  holds := nofun
  untouched _ _ := stored.untouched failure rfl

end

section

variable {client : Client} {before : Seen} {Body : Type}

/-- One request, with what is made of its reply. -/
theorem ensures_post (base : String) (payload : Payload) (decode : Bytes → Option Body) :
    Ensures before (client.post base payload decode) fun after outcome =>
      after.store = before.store ∧
        (after.events = before.events ∧ outcome = .error (.build payload.path) ∨
          ∃ reply, after.events =
              .exchanged ⟨base, payload⟩ reply before.store.cred :: before.events ∧
            outcome = client.codec.received payload.path decode reply) := by
  refine tracks_await fun world answer _ seen => ?_
  subst seen
  split
  · exact ⟨rfl, .inr ⟨answer.reply, rfl, rfl⟩⟩
  · exact ⟨rfl, .inl ⟨rfl, rfl⟩⟩

theorem ensures_post_quiet (base : String) {payload : Payload} (decode : Bytes → Option Body)
    (other : ∀ reply held, (Event.exchanged ⟨base, payload⟩ reply held).enrols = false) :
    Ensures before (client.post base payload decode) fun after _ => Quiet before after := by
  refine (ensures_post base payload decode).imp fun after _ sent => ?_
  obtain ⟨store, ⟨events, -⟩ | ⟨reply, events, -⟩⟩ := sent
  · exact .unsent store events
  · exact ⟨store, .cons events (other reply _)⟩

theorem received_eq_ok {codec : Codec} {path : String} {decode : Bytes → Option Body}
    {reply : Reply} {value : Body} (ok : codec.received path decode reply = .ok value) :
    ∃ body, reply = .answered 200 body ∧ decode (body.take maxResponseBytes) = some value := by
  cases reply with
  | failed | unread => cases ok
  | answered status body =>
    simp only [Codec.received] at ok
    split at ok
    · cases ok
    · next accepted =>
      split at ok
      · cases ok
      · next decoded found =>
        cases ok
        exact ⟨body, by rw [not_not.mp accepted], found⟩

theorem ensures_markUnreachable (base : String) :
    Ensures before (markUnreachable base) fun after _ => after = before :=
  tracks_quiet fun _ _ => rfl

theorem ensures_baseOrder :
    Ensures before client.baseOrder fun after order =>
      after = before ∧ order.Perm client.bases := by
  refine tracks_await fun world answer _ seen => ⟨seen, ?_⟩
  refine perm_append_comm.trans ?_
  exact filter_append_perm _ client.bases

theorem ensures_challengeFrom (base : String) :
    Ensures before (client.challengeFrom base) fun after outcome =>
      Quiet before after ∧
        ∀ challenge, outcome = .ok challenge → Issued client.codec after.events base challenge := by
  refine Task.Tracks.bind (ensures_post base .challenge client.codec.challenge) ?_
  rintro after (failure | challenge) ⟨store, ⟨events, unbuilt⟩ | ⟨reply, events, outcome⟩⟩
  · exact ⟨.unsent store events, nofun⟩
  · exact ⟨⟨store, .cons events rfl⟩, nofun⟩
  · cases unbuilt
  · have quiet : Quiet before after := ⟨store, .cons events rfl⟩
    obtain ⟨body, rfl, decoded⟩ := received_eq_ok outcome.symm
    dsimp only
    split
    · exact ⟨quiet, nofun⟩
    · refine ⟨quiet, fun given same => ?_⟩
      cases same
      exact ⟨body, before.store.cred, by rw [events]; exact mem_cons_self, decoded⟩

theorem ensures_exchangesOver {exchange : String → Call (Except Failure Body)}
    (quiet : ∀ base seen, Ensures seen (exchange base) fun after _ => Quiet seen after)
    (last : Except Failure Body) (order : List String) :
    Ensures before (Client.exchangesOver exchange last order)
      fun after _ => Quiet before after := by
  induction order generalizing before last with
  | nil => exact .refl before
  | cons base rest ih =>
    refine Task.Tracks.bind (quiet base before) ?_
    rintro between (failure | body) sent
    · dsimp only
      split
      · refine Task.Tracks.bind (ensures_markUnreachable base) ?_
        rintro _ _ rfl
        exact (ih _).imp fun _ _ => sent.trans
      · exact sent
    · exact sent

theorem ensures_issueCredentialOnce (signer : Signer) (base : String) :
    Ensures before (client.issueCredentialOnce signer base) fun after _ => Quiet before after := by
  refine Task.Tracks.bind (ensures_challengeFrom base) ?_
  rintro between (failure | challenge) ⟨quiet, -⟩
  · exact quiet
  · dsimp only
    split
    · exact quiet
    · exact (ensures_post_quiet base _ fun _ _ => rfl).imp fun _ _ => quiet.trans

theorem ensures_issueCredentialAt (signer : Signer) (base : String) :
    Ensures before (client.issueCredentialAt signer base) fun after _ => Quiet before after := by
  refine Task.Tracks.bind (ensures_issueCredentialOnce signer base) fun between outcome quiet => ?_
  split
  · split
    · exact (ensures_issueCredentialOnce signer base).imp fun _ _ => quiet.trans
    · exact quiet
  · exact quiet

theorem ensures_issueCredential (signer : Signer) :
    Ensures before (client.issueCredential signer) fun after _ => Quiet before after := by
  refine Task.Tracks.bind ensures_baseOrder ?_
  rintro _ order ⟨rfl, -⟩
  exact ensures_exchangesOver (fun base _ => ensures_issueCredentialAt signer base) _ order

end

section

variable {client : Client} {device : Device} {before : Seen}

theorem ensures_carried (issued : Credential) :
    Ensures before (Client.carried issued) fun after carried =>
      after = before ∧ carried.presentable = issued.presentable := by
  unfold Client.carried
  split
  · refine Task.Tracks.bind (tracks_quiet fun _ _ => rfl) ?_
    rintro _ held rfl
    split <;> exact ⟨rfl, rfl⟩
  · exact ⟨rfl, rfl⟩

theorem ensures_put (cred : Credential) :
    Ensures before (put cred) fun after kept =>
      after.events = .stored cred kept :: before.events ∧
        ∃ saves, before.store.put cred saves = (after.store, kept) := by
  refine tracks_await fun world answer _ seen => ?_
  subst seen
  exact ⟨rfl, answer.saves, rfl⟩

theorem ensures_persist (resp : CredentialsResponse) :
    Ensures before (Client.persist resp) (Stored before) := by
  unfold Client.persist
  split
  · next presentable =>
    refine Task.Tracks.bind (ensures_carried resp.credential) ?_
    rintro before issued ⟨rfl, same⟩
    refine Task.Tracks.bind (ensures_put issued) ?_
    rintro after kept ⟨events, saves, put⟩
    have unspent : Unspent before after := .cons events rfl
    cases kept with
    | true =>
      refine ⟨unspent, fun cred ok => ?_, nofun⟩
      cases ok
      exact ⟨Device.CredentialStore.holds_of_put put, same.trans presentable⟩
    | false =>
      refine ⟨unspent, nofun, fun failure _ kept => ?_⟩
      have wrote := kept (.stored issued false) (by rw [events]; exact mem_cons_self)
      cases wrote
  · exact (Quiet.refl before).failed _

theorem ensures_collect : Ensures before (client.collect device) (Stored before) := by
  refine Task.Tracks.bind (ensures_issueCredential _) ?_
  rintro between (failure | resp) quiet
  · exact quiet.failed failure
  · exact (ensures_persist resp).imp fun _ _ => quiet.stored

theorem ensures_recover (otherwise : Failure) :
    Ensures before (client.recover device otherwise) (Stored before) := by
  refine Task.Tracks.bind ensures_collect ?_
  rintro after (failure | cred) stored
  · exact stored.failed otherwise
  · exact stored

theorem ensures_settle (answer : Except Failure CredentialsResponse) :
    Ensures before (client.settle device answer) (Stored before) := by
  unfold Client.settle
  split
  · exact ensures_persist _
  · exact ensures_recover _
  · split
    · exact ensures_recover _
    · exact (Quiet.refl before).failed _
  · exact (Quiet.refl before).failed _

end

section

variable {client : Client} {device : Device} {store : CredentialStore}

/-- An address that gave out a challenge, or none after a failure of each. -/
theorem ensures_firstChallenge {before : Seen} (err : Option Failure) (order : List String) :
    Ensures before (client.firstChallenge err order) fun after outcome =>
      Quiet before after ∧ ∀ found, outcome = .ok found →
        found.base ∈ order ∧ Issued client.codec after.events found.base found.challenge ∨
          found.base = "" ∧ (found.err = none → order = [] ∧ err = none) := by
  induction order generalizing before err with
  | nil =>
    refine ⟨.refl before, fun found ok => ?_⟩
    cases ok
    exact .inr ⟨rfl, fun absent => ⟨rfl, absent⟩⟩
  | cons candidate rest ih =>
    refine Task.Tracks.bind (ensures_challengeFrom candidate) ?_
    rintro between (failure | challenge) ⟨quiet, issued⟩
    · dsimp only
      split
      · refine Task.Tracks.bind (ensures_markUnreachable candidate) ?_
        rintro between _ rfl
        refine (ih (some failure)).imp fun after outcome tried => ?_
        refine ⟨quiet.trans tried.1, fun found ok => ?_⟩
        rcases tried.2 found ok with ⟨member, issued⟩ | ⟨spent, failed⟩
        · exact .inl ⟨mem_cons_of_mem candidate member, issued⟩
        · refine .inr ⟨spent, fun absent => ?_⟩
          cases (failed absent).2
      · exact ⟨quiet, nofun⟩
    · refine ⟨quiet, fun found ok => ?_⟩
      cases ok
      exact .inl ⟨mem_cons_self, issued challenge rfl⟩

/-- What is asked of a call that has begun with `store`. -/
structure Enrolment (client : Client) (device : Device) (store : CredentialStore) (after : Seen)
    (outcome : Except Failure Credential) : Prop where
  once : after.events.countP Event.enrols ≤ 1
  sent : ∀ earlier base claim pub label challenge sig reply held,
    .exchanged ⟨base, .enroll claim pub label challenge sig⟩ reply held :: earlier <:+
        after.events →
      base ∈ client.bases ∧ Issued client.codec earlier base challenge ∧
        device.signEnroll client.audienceBytes challenge = .ok sig ∧ held.presentable = false
  holds : ∀ cred, outcome = .ok cred →
    after.store.Holds cred ∧ cred.presentable
  untouched : ∀ failure, outcome = .error failure →
    (∀ event ∈ after.events, event.failedWrite = false) → after.store = store

variable {events : List Event}

/-- A suffix that begins with an enrolment lies below the events that are none. -/
theorem suffix_of_suffix_append {event : Event} {added earlier : List Event}
    (free : ∀ other ∈ added, other.enrols = false) (enrols : event.enrols)
    (suffix : event :: earlier <:+ added ++ events) : event :: earlier <:+ events := by
  induction added with
  | nil => exact suffix
  | cons other rest ih =>
    rcases suffix_cons_iff.mp suffix with same | within
    · cases same
      rw [free event mem_cons_self] at enrols
      cases enrols
    · exact ih (fun other member => free other (.tail _ member)) within

theorem countP_eq_zero (free : ∀ event ∈ events, event.enrols = false) :
    events.countP Event.enrols = 0 := by
  rw [List.countP_eq_zero]
  intro event member
  rw [free event member]
  exact Bool.false_ne_true

variable {outcome : Except Failure Credential}

theorem Stored.enrolment {after : Seen} (stored : Stored ⟨store, []⟩ after outcome) :
    Enrolment client device store after outcome := by
  obtain ⟨_, events, free⟩ := stored.unspent
  rw [append_nil] at events
  refine ⟨?_, ?_, stored.holds, stored.untouched⟩
  · rw [events, countP_eq_zero free]
    exact Nat.zero_le 1
  · intro earlier base claim pub label challenge sig reply held suffix
    have member := suffix.subset mem_cons_self
    rw [events] at member
    cases free _ member

variable {challenge : Bytes}

/-- A call that sends one, after asking for challenges and before storing anything. -/
theorem enrolment_of_sent {between sent after : Seen} {base claim label : String} {sig : Bytes}
    {reply : Reply} (quiet : Quiet ⟨store, []⟩ between) (configured : base ∈ client.bases)
    (issued : Issued client.codec between.events base challenge)
    (signed : device.signEnroll client.audienceBytes challenge = .ok sig)
    (unenrolled : store.cred.presentable = false) (unchanged : sent.store = between.store)
    (events : sent.events =
      .exchanged ⟨base, .enroll claim device.pub label challenge sig⟩ reply between.store.cred ::
        between.events) (stored : Stored sent after outcome) :
    Enrolment client device store after outcome := by
  obtain ⟨_, all, free⟩ := stored.unspent
  obtain ⟨_, before, free'⟩ := quiet.unspent
  rw [append_nil] at before
  rw [events, before] at all
  refine ⟨?_, ?_, stored.holds, fun failure failed kept => ?_⟩
  · rw [all, countP_append, countP_cons, countP_eq_zero free, countP_eq_zero free']
    exact le_rfl
  · intro earlier base' claim' pub label' challenge' sig' reply' held suffix
    rw [all] at suffix
    rcases suffix_cons_iff.mp (suffix_of_suffix_append free rfl suffix) with same | within
    · cases same
      rw [before] at issued
      exact ⟨configured, issued, signed, by rw [quiet.store]; exact unenrolled⟩
    · cases free' _ (within.subset mem_cons_self)
  · rw [stored.untouched failure failed kept, unchanged, quiet.store]

theorem ensures_redeem {between : Seen} {base : String} (claim label : String)
    (quiet : Quiet ⟨store, []⟩ between) (configured : base ∈ client.bases)
    (issued : Issued client.codec between.events base challenge)
    (unenrolled : store.cred.presentable = false) :
    Ensures between (client.redeem device claim label base challenge)
      (Enrolment client device store) := by
  unfold Client.redeem
  split
  · exact (quiet.failed _).enrolment
  · next sig signed =>
    refine Task.Tracks.bind (ensures_post base _ client.codec.credentials) ?_
    rintro sent answer ⟨unchanged, ⟨events, rfl⟩ | ⟨reply, events, rfl⟩⟩
    · -- The request could not be built, so nothing is to be recovered either.
      exact ((quiet.trans (.unsent unchanged events)).failed _).enrolment
    · exact (ensures_settle _).imp fun _ _ =>
        enrolment_of_sent quiet configured issued signed unenrolled unchanged events

theorem ensures_enrolled {before : Seen} :
    Ensures before enrolled fun after held =>
      after = before ∧ held = before.store.cred.presentable := by
  refine tracks_await fun world answer _ seen => ⟨seen, ?_⟩
  rw [← seen]
  rfl

theorem ensures_enroll (claim label : String) :
    Ensures ⟨store, []⟩ (client.enroll device claim label) (Enrolment client device store) := by
  have refused : ∀ failure, Enrolment client device store ⟨store, []⟩ (.error failure) :=
    fun failure => ((Quiet.refl _).failed failure).enrolment
  unfold Client.enroll
  split
  · exact refused _
  · refine Task.Tracks.bind ensures_enrolled ?_
    rintro _ held ⟨rfl, asked⟩
    split
    · exact refused _
    · next absent =>
      have unenrolled : store.cred.presentable = false := by
        rw [← asked]
        exact Bool.eq_false_iff.mpr absent
      refine Task.Tracks.bind ensures_baseOrder ?_
      rintro _ order ⟨rfl, perm⟩
      refine Task.Tracks.bind (ensures_firstChallenge none order) ?_
      rintro between (failure | found) ⟨quiet, tried⟩
      · exact (quiet.failed failure).enrolment
      · dsimp only
        rcases tried found rfl with ⟨member, issued⟩ | ⟨spent, failed⟩
        · have configured := perm.mem_iff.mp member
          have present : found.base ≠ "" := fun empty => client.named (empty ▸ configured)
          rw [if_neg present]
          exact ensures_redeem claim label quiet configured issued unenrolled
        · rw [if_pos spent]
          split
          · exact (quiet.failed _).enrolment
          · next none =>
            -- There is an address, so one of them has failed.
            have empty : order = [] := (failed none).1
            subst empty
            exact absurd perm.nil_eq.symm client.bases_ne_nil

end

theorem enrolment_of_exec (client : Client) (device : Device) (claim label : String)
    (store : CredentialStore) (unhealthy : String → Option Int) (answers : Nat → Answer) :
    let ended := (client.enroll device claim label).exec answers
      { store, unhealthy }
    Enrolment client device store ended.1.seen ended.2 :=
  Task.Tracks.exec (ensures_enroll claim label) fun _ => trivial

/-- Whatever is answered: the claim code goes out at most once, to the configured address that gave
out the challenge signed beside it, and not from a device with a presentable credential. The store
ends with the credential returned or, unless a write failed, as it was. -/
theorem enroll_spends_once (client : Client) (device : Device) (claim label : String)
    (store : CredentialStore) (unhealthy : String → Option Int) (answers : Nat → Answer) :
    let ended := (client.enroll device claim label).exec answers
      { store, unhealthy }
    ended.1.events.countP Event.enrols ≤ 1 ∧
      (∀ earlier base claim pub label challenge sig reply held,
        .exchanged ⟨base, .enroll claim pub label challenge sig⟩ reply held :: earlier <:+
            ended.1.events →
          base ∈ client.bases ∧ Issued client.codec earlier base challenge ∧
            device.signEnroll client.audienceBytes challenge = .ok sig ∧
            held.presentable = false) ∧
      (∀ cred, ended.2 = .ok cred → ended.1.store.Holds cred) ∧
      ∀ failure, ended.2 = .error failure →
        (∀ event ∈ ended.1.events, event.failedWrite = false) → ended.1.store = store := by
  have enrolment := enrolment_of_exec client device claim label store unhealthy answers
  exact ⟨enrolment.once, enrolment.sent, fun cred ok => (enrolment.holds cred ok).1,
    enrolment.untouched⟩

/-- Two addresses. A challenge is any body, and one body is a credential. -/
def twoAddresses : Client where
  bases := ["https://one", "https://two"]
  audience := "account"
  codec := {
    challenge := some
    credentials := fun raw => if raw = [1] then some { device := "d", issuerCert := "i" } else none
    envelope := fun _ => none }
  bases_ne_nil := nofun
  named := by decide
  nodup := by decide

def oneDevice : Device where
  key := replicate 64 0
  sign _ _ := []

/-- The first address is down. The second gives out a challenge, and the response to the enrolment
is lost; asked again, it gives out a challenge and the credential. -/
def lostResponse : Nat → Answer
  | 4 | 7 => { reply := .answered 200 (replicate 16 7) }
  | 8 => { reply := .answered 200 [1] }
  | _ => {}

/-- The request has been sent once, and what is returned is stored. -/
theorem lost_response_collected :
    let ended := (twoAddresses.enroll oneDevice "code" "laptop").exec lostResponse
      { store := { path := "credential.json" } }
    ended.2 = .ok { device := "d", issuerCert := "i" } ∧ ended.1.events.countP Event.enrols = 1 ∧
      ended.1.store.Holds { device := "d", issuerCert := "i" } :=
  ⟨by decide +kernel, by decide +kernel,
    (enroll_spends_once twoAddresses oneDevice "code" "laptop" _ _ lostResponse).2.2.1 _
      (by decide +kernel)⟩

/-- A device that holds a presentable credential sends nothing. -/
theorem exec_enroll_of_presentable {client : Client} {device : Device} {claim : String}
    (label : String) {world : World} (present : claim ≠ "")
    (held : world.store.cred.presentable) (answers : Nat → Answer) :
    (client.enroll device claim label).exec answers world =
      (world, .error .alreadyHaveCredential) := by
  unfold Client.enroll
  rw [if_neg present, enrolled, exec_bind]
  have asked : (atomically fun (world : World) (_ : Answer) =>
      (world, world.store.get.2)).exec answers world = (world, true) := by
    rw [← held]
    rfl
  rw [asked]
  rfl

/-- Nor does any client after a restart, once a call has returned a credential that was saved. -/
theorem enroll_after_restart (client : Client) (device : Device) (claim label : String)
    (store : CredentialStore) (unhealthy : String → Option Int) (answers : Nat → Answer)
    {cred : Credential} :
    let ended := (client.enroll device claim label).exec answers
      { store, unhealthy }
    ended.2 = .ok cred → ended.1.store.path ≠ "" →
      ∀ (legacy : Option String) (client' : Client) (device' : Device) (again label' : String)
        (answers' : Nat → Answer), again ≠ "" →
        let restarted : World := { store := .opened ended.1.store.path ended.1.store.file legacy }
        (client'.enroll device' again label').exec answers' restarted =
          (restarted, .error .alreadyHaveCredential) := by
  intro ended ok path legacy client' device' again label' answers' present restarted
  have enrolment := enrolment_of_exec client device claim label store unhealthy answers
  obtain ⟨holds, presentable⟩ := enrolment.holds cred ok
  refine exec_enroll_of_presentable label' present ?_ answers'
  exact (holds.presentable_opened path legacy).trans presentable

/-- An enrolment whose response is lost, then another one after a restart. -/
theorem lost_response_restart :
    let ended := (twoAddresses.enroll oneDevice "code" "laptop").exec lostResponse
      { store := { path := "credential.json" } }
    let restarted : World := { store := .opened ended.1.store.path ended.1.store.file none }
    (twoAddresses.enroll oneDevice "code" "").exec lostResponse restarted =
      (restarted, .error .alreadyHaveCredential) :=
  @enroll_after_restart twoAddresses oneDevice "code" "laptop" _ _ lostResponse
    { device := "d", issuerCert := "i" } (by decide +kernel) (by decide +kernel) none twoAddresses
    oneDevice "code" "" _ (by decide)

end Bacchus.AccountClient
