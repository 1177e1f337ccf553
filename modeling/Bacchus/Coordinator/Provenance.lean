import Bacchus.Coordinator.Registry

/-!
# Where registry entries come from

Every entry goes back to a `register` that passed the gates, but a `heartbeat` moves its address
without one, and a `register` under the empty id is checked as a bearer's.
-/

namespace Bacchus.Coordinator

open Admission (Role Verifier Credential roleRelay roleExit)
open List Machine Option

/-- The two ways a node serves. -/
inductive Service where
  | relay
  | exit

/-- The role a service registers under. -/
def Service.role : Service → Role
  | relay => roleRelay
  | exit => roleExit

/-- The address held for a node. -/
def Registry.address (registry : Registry) : Service → String → Option UDPAddr
  | .relay, id => (registry.relays id).map RelayNode.addr
  | .exit, id => (registry.exits id).map ExitNode.udp

/-- The datagrams of a run. -/
def received (labels : List Label) : List Datagram :=
  labels.filterMap fun label =>
    match label with
    | .datagram datagram => some datagram
    | .sweep _ => none

@[simp] theorem received_concat_datagram (labels : List Label) (datagram : Datagram) :
    received (labels ++ [.datagram datagram]) = received labels ++ [datagram] := by
  simp [received]

@[simp] theorem received_concat_sweep (labels : List Label) (now : Admission.Time) :
    received (labels ++ [.sweep now]) = received labels := by
  simp [received]

variable {cfg : Config} {registry : Registry} {service : Service} {id : String} {addr : UDPAddr}

theorem address_of_prune {now : Admission.Time}
    (held : (registry.prune now).address service id = some addr) :
    registry.address service id = some addr := by
  cases service with
  | relay | exit =>
    obtain ⟨node, kept, rfl⟩ := map_eq_some_iff.mp held
    exact map_eq_some_iff.mpr ⟨node, (filter_eq_some_iff.mp kept).1, rfl⟩

/-- A registration writes the address of the id and the role it names. -/
theorem address_store (moment : Moment) (msg : Message) (src : UDPAddr) :
    (registry.store moment msg src).address service id =
      if msg.role = service.role ∧ id = msg.id then some src
      else registry.address service id := by
  have apart : roleExit ≠ roleRelay := by decide
  unfold Registry.store
  cases service with
  | relay | exit =>
    by_cases same : id = msg.id
    · subst same
      split_ifs <;> simp_all [Registry.address, Service.role, Message.relayNode, Message.exitNode]
    · split_ifs <;> simp_all [Registry.address]

theorem address_heartbeat (moment : Moment) (beating : String) (src : UDPAddr) :
    (registry.heartbeat moment beating src).address service id =
      if id = beating then (registry.address service id).map fun _ => src
      else registry.address service id := by
  cases service with
  | relay | exit =>
    by_cases same : id = beating
    · subst same
      simp [Registry.address, Registry.heartbeat, RelayNode.beat, ExitNode.beat, Function.comp_def]
    · simp [Registry.address, Registry.heartbeat, same]

/-- Where an address held after a step comes from. -/
inductive Source (cfg : Config) (registry : Registry) (service : Service) (id : String)
    (addr : UDPAddr) : Label → Prop where
  | held {label : Label} (before : registry.address service id = some addr) :
      Source cfg registry service id addr label
  | registered {datagram : Datagram} (kind : datagram.message.kind = .register)
      (passed : registerGates cfg datagram.moment datagram.message = none)
      (role : datagram.message.role = service.role) (named : datagram.message.id = id)
      (sent : datagram.src = addr) : Source cfg registry service id addr (.datagram datagram)
  | moved {datagram : Datagram} (kind : datagram.message.kind = .heartbeat)
      (named : datagram.message.id = id) (sent : datagram.src = addr)
      (live : ((registry.prune datagram.moment.now).address service id).isSome) :
      Source cfg registry service id addr (.datagram datagram)

theorem source_of_step {label : Label} {next : Registry}
    (moves : (coordinator cfg).step registry label = some next)
    (after : next.address service id = some addr) :
    Source cfg registry service id addr label := by
  cases label with
  | sweep =>
    cases moves
    exact .held (address_of_prune after)
  | datagram =>
    cases moves
    simp only [handle] at after
    split at after
    · next kind =>
      split at after
      · exact .held (address_of_prune after)
      · next passed =>
        rw [address_store] at after
        split_ifs at after with named
        · exact .registered kind passed named.1 named.2.symm (some.inj after)
        · exact .held (address_of_prune after)
    · next kind =>
      rw [address_heartbeat] at after
      split_ifs at after with named
      · obtain ⟨_, live, sent⟩ := map_eq_some_iff.mp after
        exact .moved kind named.symm sent (isSome_of_eq_some live)
      · exact .held (address_of_prune after)
    · exact .held (address_of_prune after)

/-- With admission enabled, a registration that passes the gates carries a credential verified for
the role and the id it names. -/
theorem verified_of_registerGates {verifier : Verifier} {moment : Moment} {msg : Message}
    (enabled : cfg.verifier = some verifier)
    (passed : registerGates cfg moment msg = none) :
    ∃ credential, verifier.verify moment.revoked msg.cred moment.checked msg.role msg.id =
      .ok credential := by
  have admitted : admission cfg moment msg msg.role msg.id = none := by
    unfold registerGates at passed
    cases first : admission cfg moment msg msg.role msg.id with
    | none => rfl
    | some => simp [first] at passed
  simp only [admission, enabled] at admitted
  split at admitted
  · next credential verified => exact ⟨credential, verified⟩
  · cases admitted

/-- The datagram carries a credential that admits the node for the service. -/
def Vouches (verifier : Verifier) (service : Service) (id : String) (datagram : Datagram) : Prop :=
  ∃ credential, verifier.verify datagram.moment.revoked datagram.message.cred
    datagram.moment.checked
    service.role id = .ok credential

/-- A datagram for the node came from the address with a credential that admits it. -/
def Vouched (verifier : Verifier) (datagrams : List Datagram) (service : Service) (id : String)
    (addr : UDPAddr) : Prop :=
  ∃ datagram ∈ datagrams, datagram.src = addr ∧ Vouches verifier service id datagram

/-- Every address held is one that a credential came from. -/
def Backed (verifier : Verifier) (datagrams : List Datagram) (registry : Registry) : Prop :=
  ∀ service id addr, registry.address service id = some addr →
    Vouched verifier datagrams service id addr

variable {verifier : Verifier}

theorem Vouched.mono {datagrams more : List Datagram}
    (vouched : Vouched verifier datagrams service id addr)
    (within : ∀ datagram ∈ datagrams, datagram ∈ more) : Vouched verifier more service id addr := by
  obtain ⟨datagram, member, sent, vouches⟩ := vouched
  exact ⟨datagram, within datagram member, sent, vouches⟩

variable {labels : List Label}

theorem mem_received_concat {label : Label} (datagram : Datagram)
    (member : datagram ∈ received labels) : datagram ∈ received (labels ++ [label]) := by
  cases label with
  | datagram =>
    rw [received_concat_datagram]
    exact mem_append_left _ member
  | sweep =>
    rw [received_concat_sweep]
    exact member

/-- Every heartbeat along the labels that names a registered node comes from an address vouched
for. -/
def HeartbeatsVouched (cfg : Config) (verifier : Verifier) (labels : List Label) : Prop :=
  ∀ before datagram after registry, labels = before ++ .datagram datagram :: after →
    (coordinator cfg).Runs free before registry →
    datagram.message.kind = .heartbeat → ∀ service,
    ((registry.prune datagram.moment.now).address service datagram.message.id).isSome →
      Vouched verifier (received before ++ [datagram]) service datagram.message.id datagram.src

theorem backed_of_heartbeatsVouched (enabled : cfg.verifier = some verifier)
    (heartbeats : HeartbeatsVouched cfg verifier labels) {earlier : List Label}
    (runs : (coordinator cfg).Runs free earlier registry) :
    ∀ later, labels = earlier ++ later → Backed verifier (received earlier) registry := by
  induction runs with
  | initial valid =>
    intro later _ service id addr held
    cases valid
    cases service <;> cases held
  | @step earlier registry label next prior _ moves ih =>
    intro later split service id addr held
    have whole : labels = earlier ++ label :: later := by rw [split, append_assoc]; rfl
    cases source_of_step moves held with
    | held before => exact (ih _ whole service id addr before).mono mem_received_concat
    | @registered datagram kind passed role named sent =>
      obtain ⟨credential, verified⟩ := verified_of_registerGates enabled passed
      rw [role, named] at verified
      refine ⟨datagram, ?_, sent, credential, verified⟩
      rw [received_concat_datagram]
      exact mem_append_right _ mem_cons_self
    | @moved datagram kind named sent live =>
      subst named sent
      rw [received_concat_datagram]
      exact heartbeats earlier datagram later registry whole prior kind service live

/-- Along a run with admission enabled, every address held at any time is one that a credential for
that node and role came from, if and only if every heartbeat for a registered node is from such an
address. -/
theorem held_addresses_vouched_iff (enabled : cfg.verifier = some verifier)
    (labels : List Label) :
    (∀ earlier later registry, labels = earlier ++ later →
      (coordinator cfg).Runs Machine.free earlier registry →
      Backed verifier (received earlier) registry) ↔ HeartbeatsVouched cfg verifier labels := by
  constructor
  · intro backed before datagram after registry split prior kind service live
    let next := (handle cfg registry datagram.moment datagram.message datagram.src).1
    have runs : (coordinator cfg).Runs free (before ++ [.datagram datagram]) next :=
      prior.step trivial rfl
    have whole : labels = before ++ [.datagram datagram] ++ after := by
      rw [split, append_assoc]
      rfl
    have holds := backed _ after next whole runs service datagram.message.id datagram.src
    rw [received_concat_datagram] at holds
    apply holds
    obtain ⟨_, found⟩ := isSome_iff_exists.mp live
    simp only [next, handle, kind]
    rw [address_heartbeat, if_pos rfl, found]
    rfl
  · intro heartbeats earlier later registry split runs
    exact backed_of_heartbeatsVouched enabled heartbeats runs later split

/-- A credential for both roles. -/
def credentialOf (subject : String) : Credential where
  version := Admission.credentialVersion
  serial := "01"
  subject := subject
  roles := [roleRelay, roleExit]
  notBefore := 0
  notAfter := 10 ^ 12

/-- A scheme all of whose signatures are of one credential. -/
def schemeFor (subject : String) : Admission.Scheme :=
  ⟨fun _ _ _ => true, fun _ => some (credentialOf subject)⟩

/-- An authority for both roles. -/
def anchor : Admission.Authority := ⟨List.replicate 32 0, [roleRelay, roleExit]⟩

def verifierFor (subject : String) : Verifier := ⟨schemeFor subject, [anchor]⟩

/-- Some text is the envelope of a signed credential. -/
theorem exists_encoded : ∃ cred signed, Admission.decode cred = .ok signed ∧
    64 < signed.length := by
  let cred := Admission.credPrefix ++ .ofList (replicate 88 'A')
  have computed : (Admission.decode cred).toOption.any (fun signed => 64 < signed.length) := by
    decide +kernel
  obtain ⟨signed, found, length⟩ := (any_eq_true _ _).mp computed
  cases result : Admission.decode cred with
  | error =>
    rw [result] at found
    cases found
  | ok =>
    rw [result] at found
    cases found
    exact ⟨cred, signed, result, of_decide_eq_true length⟩

/-- A node registers as an exit from its own address. -/
def registersExit (cred id : String) : Datagram where
  moment := quietAt 1
  message := { kind := .register, id, role := roleExit, cred }
  src := ⟨.v4 0xC0000201, 4000⟩

/-- A heartbeat without a credential. -/
def heartbeatFrom (id : String) (ip : BitVec 32) : Datagram where
  moment := quietAt 2
  message := { kind := .heartbeat, id }
  src := ⟨.v4 ip, 4000⟩

section

variable {cred subject : String} {signed : Bytes} {guard : Registry → Label → Prop}

/-- The credential verifies for its subject, and for nobody's name. -/
theorem verify_presented (decoded : Admission.decode cred = .ok signed) (long : 64 < signed.length)
    (service : Service) (bound : id = "" ∨ subject = id) :
    (verifierFor subject).verify (fun _ => false) cred 1 service.role id =
      .ok (credentialOf subject) := by
  have keyed : anchor.pub.length = 32 := rfl
  have parsed : Admission.parse (schemeFor subject) anchor.pub signed =
      .ok (credentialOf subject) := by
    simp [Admission.parse, keyed, Nat.not_le.mpr long, schemeFor, credentialOf]
  have accepted : Admission.accept (credentialOf subject) 1 service.role id (fun _ => false) =
      .ok () := by
    apply Admission.accept_eq_ok_iff.mpr
    have begun : 0 - Admission.clockSkew ≤ 1 := by decide
    have unexpired : (1 : Int) < 10 ^ 12 := by decide
    refine ⟨rfl, begun, unexpired, ?_, bound⟩
    cases service <;> rfl
  have anchored : anchor.admits service.role := by cases service <;> rfl
  simp [Verifier.verify, decoded, verifierFor, Verifier.search, anchored, parsed, accepted]

/-- A registration under the credential's subject, or no name, is stored. -/
theorem runs_registersExit (decoded : Admission.decode cred = .ok signed)
    (long : 64 < signed.length) (bound : id = "" ∨ subject = id)
    (met : guard {} (.datagram (registersExit cred id))) :
    (coordinator ⟨some (verifierFor subject), {}⟩).Runs guard [.datagram (registersExit cred id)]
      ((Registry.prune {} 1).store (quietAt 1) (registersExit cred id).message
        (registersExit cred id).src) := by
  let cfg : Config := ⟨some (verifierFor subject), {}⟩
  have verified : (verifierFor subject).verify (fun _ => false) cred 1 roleExit id =
      .ok (credentialOf subject) := verify_presented decoded long .exit bound
  have passed : registerGates cfg (quietAt 1) (registersExit cred id).message = none := by
    simp only [cfg, registerGates, admission, registersExit, quietAt, verified]
    rfl
  have kind : (registersExit cred id).message.kind = .register := rfl
  have start : (coordinator cfg).Runs guard [] {} := .initial rfl
  apply start.step met
  change some (handle cfg {} (quietAt 1) (registersExit cred id).message _).1 = _
  simp only [handle, kind, passed]
  rfl

end

/-- A heartbeat from another address takes over the node's. -/
theorem heartbeat_moves_address : ∃ labels registry,
    (coordinator ⟨some (verifierFor "n1"), {}⟩).Runs Machine.free labels registry ∧
      ¬ Backed (verifierFor "n1") (received labels) registry := by
  obtain ⟨cred, signed, decoded, long⟩ := exists_encoded
  have registered :=
    @runs_registersExit "n1" cred "n1" signed free decoded long (.inr rfl) trivial
  have moved := @Machine.Runs.step _ _ _ _ _ _
    (.datagram (heartbeatFrom "n1" 0xCB007109)) _ registered
    trivial rfl
  refine ⟨_, _, moved, ?_⟩
  intro backed
  obtain ⟨datagram, member, sent, _, verified⟩ :=
    backed .exit "n1" ⟨.v4 0xCB007109, 4000⟩ rfl
  rcases mem_cons.mp member with rfl | last
  · cases sent
  · rw [mem_singleton.mp last] at verified
    cases verified

/-- A heartbeat from where the node registered leaves every address vouched for. -/
theorem own_heartbeat_is_backed : ∃ cred registry,
    (coordinator ⟨some (verifierFor "n1"), {}⟩).Runs Machine.free
      [.datagram (registersExit cred "n1"), .datagram (heartbeatFrom "n1" 0xC0000201)] registry ∧
    registry.address .exit "n1" = some ⟨.v4 0xC0000201, 4000⟩ ∧
    Backed (verifierFor "n1") [registersExit cred "n1", heartbeatFrom "n1" 0xC0000201]
    registry := by
  obtain ⟨cred, signed, decoded, long⟩ := exists_encoded
  have registered :=
    @runs_registersExit "n1" cred "n1" signed free decoded long (.inr rfl) trivial
  have moved := @Machine.Runs.step _ _ _ _ _ _
    (.datagram (heartbeatFrom "n1" 0xC0000201)) _ registered
    trivial rfl
  refine ⟨cred, _, moved, rfl, ?_⟩
  apply (held_addresses_vouched_iff rfl _).mpr _ _ [] _ (append_nil _).symm moved
  -- The only heartbeat is the second label, and the first one vouches for it.
  intro before datagram after registry split prior kind service live
  rcases before with _ | ⟨first, _ | ⟨second, rest⟩⟩
  · cases split
    cases kind
  · cases split
    refine ⟨_, mem_cons_self, rfl, _, verify_presented decoded long service (.inr rfl)⟩
  · simp at split

/-- The datagram registers the node for the service, with a credential of its own that verifies at
that time for the role. -/
def Registers (verifier : Verifier) (service : Service) (id : String)
    (datagram : Datagram) : Prop :=
  datagram.message.kind = .register ∧ datagram.message.id = id ∧
    datagram.message.role = service.role ∧
    ∃ credential : Credential, verifier.verify datagram.moment.revoked datagram.message.cred
      datagram.moment.checked service.role id = .ok credential ∧
      credential.hasRole service.role ∧ credential.subject = id

/-- Every node in the registry was registered with a credential of its own. -/
def Credentialed (verifier : Verifier) (datagrams : List Datagram) (registry : Registry) : Prop :=
  ∀ service id, (registry.address service id).isSome →
    ∃ datagram ∈ datagrams, Registers verifier service id datagram

/-- The condition on a registration: under the empty id no credential of a named subject is
presented. -/
def ownName (verifier : Verifier) : Label → Prop
  | .datagram datagram =>
    datagram.message.kind = .register → datagram.message.id = "" → ∀ credential,
      verifier.verify datagram.moment.revoked datagram.message.cred datagram.moment.checked
        datagram.message.role "" = .ok credential → credential.subject = ""
  | .sweep _ => True

/-- Under it, a registration that passes the gates is with a credential of the node's own. -/
theorem registers_of_registerGates (enabled : cfg.verifier = some verifier) {datagram : Datagram}
    (kind : datagram.message.kind = .register)
    (passed : registerGates cfg datagram.moment datagram.message = none)
    (role : datagram.message.role = service.role) (met : ownName verifier (.datagram datagram)) :
    Registers verifier service datagram.message.id datagram := by
  obtain ⟨credential, verified⟩ := verified_of_registerGates enabled passed
  obtain ⟨_, accepted⟩ := Verifier.accepted_of_verify verified
  refine ⟨kind, rfl, role, credential, role ▸ verified, role ▸ accepted.authorised, ?_⟩
  rcases accepted.bound with bearer | same
  · rw [bearer] at verified ⊢
    exact met kind bearer credential verified
  · exact same

/-- In every run with admission enabled whose registrations meet the condition, every node in the
registry was registered with a credential of its own. -/
theorem registered_nodes_credentialed (enabled : cfg.verifier = some verifier)
    {labels : List Label} (runs : (coordinator cfg).Runs
      (fun _ label => ownName verifier label) labels registry) :
    Credentialed verifier (received labels) registry := by
  apply runs.history
  · intro registry valid service id held
    cases valid
    cases service <;> cases held
  · intro labels registry label next credentialed met transition service id held
    have earlier : (registry.address service id).isSome →
        ∃ datagram ∈ received (labels ++ [label]), Registers verifier service id datagram := by
      intro before
      obtain ⟨datagram, member, registers⟩ := credentialed service id before
      exact ⟨datagram, mem_received_concat datagram member, registers⟩
    obtain ⟨_, after⟩ := isSome_iff_exists.mp held
    cases source_of_step transition after with
    | held before => exact earlier (isSome_of_eq_some before)
    | @registered datagram kind passed role named sent =>
      refine ⟨datagram, ?_, named ▸ registers_of_registerGates enabled kind passed role met⟩
      rw [received_concat_datagram]
      exact mem_append_right _ mem_cons_self
    | @moved datagram kind named sent live =>
      obtain ⟨_, found⟩ := isSome_iff_exists.mp live
      exact earlier (isSome_of_eq_some (address_of_prune found))

/-- A credential of some node registers the empty id. -/
theorem empty_id_registers : ∃ labels registry,
    (coordinator ⟨some (verifierFor "n1"), {}⟩).Runs Machine.free labels registry ∧
      ¬ Credentialed (verifierFor "n1") (received labels) registry := by
  obtain ⟨cred, signed, decoded, long⟩ := exists_encoded
  have registered :=
    @runs_registersExit "" cred "n1" signed free decoded long (.inl rfl) trivial
  refine ⟨_, _, registered, ?_⟩
  intro credentialed
  obtain ⟨_, member, _, _, _, credential, verified, _, subject⟩ :=
    credentialed .exit "" rfl
  rw [mem_singleton.mp member] at verified
  have other := @verify_presented "" cred "n1" signed decoded long .exit (.inl rfl)
  have same : credentialOf "n1" = credential := Except.ok.inj (other.symm.trans verified)
  rw [← same] at subject
  exact absurd subject (by decide)

/-- A node that registers under its own name is credentialed. -/
theorem own_name_is_credentialed : ∃ cred registry,
    (coordinator ⟨some (verifierFor "n1"), {}⟩).Runs
      (fun _ label => ownName (verifierFor "n1") label) [.datagram (registersExit cred "n1")]
      registry ∧
    (registry.address .exit "n1").isSome = true ∧
    Credentialed (verifierFor "n1") [registersExit cred "n1"] registry := by
  obtain ⟨cred, signed, decoded, long⟩ := exists_encoded
  have named : ownName (verifierFor "n1") (.datagram (registersExit cred "n1")) := by
    intro _ empty
    have different : "n1" ≠ "" := by decide
    exact absurd empty different
  have runs := @runs_registersExit "n1" cred "n1" signed
    (fun _ label => ownName (verifierFor "n1") label) decoded long (.inr rfl) named
  exact ⟨cred, _, runs, rfl, registered_nodes_credentialed rfl runs⟩

end Bacchus.Coordinator
