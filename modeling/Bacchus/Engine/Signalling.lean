import Bacchus.Semantics.Machine
import Bacchus.Semantics.Threads

/-!
# Signalling of an engine's sessions

What the coordinator links of a `core.Engine` share: the tables of signalers and of tracked
sessions, and the read loop of each link. A session begins with a signaler: on an assignment
(`startFwdSession`) or on the reply to a request. Then the transport accepts or dials, the session
is tracked, and a watcher cleans up after it. A client's streams run over one session, which a
coordinator can have closed. Every lock section is one step.
-/

namespace Bacchus.Engine

open List Function

abbrev SessionId := String

/-- The kinds of frames the read loop routes by session. -/
inductive SignalKind where
  | offer | answer | candidate
deriving DecidableEq

/-- A frame of the handshake. -/
structure SignalFrame where
  kind : SignalKind
  data : String
deriving DecidableEq

/-- A frame in an inbox, with its link, which the source does not record. -/
structure Delivery (Link : Type) where
  link : Link
  frame : SignalFrame

/-- `coordSignaler`. -/
structure Signaler (Link : Type) where
  /-- The pool member that owns this session's rendezvous. -/
  link : Link
  sid : SessionId
  /-- `in`. -/
  inbox : List (Delivery Link) := []
  /-- What `Recv` has returned. -/
  taken : List (Delivery Link) := []
  closed : Bool := false

/-- The capacity of a signaler's inbox. -/
def inboxCapacity : Nat := 64

/-- A full inbox drops the frame. -/
def Signaler.receive {Link : Type} (signaler : Signaler Link) (delivery : Delivery Link) :
    Signaler Link :=
  if signaler.inbox.length < inboxCapacity then
    { signaler with inbox := signaler.inbox ++ [delivery] }
  else signaler

/-- `Recv` takes the oldest frame. -/
def Signaler.recv {Link : Type} (signaler : Signaler Link) : Signaler Link :=
  { signaler with
    inbox := signaler.inbox.tail
    taken := signaler.taken ++ signaler.inbox.head?.toList }

/-- Every frame the signaler was handed. -/
def Signaler.received {Link : Type} (signaler : Signaler Link) : List (Delivery Link) :=
  signaler.taken ++ signaler.inbox

/-- Which side of the session this engine is. -/
inductive Side where
  /-- `startFwdSession`, in the read loop of its link. -/
  | accepting
  | dialing
deriving DecidableEq

/-- Where a pairing is. -/
inductive Progress where
  /-- The transport is accepting or dialing. -/
  | negotiating
  /-- `trackSession` has recorded it. -/
  | established
  /-- The session has closed, and the watcher has still to drop the signaler. -/
  | closing
  /-- The watcher has still to forget the session. -/
  | forgetting
  | finished
deriving DecidableEq

/-- A session of the engine from its signaler on. -/
structure Pairing (Link : Type) where
  side : Side
  progress : Progress := .negotiating
  signaler : Signaler Link

/-- The signaling state of the engine. `sigs` and `sessions` name a pairing by its index. -/
structure State (Link : Type) where
  pairings : List (Pairing Link) := []
  sigs : SessionId → Option Nat := fun _ => none
  sessions : SessionId → Option Nat := fun _ => none
  /-- The `session` replies in `coordLink.msgCh`. -/
  replies : Link → List SessionId := fun _ => []
  /-- The client's live session: `rcSess` and `rcSid`. -/
  active : Option Nat := none

/-- A datagram of a coordinator, as far as it concerns sessions. -/
inductive Message where
  | assign (sid : SessionId)
  | signal (sid : SessionId) (frame : SignalFrame)
  | session (sid : SessionId)
  /-- The relay of a session has died. -/
  | reselect (sid : SessionId)

variable {Link : Type}

namespace State

/-- `newSignaler`: what is registered under the session is replaced. -/
def newSignaler (state : State Link) (side : Side) (link : Link) (sid : SessionId) : State Link :=
  { state with
    pairings := state.pairings ++ [{ side, signaler := { link, sid } }]
    sigs := update state.sigs sid (some state.pairings.length) }

/-- Change one pairing. -/
def modify (state : State Link) (index : Nat) (change : Pairing Link → Pairing Link) : State Link :=
  { state with pairings := state.pairings.modify index change }

/-- Change the signaler of a pairing. -/
def onSignaler (state : State Link) (index : Nat) (change : Signaler Link → Signaler Link) :
    State Link :=
  state.modify index fun pairing => { pairing with signaler := change pairing.signaler }

/-- Move a pairing on. -/
def setProgress (state : State Link) (index : Nat) (progress : Progress) : State Link :=
  state.modify index fun pairing => { pairing with progress }

/-- `dropSignaler`: the signaler registered now, whoever registered it. -/
def dropSignaler (state : State Link) (sid : SessionId) : State Link :=
  match state.sigs sid with
  | none => state
  | some index =>
    { state.onSignaler index fun signaler => { signaler with closed := true } with
      sigs := update state.sigs sid none }

/-- `routeSignal`. The link the frame arrived on is not looked at. -/
def routeSignal (state : State Link) (link : Link) (sid : SessionId) (frame : SignalFrame) :
    State Link :=
  match state.sigs sid with
  | none => state
  | some index => state.onSignaler index fun signaler => signaler.receive ⟨link, frame⟩

/-- `startFwdSession` up to the call of `Accept`. -/
def startFwdSession (state : State Link) (link : Link) (sid : SessionId) : State Link :=
  if (state.sessions sid).isSome then state else state.newSignaler .accepting link sid

/-- The session of a pairing closes, unless it has. -/
def closeSession (state : State Link) (index : Nat) : State Link :=
  if state.pairings[index]?.map Pairing.progress = some .established then
    state.setProgress index .closing
  else state

/-- `onRelayReselect`: the client's live session, whichever link it is of. -/
def onRelayReselect (state : State Link) (sid : SessionId) : State Link :=
  match state.active with
  | none => state
  | some index =>
    if sid ≠ "" ∧ (state.pairings[index]?.map fun pairing => pairing.signaler.sid) = some sid then
      state.closeSession index
    else state

/-- The read loop of a link is inside `Accept`. -/
def accepting [DecidableEq Link] (state : State Link) (link : Link) : Bool :=
  state.pairings.any fun pairing =>
    pairing.side == .accepting && pairing.progress == .negotiating && pairing.signaler.link == link

/-- One message in the read loop of its link. -/
def readLoop [DecidableEq Link] (clientOn : Bool) (state : State Link) (link : Link) :
    Message → State Link
  | .assign sid => state.startFwdSession link sid
  | .signal sid frame => state.routeSignal link sid frame
  | .session sid =>
    if clientOn then
      { state with
        replies := update state.replies link (state.replies link ++ [sid]) }
    else state
  | .reselect sid => if clientOn then state.onRelayReselect sid else state

/-- `Accept` or `Dial` returns. -/
def settle (state : State Link) (index : Nat) (sid : SessionId) (succeeded : Bool) : State Link :=
  if succeeded then
    { state.setProgress index .established with
      sessions := update state.sessions sid (some index) }
  else (state.dropSignaler sid).setProgress index .finished

/-- The next section of the watcher. -/
def watch (state : State Link) (index : Nat) (sid : SessionId) : Progress → Option (State Link)
  | .closing => some ((state.dropSignaler sid).setProgress index .forgetting)
  | .forgetting =>
    some { state.setProgress index .finished with
      sessions := update state.sessions sid none }
  | _ => none

end State

/-- A step of the engine. -/
inductive Label (Link : Type) where
  | datagram (link : Link) (msg : Message)
  /-- The client takes a reply of the member it asked, and dials or gives it up. -/
  | reply (link : Link) (dials : Bool)
  /-- The transport of a pairing takes a frame. -/
  | recv (index : Nat)
  | settle (index : Nat) (succeeded : Bool)
  /-- `setReconnectSession`, with a session the client has dialed. -/
  | adopt (index : Nat)
  /-- The session of a pairing closes: its peer, the reaper or the engine's stop. -/
  | close (index : Nat)
  | watch (index : Nat)

/-- The signaling of an engine over any pool of links. -/
def signalling [DecidableEq Link] (clientOn : Bool) : Machine (State Link) (Label Link) where
  initial state := state = {}
  step state
    | .datagram link msg =>
      if state.accepting link then none else some (state.readLoop clientOn link msg)
    | .reply link dials =>
      match state.replies link with
      | [] => none
      | sid :: rest =>
        let next := { state with replies := update state.replies link rest }
        some (if dials then next.newSignaler .dialing link sid else next)
    | .recv index => some (state.onSignaler index Signaler.recv)
    | .settle index succeeded => state.pairings[index]?.bind fun pairing =>
      if pairing.progress = .negotiating then
        some (state.settle index pairing.signaler.sid succeeded)
      else none
    | .adopt index => state.pairings[index]?.bind fun pairing =>
      if pairing.side = .dialing ∧ pairing.progress ≠ .negotiating then
        some { state with active := some index }
      else none
    | .close index => some (state.closeSession index)
    | .watch index => state.pairings[index]?.bind fun pairing =>
      state.watch index pairing.signaler.sid pairing.progress

namespace State

/-- No other link has a session of this name that is not over. -/
def unclaimed [DecidableEq Link] (state : State Link) (link : Link) (sid : SessionId) : Bool :=
  state.pairings.all fun pairing =>
    pairing.signaler.sid != sid || pairing.progress == .finished || pairing.signaler.link == link

/-- No coordinator assigns, signals or reselects another one's session, and no reply that names one
is dialed. -/
def apart [DecidableEq Link] (state : State Link) : Label Link → Bool
  | .datagram link (.assign sid) | .datagram link (.signal sid _)
  | .datagram link (.reselect sid) => state.unclaimed link sid
  | .reply link true => (state.replies link).head?.all fun sid => state.unclaimed link sid
  | _ => true

/-- The link on whose word a step is taken. -/
def actor (state : State Link) : Label Link → Option Link
  | .datagram link _ | .reply link _ => some link
  | .recv index | .settle index _ | .adopt index | .close index | .watch index =>
    state.pairings[index]?.map fun pairing => pairing.signaler.link

/-- The signaler of every session of another link stays registered, and both are as open as they
were. -/
def Spares (link : Link) (state next : State Link) : Prop :=
  ∀ sid index pairing, state.sigs sid = some index → state.pairings[index]? = some pairing →
    pairing.signaler.link ≠ link →
      next.sigs sid = some index ∧
        ∃ after, next.pairings[index]? = some after ∧
          after.signaler.link = pairing.signaler.link ∧
            after.signaler.closed = pairing.signaler.closed ∧ after.progress = pairing.progress

/-- Every frame a signaler was handed arrived on the signaler's own link. -/
def Routed (state : State Link) : Prop :=
  ∀ pairing ∈ state.pairings, ∀ delivery ∈ pairing.signaler.received,
    delivery.link = pairing.signaler.link

/-- A registered signaler is its own session's; sessions under one name that are not over are on one
link. -/
structure Owned (state : State Link) : Prop where
  registered : ∀ sid index, state.sigs sid = some index → ∃ pairing,
    state.pairings[index]? = some pairing ∧ pairing.signaler.sid = sid ∧
      pairing.progress ≠ .forgetting ∧ pairing.progress ≠ .finished
  agree : ∀ first ∈ state.pairings, ∀ second ∈ state.pairings,
    first.signaler.sid = second.signaler.sid → first.progress ≠ .finished →
      second.progress ≠ .finished → first.signaler.link = second.signaler.link
  routed : state.Routed

/-- A signaler keeps its link and name, and takes in frames of its link only. -/
structure Keeps (before after : Signaler Link) : Prop where
  link : after.link = before.link
  sid : after.sid = before.sid
  routed : ∀ delivery ∈ after.received, delivery ∈ before.received ∨ delivery.link = before.link

variable {state : State Link} {link : Link} {sid : SessionId} {index : Nat} {pairing : Pairing Link}

/-- A session whose signaler is registered is not over. -/
theorem Owned.live (owned : state.Owned) (registered : state.sigs sid = some index)
    (found : state.pairings[index]? = some pairing) :
    pairing.progress ≠ .forgetting ∧ pairing.progress ≠ .finished := by
  obtain ⟨other, known, _, live⟩ := owned.registered sid index registered
  cases known.symm.trans found
  exact live

variable {change : Pairing Link → Pairing Link} (owned : state.Owned)
include owned

/-- One pairing may change, if it keeps its link and name. -/
theorem Owned.modify
    (keeps : ∀ pairing, state.pairings[index]? = some pairing →
      Keeps pairing.signaler (change pairing).signaler ∧
        (pairing.progress = .finished → (change pairing).progress = .finished))
    (live : ∀ sid pairing, state.sigs sid = some index → state.pairings[index]? = some pairing →
      (change pairing).progress ≠ .forgetting ∧ (change pairing).progress ≠ .finished) :
    (state.modify index change).Owned := by
  -- Each pairing comes from one with the same link and name, which was not over if it is not.
  have src : ∀ pairing ∈ (state.modify index change).pairings, ∃ before ∈ state.pairings,
      Keeps before.signaler pairing.signaler ∧
        (before.progress = .finished → pairing.progress = .finished) := by
    intro pairing member
    obtain ⟨before, known, rfl | ⟨found, rfl⟩⟩ := Threads.mem_modify member
    · exact ⟨pairing, known, ⟨rfl, rfl, fun _ => .inl⟩, id⟩
    · exact ⟨before, known, keeps before found⟩
  refine ⟨fun sid pos registered => ?_, fun first known second other named running live => ?_,
    fun pairing member delivery handed => ?_⟩
  · obtain ⟨pairing, found, named, running⟩ := owned.registered sid pos registered
    by_cases here : index = pos
    · subst here
      refine ⟨change pairing, ?_, (keeps pairing found).1.sid.trans named,
        live sid pairing registered found⟩
      rw [State.modify, getElem?_modify, found]
      simp
    · refine ⟨pairing, ?_, named, running⟩
      rw [State.modify, getElem?_modify, found]
      simp [here]
  · obtain ⟨firstBefore, firstKnown, firstKeeps, firstOver⟩ := src first known
    obtain ⟨secondBefore, secondKnown, secondKeeps, secondOver⟩ := src second other
    rw [firstKeeps.link, secondKeeps.link]
    refine owned.agree firstBefore firstKnown secondBefore secondKnown ?_ (mt firstOver running)
      (mt secondOver live)
    rw [← firstKeeps.sid, ← secondKeeps.sid, named]
  · obtain ⟨before, known, kept, _⟩ := src pairing member
    rw [kept.link]
    rcases kept.routed delivery handed with earlier | fits
    · exact owned.routed before known delivery earlier
    · exact fits

/-- A signaler may change, if it keeps its link and name. -/
theorem Owned.onSignaler {change : Signaler Link → Signaler Link}
    (keeps : ∀ pairing, state.pairings[index]? = some pairing →
      Keeps pairing.signaler (change pairing.signaler)) :
    (state.onSignaler index change).Owned := by
  refine owned.modify (fun pairing found => ⟨keeps pairing found, id⟩) ?_
  intro sid pairing registered found
  have live := owned.live registered found
  exact live

/-- A session that is not over may go on; while its signaler is registered, not to its end. -/
theorem Owned.setProgress {progress : Progress} (found : state.pairings[index]? = some pairing)
    (running : pairing.progress ≠ .finished)
    (live : (∃ sid, state.sigs sid = some index) → progress ≠ .forgetting ∧ progress ≠ .finished) :
    (state.setProgress index progress).Owned := by
  refine owned.modify (fun other known => ⟨⟨rfl, rfl, fun _ => .inl⟩, fun finished => ?_⟩)
    fun sid _ registered _ => live ⟨sid, registered⟩
  cases found.symm.trans known
  exact absurd finished running

omit owned

/-- A signaler takes in a frame of its link. -/
theorem Keeps.receive (signaler : Signaler Link) {delivery : Delivery Link}
    (fits : delivery.link = signaler.link) : Keeps signaler (signaler.receive delivery) := by
  unfold Signaler.receive
  split_ifs
  · refine ⟨rfl, rfl, fun other handed => ?_⟩
    simp only [Signaler.received, mem_append, mem_singleton] at handed ⊢
    rcases handed with taken | waiting | rfl
    · exact .inl (.inl taken)
    · exact .inl (.inr waiting)
    · exact .inr fits
  · exact ⟨rfl, rfl, fun _ => .inl⟩

/-- Taking a frame out adds none. -/
theorem Keeps.recv (signaler : Signaler Link) : Keeps signaler signaler.recv := by
  refine ⟨rfl, rfl, fun delivery handed => .inl ?_⟩
  simp only [Signaler.recv, Signaler.received] at handed ⊢
  cases waiting : signaler.inbox with
  | nil | cons => simpa [waiting] using handed

/-- After `dropSignaler` nothing is under the name; other names are as before. -/
theorem sigs_dropSignaler (state : State Link) (sid name : SessionId) :
    (state.dropSignaler sid).sigs name = if name = sid then none else state.sigs name := by
  unfold dropSignaler
  cases found : state.sigs sid with
  | none =>
    split_ifs with same
    · rw [same, found]
    · rfl
  | some => simp only [update_apply]

/-- A signaler may be dropped. -/
theorem Owned.dropSignaler (owned : state.Owned) (sid : SessionId) :
    (state.dropSignaler sid).Owned := by
  unfold State.dropSignaler
  cases found : state.sigs sid with
  | none => exact owned
  | some index =>
    have closed : (state.onSignaler index
        fun signaler => { signaler with closed := true }).Owned :=
      owned.onSignaler fun _ _ => ⟨rfl, rfl, fun _ => .inl⟩
    refine ⟨fun name pos registered => ?_, closed.agree, closed.routed⟩
    simp only [update_apply] at registered
    split_ifs at registered
    exact closed.registered name pos registered

/-- `dropSignaler` closes one inbox and leaves the pairings otherwise as they are. -/
theorem getElem?_dropSignaler (state : State Link) (sid : SessionId) (index : Nat) :
    (state.dropSignaler sid).pairings[index]? = state.pairings[index]?.map fun pairing =>
      if state.sigs sid = some index then
        { pairing with signaler := { pairing.signaler with closed := true } }
      else pairing := by
  unfold dropSignaler
  cases registered : state.sigs sid with
  | none => simp
  | some =>
    simp only [onSignaler, State.modify, getElem?_modify, Option.some.injEq,
      Option.map_eq_map]

/-- A drop keeps each session's link and progress. -/
theorem dropSignaler_keeps (found : state.pairings[index]? = some pairing) (sid : SessionId) :
    ∃ after, (state.dropSignaler sid).pairings[index]? = some after ∧
      after.progress = pairing.progress ∧ after.signaler.link = pairing.signaler.link := by
  rw [getElem?_dropSignaler, found, Option.map_some]
  split_ifs <;> exact ⟨_, rfl, rfl, rfl⟩

/-- A session that ends has no signaler registered. -/
theorem Owned.retire (owned : state.Owned) (found : state.pairings[index]? = some pairing)
    (running : pairing.progress ≠ .finished) (progress : Progress) :
    ((state.dropSignaler pairing.signaler.sid).setProgress index progress).Owned := by
  obtain ⟨after, kept, same, _⟩ := dropSignaler_keeps found pairing.signaler.sid
  refine (owned.dropSignaler pairing.signaler.sid).setProgress kept (same ▸ running) ?_
  rintro ⟨name, registered⟩
  rw [sigs_dropSignaler] at registered
  split_ifs at registered with same
  obtain ⟨other, known, named, _⟩ := owned.registered name index registered
  cases known.symm.trans found
  exact absurd named.symm same

/-- An unchanged state is spared. -/
theorem Spares.refl (link : Link) (state : State Link) : state.Spares link state :=
  fun _ _ pairing registered found _ => ⟨registered, pairing, found, rfl, rfl, rfl⟩

/-- Two steps that spare. -/
theorem Spares.trans {middle next : State Link} (first : state.Spares link middle)
    (second : middle.Spares link next) : state.Spares link next := by
  intro sid index pairing registered found foreign
  obtain ⟨still, after, known, same, closed, stage⟩ :=
    first sid index pairing registered found foreign
  obtain ⟨last, final, later, sameLink, sameClosed, sameStage⟩ :=
    second sid index after still known (same ▸ foreign)
  exact ⟨last, final, later, sameLink.trans same, sameClosed.trans closed, sameStage.trans stage⟩

/-- A change of one pairing that leaves it open, or is to a pairing of the link. -/
theorem spares_modify (keeps : ∀ pairing, state.pairings[index]? = some pairing →
      pairing.signaler.link ≠ link → (change pairing).signaler.link = pairing.signaler.link ∧
        (change pairing).signaler.closed = pairing.signaler.closed ∧
          (change pairing).progress = pairing.progress) :
    state.Spares link (state.modify index change) := by
  intro sid pos pairing registered found foreign
  refine ⟨registered, ?_⟩
  rw [modify, getElem?_modify, found]
  by_cases here : index = pos
  · subst here
    exact ⟨change pairing, by simp, keeps pairing found foreign⟩
  · exact ⟨pairing, by simp [here], rfl, rfl, rfl⟩

/-- A link's own session may go on. -/
theorem spares_setProgress (found : state.pairings[index]? = some pairing) (progress : Progress) :
    state.Spares pairing.signaler.link (state.setProgress index progress) := by
  refine spares_modify fun other known foreign => ?_
  rw [Option.some.inj (known.symm.trans found)] at foreign
  exact absurd rfl foreign

/-- A frame changes neither link nor closing. -/
theorem receive_keeps (signaler : Signaler Link) (delivery : Delivery Link) :
    (signaler.receive delivery).link = signaler.link ∧
      (signaler.receive delivery).closed = signaler.closed := by
  unfold Signaler.receive
  split_ifs <;> exact ⟨rfl, rfl⟩

section

variable [DecidableEq Link]

/-- Sessions of the name that are not over are the link's. -/
theorem unclaimed_iff : state.unclaimed link sid ↔ ∀ pairing ∈ state.pairings,
    pairing.signaler.sid = sid → pairing.progress ≠ .finished → pairing.signaler.link = link := by
  simp only [unclaimed, all_eq_true, Bool.or_eq_true, bne_iff_ne, beq_iff_eq, ne_eq]
  refine forall₂_congr fun pairing _ => ?_
  tauto

variable {index : Nat} {pairing : Pairing Link}

include owned

/-- The signaler under an unclaimed name of a link's message is on that link. -/
theorem Owned.link_eq (unclaimed : state.unclaimed link sid)
    (registered : state.sigs sid = some index) (found : state.pairings[index]? = some pairing) :
    pairing.signaler.link = link := by
  obtain ⟨other, known, named, _, live⟩ := owned.registered sid index registered
  cases known.symm.trans found
  exact unclaimed_iff.mp unclaimed _ (mem_of_getElem? known) named live

/-- The signaler under the name of a session that is not over is on its link. -/
theorem Owned.unclaimed_of_live (member : pairing ∈ state.pairings)
    (live : pairing.progress ≠ .finished) :
    state.unclaimed pairing.signaler.link pairing.signaler.sid :=
  unclaimed_iff.mpr fun other known named running =>
    owned.agree other known pairing member named running live

/-- A link may register a name no other link has. -/
theorem Owned.newSignaler (side : Side)
    (unclaimed : state.unclaimed link sid) : (state.newSignaler side link sid).Owned := by
  have claimed := unclaimed_iff.mp unclaimed
  refine ⟨fun name index registered => ?_, fun first known second other named running live => ?_,
    fun pairing member delivery handed => ?_⟩
  · simp only [State.newSignaler, update_apply] at registered
    split_ifs at registered with same
    · cases registered
      exact ⟨_, getElem?_concat_length, same.symm, nofun, nofun⟩
    · obtain ⟨pairing, found, rest⟩ := owned.registered name index registered
      refine ⟨pairing, ?_, rest⟩
      rw [State.newSignaler, getElem?_append_left (List.getElem?_eq_some_iff.mp found).1]
      exact found
  · simp only [State.newSignaler, mem_append, mem_singleton] at known other
    rcases known with known | rfl <;> rcases other with other | rfl
    · exact owned.agree first known second other named running live
    · exact claimed first known named running
    · exact (claimed second other named.symm live).symm
    · rfl
  · simp only [State.newSignaler, mem_append, mem_singleton] at member
    rcases member with member | rfl
    · exact owned.routed pairing member delivery handed
    · cases handed

/-- A link may signal a name no other link has. -/
theorem Owned.routeSignal (unclaimed : state.unclaimed link sid)
    (frame : SignalFrame) : (state.routeSignal link sid frame).Owned := by
  unfold State.routeSignal
  cases registered : state.sigs sid with
  | none => exact owned
  | some =>
    refine owned.onSignaler fun pairing found => .receive pairing.signaler ?_
    exact (owned.link_eq unclaimed registered found).symm

/-- A link that registers a signaler under an unclaimed name replaces one of its own at most. -/
theorem Owned.spares_newSignaler (side : Side)
    (unclaimed : state.unclaimed link sid) :
    state.Spares link (state.newSignaler side link sid) := by
  intro name index pairing registered found foreign
  have apart : name ≠ sid := by
    rintro rfl
    exact foreign (owned.link_eq unclaimed registered found)
  refine ⟨?_, pairing, ?_, rfl, rfl, rfl⟩
  · rw [← registered]
    exact update_of_ne apart _ _
  · rw [State.newSignaler, getElem?_append_left (List.getElem?_eq_some_iff.mp found).1]
    exact found

/-- A link that drops an unclaimed name closes a signaler of its own at most. -/
theorem Owned.spares_dropSignaler
    (unclaimed : state.unclaimed link sid) : state.Spares link (state.dropSignaler sid) := by
  intro name index pairing registered found foreign
  have other : state.sigs sid ≠ some index := fun same =>
    foreign (owned.link_eq unclaimed same found)
  have apart : name ≠ sid := by
    rintro rfl
    exact other registered
  refine ⟨?_, pairing, ?_, rfl, rfl, rfl⟩
  · rw [sigs_dropSignaler, if_neg apart, registered]
  · rw [getElem?_dropSignaler, found, Option.map_some, if_neg other]

/-- A session that ends drops a signaler of its own link at most. -/
theorem Owned.spares_retire (found : state.pairings[index]? = some pairing)
    (running : pairing.progress ≠ .finished) (progress : Progress) :
    state.Spares pairing.signaler.link
      ((state.dropSignaler pairing.signaler.sid).setProgress index progress) := by
  have claimed := owned.unclaimed_of_live (mem_of_getElem? found) running
  obtain ⟨after, kept, _, same⟩ := dropSignaler_keeps found pairing.signaler.sid
  exact (owned.spares_dropSignaler claimed).trans (same ▸ spares_setProgress kept progress)

omit [DecidableEq Link] in
/-- A session that its own link closes. -/
theorem Owned.closeSession (own : ∀ pairing ∈ state.pairings[index]?,
      pairing.progress = .established → pairing.signaler.link = link) :
    (state.closeSession index).Owned ∧ state.Spares link (state.closeSession index) := by
  unfold State.closeSession
  split_ifs with established
  · obtain ⟨pairing, found, established⟩ := Option.map_eq_some_iff.mp established
    refine ⟨owned.setProgress found ?_ fun _ => ⟨nofun, nofun⟩,
      own pairing found established ▸ spares_setProgress found .closing⟩
    rw [established]
    nofun
  · exact ⟨owned, .refl link state⟩

/-- The end of an attempt: a failed one drops its own link's signaler at most. -/
theorem Owned.settle (found : state.pairings[index]? = some pairing)
    (negotiating : pairing.progress = .negotiating) (succeeded : Bool) :
    (state.settle index pairing.signaler.sid succeeded).Owned ∧
      state.Spares pairing.signaler.link (state.settle index pairing.signaler.sid succeeded) := by
  have running : pairing.progress ≠ .finished := by
    rw [negotiating]
    nofun
  unfold State.settle
  split_ifs
  · have kept : (state.setProgress index .established).Owned :=
      owned.setProgress found running fun _ => ⟨nofun, nofun⟩
    exact ⟨⟨kept.registered, kept.agree, kept.routed⟩, spares_setProgress found .established⟩
  · exact ⟨owned.retire found running .finished, owned.spares_retire found running .finished⟩

/-- The watcher drops its own link's signaler at most. -/
theorem Owned.watch {next : State Link} (found : state.pairings[index]? = some pairing)
    (watched : state.watch index pairing.signaler.sid pairing.progress = some next) :
    next.Owned ∧ state.Spares pairing.signaler.link next := by
  cases reached : pairing.progress <;> rw [reached] at watched
  case negotiating | established | finished => cases watched
  case closing =>
    cases watched
    have running : pairing.progress ≠ .finished := by
      rw [reached]
      nofun
    exact ⟨owned.retire found running .forgetting, owned.spares_retire found running .forgetting⟩
  case forgetting =>
    cases watched
    have kept : (state.setProgress index .finished).Owned := by
      refine owned.setProgress found ?_ fun ⟨name, registered⟩ => ?_
      · rw [reached]
        nofun
      · exact absurd reached (owned.live registered found).1
    exact ⟨⟨kept.registered, kept.agree, kept.routed⟩, spares_setProgress found .finished⟩

/-- What one datagram does. -/
theorem Owned.readLoop (clientOn : Bool) {msg : Message}
    (apart : state.apart (.datagram link msg)) :
    (state.readLoop clientOn link msg).Owned ∧
      state.Spares link (state.readLoop clientOn link msg) := by
  cases msg with
  | assign =>
    simp only [State.readLoop, startFwdSession]
    split_ifs
    · exact ⟨owned, .refl link state⟩
    · exact ⟨owned.newSignaler .accepting apart, owned.spares_newSignaler .accepting apart⟩
  | signal sid frame =>
    refine ⟨owned.routeSignal apart frame, ?_⟩
    simp only [State.readLoop, State.routeSignal]
    cases state.sigs sid with
    | none => exact .refl link state
    | some =>
      refine spares_modify fun pairing _ _ => ?_
      obtain ⟨same, closed⟩ := receive_keeps pairing.signaler ⟨link, frame⟩
      exact ⟨same, closed, rfl⟩
  | session =>
    simp only [State.readLoop]
    split_ifs
    · exact ⟨⟨owned.registered, owned.agree, owned.routed⟩, .refl link state⟩
    · exact ⟨owned, .refl link state⟩
  | reselect sid =>
    simp only [State.readLoop, onRelayReselect]
    split_ifs
    · cases state.active with
      | none => exact ⟨owned, .refl link state⟩
      | some index =>
        dsimp only
        split_ifs with named
        · refine owned.closeSession fun pairing found established => ?_
          rw [Option.mem_def.mp found] at named
          refine unclaimed_iff.mp apart pairing (mem_of_getElem? found) (Option.some.inj named.2) ?_
          rw [established]
          nofun
        · exact ⟨owned, .refl link state⟩
    · exact ⟨owned, .refl link state⟩

omit owned [DecidableEq Link] in
/-- It is enough to spare from the acting link. -/
theorem spares_of_actor {label : Label Link} {next : State Link}
    (acts : state.actor label = some link) (spares : state.Spares link next) :
    ∀ actor ∈ state.actor label, state.Spares actor next := by
  intro actor member
  rw [← Option.some.inj (acts.symm.trans member)]
  exact spares

/-- Every step keeps the links apart. -/
theorem Owned.step {clientOn : Bool} {label : Label Link} {next : State Link}
    (apart : state.apart label) (moves : (signalling clientOn).step state label = some next) :
    next.Owned ∧ ∀ link ∈ state.actor label, state.Spares link next := by
  cases label with
  | datagram =>
    simp only [signalling] at moves
    split_ifs at moves
    cases moves
    exact (owned.readLoop clientOn apart).imp_right (spares_of_actor rfl)
  | reply link dials =>
    simp only [signalling] at moves
    split at moves
    · cases moves
    · next rest replies =>
      cases moves
      have taken :
          State.Owned { state with replies := update state.replies link rest } :=
        ⟨owned.registered, owned.agree, owned.routed⟩
      cases dials with
      | false => exact ⟨taken, fun link _ => .refl link state⟩
      | true =>
        simp only [State.apart, replies, head?_cons, Option.all_some] at apart
        exact ⟨taken.newSignaler .dialing apart,
          spares_of_actor rfl (taken.spares_newSignaler .dialing apart)⟩
  | recv =>
    cases moves
    exact ⟨owned.onSignaler fun pairing _ => .recv pairing.signaler,
      fun link _ => spares_modify fun _ _ _ => ⟨rfl, rfl, rfl⟩⟩
  | settle index succeeded =>
    obtain ⟨pairing, found, settled⟩ := Option.bind_eq_some_iff.mp moves
    split_ifs at settled with negotiating
    cases settled
    exact (owned.settle found negotiating succeeded).imp_right
      (spares_of_actor (by rw [actor, found]; rfl))
  | adopt index =>
    obtain ⟨pairing, found, adopted⟩ := Option.bind_eq_some_iff.mp moves
    split_ifs at adopted
    cases adopted
    exact ⟨⟨owned.registered, owned.agree, owned.routed⟩, fun link _ => .refl link state⟩
  | close index =>
    cases moves
    cases found : state.pairings[index]? with
    | none =>
      have same : state.closeSession index = state := if_neg (by simp [found])
      exact same.symm ▸ ⟨owned, fun link _ => .refl link state⟩
    | some pairing =>
      refine (owned.closeSession fun other known _ => ?_).imp_right
        (@spares_of_actor _ _ pairing.signaler.link _ _ (by rw [actor, found]; rfl))
      rw [Option.some.inj (known.symm.trans found)]
  | watch =>
    obtain ⟨pairing, found, watched⟩ := Option.bind_eq_some_iff.mp moves
    exact (owned.watch found watched).imp_right (spares_of_actor (by rw [actor, found]; rfl))

omit owned

/-- The links are apart in every reachable state. -/
theorem Owned.runs {clientOn : Bool} {labels : List (Label Link)}
    (runs : (signalling clientOn).Runs (fun state label => state.apart label) labels state) :
    state.Owned := by
  refine runs.invariant (fun start => ?_) fun owned apart moves =>
    (owned.step apart moves).1
  subst start
  exact ⟨nofun, nofun, nofun⟩

end

end State

/-- As long as no coordinator names a session of another one, every signaler is handed frames of its
own link only, and no link's step replaces or closes the signaler of another's session. -/
theorem signalling_isolated [DecidableEq Link] {clientOn : Bool} {labels : List (Label Link)}
    {state : State Link}
    (runs : (signalling clientOn).Runs (fun state label => state.apart label = true) labels state) :
    state.Routed ∧ ∀ label next, state.apart label = true →
      (signalling clientOn).step state label = some next →
        ∀ link ∈ state.actor label, state.Spares link next := by
  have owned := State.Owned.runs runs
  exact ⟨owned.routed, fun label next apart transition => (owned.step apart transition).2⟩

/-- A client of member 0 that forwards for member 1; both signal their own sessions. -/
def twoMembers : List (Label Nat) :=
  [.datagram 0 (.session "ours"), .reply 0 true, .datagram 1 (.assign "theirs"), .settle 1 true,
    .datagram 1 (.signal "theirs" ⟨.offer, "o"⟩), .datagram 0 (.signal "ours" ⟨.answer, "a"⟩),
    .settle 0 true]

/-- Neither member's frames reach the other's session. -/
theorem twoMembers_isolated : ∃ state : State Nat,
    (signalling true).Runs (fun state label => state.apart label = true) twoMembers state ∧
      (state.pairings.map fun pairing => pairing.signaler.received.map Delivery.link) =
        [[0], [1]] ∧ state.Routed ∧
      ∀ next, (signalling true).step state (.datagram 1 (.assign "third")) = some next →
        state.Spares 1 next := by
  obtain ⟨state, followed⟩ : ∃ state : State Nat,
      (signalling true).follow {} twoMembers = some state := ⟨_, rfl⟩
  have runs : (signalling true).Runs (fun state label => state.apart label) twoMembers
      state := .ofFollow rfl followed (by decide)
  obtain ⟨routed, spares⟩ := signalling_isolated runs
  cases followed
  exact ⟨_, runs, by decide, routed, fun next transition =>
    spares _ next (by decide) transition 1 rfl⟩

/-- While a client of member 0 dials, member 1 signals the same session and assigns it: the frame
reaches the client's signaler, and the assignment takes its place. Once the session is up, a
reselect of member 1 closes it, and its watcher the signaler. -/
theorem foreign_frame_reaches_signaler : (∃ state next : State Nat,
    (signalling true).Runs Machine.free
        [.datagram 0 (.session "ours"), .reply 0 true,
          .datagram 1 (.signal "ours" ⟨.candidate, "c"⟩)] state ∧
      (∃ pairing ∈ state.pairings, pairing.signaler.link = 0 ∧
        pairing.signaler.received = [⟨1, ⟨.candidate, "c"⟩⟩]) ∧
      ¬ state.Routed ∧
      (signalling true).step state (.datagram 1 (.assign "ours")) = some next ∧
      state.actor (.datagram 1 (.assign "ours")) = some 1 ∧ ¬ state.Spares 1 next) ∧
    ∃ state next last : State Nat,
      (signalling true).Runs Machine.free
        [.datagram 0 (.session "ours"), .reply 0 true, .settle 0 true, .adopt 0] state ∧
      (signalling true).step state (.datagram 1 (.reselect "ours")) = some next ∧
      state.actor (.datagram 1 (.reselect "ours")) = some 1 ∧ ¬ state.Spares 1 next ∧
      (signalling true).step next (.watch 0) = some last ∧
      state.sigs "ours" = some 0 ∧ last.sigs "ours" = none := by
  constructor
  · obtain ⟨state, followed⟩ : ∃ state : State Nat,
        (signalling true).follow {} [.datagram 0 (.session "ours"), .reply 0 true,
          .datagram 1 (.signal "ours" ⟨.candidate, "c"⟩)] = some state := ⟨_, rfl⟩
    have runs := Machine.Runs.ofFollow rfl followed (Machine.meets_free _ _)
    cases followed
    refine ⟨_, _, runs, ⟨_, .head _, rfl, rfl⟩, fun routed => ?_, rfl, rfl, fun spares => ?_⟩
    · exact absurd (routed _ (.head _) ⟨1, ⟨.candidate, "c"⟩⟩ (.head _)) (by decide)
    · exact absurd (spares "ours" 0 _ rfl rfl (by decide)).1 (by decide)
  · obtain ⟨state, followed⟩ : ∃ state : State Nat,
        (signalling true).follow {} [.datagram 0 (.session "ours"), .reply 0 true, .settle 0 true,
          .adopt 0] = some state := ⟨_, rfl⟩
    have runs := Machine.Runs.ofFollow rfl followed (Machine.meets_free _ _)
    cases followed
    refine ⟨_, _, _, runs, rfl, rfl, fun spares => ?_, rfl, rfl, rfl⟩
    obtain ⟨_, after, found, _, _, stage⟩ := spares "ours" 0 _ rfl rfl (by decide)
    cases found
    cases stage

end Bacchus.Engine
