import Bacchus.Netd.Replies
import Bacchus.Netd.Ownership

/-!
# Serving the bytes of one peer

The loop of `serve` over everything an accepted peer sends. A frame is handled without
interruption; between two the other connections may have done anything to the helper.
-/

namespace Bacchus.Netd

open Netip Text Option List

/-- What the system contributes to the handling of one frame. -/
structure Exchange where
  /-- The outcomes of the handler's actions, in order. -/
  answers : Nat → Answer
  /-- The random draw for a session token. -/
  mint : Answer

inductive Status where
  | reading
  | dropped
  /-- The whole process is gone. -/
  | panicked
deriving DecidableEq

/-- A connection, with the bytes its peer has still to deliver. -/
structure Peer where
  helper : Helper
  input : List UInt8
  status : Status := .reading
  replies : List Reply := []

inductive PeerLabel where
  /-- The loop of `serve` runs once. -/
  | frame (exchange : Exchange)
  /-- Other connections have been served in the meantime. -/
  | others (helper : Helper)

/-- `dispatch` without interruption. -/
def respond (conn : ConnId) (uid : UInt32) (req : Request) (exchange : Exchange)
    (helper : Helper) : Helper × Outcome :=
  match turn req helper with
  | (next, .answer reply) => (next, .reply reply)
  | (next, .openNew) =>
    let installed := install conn uid (reapForOpen.exec exchange.answers next).1 exchange.mint
    (installed.1, .reply installed.2)
  | (next, .work id work) => (Work.on work id).exec exchange.answers next

/-- `clientGone` without interruption. -/
def leave (answers : Nat → Answer) (helper : Helper) : Helper :=
  match helper.sess with
  | none => helper
  | some id => ((Work.on teardown id).exec answers { helper with sess := none }).1

/-- One turn of the loop of `serve`. A refusal of a malformed request is written whatever comes of
it; any other reply that cannot be written drops the connection. -/
def serve (decode : Decoder) (isPrint : Char → Bool) (conn : ConnId) (uid : UInt32) (peer : Peer)
    (exchange : Exchange) : Peer :=
  match readFrame peer.input with
  | .short | .tooLarge =>
    { peer with helper := leave exchange.answers peer.helper, status := .dropped }
  | .body bytes rest =>
    match readRequest decode bytes with
    | .error refusal =>
      { peer with
        input := rest
        replies := if refusal.fits isPrint then peer.replies ++ [refusal] else peer.replies }
    | .ok req =>
      match respond conn uid req exchange peer.helper with
      | (helper, .panic) => { peer with helper, input := rest, status := .panicked }
      | (helper, .reply reply) =>
        if reply.fits isPrint then
          { peer with helper, input := rest, replies := peer.replies ++ [reply] }
        else
          { peer with
            helper := leave exchange.answers helper
            input := rest
            status := .dropped }

/-- The helper as one accepted peer sees it. -/
def serving (decode : Decoder) (isPrint : Char → Bool) (conn : ConnId) (uid : UInt32) :
    Machine Peer PeerLabel where
  initial peer := peer.status = .reading ∧ peer.replies = []
  step peer
    | .frame exchange =>
      if peer.status = .reading then some (serve decode isPrint conn uid peer exchange) else none
    | .others helper => if peer.status = .reading then some { peer with helper } else none

/-- The request was neither carried out nor able to be. -/
def Outcome.refused : Outcome → Bool
  | .reply sent => !sent.ok
  | .panic => true

/-- The lockdown is as it was, unless the request was carried out. -/
def KeepsTable (table after : Option Table) (outcome : Outcome) : Prop :=
  outcome.refused → after = table

/-- The transaction that arms the lockdown does not fail. -/
def Answer.Commits (answer : Answer) : Prop := answer.commit = none

section

variable {α : Type} {table : Option Table}

theorem quiet_lockedRead (read : SessionState → α) :
    (lockedRead read).Tracks (fun scope => scope.kernel.table) Answer.Commits
      (fun after _ => after = table) table :=
  Task.tracks_quiet fun _ _ => rfl

theorem quiet_query (call : Kernel → Answer → α) :
    (query call).Tracks (fun scope => scope.kernel.table) Answer.Commits
      (fun after _ => after = table) table := by
  refine Task.tracks_quiet fun scope answer => ?_
  cases answer.error with
  | none | some => rfl

theorem keeps_refuse (code : Code) (pieces : List Piece) :
    (refuse code pieces).Tracks (fun scope => scope.kernel.table) Answer.Commits (KeepsTable table)
      table :=
  fun _ => rfl

/-- Where the transaction does not fail, arming touches the table once only a panic can refuse the
request. -/
theorem keeps_arm {spec : KillSwitchSpec} (onlyV4 : ∀ net ∈ spec.nets, net.addr.is4) :
    (arm spec).Tracks (fun scope => scope.kernel.table) Answer.Commits (KeepsTable table)
      table := by
  obtain ⟨msgs, built⟩ := isSome_iff_exists.mp ((killSwitchMsgs_isSome_iff spec).mpr onlyV4)
  refine (quiet_query _).bind ?_
  rintro _ (error | _) rfl
  · exact keeps_refuse _ _
  refine (Task.tracks_true clearTable).bind fun cleared _ _ => ?_
  rw [built]
  have committed : (transact msgs).Tracks (fun scope => scope.kernel.table) Answer.Commits
      (fun _ result => result = .ok ()) cleared := by
    refine Task.tracks_await fun scope answer commits _ => ?_
    rw [show answer.commit = none from commits]
    rfl
  refine committed.bind ?_
  rintro after _ rfl
  exact (Task.tracks_true _).bind fun _ _ _ refused => absurd refused (by decide)

theorem keeps_handleEnableKillSwitch {req : Request} (modest : req.Modest)
    (onlyV4 : req.AllowsOnlyV4) :
    (handleEnableKillSwitch req).Tracks (fun scope => scope.kernel.table) Answer.Commits
      (KeepsTable table) table := by
  refine (quiet_lockedRead _).bind ?_
  rintro _ tunIndex rfl
  split
  · exact keeps_refuse _ _
  refine (quiet_query _).bind ?_
  rintro _ (error | lo) rfl
  · exact keeps_refuse _ _
  refine (quiet_lockedRead _).bind ?_
  rintro _ servedSrc rfl
  rcases parseAllowlist_cases modest.allowlist with
    ⟨refusal, failed, _⟩ | ⟨hosts, nets, parsed, blocks⟩
  · rw [failed]
    exact fun _ => rfl
  · rw [parsed]
    exact keeps_arm (onlyV4.nets blocks)

end

variable {req : Request} {helper : Helper}

/-- What the first mutex section answers at once fits a frame. -/
theorem modest_of_turn {next : Helper} {reply : Reply}
    (taken : turn req helper = (next, .answer reply)) : reply.Modest := by
  have mismatch : (failf .badToken
      [.text "session token does not match the open session"]).Modest :=
    modest_failf (by simp) modest_literal
  unfold turn at taken
  split at taken
  · split at taken <;> cases taken
    exact modest_failf (by simp) ⟨modest_literal, modest_uid _, modest_literal⟩
  · split at taken
    · cases taken
      exact modest_success
    · split at taken <;> cases taken
      exact mismatch
  · split at taken <;> cases taken
    rename_i refused
    unfold authorize at refused
    split at refused
    · cases refused
      exact modest_failf (by simp) ⟨modest_literal, Piece.modest_quoted (by decide), modest_literal⟩
    · split at refused
      · cases refused
        exact modest_failf (by simp) modest_literal
      · split at refused <;> cases refused
        exact mismatch

theorem modest_install {answer : Answer} (modest : answer.Modest) (conn : ConnId) (uid : UInt32)
    (helper : Helper) : (install conn uid helper answer).2.Modest := by
  unfold install
  split
  · rename_i error failed
    have short := modest.error error failed
    exact modest_failf (by simp) ⟨modest_literal, modest_brief (by omega)⟩
  · exact ⟨Nat.zero_le _, nofun, modest.token, nofun, Nat.zero_le _⟩

theorem modest_of_readRequest {decode : Decoder} {bytes : List UInt8} {refusal : Reply}
    (short : ∀ text, decode bytes = .error text → text.length ≤ 1400)
    (refused : readRequest decode bytes = .error refusal) : refusal.Modest := by
  unfold readRequest at refused
  split at refused
  · rename_i text failed
    cases refused
    exact modest_failf (by simp) ⟨modest_literal, modest_brief (short text failed)⟩
  · rename_i req decoded
    split at refused <;> cases refused
    rename_i invalid
    unfold Request.validate at invalid
    split_ifs at invalid <;> cases invalid
    · exact modest_failf (by simp) ⟨modest_literal, Piece.modest_number (by decide), modest_literal,
        Piece.modest_number (natAbs_toInt_lt _), modest_literal⟩
    · exact modest_failf (by simp) modest_literal
    · exact modest_failf (by simp) ⟨modest_literal, Piece.modest_number (by decide), modest_literal⟩

/-- The request asks to arm the kill-switch. -/
def Request.Arms (req : Request) : Prop := Verb.parse req.verb = some .enableKillSwitch

/-- The request and the system stay within what the helper copes with, in a state whose
lockdown is `table`. -/
structure Tractable (table : Option Table) (req : Request) (exchange : Exchange) : Prop where
  answers : ∀ index, (exchange.answers index).Modest
  mint : exchange.mint.Modest
  modest : req.Modest
  onlyV4 : req.Arms → req.AllowsOnlyV4
  commits : req.Arms → table.isSome → ∀ index, (exchange.answers index).Commits

variable {exchange : Exchange}

theorem fine_respond {conn : ConnId} {uid : UInt32}
    (tractable : Tractable helper.kernel.table req exchange) :
    (respond conn uid req exchange helper).2.Fine := by
  unfold respond
  split
  · rename_i taken
    exact modest_of_turn taken
  · exact modest_install tractable.mint _ _ _
  · rename_i next id work taken
    obtain ⟨_, _, ⟨_, rfl⟩ | ⟨_, rfl, _⟩⟩ := turn_work taken
    · exact (fine_handle tractable.modest tractable.onlyV4).zoom.exec tractable.answers _
    · have closed : closeSession.Yields Answer.Modest Outcome.Fine :=
        Task.yields_after fun _ => yields_succeed
      exact closed.zoom.exec tractable.answers _

/-- A refused arming request leaves a lockdown in force. -/
theorem keeps_respond {conn : ConnId} {uid : UInt32} {table : Table}
    (tractable : Tractable helper.kernel.table req exchange) (arms : req.Arms)
    (inForce : helper.kernel.table = some table)
    (refused : (respond conn uid req exchange helper).2.refused) :
    (respond conn uid req exchange helper).1.kernel.table = some table := by
  revert refused
  unfold respond
  unfold Request.Arms at arms
  split
  · rename_i taken
    obtain rfl := turn_answer taken
    exact fun _ => inForce
  · rename_i taken
    obtain ⟨_, _, verb⟩ := turn_openNew taken
    rw [arms] at verb
    cases verb
  · rename_i next id work taken
    obtain ⟨_, _, ⟨rfl, rfl⟩ | ⟨_, _, verb⟩⟩ := turn_work taken
    · have handler : handle req = handleEnableKillSwitch req := by simp only [handle, arms]
      have keeps : (handle req).Tracks (fun scope => scope.kernel.table) Answer.Commits
          (KeepsTable (some table)) (some table) := by
        rw [handler]
        exact keeps_handleEnableKillSwitch tractable.modest (tractable.onlyV4 arms)
      have zoomed : (Work.on (handle req) id).Tracks (fun helper => helper.kernel.table)
          Answer.Commits (KeepsTable (some table)) next.kernel.table := by
        rw [inForce]
        refine Task.Tracks.zoom (fun before => ?_) (fun before scope => ?_) keeps
        · rfl
        · rfl
      exact zoomed.exec (tractable.commits arms (by rw [inForce]; rfl))
    · rw [arms] at verb
      cases verb

section

variable {decode : Decoder} {isPrint : Char → Bool} {conn : ConnId} {uid : UInt32}

/-- A frame is short in what a reply may echo, an arming request allows no IPv6 block, and no
transaction fails under a lockdown. -/
def Measured (decode : Decoder) (peer : Peer) : PeerLabel → Prop
  | .others _ => True
  | .frame exchange => ∀ bytes rest, readFrame peer.input = .body bytes rest →
      (∀ text, decode bytes = .error text → text.length ≤ 1400) ∧
        ∀ req, readRequest decode bytes = .ok req →
          Tractable peer.helper.kernel.table req exchange

/-- The frame holds a request to arm the kill-switch. -/
def ArmsBy (decode : Decoder) (bytes : List UInt8) : Prop :=
  ∃ req, readRequest decode bytes = .ok req ∧ req.Arms

/-- The peer of a complete frame gets one reply and is read again; a refusal to arm leaves a
lockdown. -/
structure Answered (decode : Decoder) (bytes rest : List UInt8) (before after : Peer) : Prop where
  status : after.status = .reading
  input : after.input = rest
  replied : ∃ reply, after.replies = before.replies ++ [reply] ∧
    (ArmsBy decode bytes → reply.ok = false → ∀ table, before.helper.kernel.table = some table →
      after.helper.kernel.table = some table)

variable {exchange : Exchange}

theorem answered_serve {peer : Peer} {bytes rest : List UInt8} (reading : peer.status = .reading)
    (complete : readFrame peer.input = .body bytes rest)
    (measured : Measured decode peer (.frame exchange)) :
    Answered decode bytes rest peer (serve decode isPrint conn uid peer exchange) := by
  obtain ⟨short, tractable⟩ := measured bytes rest complete
  unfold serve
  rw [complete]
  dsimp only
  cases parsed : readRequest decode bytes with
  | error refusal =>
    have fits := (modest_of_readRequest short parsed).fits isPrint
    dsimp only
    rw [if_pos fits]
    refine ⟨reading, rfl, refusal, rfl, ?_⟩
    rintro ⟨req, readable, _⟩
    rw [parsed] at readable
    cases readable
  | ok req =>
    have fine : (respond conn uid req exchange peer.helper).2.Fine :=
      fine_respond (tractable req parsed)
    have keeps : req.Arms → ∀ table, peer.helper.kernel.table = some table →
        (respond conn uid req exchange peer.helper).2.refused →
          (respond conn uid req exchange peer.helper).1.kernel.table = some table :=
      fun arms table inForce => keeps_respond (tractable req parsed) arms inForce
    dsimp only
    revert fine keeps
    rcases respond conn uid req exchange peer.helper with ⟨helper, reply | _⟩
    · intro fine keeps
      dsimp only
      rw [if_pos (fine.fits isPrint)]
      refine ⟨reading, rfl, reply, rfl, ?_⟩
      rintro ⟨other, readable, arms⟩ refused table inForce
      rw [parsed] at readable
      cases readable
      exact keeps arms table inForce (by simp [Outcome.refused, refused])
    · intro fine
      exact fine.elim

/-- The connection is given up where the stream holds no further frame. -/
structure Serviceable (peer : Peer) : Prop where
  alive : peer.status ≠ .panicked
  dropped : peer.status = .dropped → ∀ bytes rest, readFrame peer.input ≠ .body bytes rest

/-- Every frame keeps the helper serving. -/
theorem Serviceable.step {peer after : Peer} {label : PeerLabel}
    (measured : Measured decode peer label)
    (moves : (serving decode isPrint conn uid).step peer label = some after) :
    Serviceable after := by
  cases label with
  | others =>
    simp only [serving, ite_none_right_eq_some, some.injEq] at moves
    obtain ⟨reading, rfl⟩ := moves
    exact ⟨by simp [reading], by simp [reading]⟩
  | frame exchange =>
    simp only [serving, ite_none_right_eq_some, some.injEq] at moves
    obtain ⟨reading, rfl⟩ := moves
    cases found : readFrame peer.input with
    | body bytes rest =>
      have answered : Answered decode bytes rest peer
          (serve decode isPrint conn uid peer exchange) := answered_serve reading found measured
      exact ⟨by simp [answered.status], by simp [answered.status]⟩
    | short | tooLarge =>
      simp only [serve, found]
      exact ⟨by simp, by simp [found]⟩

theorem step_frame {peer : Peer} (reading : peer.status = .reading) :
    (serving decode isPrint conn uid).step peer (.frame exchange) =
      some (serve decode isPrint conn uid peer exchange) :=
  if_pos reading

/-- While the frames are measured, every complete frame of every byte stream is answered,
the helper never panics, and a refusal to arm leaves a lockdown in force. -/
theorem every_frame_answered {labels : List PeerLabel} {peer : Peer}
    (runs : (serving decode isPrint conn uid).Runs (Measured decode) labels peer) :
    Serviceable peer ∧ ∀ exchange bytes rest, peer.status = .reading →
      readFrame peer.input = .body bytes rest → Measured decode peer (.frame exchange) →
        ∃ after, (serving decode isPrint conn uid).step peer (.frame exchange) = some after ∧
          Answered decode bytes rest peer after := by
  constructor
  · refine runs.invariant ?_ fun _ measured transition => .step measured transition
    rintro start ⟨reading, _⟩
    exact ⟨by simp [reading], by simp [reading]⟩
  · intro exchange bytes rest reading complete measured
    exact ⟨_, step_frame reading, answered_serve reading complete measured⟩

end

/-- A body behind its 4-byte length. -/
def frameOf (body : List UInt8) : List UInt8 :=
  [24, 16, 8, 0].map (fun shift => UInt8.ofNat (body.length / 2 ^ shift)) ++ body

theorem readFrame_frameOf {body : List UInt8} (rest : List UInt8) (small : body.length ≤ maxFrame) :
    readFrame (frameOf body ++ rest) = .body body rest := by
  have bound : maxFrame = 65536 := rfl
  have length : (((UInt8.ofNat (body.length / 2 ^ 24)).toNat * 256 +
      (UInt8.ofNat (body.length / 2 ^ 16)).toNat) * 256 +
      (UInt8.ofNat (body.length / 2 ^ 8)).toNat) * 256 +
      (UInt8.ofNat (body.length / 2 ^ 0)).toNat = body.length := by
    simp only [UInt8.toNat_ofNat']
    omega
  simp only [frameOf, map_cons, map_nil, cons_append, nil_append, readFrame, length]
  rw [if_neg (by omega), if_neg (by simp), take_left, drop_left]

def ascii (text : String) : List UInt8 := text.toList.map fun char => UInt8.ofNat char.toNat

def openBody : List UInt8 := ascii "\x7b\"version\":2,\"verb\":\"open\"\x7d"

def createBody : List UInt8 :=
  ascii "\x7b\"version\":2,\"verb\":\"create-tun\",\"token\":\"t\"\x7d"

def armBody : List UInt8 :=
  ascii "\x7b\"version\":2,\"verb\":\"enable-kill-switch\",\"token\":\"t\"\x7d"

def armV6Body : List UInt8 :=
  ascii "\x7b\"version\":2,\"verb\":\"enable-kill-switch\",\"token\":\"t\",\"control\":[\"2001:db8::/32\"]\x7d"

/-- A request with an unknown field whose name is a run of `<`. -/
def unknownBody (count : Nat) : List UInt8 :=
  ascii "\x7b\"" ++ replicate count 60 ++ ascii "\":1\x7d"

/-- What the decoder says about that field. -/
def unknownText (count : Nat) : String :=
  String.ofList ("json: unknown field \"".toList ++ replicate count '<' ++ ['"'])

/-- `encoding/json` on the bodies above. -/
def sampleDecode (count : Nat) : Decoder := fun body =>
  if body = unknownBody count then .error (unknownText count)
  else
    ([(openBody, verbWith .open ""), (createBody, verbWith .createTUN "t"),
      (armBody, verbWith .enableKillSwitch "t"),
      (armV6Body, { verbWith .enableKillSwitch "t" with control := ["2001:db8::/32"] })].lookup
        body).elim (.error "unexpected end of JSON input") .ok

/-- Every call succeeds. -/
def smooth : Exchange where
  answers _ := { index := 7 }
  mint := { token := "t" }

/-- Everything succeeds but the arming transaction. -/
def failing : Exchange where
  answers _ := { index := 7, commit := some "no buffer space available" }
  mint := { token := "t" }

def servingSample (count : Nat) : Machine Peer PeerLabel :=
  serving (sampleDecode count) (fun _ => true) 0 1000

/-- A peer that opens a session, creates its device and arms, then sends `last`. -/
def Peer.arming (last : List UInt8) : Peer where
  helper := {}
  input := [openBody, createBody, armBody, last].flatMap frameOf

/-- The same peer once it has armed. -/
def Peer.armed (last : List UInt8)
    (served : ((servingSample 0).follow (.arming last) (replicate 3 (.frame smooth))).isSome) :
    Peer :=
  ((servingSample 0).follow (.arming last) (replicate 3 (.frame smooth))).get served

theorem runs_armed (last : List UInt8)
    (served : ((servingSample 0).follow (.arming last) (replicate 3 (.frame smooth))).isSome) :
    (servingSample 0).Runs Machine.free (replicate 3 (.frame smooth)) (.armed last served) :=
  .ofFollow ⟨rfl, rfl⟩ (some_get served).symm (Machine.meets_free _ _)

/-- Escaping `<` takes six bytes. -/
theorem byteLength_jsonString_replicate (count : Nat) (front back : List Char) :
    6 * count ≤ byteLength (jsonString (front ++ replicate count '<' ++ back)) := by
  have run : byteLength ((replicate count '<').flatMap jsonChar) = 6 * count := by
    induction count with
    | zero => rfl
    | succ count ih =>
      have escaped : byteLength (jsonChar '<') = 6 := by decide
      rw [replicate_succ, flatMap_cons, byteLength_append, ih, escaped]
      omega
  simp only [jsonString, flatMap_append, byteLength_cons, byteLength_append, run]
  omega

/-- A refusal that echoes that many `<` is too large to be sent. -/
theorem unknown_field_exceeds_frame {count : Nat} (long : maxFrame < 6 * count)
    (isPrint : Char → Bool) :
    (failf .badRequest [.text "malformed request: ", .text (unknownText count)]).fits isPrint =
      false := by
  have msg : (failf .badRequest [.text "malformed request: ",
      .text (unknownText count)]).error.flatMap (Piece.render isPrint) =
        ("malformed request: ".toList ++ "json: unknown field \"".toList) ++
          replicate count '<' ++ ['"'] := by
    have text : (unknownText count).toList =
        "json: unknown field \"".toList ++ replicate count '<' ++ ['"'] := String.toList_ofList
    show "malformed request: ".toList ++ ((unknownText count).toList ++ []) = _
    rw [append_nil, text, ← append_assoc, ← append_assoc]
  have echoed := byteLength_jsonString_replicate count
    ("malformed request: ".toList ++ "json: unknown field \"".toList) ['"']
  have carried := Reply.byteLength_error_le
    (failf .badRequest [.text "malformed request: ", .text (unknownText count)]) isPrint
    (by rw [msg]; exact append_ne_nil_of_right_ne_nil _ (cons_ne_nil _ _))
  rw [msg] at carried
  rw [Reply.fits, decide_eq_false_iff_not, Nat.not_le]
  exact Nat.lt_of_lt_of_le long (Nat.le_trans echoed carried)

theorem serve_unknown_field {count : Nat} (long : maxFrame < 6 * count)
    (small : (unknownBody count).length ≤ maxFrame) (isPrint : Char → Bool) (exchange : Exchange) :
    (serve (sampleDecode count) isPrint 0 1000 ⟨{}, frameOf (unknownBody count), .reading, []⟩
      exchange).replies = [] := by
  have complete : readFrame (frameOf (unknownBody count)) = .body (unknownBody count) [] := by
    simpa using readFrame_frameOf [] small
  have refused : readRequest (sampleDecode count) (unknownBody count) =
      .error (failf .badRequest [.text "malformed request: ", .text (unknownText count)]) := by
    simp only [readRequest, sampleDecode, if_true]
  simp only [serve, complete, refused, unknown_field_exceeds_frame long,
    Bool.false_eq_true, if_false]

private theorem served_armV6 : ((servingSample 0).follow (.arming armV6Body)
    (replicate 3 (.frame smooth))).isSome := by decide +kernel

private theorem served_arm : ((servingSample 0).follow (.arming armBody)
    (replicate 3 (.frame smooth))).isSome := by decide +kernel

private theorem readRequest_arm :
    readRequest (sampleDecode 0) armBody = .ok (verbWith .enableKillSwitch "t") := by decide +kernel

/-- Three byte streams of an accepted peer: an IPv6 block on the allowlist takes the process down
after the old lockdown was deleted; an arming that fails leaves no lockdown where there was one; and
a frame whose refusal outgrows the limit gets no reply. -/
theorem peer_defeats_helper :
    (∃ labels peer after, (servingSample 0).Runs Machine.free labels peer ∧
      peer.helper.kernel.table.isSome = true ∧
      (servingSample 0).step peer (.frame smooth) = some after ∧ after.status = .panicked ∧
      after.helper.kernel.table.isSome = false) ∧
    (∃ labels peer after reply, (servingSample 0).Runs Machine.free labels peer ∧
      peer.helper.kernel.table.isSome = true ∧ readFrame peer.input = .body armBody [] ∧
      ArmsBy (sampleDecode 0) armBody ∧ (servingSample 0).step peer (.frame failing) = some after ∧
      after.replies = peer.replies ++ [reply] ∧ reply.ok = false ∧
      after.helper.kernel.table.isSome = false) ∧
    (∃ peer after bytes, (servingSample 11000).Runs Machine.free [] peer ∧
      peer.status = .reading ∧ readFrame peer.input = .body bytes [] ∧
      (servingSample 11000).step peer (.frame smooth) = some after ∧
      after.replies = peer.replies) := by
  refine ⟨?_, ?_, ?_⟩
  · let peer := Peer.armed armV6Body served_armV6
    let after := serve (sampleDecode 0) (fun _ => true) 0 1000 peer smooth
    have served : peer.status = .reading ∧ peer.helper.kernel.table.isSome ∧
        after.status = .panicked ∧ after.helper.kernel.table.isSome = false := by decide +kernel
    obtain ⟨reading, inForce, panicked, lifted⟩ := served
    exact ⟨_, peer, after, runs_armed _ _, inForce, step_frame reading, panicked, lifted⟩
  · let peer := Peer.armed armBody served_arm
    let after := serve (sampleDecode 0) (fun _ => true) 0 1000 peer failing
    have served : peer.status = .reading ∧ peer.helper.kernel.table.isSome ∧
        readFrame peer.input = .body armBody [] ∧
        after.replies = peer.replies ++
          [failf .internal [.text "arm the kill-switch: ", .text "no buffer space available"]] ∧
        after.helper.kernel.table.isSome = false := by decide +kernel
    obtain ⟨reading, inForce, complete, replied, lifted⟩ := served
    exact ⟨_, peer, after, _, runs_armed _ _, inForce, complete,
      ⟨_, readRequest_arm, Verb.parse_name .enableKillSwitch⟩, step_frame reading,
        replied, rfl, lifted⟩
  · have small : (unknownBody 11000).length ≤ maxFrame := by
      simp only [unknownBody, length_append, length_replicate]
      decide
    have complete : readFrame (frameOf (unknownBody 11000)) = .body (unknownBody 11000) [] := by
      simpa using readFrame_frameOf [] small
    exact ⟨⟨{}, frameOf (unknownBody 11000), .reading, []⟩, _, _, .initial ⟨rfl, rfl⟩,
      rfl, complete,
      step_frame rfl, serve_unknown_field (by decide) small _ _⟩

/-- A peer, found with its lockdown, that asks to arm once more. -/
def Peer.rearming : Peer := { Peer.armed armBody served_arm with replies := [] }

private theorem modest_smooth : (∀ index, (smooth.answers index).Modest) ∧ smooth.mint.Modest := by
  have gateway : GatewayInfo.Modest ⟨.v4 0, 0, "", none⟩ :=
    ⟨by decide, by decide, by decide, by decide⟩
  have src : (Addr.v4 0).text.length ≤ nameBound := by decide
  exact ⟨fun _ => ⟨nofun, nofun, gateway, src, Nat.zero_le _⟩,
    ⟨nofun, nofun, gateway, src, (by decide : "t".length ≤ nameBound)⟩⟩

/-- Arming once more is answered. -/
theorem rearming_answered :
    Peer.rearming.helper.kernel.table.isSome = true ∧
      Measured (sampleDecode 0) .rearming (.frame smooth) ∧
      ∃ after, (servingSample 0).step .rearming (.frame smooth) = some after ∧
        Answered (sampleDecode 0) armBody [] .rearming after := by
  have served : Peer.rearming.status = .reading ∧ Peer.rearming.helper.kernel.table.isSome ∧
      readFrame Peer.rearming.input = .body armBody [] := by decide +kernel
  obtain ⟨reading, inForce, complete⟩ := served
  have runs : (servingSample 0).Runs (Measured (sampleDecode 0)) [] .rearming :=
    .initial ⟨reading, rfl⟩
  have measured : Measured (sampleDecode 0) .rearming (.frame smooth) := by
    intro bytes rest found
    rw [complete] at found
    cases found
    refine ⟨fun text failed => ?_, fun req parsed => ?_⟩
    · have readable := readRequest_arm
      rw [readRequest, failed] at readable
      cases readable
    · rw [readRequest_arm] at parsed
      cases parsed
      have modest : (verbWith .enableKillSwitch "t").Modest :=
        ⟨by decide, by decide, by decide, nofun⟩
      exact ⟨modest_smooth.1, modest_smooth.2, modest, fun _ => nofun, fun _ _ _ => rfl⟩
  exact ⟨inForce, measured,
    (every_frame_answered runs).2 smooth armBody [] reading complete measured⟩

end Bacchus.Netd
