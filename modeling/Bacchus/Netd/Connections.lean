import Bacchus.Netd.Server
import Bacchus.Semantics.Machine

/-!
# Connections to the helper, interleaved

`serve` runs one goroutine per connection, interleaved here action by action: a step lets one read
a request, notice that its peer is gone, or run its next action. A panic ends the process; the
kernel keeps its state and a fresh helper starts without a session.
-/

namespace Bacchus.Netd

/-- Where the goroutine of a connection is. -/
inductive Phase where
  /-- Waiting in `ReadRequest`. -/
  | idle (uid : UInt32)
  /-- A request has been read; its first mutex section is still to come. -/
  | dispatching (uid : UInt32) (req : Request)
  /-- Inside `handleOpen`, holding the mutex and reaping what an orphan left. -/
  | opening (uid : UInt32) (task : Task Helper Answer Unit)
  /-- Handling a request for the session it was authorised for. -/
  | handling (uid : UInt32) (req : Request) (id : SessionId) (task : Task Helper Answer Outcome)
  | replying (uid : UInt32) (reply : Reply)
  /-- The connection has ended; `clientGone` has still to take the mutex. -/
  | leaving
  /-- Inside `clientGone`, tearing down the session it took. -/
  | tearingDown (id : SessionId) (task : Task Helper Answer Unit)
  | closed

/-- The first mutex section of a request, and where the goroutine goes next. -/
def dispatch (conn : ConnId) (uid : UInt32) (req : Request) (helper : Helper) : Helper × Phase :=
  match turn req helper with
  | (next, .answer reply) => (next, .replying uid reply)
  | (next, .openNew) => ({ next with mutex := some conn }, .opening uid reapForOpen)
  | (next, .work id work) => (next, .handling uid req id (Work.on work id))

/-- The mutex section of `clientGone`. It takes whatever session is open. -/
def clientGone (helper : Helper) : Helper × Phase :=
  match helper.sess with
  | none => (helper, .closed)
  | some id => ({ helper with sess := none }, .tearingDown id (Work.on teardown id))

/-- The helper and its connections, in the order they were accepted. -/
structure Service where
  helper : Helper
  conns : List Phase

namespace Service

def phase (service : Service) (conn : ConnId) : Phase := service.conns.getD conn .closed

def update (service : Service) (conn : ConnId) (next : Helper × Phase) : Service where
  helper := next.1
  conns := service.conns.set conn next.2

/-- A panic: every connection is gone and the next process has no session. -/
def crash (service : Service) : Service where
  helper := { service.helper with mutex := none, sess := none }
  conns := service.conns.map fun _ => .closed

end Service

/-- A step of a connection. -/
inductive Label where
  /-- A connection is accepted; logind answers whether its uid is logged in. -/
  | accept (uid : UInt32) (login : Except String Bool)
  | receive (conn : ConnId) (req : Request)
  /-- A frame that is no request is refused by name and the connection continues. -/
  | malformed (conn : ConnId)
  /-- End of file, a transport error or an oversized frame. -/
  | hangup (conn : ConnId)
  /-- The goroutine of a connection runs its next action. -/
  | act (conn : ConnId) (answer : Answer)

/-- Run the next action of a task, if it does not block. -/
def advance {α : Type} (service : Service) (conn : ConnId) (answer : Answer)
    (ready : Helper → Bool) (effect : Helper → Answer → Helper)
    (next : Helper → Answer → Task Helper Answer α) (resume : Task Helper Answer α → Phase) :
    Option Service :=
  if ready service.helper then
    some (service.update conn (effect service.helper answer, resume (next service.helper answer)))
  else none

/-- The next action of one connection. -/
def act (service : Service) (conn : ConnId) (answer : Answer) : Option Service :=
  match service.phase conn with
  | .idle _ | .closed => none
  | .dispatching uid req =>
    if service.helper.mutex.isNone then
      some (service.update conn (dispatch conn uid req service.helper))
    else none
  | .opening uid (.done ()) =>
    let installed := install conn uid service.helper answer
    some (service.update conn (installed.1, .replying uid installed.2))
  | .opening uid (.act ready effect next) =>
    advance service conn answer ready effect next (.opening uid)
  | .handling uid _ _ (.done (.reply reply)) =>
    some (service.update conn (service.helper, .replying uid reply))
  | .handling _ _ _ (.done .panic) => some service.crash
  | .handling uid req id (.act ready effect next) =>
    advance service conn answer ready effect next (.handling uid req id)
  | .replying uid _ =>
    -- A reply that cannot be written drops the connection.
    some (service.update conn (service.helper, if answer.error.isNone then .idle uid else .leaving))
  | .leaving =>
    if service.helper.mutex.isNone then some (service.update conn (clientGone service.helper))
    else none
  | .tearingDown _ (.done ()) => some (service.update conn (service.helper, .closed))
  | .tearingDown id (.act ready effect next) =>
    advance service conn answer ready effect next (.tearingDown id)

/-- The privileged helper serving any number of connections. -/
def netd (allowNoLogin : Bool) : Machine Service Label where
  initial service := service.conns = [] ∧ service.helper.sessions = [] ∧
    service.helper.sess = none ∧ service.helper.mutex = none
  step service
    | .accept uid login =>
      let phase := if (checkPeer allowNoLogin uid login).isNone then .idle uid else .closed
      some { service with conns := service.conns ++ [phase] }
    | .receive conn req =>
      match service.phase conn with
      | .idle uid => some (service.update conn (service.helper, .dispatching uid req))
      | _ => none
    | .malformed conn =>
      match service.phase conn with
      | .idle _ => some service
      | _ => none
    | .hangup conn =>
      match service.phase conn with
      | .idle _ => some (service.update conn (service.helper, .leaving))
      | _ => none
    | .act conn answer => act service conn answer

end Bacchus.Netd
