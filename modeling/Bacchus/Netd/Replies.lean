import Bacchus.Netd.ReplySize
import Bacchus.Netd.Server

/-!
# What the handlers answer

Every handler ends in a reply that fits a frame, provided it is given short texts and an arming
request names no IPv6 block: that makes `enableKillSwitch` panic.
-/

namespace Bacchus.Netd

open Netip List Bacchus.Task

/-- What the system answers is short. -/
structure Answer.Modest (answer : Answer) : Prop where
  error : ∀ error ∈ answer.error, error.length ≤ 1000
  commit : ∀ error ∈ answer.commit, error.length ≤ 1000
  gateway : answer.gateway.Modest
  source : answer.source.text.length ≤ nameBound
  token : answer.token.length ≤ nameBound

/-- The strings a refusal may echo are short. -/
structure Request.Modest (req : Request) : Prop where
  verb : req.verb.length ≤ nameBound
  addr : req.addr.length ≤ nameBound
  ip : req.ip.length ≤ nameBound
  entries : ∀ entry ∈ req.prefixes ++ (req.control ++ req.bypass),
    entry.length ≤ nameBound

/-- Every CIDR entry of the allowlist is IPv4. -/
def Request.AllowsOnlyV4 (req : Request) : Prop :=
  ∀ entry ∈ req.control ++ req.bypass, ∀ block,
    parseHostOrPrefix entry = .ok (.inr block) → block.addr.is4

/-- The outcome is a reply that fits a frame. -/
def Outcome.Fine : Outcome → Prop
  | .reply sent => sent.Modest
  | .panic => False

/-- An error text of at most `bound` characters, or a good value. -/
def Brief {α : Type} (bound : Nat) (Good : α → Prop) : Except String α → Prop
  | .error error => error.length ≤ bound
  | .ok value => Good value

/-- Given short answers, the work ends in a reply that fits. -/
abbrev Work.Fine (work : Work Outcome) : Prop := work.Yields Answer.Modest Outcome.Fine

/-- Given short answers, the work ends in a short error or a good value. -/
abbrev Work.Brief {α : Type} (bound : Nat) (work : Work (Except String α))
    (Good : α → Prop := fun _ => True) : Prop :=
  work.Yields Answer.Modest (Netd.Brief bound Good)

variable {code : Code}

/-- A message of few modest pieces is modest. -/
theorem modest_failf {pieces : List Piece} (count : pieces.length ≤ 5)
    (every : pieces.Forall Piece.Modest) : (failf code pieces).Modest where
  count := count
  pieces := forall_iff_forall_mem.mp every
  token := Nat.zero_le _
  gateway := nofun
  servedSource := Nat.zero_le _

/-- A success is modest. -/
theorem modest_success : Reply.success.Modest :=
  ⟨Nat.zero_le _, nofun, Nat.zero_le _, nofun, Nat.zero_le _⟩

/-- A short literal is modest. -/
theorem modest_literal {value : String} (short : value.length ≤ pieceBound := by decide) :
    (Piece.text value).Modest :=
  Piece.modest_text short

variable {error : String}

/-- A brief error is modest. -/
theorem modest_brief (short : error.length ≤ 1400) : (Piece.text error).Modest :=
  Piece.modest_text (Nat.le_trans short (by decide))

/-- A user id is modest. -/
theorem modest_uid (uid : UInt32) : (Piece.number uid.toNat).Modest := by
  have bound := uid.toNat_lt
  exact Piece.modest_number (by simp only [Int.natAbs_natCast]; omega)

theorem brief_parseHostOrPrefix (entry : String) :
    Brief 30 (fun _ => True) (parseHostOrPrefix entry) := by
  simp only [parseHostOrPrefix]
  split_ifs
  · exact (by decide : "empty".length ≤ 30)
  · split
    · trivial
    · split
      · trivial
      · exact (by decide : "not an IP address or CIDR".length ≤ 30)

variable {label : String}

private theorem modest_entry {entry : String} (short : entry.length ≤ nameBound)
    (named : label.length ≤ pieceBound) (failed : parseHostOrPrefix entry = .error error) :
    (failf .badRequest [.text label, .quoted entry, .text ": ", .text error]).Modest := by
  have brief := brief_parseHostOrPrefix entry
  rw [failed] at brief
  have text : error.length ≤ 30 := brief
  exact modest_failf (by simp) ⟨Piece.modest_text named, Piece.modest_quoted short, modest_literal,
    modest_brief (by omega)⟩

variable {entries : List String}

theorem modest_of_parsePrefixes {wantV6 : Bool} {refusal : Reply}
    (short : ∀ entry ∈ entries, entry.length ≤ nameBound)
    (failed : parsePrefixes wantV6 entries = .error refusal) : refusal.Modest := by
  induction entries with
  | nil => cases failed
  | cons entry entries ih =>
    have tail := fun other member => short other (mem_cons_of_mem entry member)
    simp only [parsePrefixes] at failed
    split at failed
    · rename_i error parsed
      cases failed
      exact modest_entry (short entry mem_cons_self) (by decide) parsed
    · split at failed
      · rename_i inner
        cases failed
        exact ih tail inner
      · cases failed

/-- What `parseAllowlist` makes of short entries: a modest refusal, or their blocks. -/
theorem parseAllowlist_cases (short : ∀ entry ∈ entries, entry.length ≤ nameBound) :
    (∃ refusal, parseAllowlist entries = .error refusal ∧ refusal.Modest) ∨
      ∃ hosts nets, parseAllowlist entries = .ok (hosts, nets) ∧
        ∀ net ∈ nets, ∃ entry ∈ entries, parseHostOrPrefix entry = .ok (.inr net) := by
  induction entries with
  | nil => exact .inr ⟨[], [], rfl, nofun⟩
  | cons entry entries ih =>
    have tail := ih fun other member => short other (mem_cons_of_mem entry member)
    cases parsed : parseHostOrPrefix entry with
    | error =>
      refine .inl ⟨_, by simp only [parseAllowlist, parsed]; rfl, ?_⟩
      exact modest_entry (short entry mem_cons_self) (by decide) parsed
    | ok value =>
      rcases tail with ⟨refusal, failed, modest⟩ | ⟨hosts, nets, found, from_⟩
      · exact .inl ⟨refusal, by simp only [parseAllowlist, parsed, failed], modest⟩
      · have older : ∀ net ∈ nets, ∃ other ∈ entry :: entries,
            parseHostOrPrefix other = .ok (.inr net) := by
          intro net member
          obtain ⟨other, inside, same⟩ := from_ net member
          exact ⟨other, mem_cons_of_mem _ inside, same⟩
        cases value with
        | inl addr =>
          exact .inr ⟨addr :: hosts, nets, by simp only [parseAllowlist, parsed, found], older⟩
        | inr block =>
          refine .inr ⟨hosts, block :: nets, by simp only [parseAllowlist, parsed, found], ?_⟩
          intro net member
          rcases mem_cons.mp member with rfl | inside
          · exact ⟨entry, mem_cons_self, parsed⟩
          · exact older net inside

section

variable {α : Type} {Good : α → Prop} {bound : Nat}

/-- A system call fails with a short text or returns a good value. -/
theorem yields_query {call : Kernel → Answer → α}
    (good : ∀ kernel (answer : Answer), answer.Modest → Good (call kernel answer)) :
    (query call).Brief 1000 Good := by
  refine yields_await fun scope answer modest => ?_
  cases failed : answer.error with
  | some error => exact modest.error error failed
  | none => exact good scope.kernel answer modest

theorem yields_change (call : Kernel → Kernel) :
    (change call).Brief 1000 := by
  refine yields_await fun scope answer modest => ?_
  cases failed : answer.error with
  | some error => exact modest.error error failed
  | none => trivial

theorem yields_transact (msgs : List NftMsg) :
    (transact msgs).Brief 1000 := by
  refine yields_await fun scope answer modest => ?_
  cases failed : answer.commit with
  | some error => exact modest.commit error failed
  | none => trivial

theorem yields_look (call : Kernel → Answer → α) :
    (query call).Brief 1000 :=
  yields_query fun _ _ _ => trivial

theorem yields_dial : dial.Brief 1000 := yields_look _

theorem yields_netlink {body : Work (Except String α)} (atLeast : 1000 ≤ bound)
    (inner : body.Brief bound Good) :
    (netlink body).Brief bound Good := by
  refine yields_dial.bind fun dialled brief => ?_
  cases dialled with
  | error => exact Nat.le_trans brief atLeast
  | ok => exact inner

/-- What follows a call is judged separately for a short failure and a good value. -/
theorem yields_branch (bound : Nat) (Good : α → Prop) {β : Type} {Final : β → Prop}
    {call : Work (Except String α)} {rest : Except String α → Work β}
    (inner : call.Brief bound Good)
    (failed : ∀ error : String, error.length ≤ bound →
      (rest (.error error)).Yields Answer.Modest Final)
    (succeeded : ∀ value, Good value → (rest (.ok value)).Yields Answer.Modest Final) :
    (call >>= rest).Yields Answer.Modest Final := by
  refine inner.bind fun result brief => ?_
  cases result with
  | error error => exact failed error brief
  | ok value => exact succeeded value brief

end

/-- A success is fine. -/
theorem yields_succeed : succeed.Fine := modest_success

theorem yields_refuse_error (named : label.length ≤ pieceBound) (short : error.length ≤ 1400) :
    (refuse code [.text label, .text error]).Fine :=
  modest_failf (by simp) ⟨Piece.modest_text named, modest_brief short⟩

theorem yields_refuse_literal (named : label.length ≤ pieceBound) :
    (refuse code [.text label]).Fine :=
  modest_failf (by simp) (Piece.modest_text named)

theorem yields_refuse_quoted {value : String} (named : label.length ≤ pieceBound)
    (short : value.length ≤ nameBound) :
    (refuse code [.text label, .quoted value]).Fine :=
  modest_failf (by simp) ⟨Piece.modest_text named, Piece.modest_quoted short⟩

/-- An error passed on behind a label stays short. -/
theorem length_report (named : label.length ≤ 300) (short : error.length ≤ 1000) :
    (label ++ error).length ≤ 1400 := by
  rw [String.length_append]
  omega

theorem fine_handleDefaultGateway : handleDefaultGateway.Fine := by
  have read : (netlink (query fun _ answer => answer.gateway)).Brief 1000 GatewayInfo.Modest :=
    yields_netlink (Nat.le_refl _) (yields_query fun _ _ modest => modest.gateway)
  refine yields_branch 1000 GatewayInfo.Modest read (fun error short => ?_) fun info modest => ?_
  · exact yields_refuse_error (by decide) (by omega)
  · refine yields_after fun _ => ?_
    refine ⟨Nat.zero_le _, nofun, Nat.zero_le _, ?_, Nat.zero_le _⟩
    rintro other ⟨⟩
    exact modest

variable {req : Request}

/-- What is done with parsed blocks does not show in the answer. -/
theorem fine_parsePrefixes (modest : req.Modest) (v6 : Bool) {rest : List Prefix → Work Outcome}
    (continued : ∀ blocks, (rest blocks).Fine) :
    (match parsePrefixes v6 req.prefixes with
      | .error refusal => pure (.reply refusal)
      | .ok blocks => rest blocks : Work Outcome).Fine := by
  split
  · rename_i refusal failed
    exact modest_of_parsePrefixes
      (fun entry member => modest.entries entry (mem_append_left _ member)) failed
  · exact continued _

theorem fine_handleExclusionRoutes (modest : req.Modest) (v6 : Bool) :
    (handleExclusionRoutes req v6).Fine := by
  refine yields_after fun gw => ?_
  cases gw with
  | none => exact yields_refuse_literal (by decide)
  | some =>
    dsimp only
    split
    · exact yields_succeed
    · exact fine_parsePrefixes modest v6 fun _ => yields_after fun _ => yields_succeed

theorem fine_handleInclusionRoutes (modest : req.Modest) :
    (handleInclusionRoutes req).Fine := by
  refine yields_after fun tunIndex => ?_
  split
  · exact yields_refuse_literal (by decide)
  · exact fine_parsePrefixes modest false fun _ => yields_after fun _ => yields_succeed

theorem fine_handleRemoveRoutes (modest : req.Modest) :
    (handleRemoveRoutes req).Fine :=
  fine_parsePrefixes modest false fun _ => yields_after fun _ => yields_succeed

theorem fine_handleCreateTUN : handleCreateTUN.Fine := by
  refine yields_branch 1000 _ (yields_look _) (fun error short => ?_) fun index _ => ?_
  · exact yields_refuse_error (by decide) (by omega)
  · refine yields_after fun _ => ?_
    exact ⟨Nat.zero_le _, nofun, Nat.zero_le _, nofun, Nat.zero_le _⟩

theorem fine_handleConfigureTUN (modest : req.Modest) :
    (handleConfigureTUN req).Fine := by
  have named : nameBound = 160 := rfl
  have addr := modest.addr
  refine yields_after fun tunIndex => ?_
  split
  · exact yields_refuse_literal (by decide)
  split
  · split
    · exact modest_failf (by simp) ⟨modest_literal, Piece.modest_number (natAbs_toInt_lt _),
        modest_literal⟩
    · refine yields_branch 1400 (fun _ => True) ?_ (fun error short => ?_) fun _ _ => ?_
      · refine yields_netlink (by decide) ?_
        refine yields_branch 1000 _ (yields_change _) (fun error short => ?_) fun _ _ => ?_
        · refine length_report ?_ short
          rw [String.length_append, String.length_append, (by decide : "assign ".length = 7),
            (by decide : ": ".length = 2)]
          omega
        refine yields_branch 1000 _ (yields_change _) (fun error short => ?_) fun _ _ => ?_
        · exact length_report (by decide) short
        refine yields_branch 1000 _ (yields_change _) (fun error short => ?_) fun _ _ => ?_
        · exact length_report (by decide) short
        · trivial
      · exact modest_failf (by simp) (modest_brief short)
      · exact yields_after fun _ => yields_succeed
  · exact yields_refuse_quoted (by decide) addr

theorem yields_addSplitDefault (tunIndex : Nat) {halves : List Prefix}
    (short : ∀ half ∈ halves, half.addr.text.length ≤ 15) :
    (addSplitDefault tunIndex halves).Brief 1400 := by
  induction halves with
  | nil => trivial
  | cons half halves ih =>
    refine yields_branch 1000 _ (yields_change _) (fun error brief => ?_) fun _ _ => ?_
    · have text := short half mem_cons_self
      refine length_report ?_ brief
      rw [String.length_append, String.length_append, (by decide : "/1: ".length = 4),
        (by decide : "add split-default route ".length = 24), String.length_ofList]
      omega
    · exact ih fun other member => short other (mem_cons_of_mem _ member)

theorem fine_handleSplitDefaultRoute (modest : req.Modest) :
    (handleSplitDefaultRoute req).Fine := by
  refine yields_after fun tun => ?_
  split
  · exact yields_refuse_literal (by decide)
  · exact yields_refuse_literal (by decide)
  · split
    · exact modest_failf (by simp) ⟨modest_literal, Piece.modest_quoted modest.addr, modest_literal⟩
    · refine yields_branch 1400 _
        (yields_netlink (by decide) (yields_addSplitDefault _ (by decide)))
        (fun error short => ?_) fun _ _ => yields_succeed
      exact modest_failf (by simp) (modest_brief short)

theorem fine_handleDisableIPv6 : handleDisableIPv6.Fine := by
  refine yields_after fun gw => ?_
  cases gw with
  | none => exact yields_succeed
  | some =>
    refine yields_after fun prior => ?_
    cases prior with
    | error => exact yields_succeed
    | ok =>
      refine yields_after fun written => ?_
      cases written with
      | error => exact yields_succeed
      | ok _ => exact yields_after fun _ => yields_succeed

theorem fine_handleEnableIPv6 : handleEnableIPv6.Fine :=
  yields_after fun _ => yields_after fun _ => yields_succeed

/-- The listed addresses of a modest request are short. -/
theorem Request.Modest.allowlist (modest : req.Modest) :
    ∀ entry ∈ req.control ++ req.bypass, entry.length ≤ nameBound :=
  fun entry member => modest.entries entry (mem_append_right _ member)

/-- The networks `handleEnableKillSwitch` arms with are IPv4 if the entries are. -/
theorem Request.AllowsOnlyV4.nets (onlyV4 : req.AllowsOnlyV4) {nets : List Prefix}
    (blocks : ∀ net ∈ nets, ∃ entry ∈ req.control ++ req.bypass,
      parseHostOrPrefix entry = .ok (.inr net)) :
    ∀ net ∈ nets ++ [loopbackNet], net.addr.is4 := by
  intro net member
  rcases mem_append.mp member with listed | loopback
  · obtain ⟨entry, inside, same⟩ := blocks net listed
    exact onlyV4 entry inside net same
  · obtain rfl := mem_singleton.mp loopback
    rfl

/-- Arming never panics when every network of the allowlist is IPv4. -/
theorem fine_arm {spec : KillSwitchSpec} (onlyV4 : ∀ net ∈ spec.nets, net.addr.is4) :
    (arm spec).Fine := by
  obtain ⟨msgs, built⟩ := Option.isSome_iff_exists.mp ((killSwitchMsgs_isSome_iff spec).mpr onlyV4)
  refine yields_branch 1000 _ yields_dial (fun error short => ?_) fun _ _ => ?_
  · exact yields_refuse_error (by decide) (by omega)
  refine yields_after fun _ => ?_
  rw [built]
  refine yields_branch 1000 _ (yields_transact msgs) (fun error short => ?_) fun _ _ => ?_
  · exact yields_after fun _ => yields_refuse_error (by decide) (by omega)
  · exact yields_after fun _ => yields_succeed

theorem fine_handleEnableKillSwitch (modest : req.Modest) (onlyV4 : req.AllowsOnlyV4) :
    (handleEnableKillSwitch req).Fine := by
  refine yields_after fun tunIndex => ?_
  split
  · exact yields_refuse_literal (by decide)
  refine yields_branch 1000 _ (yields_look _) (fun error short => ?_) fun lo _ => ?_
  · exact yields_refuse_error (by decide) (by omega)
  refine yields_after fun servedSrc => ?_
  rcases parseAllowlist_cases modest.allowlist with
    ⟨refusal, failed, small⟩ | ⟨hosts, nets, parsed, blocks⟩
  · rw [failed]
    exact small
  · rw [parsed]
    exact fine_arm (onlyV4.nets blocks)

theorem fine_handleDisableKillSwitch :
    handleDisableKillSwitch.Fine := by
  refine yields_after fun dialled => ?_
  cases dialled with
  | error => exact yields_succeed
  | ok _ => exact yields_after fun _ => yields_after fun _ => yields_succeed

theorem fine_handleRecoverKillSwitch :
    handleRecoverKillSwitch.Fine := by
  refine yields_after fun dialled => ?_
  cases dialled with
  | error => exact yields_succeed
  | ok _ =>
    refine yields_after fun found => ?_
    split
    · exact yields_succeed
    · exact yields_succeed
    · refine yields_after fun live => ?_
      split
      · exact yields_succeed
      · exact yields_after fun _ => yields_after fun _ => yields_succeed

theorem fine_handleRefreshAllowIP (modest : req.Modest) :
    (handleRefreshAllowIP req).Fine := by
  refine yields_after fun armed => ?_
  split
  · exact yields_succeed
  split
  · refine yields_after fun dialled => ?_
    cases dialled with
    | error => exact yields_succeed
    | ok _ => exact yields_after fun _ => yields_succeed
  · exact yields_refuse_quoted (by decide) modest.ip

theorem yields_captureViaResolved (tunIndex : Nat) {sink : Addr} (short : sink.text.length ≤ 15) :
    (captureViaResolved tunIndex sink).Brief 1400 := by
  refine yields_branch 1000 _ (yields_change _) (fun error brief => ?_) fun _ _ => ?_
  · refine length_report ?_ brief
    rw [String.length_append, String.length_append, (by decide : ": ".length = 2),
      (by decide : "point the tunnel link's resolver at ".length = 36), String.length_ofList]
    omega
  refine yields_branch 1000 _ (yields_change _) (fun error brief => ?_) fun _ _ => ?_
  · exact length_report (by decide) brief
  refine yields_after fun _ => yields_after fun gw => ?_
  cases gw with
  | none => trivial
  | some =>
    dsimp only
    split
    · trivial
    · refine yields_after fun prior => yields_after fun muted => ?_
      cases muted with
      | error => trivial
      | ok _ => exact yields_after fun _ => trivial

theorem yields_replaceResolvConf (remember : DnsState → DnsState) (sink : Addr) :
    (replaceResolvConf remember sink).Brief 1400 := by
  refine yields_after fun _ => ?_
  refine yields_branch 1000 _ (yields_change _) (fun error brief => ?_) fun _ _ => ?_
  · exact length_report (by decide) brief
  · exact yields_after fun _ => trivial

theorem yields_captureViaResolvConf (sink : Addr) :
    (captureViaResolvConf sink).Brief 1400 := by
  refine yields_branch 1000 _ (yields_look _) (fun error brief => ?_) fun current _ => ?_
  · exact length_report (by decide) brief
  cases current with
  | absent => exact yields_replaceResolvConf _ _
  | symlink | file =>
    refine yields_branch 1000 _ (yields_look _) (fun error brief => ?_) fun _ _ => ?_
    · exact length_report (by decide) brief
    · exact yields_replaceResolvConf _ _

theorem yields_captureDNS : captureDNS.Brief 1400 := by
  refine yields_after fun sess => ?_
  split
  · trivial
  split
  · exact (by decide : "no configured TUN to point the resolver at".length ≤ 1400)
  · exact (by decide : "no configured TUN to point the resolver at".length ≤ 1400)
  · refine yields_after fun dialled => ?_
    cases dialled with
    | error => exact yields_captureViaResolvConf _
    | ok _ =>
      refine yields_after fun running => ?_
      split
      · exact yields_captureViaResolved _ (length_text_v4 _)
      · exact yields_captureViaResolvConf _

theorem fine_handleCaptureDNS : handleCaptureDNS.Fine := by
  refine yields_branch 1400 _ yields_captureDNS (fun error short => ?_) fun _ _ => yields_succeed
  exact yields_refuse_error (by decide) short

theorem fine_handleAllowServedEgress :
    handleAllowServedEgress.Fine := by
  refine yields_after fun armed => ?_
  split
  · exact yields_refuse_literal (by decide)
  refine yields_branch 1000 (fun src : Addr => src.text.length ≤ nameBound) ?_
    (fun error short => ?_) fun src short => ?_
  · refine yields_netlink (Nat.le_refl _) ?_
    refine yields_branch 1000 _ (yields_look _) (fun error short => short) fun _ _ => ?_
    refine yields_branch 1000 (fun src : Addr => src.text.length ≤ nameBound)
      (yields_query fun _ _ modest => modest.source) (fun error short => short) fun src named => ?_
    refine yields_after fun uid => ?_
    exact yields_branch 1000 _ (yields_change _) (fun error short => short) fun _ _ => named
  · exact yields_refuse_error (by decide) (by omega)
  · exact yields_after fun _ => ⟨Nat.zero_le _, nofun, Nat.zero_le _, nofun, short⟩

/-- Every handler answers an authorised request with a reply that fits. -/
theorem fine_handle (modest : req.Modest)
    (onlyV4 : Verb.parse req.verb = some .enableKillSwitch → req.AllowsOnlyV4) :
    (handle req).Fine := by
  unfold handle
  split
  · exact fine_handleDefaultGateway
  · exact fine_handleExclusionRoutes modest false
  · exact fine_handleExclusionRoutes modest true
  · exact fine_handleInclusionRoutes modest
  · exact fine_handleRemoveRoutes modest
  · exact fine_handleCreateTUN
  · exact fine_handleConfigureTUN modest
  · exact fine_handleSplitDefaultRoute modest
  · exact fine_handleDisableIPv6
  · exact fine_handleEnableIPv6
  · rename_i verb
    exact fine_handleEnableKillSwitch modest (onlyV4 verb)
  · exact fine_handleDisableKillSwitch
  · exact fine_handleRecoverKillSwitch
  · exact fine_handleRefreshAllowIP modest
  · exact fine_handleCaptureDNS
  · exact yields_after fun _ => yields_succeed
  · exact fine_handleAllowServedEgress
  · exact yields_after fun _ => yields_succeed
  · exact yields_refuse_quoted (by decide) modest.verb

end Bacchus.Netd
