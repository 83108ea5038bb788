import VisionForge.Server.CancelTransactions
import VisionForge.Server.CardTransactions

/-! # Runs of the service

Every request is a move, so what every move keeps holds in every run from the empty
database.
-/

namespace VisionForge.Server

open Lib.Ascii Lib.Run Lib.Table Lib.Transaction UsageLease UsageRepository UsageService

section

variable {service : UsageService} {prims : ServicePrimitives} {s : Database}

def ServerOp.issueTime : ServerOp → Option Nat
  | .startUsage _ _ _ now => some now
  | .heartbeatUsage _ _ now => some now
  | _ => none

/-- What a request performs: a lease it gives out is issued at its own time. -/
def Serves (service : UsageService) (prims : ServicePrimitives) (s t : Database)
    (time : Option Nat) (answer : ServerAnswer) : Prop :=
  ∃ grant, Performs service prims.toPrimitives s t grant answer ∧
    ∀ given, grant = some given → time = some given.now

theorem Performs.serves {t : Database} {time : Option Nat} {answer : ServerAnswer}
    (h : Performs service prims.toPrimitives s t none answer) :
    Serves service prims s t time answer := by
  refine ⟨none, h, ?_⟩
  intro given no
  cases no

theorem serves_error (time : Option Nat) (error : ServerException) :
    Serves service prims s s time (.error error) :=
  Performs.serves ((Calm.refl s).performs rfl)

theorem serves_atomically {α : Type} {wrap : α → ServerReply} {body : Statement α}
    {time : Option Nat} (each : ∀ value t, body.run s = .ok (value, t) →
      Serves service prims s t time (.ok (wrap value))) :
    Serves service prims s (atomically (wrap <$> body) s).1 time
      (atomically (wrap <$> body) s).2 := by
  cases atomically_map_cases (f := wrap) body s with
  | inl done =>
    obtain ⟨value, t, ran, same⟩ := done
    rw [same]
    exact each value t ran
  | inr failed =>
    obtain ⟨-, error, same⟩ := failed
    rw [same]
    exact serves_error time error

/-- A heartbeat succeeds, or it keeps at most the end of its session. -/
theorem serverStep_heartbeat_cases (service : UsageService) (prims : ServicePrimitives)
    (s seen : Database) (cmd : HeartbeatCommand) (now : Nat) :
    (∃ resp, (service.requestHeartbeat prims.toPrimitives seen cmd now).run s =
        .ok (resp, (serverStep service prims s (.heartbeatUsage seen cmd now)).1) ∧
      (serverStep service prims s (.heartbeatUsage seen cmd now)).2 = .ok (.usage resp)) ∨
    Calm s (serverStep service prims s (.heartbeatUsage seen cmd now)).1 ∧
      ∃ error, (serverStep service prims s (.heartbeatUsage seen cmd now)).2 = .error error := by
  obtain ⟨reply, t, ran, same⟩ | ⟨error, same⟩ | ⟨error, t, ran, same⟩ :=
    transact_cases (ServerReply.usage <$>
      service.requestHeartbeat prims.toPrimitives seen cmd now) s
  · obtain ⟨resp, u, inner, res⟩ := map_eq_ok.mp ran
    cases res
    left
    change ∃ resp, _ = Except.ok (_, (transact (ServerReply.usage <$> _) s).1) ∧
      (transact (ServerReply.usage <$> _) s).2 = _
    rw [same]
    exact ⟨resp, inner, rfl⟩
  · right
    change Calm s (transact (ServerReply.usage <$> _) s).1 ∧ ∃ error,
      (transact (ServerReply.usage <$> _) s).2 = _
    rw [same]
    exact ⟨.refl s, error, rfl⟩
  · right
    change Calm s (transact (ServerReply.usage <$> _) s).1 ∧ ∃ error,
      (transact (ServerReply.usage <$> _) s).2 = _
    rw [same]
    refine ⟨?_, error, rfl⟩
    rw [map_eq_pure_bind, StateT.run_bind] at ran
    cases inner : (service.requestHeartbeat prims.toPrimitives seen cmd now).run s with
    | ok pair =>
      rw [inner] at ran
      cases ran
    | error abort =>
      rw [inner] at ran
      cases ran
      exact requestHeartbeat_commit inner

theorem serverStep_serves (inv : Orderly s) (op : ServerOp) :
    Serves service prims s (serverStep service prims s op).1 op.issueTime
      (serverStep service prims s op).2 := by
  cases op with
  | createStartChallenge seen cmd challengeId now =>
    apply serves_atomically
    intro resp t h
    exact Performs.serves ((createStartChallenge_calm h).performs rfl)
  | startUsage seen cmd sid now =>
    apply serves_atomically
    intro resp t h
    obtain ⟨grant, performs, time, -⟩ := requestStart_performs h
    exact ⟨grant, performs, fun given same => congrArg some (time given same).symm⟩
  | heartbeatUsage seen cmd now =>
    cases serverStep_heartbeat_cases service prims s seen cmd now with
    | inl done =>
      obtain ⟨resp, ran, ans⟩ := done
      obtain ⟨grant, performs, time, -⟩ := requestHeartbeat_performs ran
      rw [ans]
      exact ⟨grant, performs, fun given same => congrArg some (time given same).symm⟩
    | inr failed =>
      obtain ⟨calm, error, ans⟩ := failed
      rw [ans]
      exact Performs.serves (calm.performs rfl)
  | stopUsage seen cmd now =>
    apply serves_atomically
    intro resp t h
    exact Performs.serves ((stopUsage_calm h).performs rfl)
  | cancelStartUsage seen cmd now =>
    apply serves_atomically
    intro resp t h
    exact Performs.serves (cancelStartUsage_performs inv h)
  | entitlementStatus seen cmd now =>
    apply serves_atomically
    intro resp t h
    exact Performs.serves ((entitlementStatus_calm h).performs rfl)
  | changeCards cards expired =>
    apply serves_atomically
    intro resp t h
    exact Performs.serves ((administerCards_calm h).performs rfl)
  | createActivationChallenge row now =>
    apply serves_atomically
    intro resp t h
    exact Performs.serves ((createChallengeTransaction_calm h).performs rfl)
  | confirmActivation seen cmd ids pairSecurity now =>
    apply serves_atomically
    intro resp t h
    exact Performs.serves (confirmActivation_performs h).1
  | revokeEntitlement entId pairSecurity now =>
    apply serves_atomically
    intro resp t h
    obtain ⟨touches, idle⟩ := revokeEntitlement_touches inv h
    exact Performs.serves (touches.performs (fun id same => same ▸ idle) rfl)
  | restoreEntitlement entId =>
    apply serves_atomically
    intro resp t h
    obtain ⟨touches, idle⟩ := restoreEntitlement_touches inv h
    exact Performs.serves (touches.performs (fun id same => same ▸ idle) rfl)
  | unbindEntitlementDevice entId bindingId pairId pairSecurity now =>
    apply serves_atomically
    intro resp t h
    obtain ⟨touches, idle⟩ := unbindEntitlementDevice_touches h
    exact Performs.serves (touches.performs (fun id same => same ▸ idle) rfl)
  | revokeBatch batchId revokeActivatedEntitlements now =>
    apply serves_atomically
    intro resp t h
    obtain ⟨selected, touches, idle⟩ := revokeBatch_touches h
    exact Performs.serves (touches.performs idle rfl)
  | entitlementSummary entId now =>
    apply serves_atomically
    intro row t h
    exact Performs.serves ((entitlementSummary_calm h).performs rfl)

end

structure Later (s t : Database) : Prop where
  remembers : Remembers s t
  sessions : ∀ id row, sessionIn s id = some row →
    ∃ new, sessionIn t id = some new ∧ Follows row new
  starts : ∀ entitlementId requestId row, startedBy s entitlementId requestId = some row →
    ∃ new, startedBy t entitlementId requestId = some new ∧ Follows row new

section

variable {s t u : Database}

theorem Later.refl (s : Database) : Later s s :=
  ⟨.refl s, fun _ row found => ⟨row, found, .refl row⟩,
    fun _ _ row found => ⟨row, found, .refl row⟩⟩

theorem Later.trans (first : Later s t) (snd : Later t u) : Later s u := by
  refine ⟨first.remembers.trans snd.remembers, ?_, ?_⟩
  · intro id row found
    obtain ⟨middle, inMiddle, follows⟩ := first.sessions id row found
    obtain ⟨last, inLast, goesOn⟩ := snd.sessions id middle inMiddle
    exact ⟨last, inLast, follows.trans goesOn⟩
  · intro entId requestId row found
    obtain ⟨middle, inMiddle, follows⟩ := first.starts _ _ row found
    obtain ⟨last, inLast, goesOn⟩ := snd.starts _ _ middle inMiddle
    exact ⟨last, inLast, follows.trans goesOn⟩

theorem Performs.later {service : UsageService} {prims : Primitives} {grant : Option Grant}
    {ans : ServerAnswer} (h : Performs service prims s t grant ans) : Later s t :=
  ⟨h.remembers, fun _ _ found => h.move.grows.sessionIn found,
    fun _ _ _ found => h.move.grows.startedBy found⟩

theorem Later.startedFor {cmd : StartCommand} {sessionId : Bytes} (h : Later s t)
    (started : StartedFor s cmd sessionId) : StartedFor t cmd sessionId := by
  obtain ⟨row, found, same⟩ := started
  obtain ⟨new, inLater, follows⟩ := h.starts _ _ row found
  exact ⟨new, inLater, follows.sessionId.trans same⟩

theorem Later.counted {cmd : HeartbeatCommand} (h : Later s t) (counted : Counted s cmd) :
    Counted t cmd := by
  obtain ⟨row, found, owner, past⟩ := counted
  obtain ⟨new, inLater, follows⟩ := h.sessions _ row found
  exact ⟨new, inLater, follows.entitlementId.trans owner, past.trans follows.sequence⟩

theorem Later.active {id : Bytes} {old new : UsageSessionRow} (h : Later s t)
    (pre : sessionIn s id = some old) (after : sessionIn t id = some new)
    (on : new.status = .active) : old.status = .active := by
  obtain ⟨found, isFound, follows⟩ := h.sessions id old pre
  rw [after] at isFound
  cases isFound
  by_contra isOver
  have same := follows.final isOver
  subst same
  exact isOver on

end

section

variable (service : UsageService) (prims : ServicePrimitives)

/-- The database after requests to a service that begins with empty tables. -/
def served (ops : List ServerOp) : Database := exec (serverStep service prims) {} ops

def history (ops : List ServerOp) : List (ServerOp × ServerAnswer) :=
  trace (serverStep service prims) {} ops

variable {service prims}

theorem served_append (first second : List ServerOp) :
    served service prims (first ++ second) =
      exec (serverStep service prims) (served service prims first) second :=
  exec_append _ _ first second

theorem served_concat (ops : List ServerOp) (op : ServerOp) :
    served service prims (ops ++ [op]) =
      (serverStep service prims (served service prims ops) op).1 :=
  served_append ops [op]

theorem orderly_served (ops : List ServerOp) : Orderly (served service prims ops) := by
  apply exec_invariant (serverStep service prims) Orderly.empty
  intro s op inv
  obtain ⟨grant, performs, -⟩ := serverStep_serves inv op
  exact inv.move performs.move

theorem later_exec {s : Database} (inv : Orderly s) (ops : List ServerOp) :
    Later s (exec (serverStep service prims) s ops) := by
  induction ops generalizing s with
  | nil => exact .refl s
  | cons op ops ih =>
    obtain ⟨grant, performs, -⟩ := serverStep_serves inv op
    exact performs.later.trans (ih (inv.move performs.move))

theorem later_served (first snd : List ServerOp) :
    Later (served service prims first) (served service prims (first ++ snd)) := by
  rw [served_append]
  exact later_exec (orderly_served first) snd

theorem later_of_mem_history {ops : List ServerOp} {op : ServerOp} {ans : ServerAnswer}
    (h : (op, ans) ∈ history service prims ops) :
    ∃ s, (serverStep service prims s op).2 = ans ∧
      Later (serverStep service prims s op).1 (served service prims ops) := by
  obtain ⟨old, later, split, done⟩ := mem_trace _ h
  refine ⟨served service prims old, done.symm, ?_⟩
  have next : served service prims (old ++ [op]) =
      (serverStep service prims (served service prims old) op).1 :=
    served_concat old op
  have goesOn := @later_served service prims (old ++ [op]) later
  rw [next, List.append_assoc, List.singleton_append, ← split] at goesOn
  exact goesOn

theorem conserved_served (ops : List ServerOp) : Conserved (served service prims ops) := by
  have both : Orderly (served service prims ops) ∧
      Conserved (served service prims ops) := by
    apply exec_invariant (P := fun s => Orderly s ∧ Conserved s) (serverStep service prims)
      ⟨Orderly.empty, Conserved.empty⟩
    intro s op inv
    obtain ⟨grant, performs, -⟩ := serverStep_serves inv.1 op
    exact ⟨inv.1.move performs.move, inv.2.move performs.move⟩
  exact both.2

end

/-! ## Metering is conserved

The books of every run balance, a credit begins the account of its entitlement again,
and a request that is repeated after it succeeded is neither charged nor credited.
-/

variable {service : UsageService} {prims : ServicePrimitives} {s t : Database}

/-- The entitlement of an activation that was just written down. -/
def BeginsAgain (database : Database) (activation : LicenseActivationRow) : Prop :=
  ∃ row ∈ database.entitlements, row.entitlementId = activation.entitlementId ∧
    row.totalConsumedSeconds = 0 ∧ row.remainingSeconds = activation.creditedSeconds

theorem Credits.beginsAgain {act : LicenseActivationRow}
    (h : Credits s act.entitlementId act.creditedSeconds t.entitlements) :
    BeginsAgain t act := by
  unfold BeginsAgain
  generalize t.entitlements = rows at h
  cases h with
  | @created row key seconds state _ =>
    exact ⟨row, by simp, key, state.2, seconds⟩
  | @reactivated cond change holds changed found _ =>
    obtain ⟨old, mem, can⟩ := found
    refine ⟨change old, ?_, (changed old).1.trans (holds old can).1, (changed old).2.2.2,
      (changed old).2.1⟩
    apply List.mem_map.mpr
    exact ⟨old, mem, if_pos can⟩

theorem Move.beginsAgain {grant : Option Grant} {act : LicenseActivationRow}
    (h : Move service prims.toPrimitives s t grant)
    (written : t.licenseActivations = s.licenseActivations ++ [act]) :
    BeginsAgain t act := by
  have others : t.licenseActivations = s.licenseActivations → False := by
    intro same
    rw [same] at written
    simp at written
  cases h with
  | amended amends => exact (others amends.activations).elim
  | credited activations credits _ _ _ _ =>
    rw [activations] at written
    cases List.singleton_inj.mp (List.append_cancel_left written)
    exact credits.beginsAgain
  | opened _ _ _ _ _ _ _ same _ _ _ _ _ _ _ => exact (others same).elim
  | renewed _ _ _ _ _ _ _ same _ _ _ _ _ => exact (others same).elim

/-- The same command is sent again: at another time, with other random identifiers and with
    other checks before its transaction. -/
inductive Repeats : ServerOp → ServerOp → Prop where
  | createStartChallenge {seen seen' command challengeId challengeId' now now'} :
      Repeats (.createStartChallenge seen command challengeId now)
        (.createStartChallenge seen' command challengeId' now')
  | startUsage {seen seen' command sessionId sessionId' now now'} :
      Repeats (.startUsage seen command sessionId now) (.startUsage seen' command sessionId' now')
  | heartbeatUsage {seen seen' command now now'} :
      Repeats (.heartbeatUsage seen command now) (.heartbeatUsage seen' command now')
  | stopUsage {seen seen' command now now'} :
      Repeats (.stopUsage seen command now) (.stopUsage seen' command now')
  | cancelStartUsage {seen seen' command now now'} :
      Repeats (.cancelStartUsage seen command now) (.cancelStartUsage seen' command now')
  | entitlementStatus {seen seen' command now now'} :
      Repeats (.entitlementStatus seen command now) (.entitlementStatus seen' command now')
  | confirmActivation {seen seen' command ids ids' pairSecurity pairSecurity' now now'} :
      Repeats (.confirmActivation seen command ids pairSecurity now)
        (.confirmActivation seen' command ids' pairSecurity' now')

/-- Neither the ledger nor an entitlement nor an activation changed. -/
structure SameBooks (s t : Database) : Prop where
  usageLedger : t.usageLedger = s.usageLedger
  entitlements : t.entitlements = s.entitlements
  licenseActivations : t.licenseActivations = s.licenseActivations

theorem SameBooks.refl (s : Database) : SameBooks s s := ⟨rfl, rfl, rfl⟩

theorem Calm.sameBooks (h : Calm s t) : SameBooks s t :=
  ⟨h.usageLedger, h.entitlements, h.licenseActivations⟩

theorem sameBooks_atomically {α : Type} {wrap : α → ServerReply} {body : Statement α}
    (each : ∀ value t, body.run s = .ok (value, t) → SameBooks s t) :
    SameBooks s (atomically (wrap <$> body) s).1 := atomically_map_invariant (.refl s) each

theorem serverStep_start_eq_ok {seen : Database} {cmd : StartCommand} {sid : Bytes}
    {now : Nat} {reply : ServerReply}
    (h : (serverStep service prims s (.startUsage seen cmd sid now)).2 = .ok reply) :
    ∃ resp, reply = .usage resp ∧ StartedFor
      (serverStep service prims s (.startUsage seen cmd sid now)).1 cmd
      resp.sessionId := by
  obtain ⟨resp, isReply, ran⟩ := atomically_map_eq_ok h
  obtain ⟨_, _, _, started⟩ := requestStart_performs ran
  exact ⟨resp, isReply, started⟩

theorem serverStep_heartbeat_eq_ok {seen : Database} {cmd : HeartbeatCommand} {now : Nat}
    {reply : ServerReply}
    (h : (serverStep service prims s (.heartbeatUsage seen cmd now)).2 = .ok reply) :
    ∃ resp, reply = .usage resp ∧ resp.sessionId = cmd.sessionId ∧
      Counted (serverStep service prims s (.heartbeatUsage seen cmd now)).1 cmd := by
  cases serverStep_heartbeat_cases service prims s seen cmd now with
  | inl done =>
    obtain ⟨resp, ran, ans⟩ := done
    rw [ans] at h
    cases h
    obtain ⟨_, _, _, counted, sess⟩ := requestHeartbeat_performs ran
    exact ⟨resp, rfl, sess, counted⟩
  | inr failed =>
    obtain ⟨-, error, ans⟩ := failed
    rw [ans] at h
    cases h

/-- A request that succeeded once does not change the books when it is repeated. -/
theorem repeated_sameBooks {u : Database} {op again : ServerOp} {reply : ServerReply}
    (repeats : Repeats op again) (inv : Orderly u)
    (done : (serverStep service prims s op).2 = .ok reply)
    (later : Later (serverStep service prims s op).1 u) :
    SameBooks u (serverStep service prims u again).1 := by
  cases repeats with
  | createStartChallenge =>
    apply sameBooks_atomically
    intro resp t h
    exact (createStartChallenge_calm h).sameBooks
  | startUsage =>
    obtain ⟨resp, -, started⟩ := serverStep_start_eq_ok done
    apply sameBooks_atomically
    intro response' t h
    exact (requestStart_started (later.startedFor started) h).sameBooks
  | @heartbeatUsage seen seen' cmd now now' =>
    obtain ⟨resp, -, -, counted⟩ := serverStep_heartbeat_eq_ok done
    cases serverStep_heartbeat_cases service prims u seen' cmd now' with
    | inl again =>
      obtain ⟨response', ran, -⟩ := again
      rw [requestHeartbeat_counted (later.counted counted) ran]
      exact .refl u
    | inr failed => exact failed.1.sameBooks
  | stopUsage =>
    apply sameBooks_atomically
    intro resp t h
    exact (stopUsage_calm h).sameBooks
  | cancelStartUsage =>
    apply sameBooks_atomically
    intro resp t h
    cases cancelStartUsage_eq_ok inv h with
    | inl same =>
      rw [same.1]
      exact .refl u
    | inr cancels =>
      obtain ⟨change, table, -, others⟩ := cancels.amends.entitlements
      refine ⟨cancels.amends.ledger, ?_, cancels.amends.activations⟩
      rw [table]
      conv_rhs => rw [← List.map_id u.entitlements]
      apply List.map_congr_left
      intro row mem
      exact others row mem not_false
  | entitlementStatus =>
    apply sameBooks_atomically
    intro resp t h
    exact (entitlementStatus_calm h).sameBooks
  | confirmActivation =>
    obtain ⟨resp, -, ran⟩ := atomically_map_eq_ok done
    have used := (confirmActivation_performs ran).2
    apply sameBooks_atomically
    intro response' t h
    rw [confirmActivation_repeated (used.remembers later.remembers) h]
    exact .refl u

/-- In every run the balance of an entitlement is what it was credited less what it was charged,
    a session consumed what it was charged for, an activation begins an account, and a request
    that succeeded and is repeated changes nothing in the books. -/
theorem metering_conserved (service : UsageService) (prims : ServicePrimitives)
    (ops : List ServerOp) :
    (∀ row ∈ (served service prims ops).entitlements,
      0 ≤ (row.remainingSeconds : Int) ∧
      row.totalConsumedSeconds + row.remainingSeconds = row.totalCreditedSeconds ∧
      creditedTo (served service prims ops) row.entitlementId =
        chargedTo (served service prims ops) row.entitlementId + row.remainingSeconds) ∧
    (∀ row ∈ (served service prims ops).usageSessions,
      row.secondsConsumed = chargedFor (served service prims ops) row.sessionId) ∧
    (∀ op act, (served service prims (ops ++ [op])).licenseActivations =
        (served service prims ops).licenseActivations ++ [act] →
      BeginsAgain (served service prims (ops ++ [op])) act) ∧
    ∀ op reply again, (op, .ok reply) ∈ history service prims ops → Repeats op again →
      SameBooks (served service prims ops) (served service prims (ops ++ [again])) := by
  have inv := @conserved_served service prims ops
  refine ⟨?_, inv.consumed, ?_, ?_⟩
  · intro row member
    have account := ((served service prims ops).entitlementChecks row member).balance
    exact ⟨Int.natCast_nonneg _, by omega, inv.balance row member⟩
  · intro op act written
    rw [served_concat] at written ⊢
    obtain ⟨grant, performs, -⟩ := serverStep_serves (orderly_served ops) op
    exact performs.move.beginsAgain written
  · intro op reply again answered repeats
    obtain ⟨s, done, later⟩ := later_of_mem_history answered
    rw [served_concat]
    exact repeated_sameBooks repeats (orderly_served ops) done later

/-- No entitlement ever has two active sessions, nor a revoked one any, and a request opens one
    session at most. -/
theorem sessions_are_exclusive (service : UsageService) (prims : ServicePrimitives)
    (ops : List ServerOp) :
    let s := served service prims ops
    (∀ row ∈ s.usageSessions, ∀ other ∈ s.usageSessions, row.entitlementId = other.entitlementId →
      row.status = .active → other.status = .active → row = other) ∧
    (∀ row ∈ s.entitlements, row.status = .revoked → Idle s row.entitlementId) ∧
    (s.usageSessions.map startKey).Nodup :=
  have inv := orderly_served ops
  ⟨inv.single, inv.revoked, inv.starts⟩

/-- Whatever is requested later, a session keeps its identity, its heartbeats count up, and once
    it is over it stays as it is. -/
theorem sessions_only_go_on (service : UsageService) (prims : ServicePrimitives)
    (ops later : List ServerOp) :
    let s := served service prims ops
    let t := served service prims (ops ++ later)
    (∀ id row, sessionIn s id = some row → ∃ new, sessionIn t id = some new ∧ Follows row new) ∧
    ∀ entId requestId row, startedBy s entId requestId = some row →
      ∃ new, startedBy t entId requestId = some new ∧ Follows row new :=
  ⟨(later_served ops later).sessions, (later_served ops later).starts⟩

end VisionForge.Server
