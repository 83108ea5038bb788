import VisionForge.Server.IssuedTokens
import VisionForge.Server.Orderly
import VisionForge.Server.UsageTransactions

/-! # Cancellations as moves

A cancellation is answered from its row for ever after: the response it was given
is read back from the row as it was written.
-/

namespace VisionForge.Server

open Lib.Ascii Lib.FlatJson Lib.Hex Lib.Table Lib.Transaction UsageLease UsageRepository UsageService

structure StartCancellationResponse.Answerable (response : StartCancellationResponse) : Prop where
  startRequestId : isLowerHex response.startRequestId 32 = true
  session : (response.sessionStatus = .notStarted ∧ response.sessionId = [] ∧
      response.billingStarted = false) ∨
    response.sessionStatus ≠ .notStarted ∧ isLowerHex response.sessionId 32 = true
  remainingSeconds : response.remainingSeconds < 2 ^ 63
  authorizationKind : ∃ kind : AuthorizationKind, response.authorizationKind = kind.text

section

variable {resp : StartCancellationResponse}

theorem plain_sessionId (h : resp.Answerable) : Plain resp.sessionId := by
  cases h.session with
  | inl fresh =>
    rw [fresh.2.1]
    intro c mem
    cases mem
  | inr isOver => exact plain_of_lowerHex isOver.2

theorem plain_statusText (status : CancelledStatus) : Plain status.text := by
  cases status <;> decide

theorem plain_authorizationKind (h : resp.Answerable) : Plain resp.authorizationKind := by
  obtain ⟨kind, same⟩ := h.authorizationKind
  rw [same]
  cases kind <;> decide

theorem read_statusText (status : CancelledStatus) :
    CancelledStatus.read status.text = some status := by
  cases status <;> decide

theorem plain_responseMembers (h : resp.Answerable) :
    ∀ entry ∈ responseMembers resp, PlainMember entry := by
  intro entry mem
  simp only [responseMembers, List.mem_cons, List.not_mem_nil, or_false] at mem
  obtain rfl | rfl | rfl | rfl | rfl | rfl | rfl | rfl | rfl := mem
  · exact .flag _ (by decide)
  · exact .text (by decide) (plain_of_lowerHex h.startRequestId)
  · exact .text (by decide) (plain_sessionId h)
  · exact .text (by decide) (plain_statusText _)
  · exact .number _ (by decide)
  · exact .number 0 (by decide)
  · exact .flag _ (by decide)
  · exact .text (by decide) (plain_authorizationKind h)
  · exact .flag _ (by decide)

theorem length_responseMembers (h : resp.Answerable) :
    ∀ entry ∈ responseMembers resp, (memberText entry).length ≤ 100 := by
  have req := isLowerHex_length h.startRequestId
  have sess : resp.sessionId.length ≤ 32 := by
    cases h.session with
    | inl fresh => simp [fresh.2.1]
    | inr isOver => exact (isLowerHex_length isOver.2).le
  have status : resp.sessionStatus.text.length ≤ 11 := by
    cases resp.sessionStatus <;> decide
  have kind : resp.authorizationKind.length ≤ 14 := by
    obtain ⟨kind, same⟩ := h.authorizationKind
    rw [same]
    cases kind <;> decide
  have digits : resp.remainingSeconds < 10 ^ 19 := h.remainingSeconds.trans (by norm_num)
  intro entry mem
  simp only [responseMembers, List.mem_cons, List.not_mem_nil, or_false] at mem
  obtain rfl | rfl | rfl | rfl | rfl | rfl | rfl | rfl | rfl := mem
  · exact (length_memberText_flag _ (by decide)).trans (by decide)
  · rw [length_memberText_text (by decide) (plain_of_lowerHex h.startRequestId), req]
    decide
  · rw [length_memberText_text (by decide) (plain_sessionId h)]
    have key : (ascii "session_id").length = 10 := by decide
    omega
  · rw [length_memberText_text (by decide) (plain_statusText _)]
    have key : (ascii "session_status").length = 14 := by decide
    omega
  · exact (length_memberText_number (by decide) (by decide) digits).trans (by decide)
  · exact (length_memberText_number (by decide) Nat.one_pos (by decide)).trans (by decide)
  · exact (length_memberText_flag _ (by decide)).trans (by decide)
  · rw [length_memberText_text (by decide) (plain_authorizationKind h)]
    have key : (ascii "authorization_kind").length = 18 := by decide
    omega
  · exact (length_memberText_flag _ (by decide)).trans (by decide)

theorem read_responseMembers (h : resp.Answerable) :
    readStartCancellationResponse resp.startRequestId (responseMembers resp) = some resp := by
  have keys : (∀ entry ∈ responseMembers resp, entry.1 ∈ responseKeys) ∧
      ∀ key ∈ responseKeys, key ∈ (responseMembers resp).map Prod.fst := by
    constructor
    · intro entry mem
      exact List.mem_map_of_mem (f := Prod.fst) mem
    · intro key mem
      exact mem
  have status : textMember (responseMembers resp) (ascii "session_status") =
      some resp.sessionStatus.text := rfl
  have agrees : ¬(flagMember (responseMembers resp) (ascii "ok") ≠ some true ∨
      resp.startRequestId ≠ resp.startRequestId ∨
      (resp.sessionStatus = .notStarted ∧
        (resp.sessionId ≠ [] ∨ resp.billingStarted = true)) ∨
      (resp.sessionStatus ≠ .notStarted ∧ isLowerHex resp.sessionId 32 = false) ∨
      (resp.remainingSeconds : Int) < 0 ∨ (0 : Int) ≠ 0) := by
    have ok : flagMember (responseMembers resp) (ascii "ok") = some true := rfl
    cases h.session with
    | inl fresh =>
      obtain ⟨status, sess, billing⟩ := fresh
      simp [ok, status, sess, billing]
    | inr isOver =>
      obtain ⟨status, sess⟩ := isOver
      simp [ok, status, sess]
  unfold readStartCancellationResponse
  rw [if_neg (not_not.mpr keys), status]
  simp only [Option.bind_eq_bind, Option.bind_some, read_statusText]
  change (if _ then none else _) = _
  rw [if_neg agrees]
  rfl

theorem responseKeys_nodup : ((responseMembers resp).map Prod.fst).Nodup := by
  change responseKeys.Nodup
  decide

theorem decode_encodeStartCancellationResponse (h : resp.Answerable)
    {cancel : StartCancellationRow}
    (written : cancel.responseJson = encodeStartCancellationResponse resp)
    (req : cancel.startRequestId = resp.startRequestId) :
    decodeStartCancellationResponse cancel = .ok resp := by
  have count : (responseMembers resp).length = 9 := rfl
  have short := length_render_le (length_responseMembers h)
  unfold decodeStartCancellationResponse
  rw [written, req, if_neg]
  · unfold encodeStartCancellationResponse
    rw [loads_render (plain_responseMembers h) responseKeys_nodup, Option.bind_some, read_responseMembers h]
  · rw [not_or]
    refine ⟨render_ne_nil _, ?_⟩
    unfold encodeStartCancellationResponse
    omega

end

section

variable (service : UsageService) (prims : Primitives)

/-- A cancellation is answered from its row. -/
structure AnsweredBy (command : StartCancelCommand) (response : StartCancellationResponse)
    (row : StartCancellationRow) : Prop where
  cancelRequestId : row.cancelRequestId = command.requestId
  complete : row.authenticatedRequestHash ≠ []
  authenticatedRequestHash : row.authenticatedRequestHash =
    service.startCancellationAuthenticatedRequestHash prims command
      (usageStartCancelPayload command)
  response : decodeStartCancellationResponse row = .ok response

def AnsweredIn (database : Database) (cmd : StartCancelCommand)
    (resp : StartCancellationResponse) : Prop :=
  ∃ row, cancellationIn database cmd.entitlementId cmd.startRequestId = some row ∧
    AnsweredBy service prims cmd resp row

variable {service prims} {s t : Database} {cmd : StartCancelCommand}
  {resp : StartCancellationResponse}

theorem AnsweredIn.remembers (h : AnsweredIn service prims s cmd resp)
    (remembers : Remembers s t) : AnsweredIn service prims t cmd resp := by
  obtain ⟨row, found, ans⟩ := h
  obtain ⟨new, htab, same⟩ := remembers.cancellations _ _ row found
  have isRow := same ans.complete
  subst isRow
  exact ⟨new, htab, ans⟩

theorem AnsweredIn.unique {other : StartCancellationResponse}
    (h : AnsweredIn service prims s cmd resp)
    (h' : AnsweredIn service prims s cmd other) : other = resp := by
  obtain ⟨row, found, ans⟩ := h
  obtain ⟨row', found', answered'⟩ := h'
  rw [found] at found'
  cases found'
  have same := answered'.response
  rw [ans.response] at same
  cases same
  rfl

theorem exactStartCancellationReplay_eq_ok {replay : Option StartCancellationResponse}
    (h : (exactStartCancellationReplay cmd
      (service.startCancellationAuthenticatedRequestHash prims cmd
        (usageStartCancelPayload cmd))).run s = .ok (replay, t)) :
    t = s ∧ ∀ resp, replay = some resp →
      AnsweredIn service prims s cmd resp := by
  replace h := read_ok h rfl
  split at h
  · cases h
    refine ⟨rfl, ?_⟩
    intro resp no
    cases no
  · rename_i row found
    split at h
    · cases h
      refine ⟨rfl, ?_⟩
      intro resp no
      cases no
    · rename_i matching
      obtain ⟨given, decoded, last⟩ := ofExcept_ok.mp h
      cases last
      refine ⟨rfl, ?_⟩
      intro resp same
      cases same
      simp only [not_or, not_not] at matching
      exact ⟨row, found, matching.1, matching.2.1, matching.2.2, decoded⟩

theorem AnsweredIn.replay (h : AnsweredIn service prims s cmd resp) :
    (exactStartCancellationReplay cmd
      (service.startCancellationAuthenticatedRequestHash prims cmd
        (usageStartCancelPayload cmd))).run s = .ok (some resp, s) := by
  obtain ⟨row, found, ans⟩ := h
  unfold exactStartCancellationReplay
  rw [bind_ok]
  refine ⟨some row, s, congrArg (fun row => Except.ok (row, s)) found, ?_⟩
  dsimp only
  rw [if_neg, ofExcept_ok]
  · exact ⟨resp, ans.response, rfl⟩
  · simp only [not_or, not_not]
    exact ⟨ans.cancelRequestId, ans.complete, ans.authenticatedRequestHash⟩

theorem AnsweredIn.cancelStartUsage {seen : Database} {now : Nat} (pos : 0 < now)
    (h : AnsweredIn service prims seen cmd resp) :
    (service.cancelStartUsage prims seen cmd now).run s = .ok (resp, s) := by
  unfold UsageService.cancelStartUsage
  rw [require_ok, reading_ok]
  refine ⟨pos, some resp, seen, ?_, rfl⟩
  unfold cancelStartUsageChecks
  rw [bind_ok]
  exact ⟨_, _, h.replay, rfl⟩

end

section

variable {service : UsageService} {prims : ServicePrimitives} {s t : Database}
  {cmd : StartCancelCommand}

theorem verifyStartCancellationAuthority_eq_ok {offered : Option EntitlementRow}
    {payload : Bytes} {row : EntitlementRow}
    (h : (verifyStartCancellationAuthority prims.toPrimitives offered cmd payload).run s =
      .ok (row, t)) : t = s ∧ offered = some row := by
  unfold verifyStartCancellationAuthority at h
  split at h
  · rename_i cur verified
    cases h
    unfold verifyEntitlementStatusCommand at verified
    split at verified
    · cases verified
    · rename_i found filtered
      split at verified
      · cases verified
        exact ⟨rfl, (Option.filter_eq_some_iff.mp filtered).1⟩
      · cases verified
  · obtain ⟨found, filtered, h⟩ := unwrap_ok.mp h
    replace h := read_ok h rfl
    rw [require_ok] at h
    replace h := read_ok h.2 rfl
    have isFound := (Option.filter_eq_some_iff.mp filtered).1
    split at h
    · unfold requireStartCancellationBinding at h
      rw [require_ok] at h
      cases h.2
      exact ⟨rfl, isFound⟩
    · obtain ⟨⟨⟩, _, requiring, last⟩ := bind_ok.mp h
      replace requiring := read_ok requiring rfl
      rw [← bind_pure (require _ _), require_ok] at requiring
      cases requiring.2
      cases last
      exact ⟨rfl, isFound⟩

/-- No session that a start request opened is active. -/
def Cancelled (database : Database) (entitlementId startRequestId : Bytes) : Prop :=
  ∀ row ∈ database.usageSessions, row.entitlementId = entitlementId →
    row.startRequestId = startRequestId → row.status ≠ .active

theorem terminalStartCancellationSession_eq_ok {now : Nat} {found : Option UsageSessionRow}
    (inv : Orderly s) (h : (terminalStartCancellationSession cmd now).run s = .ok (found, t)) :
    Calm s t ∧ Cancelled t cmd.entitlementId cmd.startRequestId ∧
      ∀ row, found = some row → row ∈ t.usageSessions := by
  replace h := read_ok h rfl
  unfold requireStartCancellationBinding at h
  rw [require_ok] at h
  replace h := h.2
  split at h
  · rename_i unused
    cases h
    refine ⟨.refl _, ?_, ?_⟩
    · intro row mem owner req
      have other := List.find?_eq_none.mp unused row mem
      simp [owner, req] at other
    · intro row no
      cases no
  · rename_i row existing
    have htab := List.mem_of_find?_eq_some existing
    have keys := List.find?_some existing
    simp only [decide_eq_true_eq] at keys
    split at h
    · rename_i isOver
      cases h
      refine ⟨.refl _, ?_, ?_⟩
      · intro other mem owner req
        have same : other = row := inv.start_unique mem htab
          (Prod.ext (owner.trans keys.1.symm) (req.trans keys.2.symm))
        rw [same]
        exact isOver
      · intro given same
        cases same
        exact htab
    · obtain ⟨stopped, u, ending, h⟩ := bind_ok.mp h
      have calm := endSession_calm ending
      rw [require_ok] at h
      replace h := read_ok h.2 rfl
      obtain ⟨last, filtered, done⟩ := unwrap_ok.mp h
      cases done
      obtain ⟨isLast, isOver⟩ := Option.filter_eq_some_iff.mp filtered
      obtain ⟨inLater, sameId⟩ := lookup_key isLast
      refine ⟨calm, ?_, ?_⟩
      · intro other mem owner req
        -- the session with these keys is the one that was ended
        obtain ⟨old, inOld, rests⟩ := exists_of_mem_after calm.usageSessions mem
        have same : old = row := inv.start_unique inOld htab
          (Prod.ext ((rests.follows.entitlementId.symm.trans owner).trans keys.1.symm)
            ((rests.follows.startRequestId.symm.trans req).trans keys.2.symm))
        subst same
        have isOther := session_unique mem inLater
          (rests.follows.sessionId.trans sameId.symm)
        rw [isOther]
        simpa using isOver
      · intro given same
        cases same
        exact inLater

variable {resp : StartCancellationResponse}

theorem startCancellationResponse_eq_ok {ent : EntitlementRow} {startRequestId : Bytes}
    {sess : Option UsageSessionRow}
    (h : (startCancellationResponse ent startRequestId sess).run s =
      .ok (resp, t)) (hc : ent.Checks)
    (req : isLowerHex startRequestId 32 = true)
    (ids : ∀ row, sess = some row → isLowerHex row.sessionId 32 = true) :
    t = s ∧ resp.Answerable ∧ resp.startRequestId = startRequestId := by
  obtain ⟨status, isStatus, last⟩ := unwrap_ok.mp h
  cases last
  refine ⟨rfl, ⟨req, ?_, ?_, ent.authorizationKind, rfl⟩, rfl⟩
  · cases sess with
    | none =>
      cases isStatus
      exact .inl ⟨rfl, rfl, rfl⟩
    | some row =>
      refine .inr ⟨?_, ids row rfl⟩
      intro fresh
      subst fresh
      unfold statusOfSession at isStatus
      dsimp only at isStatus
      split at isStatus <;> cases isStatus
  · have integers := hc.integers.1
    have balance := hc.balance
    simp only [fitsInteger, decide_eq_true_eq] at integers
    change ent.remainingSeconds < 2 ^ 63
    omega

theorem authenticatedRequestHash_ne_nil (payload : Bytes) :
    service.startCancellationAuthenticatedRequestHash prims.toPrimitives cmd payload ≠
      [] := by
  intro empty
  have length := congrArg List.length empty
  unfold startCancellationAuthenticatedRequestHash at length
  rw [length_lowercaseHex, prims.hmacSha256_length] at length
  cases length

/-- What a cancellation that writes its row does. -/
structure Cancels (service : UsageService) (prims : Primitives) (s t : Database)
    (command : StartCancelCommand) (response : StartCancellationResponse) : Prop where
  amends : Amends (fun _ => False) s t
  bindings : t.deviceBindings = s.deviceBindings
  remembers : Remembers s t
  answered : AnsweredIn service prims t command response

theorem Calm.amends_of_cancellations (calm : Calm s t) {u : Database}
    (same : ∃ cancellations, u = { t with usageStartCancellations := cancellations })
    (buries : Buries s u) : Amends (fun _ => False) s u := by
  obtain ⟨cancellations, rfl⟩ := same
  exact ⟨calm.amends.entitlements, calm.amends.bindings, calm.usageLedger,
    calm.licenseActivations, calm.usageSessions, fun _ => False.elim, buries⟩

theorem Calm.cancellationIn_eq (calm : Calm s t) (entId startRequestId : Bytes) :
    cancellationIn t entId startRequestId = cancellationIn s entId startRequestId := by
  unfold cancellationIn
  rw [calm.usageStartCancellations]

theorem Orderly.calm (inv : Orderly s) (calm : Calm s t) : Orderly t := inv.amends calm.amends

theorem isLowerHex_sessionId (inv : Orderly s) {row : UsageSessionRow}
    (mem : row ∈ s.usageSessions) : isLowerHex row.sessionId 32 = true :=
  isLowerHex_of_nonzero (inv.sessionIds row mem)

theorem cancellationIn_backfilled {cancel : StartCancellationRow}
    {hash json entId startRequestId : Bytes} :
    (update (isLegacyCancellation cancel)
      (fun row => { row with authenticatedRequestHash := hash, responseJson := json })
      s.usageStartCancellations).find? (fun row =>
        row.entitlementId = entId ∧ row.startRequestId = startRequestId) =
      (cancellationIn s entId startRequestId).map (fun row =>
        if isLegacyCancellation cancel row then
          { row with authenticatedRequestHash := hash, responseJson := json } else row) := by
  unfold cancellationIn update
  rw [List.find?_map]
  congr 2
  funext row
  simp only [Function.comp_apply]
  split <;> rfl

theorem upgradeLegacyStartCancellationReplay_eq_ok {ent : EntitlementRow}
    {cancel : StartCancellationRow} {requestHash : Bytes} {now : Nat} (inv : Orderly s)
    (hc : ent.Checks)
    (found : cancellationIn s cmd.entitlementId cmd.startRequestId = some cancel)
    (h : (upgradeLegacyStartCancellationReplay ent cancel cmd requestHash
      (service.startCancellationAuthenticatedRequestHash prims.toPrimitives cmd
        (usageStartCancelPayload cmd)) now).run s = .ok (some resp, t)) :
    Cancels service prims.toPrimitives s t cmd resp := by
  unfold upgradeLegacyStartCancellationReplay at h
  split at h
  · rw [require_ok] at h
    cases h.2
  rename_i legacy
  simp only [not_or, not_not] at legacy
  rw [require_ok, bind_ok] at h
  obtain ⟨same, sess, u, ending, h⟩ := h
  obtain ⟨calm, buried, htab⟩ := terminalStartCancellationSession_eq_ok inv ending
  rw [bind_ok] at h
  obtain ⟨given, v, answering, h⟩ := h
  obtain ⟨rfl, answerable, req⟩ := startCancellationResponse_eq_ok answering hc
    (isLowerHex_of_nonzero cmd.startRequestIdHex)
    (fun row isRow => isLowerHex_sessionId (inv.calm calm) (htab row isRow))
  rw [bind_ok] at h
  obtain ⟨backfilled, t', filling, h⟩ := h
  rw [require_ok] at h
  cases h.2
  cases filling
  have isLegacy : isLegacyCancellation cancel cancel = true := by
    simp [isLegacyCancellation, legacy]
  refine ⟨calm.amends_of_cancellations ⟨_, rfl⟩ ?_, calm.deviceBindings, ⟨?_, calm.challenges⟩, ?_⟩
  · intro row mem
    cases mem_update mem with
    | inl kept => exact .inl ⟨row, calm.usageStartCancellations ▸ kept.1, rfl, rfl⟩
    | inr replaced =>
      obtain ⟨old, inOld, -, rfl⟩ := replaced
      exact .inl ⟨old, calm.usageStartCancellations ▸ inOld, rfl, rfl⟩
  · intro entId startRequestId row hrow
    unfold cancellationIn
    rw [cancellationIn_backfilled, calm.cancellationIn_eq, hrow, Option.map_some]
    refine ⟨_, rfl, ?_⟩
    intro whole
    have other : ¬isLegacyCancellation cancel row = true := by
      simp [isLegacyCancellation, whole]
    rw [if_neg other]
  · have row := @cancellationIn_backfilled v cancel
      (service.startCancellationAuthenticatedRequestHash prims.toPrimitives cmd
        (usageStartCancelPayload cmd)) (encodeStartCancellationResponse resp)
      cmd.entitlementId cmd.startRequestId
    rw [calm.cancellationIn_eq, found, Option.map_some, if_pos isLegacy] at row
    refine ⟨_, row, same.2.2.1, authenticatedRequestHash_ne_nil _, rfl, ?_⟩
    exact decode_encodeStartCancellationResponse answerable rfl (same.2.1.trans req.symm)

theorem recordStartCancellation_eq_ok {ent : EntitlementRow} {requestHash : Bytes}
    {now : Nat} (inv : Orderly s) (hc : ent.Checks)
    (unused : cancellationIn s cmd.entitlementId cmd.startRequestId = none)
    (h : (service.recordStartCancellation prims.toPrimitives ent cmd requestHash
      (service.startCancellationAuthenticatedRequestHash prims.toPrimitives cmd
        (usageStartCancelPayload cmd)) now).run s = .ok (resp, t)) :
    Cancels service prims.toPrimitives s t cmd resp := by
  replace h := read_ok h rfl
  rw [require_ok, bind_ok] at h
  obtain ⟨-, fresh, s1, consuming, h⟩ := h
  have quiet := consumeNonce_quiet consuming
  rw [require_ok, bind_ok] at h
  obtain ⟨-, sess, u, ending, h⟩ := h
  obtain ⟨ended, buried, htab⟩ :=
    terminalStartCancellationSession_eq_ok (inv.calm quiet.calm) ending
  have calm := quiet.calm.trans ended
  rw [bind_ok] at h
  obtain ⟨given, _, answering, h⟩ := h
  obtain ⟨rfl, answerable, req⟩ := startCancellationResponse_eq_ok answering hc
    (isLowerHex_of_nonzero cmd.startRequestIdHex)
    (fun row isRow => isLowerHex_sessionId (inv.calm calm) (htab row isRow))
  rw [bind_ok] at h
  obtain ⟨⟨⟩, t', creating, last⟩ := h
  cases last
  replace creating := recast_eq_ok.mp creating
  unfold createStartCancellation at creating
  rw [get_ok, require_ok, require_ok] at creating
  cases creating.2.2
  refine ⟨calm.amends_of_cancellations ⟨_, rfl⟩ ?_, calm.deviceBindings, ⟨?_, calm.challenges⟩, ?_⟩
  · intro row mem
    cases List.mem_append.mp mem with
    | inl old => exact .inl ⟨row, calm.usageStartCancellations ▸ old, rfl, rfl⟩
    | inr last =>
      have isRow := List.mem_singleton.mp last
      subst isRow
      exact .inr buried
  · intro entId startRequestId row found
    refine ⟨row, ?_, fun _ => rfl⟩
    unfold cancellationIn at found ⊢
    rw [calm.usageStartCancellations, List.find?_append, found]
    rfl
  · refine ⟨newStartCancellation cmd requestHash _ resp, ?_, rfl,
      authenticatedRequestHash_ne_nil _, rfl, ?_⟩
    · unfold cancellationIn at unused ⊢
      rw [calm.usageStartCancellations, List.find?_append, unused, Option.none_or]
      exact List.find?_cons_of_pos (by simp [newStartCancellation])
    · exact decode_encodeStartCancellationResponse answerable rfl req.symm

theorem cancelStartUsage_eq_ok {seen : Database} {now : Nat} (inv : Orderly s)
    (h : (service.cancelStartUsage prims.toPrimitives seen cmd now).run s = .ok (resp, t)) :
    (t = s ∧ (AnsweredIn service prims.toPrimitives seen cmd resp ∨
      AnsweredIn service prims.toPrimitives s cmd resp)) ∨
    Cancels service prims.toPrimitives s t cmd resp := by
  unfold UsageService.cancelStartUsage at h
  rw [require_ok, reading_ok] at h
  obtain ⟨-, replay, _, checking, h⟩ := h
  cases replay with
  | some given =>
    cases h
    unfold cancelStartUsageChecks at checking
    rw [bind_ok] at checking
    obtain ⟨replay, _, replaying, checking⟩ := checking
    obtain ⟨rfl, ans⟩ := exactStartCancellationReplay_eq_ok replaying
    split at checking
    · cases checking
      exact .inl ⟨rfl, .inl (ans _ rfl)⟩
    · replace checking := read_ok checking rfl
      rw [bind_ok] at checking
      obtain ⟨_, _, -, last⟩ := checking
      cases last
  | none =>
    unfold cancelStartUsageTransaction at h
    rw [bind_ok] at h
    obtain ⟨replay, _, replaying, h⟩ := h
    obtain ⟨rfl, ans⟩ := exactStartCancellationReplay_eq_ok replaying
    split at h
    · cases h
      exact .inl ⟨rfl, .inr (ans _ rfl)⟩
    replace h := read_ok h rfl
    rw [bind_ok] at h
    obtain ⟨row, _, verifying, h⟩ := h
    obtain ⟨rfl, held⟩ := verifyStartCancellationAuthority_eq_ok verifying
    have hc := entitlementIn_checks held
    replace h := read_ok h rfl
    right
    split at h
    · rename_i cancel found
      rw [bind_ok] at h
      obtain ⟨upgraded, u, upgrading, h⟩ := h
      rw [← bind_pure (unwrap _ _), unwrap_ok] at h
      obtain ⟨given, isGiven, last⟩ := h
      cases last
      subst isGiven
      exact upgradeLegacyStartCancellationReplay_eq_ok inv hc found upgrading
    · rename_i unused
      exact recordStartCancellation_eq_ok inv hc unused h

theorem cancelStartUsage_performs {seen : Database} {now : Nat} (inv : Orderly s)
    (h : (service.cancelStartUsage prims.toPrimitives seen cmd now).run s = .ok (resp, t)) :
    Performs service prims.toPrimitives s t none (.ok (.cancelled resp)) := by
  cases cancelStartUsage_eq_ok inv h with
  | inl repeats =>
    obtain ⟨rfl, -⟩ := repeats
    exact (Calm.refl t).performs rfl
  | inr cancels => exact cancels.amends.performs cancels.remembers rfl

end

end VisionForge.Server
