import Mathlib.Data.List.Sublists
import VisionForge.DataPlane.Records

/-! # A sealer and an opener over an untrusted channel

The channel holds nothing back: any datagram may be delivered at any time, as often as
wanted. What binds it is the provider, which is ideal: it opens only the tuples it has
produced, and may refuse even those.
-/

namespace VisionForge.DataPlane

open Lib.Run Lib.Ascii

def EncryptCall.produced (call : EncryptCall) (output : Nat → UInt8) : DecryptCall where
  key := call.key
  nonce := call.nonce
  authenticatedData := call.authenticatedData
  ciphertext := writtenCiphertext output call.plaintext.length
  tag := writtenTag output call.plaintext.length

abbrev ProviderLog := List (DecryptCall × Bytes)

/-- The decryption of an ideal provider, which may also fail for reasons of its own. -/
def idealDecrypt (produced : ProviderLog) (fails : Bool) (call : DecryptCall) : Option Bytes :=
  if fails then none else (produced.find? (fun entry => entry.1 = call)).map Prod.snd

theorem mem_of_idealDecrypt {produced : ProviderLog} {fails : Bool} {call : DecryptCall}
    {plaintext : Bytes} (opened : idealDecrypt produced fails call = some plaintext) :
    (call, plaintext) ∈ produced := by
  unfold idealDecrypt at opened
  split at opened
  · cases opened
  · obtain ⟨entry, found, rfl⟩ := Option.map_eq_some_iff.mp opened
    have same := List.find?_some found
    rw [decide_eq_true_eq] at same
    rw [← same]
    exact List.mem_of_find?_eq_some found

/-- A record format: how a record is sealed and opened, and how to read the two answers.
    `κ` is what a record carries besides the tuple, the counter and the plaintext. -/
structure RecordFormat (τ κ α β : Type) where
  maximumCounter : Nat
  «seal» : Sealer τ → κ → SealAttempt → Sealer τ × α × Option EncryptCall
  «open» : Opener τ → (DecryptCall → Option Bytes) → Bool → Bytes → Opener τ × β
  sealedRecord : α → Option (Nat × Bytes)
  openedRecord : β → Option (κ × Nat × Bytes)

/-- What a format must obey: sealing and opening do nothing else than listed, and the
    header of a record tells its tuple, its kind and its counter. -/
structure Lawful {τ κ α β : Type} (format : RecordFormat τ κ α β)
    (header : τ → κ → Nat → Nat → Bytes) (reads : Bytes → τ × κ × Nat) : Prop where
  small : format.maximumCounter < 2 ^ 64
  seals : ∀ sealer kind attempt,
    SealsRecord format.maximumCounter
      (fun counter => header sealer.tuple kind counter attempt.plaintext.length) sealer attempt
      (format.seal sealer kind attempt).1 (format.seal sealer kind attempt).2.2
      (format.sealedRecord (format.seal sealer kind attempt).2.1)
  opens : ∀ opener decrypt allocates datagram,
    OpensRecord format.maximumCounter reads opener decrypt datagram
      (format.open opener decrypt allocates datagram).1
      (format.openedRecord (format.open opener decrypt allocates datagram).2)
  read : ∀ tuple kind counter size rest, counter ≤ format.maximumCounter →
    reads (header tuple kind counter size ++ rest) = (tuple, kind, counter)

structure Link (τ : Type) where
  sealer : Sealer τ
  opener : Opener τ
  produced : ProviderLog := []

inductive LinkOp (κ : Type) where
  | send (kind : κ) (attempt : SealAttempt)
  | deliver (datagram : Bytes) (allocates fails : Bool)

inductive LinkAnswer (α β : Type) where
  | sent (result : α) (call : Option EncryptCall)
  | delivered (result : β)

def producedBy (call : Option EncryptCall) (output : Option (Nat → UInt8)) : ProviderLog :=
  match call, output with
  | some call, some output => [(call.produced output, call.plaintext)]
  | _, _ => []

section

variable {τ κ α β : Type} (format : RecordFormat τ κ α β)

def linkStep (link : Link τ) : LinkOp κ → Link τ × LinkAnswer α β
  | .send kind attempt =>
    let (sealer, result, call) := format.seal link.sealer kind attempt
    ({ link with
        sealer := sealer
        produced := link.produced ++ producedBy call attempt.output }, .sent result call)
  | .deliver datagram allocates fails =>
    let (opener, result) :=
      format.open link.opener (idealDecrypt link.produced fails) allocates datagram
    ({ link with opener := opener }, .delivered result)

theorem linkStep_send (link : Link τ) (kind : κ) (attempt : SealAttempt) :
    linkStep format link (.send kind attempt) =
      ({ link with
          sealer := (format.seal link.sealer kind attempt).1
          produced := link.produced ++
            producedBy (format.seal link.sealer kind attempt).2.2 attempt.output },
        .sent (format.seal link.sealer kind attempt).2.1
          (format.seal link.sealer kind attempt).2.2) := rfl

theorem linkStep_deliver (link : Link τ) (datagram : Bytes) (allocates fails : Bool) :
    linkStep format link (.deliver datagram allocates fails) =
      ({ link with
          opener := (format.open link.opener (idealDecrypt link.produced fails) allocates
            datagram).1 },
        .delivered (format.open link.opener (idealDecrypt link.produced fails) allocates
          datagram).2) := rfl

abbrev LinkHistory (κ α β : Type) := List (LinkOp κ × LinkAnswer α β)

def LinkAnswer.sealed : LinkAnswer α β → Option (Nat × Bytes)
  | .sent result _ => format.sealedRecord result
  | .delivered _ => none

def LinkAnswer.opened : LinkAnswer α β → Option (κ × Nat × Bytes)
  | .sent _ _ => none
  | .delivered result => format.openedRecord result

def LinkAnswer.call : LinkAnswer α β → Option EncryptCall
  | .sent _ call => call
  | .delivered _ => none

def sealedCounters (hist : LinkHistory κ α β) : List Nat :=
  hist.filterMap (fun answered => (answered.2.sealed format).map Prod.fst)

def openedCounters (hist : LinkHistory κ α β) : List Nat :=
  hist.filterMap (fun answered => (answered.2.opened format).map (fun record => record.2.1))

def linkCalls (hist : LinkHistory κ α β) : List EncryptCall :=
  hist.filterMap (fun answered => answered.2.call)

def Sealed (hist : LinkHistory κ α β) (kind : κ) (counter : Nat)
    (plaintext datagram : Bytes) : Prop :=
  ∃ attempt result call, (LinkOp.send kind attempt, LinkAnswer.sent result call) ∈ hist ∧
    attempt.plaintext = plaintext ∧ format.sealedRecord result = some (counter, datagram)

/-- Authenticated delivery in one run: what is opened was sealed before under the same
    tuple, kind and counter; no counter is opened, or sealed, twice; and a datagram that is
    not opened leaves the opener as it was. -/
structure ExactlyOnce (start : Link τ) (ops : List (LinkOp κ)) : Prop where
  authentic : ∀ before after datagram allocates fails result kind counter plaintext,
    trace (linkStep format) start ops =
      before ++ (.deliver datagram allocates fails, .delivered result) :: after →
    format.openedRecord result = some (kind, counter, plaintext) →
    start.sealer.tuple = start.opener.tuple ∧
      Sealed format before kind counter plaintext datagram
  openedOnce : (openedCounters format (trace (linkStep format) start ops)).Nodup
  sealedOnce : (sealedCounters format (trace (linkStep format) start ops)).Nodup
  untouched : ∀ datagram decrypt allocates,
    let opener := (exec (linkStep format) start ops).opener
    format.openedRecord (format.open opener decrypt allocates datagram).2 = none →
    (format.open opener decrypt allocates datagram).1 = opener

end

section

variable {τ κ α β : Type} {format : RecordFormat τ κ α β} {hdr : τ → κ → Nat → Nat → Bytes}
  {reads : Bytes → τ × κ × Nat} {start link : Link τ} {hist : LinkHistory κ α β}

theorem Sealed.mono {kind : κ} {ctr : Nat} {plaintext datagram : Bytes}
    (h : Sealed format hist kind ctr plaintext datagram) (later : LinkHistory κ α β) :
    Sealed format (hist ++ later) kind ctr plaintext datagram := by
  obtain ⟨attempt, res, call, mem, same, isSealed⟩ := h
  exact ⟨attempt, res, call, List.mem_append_left later mem, same, isSealed⟩

structure Delivers (format : RecordFormat τ κ α β) (header : τ → κ → Nat → Nat → Bytes)
    (start : Link τ) (history : LinkHistory κ α β) (link : Link τ) : Prop where
  burnt : Burnt format.maximumCounter start.sealer (linkCalls history) link.sealer
  sealerTuple : link.sealer.tuple = start.sealer.tuple
  openerTuple : link.opener.tuple = start.opener.tuple
  logged : ∀ entry ∈ link.produced, ∃ kind counter size, counter ≤ format.maximumCounter ∧
    entry.1.authenticatedData = header start.sealer.tuple kind counter size ∧
    Sealed format history kind counter entry.2
      (entry.1.authenticatedData ++ (entry.1.ciphertext ++ entry.1.tag))
  counters : (sealedCounters format history).Sublist (List.range (linkCalls history).length)
  remembers : link.opener.replayWindow.Remembers (openedCounters format history).toFinset
  opened : (openedCounters format history).Nodup

theorem delivers_start (ctr : start.sealer.nextCounter = 0)
    (available : start.sealer.counterAvailable = true) (nothing : start.produced = [])
    (win : start.opener.replayWindow = {}) : Delivers format hdr start [] start where
  burnt := burnt_start ctr available
  sealerTuple := rfl
  openerTuple := rfl
  logged := by simp [nothing]
  counters := List.Sublist.refl _
  remembers := by
    rw [win]
    exact SlidingReplayWindow1024.remembers_empty
  opened := List.nodup_nil

theorem Delivers.frame (h : Delivers format hdr start hist link) {op : LinkOp κ}
    {ans : LinkAnswer α β} (call : ans.call = none) (isSealed : ans.sealed format = none)
    (opened : ans.opened format = none) :
    Delivers format hdr start (hist ++ [(op, ans)]) link := by
  have sameCalls : linkCalls (hist ++ [(op, ans)]) = linkCalls hist := by
    simp [linkCalls, call]
  have sameSealed : sealedCounters format (hist ++ [(op, ans)]) = sealedCounters format hist := by
    simp [sealedCounters, isSealed]
  have sameOpened : openedCounters format (hist ++ [(op, ans)]) = openedCounters format hist := by
    simp [openedCounters, opened]
  refine ⟨?_, h.sealerTuple, h.openerTuple, ?_, ?_, ?_, ?_⟩
  · rw [sameCalls]
    exact h.burnt
  · intro entry mem
    obtain ⟨kind, ctr, size, bounded, isHeader, sent⟩ := h.logged entry mem
    exact ⟨kind, ctr, size, bounded, isHeader, sent.mono _⟩
  · rw [sameCalls, sameSealed]
    exact h.counters
  · rw [sameOpened]
    exact h.remembers
  · rw [sameOpened]
    exact h.opened

/-- A call burns the next counter, and the record it may leave is the one the provider
    logs. -/
theorem Delivers.send (lawful : Lawful format hdr reads)
    (h : Delivers format hdr start hist link) (kind : κ) (attempt : SealAttempt) :
    Delivers format hdr start
      (hist ++ [(.send kind attempt, (linkStep format link (.send kind attempt)).2)])
      (linkStep format link (.send kind attempt)).1 := by
  have step := lawful.seals link.sealer kind attempt
  rw [linkStep_send]
  generalize format.seal link.sealer kind attempt = outcome at step ⊢
  obtain ⟨sealer, res, call⟩ := outcome
  have burnt := h.burnt.step step.seals_nonce
  have calls : linkCalls (hist ++ [(LinkOp.send kind attempt, LinkAnswer.sent res call)]) =
      linkCalls hist ++ call.toList := by
    cases call <;> simp [linkCalls, LinkAnswer.call]
  have sameOpened :
      openedCounters format
          (hist ++ [(LinkOp.send kind attempt, LinkAnswer.sent res call)]) =
        openedCounters format hist := by
    simp [openedCounters, LinkAnswer.opened]
  have newSealed :
      sealedCounters format
          (hist ++ [(LinkOp.send kind attempt, LinkAnswer.sent res call)]) =
        sealedCounters format hist ++ ((format.sealedRecord res).map Prod.fst).toList := by
    cases isRecord : format.sealedRecord res <;>
      simp [sealedCounters, LinkAnswer.sealed, isRecord]
  rw [← calls] at burnt
  refine ⟨burnt, ?_, h.openerTuple, ?_, ?_, ?_, ?_⟩
  · rw [← h.sealerTuple]
    exact step.seals_nonce.tuple_eq
  · intro entry mem
    rw [List.mem_append] at mem
    cases mem with
    | inl old =>
      obtain ⟨oldKind, ctr, size, bounded, isHeader, sent⟩ := h.logged entry old
      exact ⟨oldKind, ctr, size, bounded, isHeader, sent.mono _⟩
    | inr new =>
      generalize isRecord : format.sealedRecord res = record at step
      cases step with
      | silent => simp [producedBy] at new
      | fails cipher available failed => simp [producedBy, failed] at new
      | @seals key output cipher available written =>
        rw [written, producedBy, List.mem_singleton] at new
        rw [new]
        refine ⟨kind, link.sealer.nextCounter, attempt.plaintext.length,
          (h.burnt.available available).2, ?_, attempt, res, _,
          List.mem_append_right _ List.mem_cons_self, rfl, isRecord⟩
        rw [← h.sealerTuple]
        rfl
  · rw [calls, newSealed]
    generalize isRecord : format.sealedRecord res = record at step
    cases step with
    | silent =>
      simp only [Option.map_none, Option.toList_none, List.append_nil]
      exact h.counters
    | fails cipher available failed =>
      simp only [Option.map_none, Option.toList_none, Option.toList_some, List.append_nil,
        List.length_append, List.length_singleton, List.range_succ]
      exact h.counters.trans (List.sublist_append_left _ _)
    | seals cipher available written =>
      simp only [Option.map_some, Option.toList_some, List.length_append,
        List.length_singleton, List.range_succ, (h.burnt.available available).1]
      exact h.counters.append (List.Sublist.refl _)
  · rw [sameOpened]
    exact h.remembers
  · rw [sameOpened]
    exact h.opened

theorem Delivers.authentic (lawful : Lawful format hdr reads)
    (h : Delivers format hdr start hist link) {datagram : Bytes} {fails : Bool}
    {next : Opener τ} {kind : κ} {ctr : Nat} {plaintext : Bytes}
    (opens : OpensRecord format.maximumCounter reads link.opener
      (idealDecrypt link.produced fails) datagram next (some (kind, ctr, plaintext))) :
    start.sealer.tuple = start.opener.tuple ∧
      Sealed format hist kind ctr plaintext datagram := by
  cases opens with
  | opened cipher read bounded framed fresh decrypted =>
    have logged := mem_of_idealDecrypt decrypted
    obtain ⟨sentKind, sentCounter, size, sentBounded, isHeader, sent⟩ := h.logged _ logged
    dsimp only at isHeader sent
    rw [framed, isHeader, lawful.read _ _ _ _ _ sentBounded] at read
    simp only [Prod.mk.injEq] at read
    obtain ⟨sameTuple, rfl, rfl⟩ := read
    rw [framed]
    exact ⟨sameTuple.trans h.openerTuple, sent⟩

theorem Delivers.deliver (lawful : Lawful format hdr reads)
    (h : Delivers format hdr start hist link) (dgram : Bytes) (allocates fails : Bool) :
    Delivers format hdr start
      (hist ++ [(.deliver dgram allocates fails,
        (linkStep format link (.deliver dgram allocates fails)).2)])
      (linkStep format link (.deliver dgram allocates fails)).1 := by
  have opens := lawful.opens link.opener (idealDecrypt link.produced fails) allocates dgram
  rw [linkStep_deliver]
  generalize format.open link.opener (idealDecrypt link.produced fails) allocates dgram =
    outcome at opens ⊢
  obtain ⟨opener, res⟩ := outcome
  generalize isRecord : format.openedRecord res = record at opens
  cases opens with
  | rejected => exact h.frame rfl rfl isRecord
  | @opened key authenticatedData ciphertext tag plaintext kind ctr cipher read bounded framed
      fresh decrypted =>
      have small := lawful.small
      have value : (BitVec.ofNat 64 ctr).toNat = ctr := by
        rw [BitVec.toNat_ofNat, Nat.mod_eq_of_lt (by omega)]
      obtain ⟨accepted, adds, -⟩ := h.remembers.commit (BitVec.ofNat 64 ctr)
      have isFresh := h.remembers.classify (BitVec.ofNat 64 ctr)
      rw [fresh, value] at isFresh
      rw [value, ← isFresh] at accepted
      rw [value] at adds
      have newOpened : openedCounters format (hist ++ [(LinkOp.deliver dgram allocates fails,
          LinkAnswer.delivered res)]) = openedCounters format hist ++ [ctr] := by
        simp [openedCounters, LinkAnswer.opened, isRecord]
      have sameCalls : linkCalls (hist ++ [(LinkOp.deliver dgram allocates fails,
          (LinkAnswer.delivered res : LinkAnswer α β))]) = linkCalls hist := by
        simp [linkCalls, LinkAnswer.call]
      have sameSealed : sealedCounters format (hist ++ [(LinkOp.deliver dgram allocates fails,
          LinkAnswer.delivered res)]) = sealedCounters format hist := by
        simp [sealedCounters, LinkAnswer.sealed]
      refine ⟨?_, h.sealerTuple, h.openerTuple, ?_, ?_, ?_, ?_⟩
      · rw [sameCalls]
        exact h.burnt
      · intro entry mem
        obtain ⟨sentKind, sentCounter, size, sentBounded, isHeader, sent⟩ := h.logged entry mem
        exact ⟨sentKind, sentCounter, size, sentBounded, isHeader, sent.mono _⟩
      · rw [sameCalls, sameSealed]
        exact h.counters
      · rw [newOpened, List.toFinset_append]
        have insertion : (openedCounters format hist).toFinset ∪ [ctr].toFinset =
            insert ctr (openedCounters format hist).toFinset := by
          ext other
          simp
        rw [insertion]
        exact adds (accepted.trans rfl)
      · rw [newOpened]
        have unseen : ctr ∉ openedCounters format hist := by
          intro seen
          have duplicate := isFresh.symm
          unfold Lib.ReplayLaw.verdict at duplicate
          split at duplicate
          · cases duplicate
          · rw [if_pos (List.mem_toFinset.mpr seen)] at duplicate
            cases duplicate
        exact List.nodup_append.mpr ⟨h.opened, List.nodup_singleton _, by
          intro other mem snd memberSecond same
          rw [List.mem_singleton] at memberSecond
          rw [same, memberSecond] at mem
          exact unseen mem⟩

end

/-- Whatever the two ends are configured with and whatever the channel does. -/
theorem exactlyOnce_of_lawful {τ κ α β : Type} {format : RecordFormat τ κ α β}
    {hdr : τ → κ → Nat → Nat → Bytes} {reads : Bytes → τ × κ × Nat}
    (lawful : Lawful format hdr reads) {start : Link τ}
    (ctr : start.sealer.nextCounter = 0) (available : start.sealer.counterAvailable = true)
    (nothing : start.produced = []) (win : start.opener.replayWindow = {})
    (ops : List (LinkOp κ)) : ExactlyOnce format start ops := by
  have delivers (ops : List (LinkOp κ)) : Delivers format hdr start
      (trace (linkStep format) start ops) (exec (linkStep format) start ops) := by
    refine @history_invariant _ _ _ (linkStep format) (Delivers format hdr start) _ ?_ ?_ ops
    · exact delivers_start ctr available nothing win
    · intro hist link op kept
      cases op with
      | send kind attempt => exact kept.send lawful kind attempt
      | deliver dgram allocates fails => exact kept.deliver lawful dgram allocates fails
  refine ⟨?_, (delivers ops).opened, ?_, ?_⟩
  · intro pre after dgram allocates fails res kind ctr plaintext split opened
    obtain ⟨old, rfl, ans⟩ := trace_split (linkStep format) split
    have opens := lawful.opens (exec (linkStep format) start old).opener
      (idealDecrypt (exec (linkStep format) start old).produced fails) allocates dgram
    rw [linkStep_deliver, LinkAnswer.delivered.injEq] at ans
    rw [← ans, opened] at opens
    exact (delivers old).authentic lawful opens
  · exact (delivers ops).counters.nodup List.nodup_range
  · intro dgram decrypt allocates opener rejected
    have opens := lawful.opens opener decrypt allocates dgram
    rw [rejected] at opens
    generalize (format.open opener decrypt allocates dgram).1 = next at opens ⊢
    cases opens with
    | rejected => rfl

end VisionForge.DataPlane
