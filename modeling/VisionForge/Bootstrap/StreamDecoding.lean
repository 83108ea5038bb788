import Mathlib.Data.List.GetD
import VisionForge.Bootstrap.Records
import VisionForge.Lib.Checks
import VisionForge.Lib.Run

/-! # Decoding a stream in chunks

What the decoder holds between two calls is determined by the octets of the unfinished
record alone. Parsing a whole stream record by record therefore gives the same records,
and the same reason to stop, as any way to feed it in chunks.
-/

namespace VisionForge.Bootstrap

open Lib.Ascii Lib.BigEndian

variable {dir : ControlBootstrapDirectionV1}

theorem inspect_append {encoded : Bytes}
    (long : kAuthenticatedControlBootstrapHeaderBytes ≤ encoded.length) (more : Bytes) :
    inspectBootstrapHeaderV1 (encoded ++ more) dir = inspectBootstrapHeaderV1 encoded dir := by
  have octet : ∀ offset, offset < 12 → octetAt (encoded ++ more) offset =
      octetAt encoded offset := by
    intro offset hin
    exact List.getD_append _ _ _ _ (Nat.lt_of_lt_of_le hin long)
  have magic : (encoded ++ more).take 4 = encoded.take 4 :=
    List.take_append_of_le_length (Nat.le_trans (by decide) long)
  have size : loadAt (encoded ++ more) kPayloadLengthOffset 4 =
      loadAt encoded kPayloadLengthOffset 4 := by
    unfold loadAt
    rw [List.drop_append_of_le_length (Nat.le_trans (by decide) long),
      List.take_append_of_le_length]
    rw [List.length_drop]
    exact Nat.le_sub_of_add_le long
  unfold inspectBootstrapHeaderV1
  rw [octet kDirectionOffset (by decide), octet kMessageTypeOffset (by decide),
    octet kVersionOffset (by decide), octet kHeaderSizeOffset (by decide), magic, size,
    List.length_append, if_neg (Nat.not_lt.mpr (Nat.le_add_right_of_le long)),
    if_neg (Nat.not_lt.mpr long)]

theorem inspect_short {enc : Bytes}
    (short : enc.length < kAuthenticatedControlBootstrapHeaderBytes) :
    inspectBootstrapHeaderV1 enc dir = .error .recordTooShort := if_pos short

variable {bytes : Nat}

theorem inspect_eq_ok {enc : Bytes}
    (h : inspectBootstrapHeaderV1 enc dir = .ok bytes) :
    kAuthenticatedControlBootstrapHeaderBytes ≤ enc.length ∧
      kAuthenticatedControlBootstrapHeaderBytes < bytes ∧
      bytes ≤ kAuthenticatedControlBootstrapHeaderBytes +
        kMaximumAuthenticatedControlBootstrapPayloadBytes := by
  simp only [inspectBootstrapHeaderV1, Lib.Checks.ite_error_eq_ok, Except.ok.injEq] at h
  omega

theorem inspect_ne_tooShort {enc : Bytes}
    (long : kAuthenticatedControlBootstrapHeaderBytes ≤ enc.length) :
    inspectBootstrapHeaderV1 enc dir ≠ .error .recordTooShort := by
  intro h
  unfold inspectBootstrapHeaderV1 at h
  rw [if_neg (Nat.not_lt.mpr long)] at h
  iterate 9
    split at h
    · cases h
  cases h

variable {stream : Bytes}

theorem parse_take (h : inspectBootstrapHeaderV1 stream dir = .ok bytes)
    (enough : bytes ≤ stream.length) :
    ∃ record, parseAuthenticatedControlBootstrapRecordV1 (stream.take bytes) dir = .ok record := by
  obtain ⟨-, longer, -⟩ := inspect_eq_ok h
  have length : (stream.take bytes).length = bytes := List.length_take_of_le enough
  have inspected : inspectBootstrapHeaderV1 (stream.take bytes) dir = .ok bytes := by
    rw [← h]
    conv => rhs; rw [← List.take_append_drop bytes stream]
    exact (inspect_append (by rw [length]; exact longer.le) _).symm
  unfold parseAuthenticatedControlBootstrapRecordV1
  rw [inspected]
  simp only [length, ne_eq, not_true_eq_false, if_false]
  exact ⟨_, rfl⟩

structure StreamParse where
  records : List Bytes
  rejection : Option ControlBootstrapParseStatusV1
  rest : Bytes

/-- The records of a stream one after the other, until one is rejected or is not all there. -/
def parseStream (dir : ControlBootstrapDirectionV1) (stream : Bytes) : StreamParse :=
  match _ : inspectBootstrapHeaderV1 stream dir with
  | .error .recordTooShort => ⟨[], none, stream⟩
  | .error status => ⟨[], some status, stream⟩
  | .ok bytes =>
    if _ : stream.length < bytes then ⟨[], none, stream⟩
    else
      match parseAuthenticatedControlBootstrapRecordV1 (stream.take bytes) dir with
      | .error status => ⟨[], some status, stream⟩
      | .ok _ =>
        let later := parseStream dir (stream.drop bytes)
        { later with records := stream.take bytes :: later.records }
  termination_by stream.length
  decreasing_by
    have bounds := inspect_eq_ok ‹inspectBootstrapHeaderV1 stream dir = .ok bytes›
    rw [List.length_drop]
    omega

def Unfinished (dir : ControlBootstrapDirectionV1) (pending : Bytes) : Prop :=
  pending.length < kAuthenticatedControlBootstrapHeaderBytes ∨
    ∃ bytes, inspectBootstrapHeaderV1 pending dir = .ok bytes ∧
      pending.length < bytes

inductive Begins (direction : ControlBootstrapDirectionV1) (stream : Bytes) : Prop
  | unfinished (h : Unfinished direction stream)
  | rejected {status : ControlBootstrapParseStatusV1}
      (long : kAuthenticatedControlBootstrapHeaderBytes ≤ stream.length)
      (h : inspectBootstrapHeaderV1 stream direction = .error status)
  | complete {recordBytes : Nat} (h : inspectBootstrapHeaderV1 stream direction = .ok recordBytes)
      (enough : recordBytes ≤ stream.length)

theorem begins (dir : ControlBootstrapDirectionV1) (stream : Bytes) : Begins dir stream := by
  by_cases short : stream.length < kAuthenticatedControlBootstrapHeaderBytes
  · exact .unfinished (.inl short)
  cases h : inspectBootstrapHeaderV1 stream dir with
  | error status => exact .rejected (Nat.not_lt.mp short) h
  | ok bytes =>
    by_cases less : stream.length < bytes
    · exact .unfinished (.inr ⟨bytes, h, less⟩)
    · exact .complete h (Nat.not_lt.mp less)

theorem parseStream_unfinished (h : Unfinished dir stream) :
    parseStream dir stream = ⟨[], none, stream⟩ := by
  rw [parseStream]
  cases h with
  | inl short =>
    split
    · rfl
    · rename_i status other isError
      rw [inspect_short short] at isError
      cases isError
      exact absurd rfl other
    · rename_i isOk
      rw [inspect_short short] at isOk
      cases isOk
  | inr partly =>
    obtain ⟨bytes, isOk, less⟩ := partly
    split
    · rfl
    · rename_i isError
      rw [isOk] at isError
      cases isError
    · rename_i other isOther
      rw [isOk] at isOther
      cases isOther
      rw [dif_pos less]

theorem parseStream_rejected {status : ControlBootstrapParseStatusV1}
    (long : kAuthenticatedControlBootstrapHeaderBytes ≤ stream.length)
    (h : inspectBootstrapHeaderV1 stream dir = .error status) :
    parseStream dir stream = ⟨[], some status, stream⟩ := by
  rw [parseStream]
  split
  · rename_i isShort
    exact absurd isShort (inspect_ne_tooShort long)
  · rename_i other _ isError
    rw [h] at isError
    cases isError
    rfl
  · rename_i isOk
    rw [h] at isOk
    cases isOk

theorem parseStream_complete (h : inspectBootstrapHeaderV1 stream dir = .ok bytes)
    (enough : bytes ≤ stream.length) :
    parseStream dir stream =
      { parseStream dir (stream.drop bytes) with
        records := stream.take bytes ::
          (parseStream dir (stream.drop bytes)).records } := by
  obtain ⟨record, isRecord⟩ := parse_take h enough
  rw [parseStream]
  split
  · rename_i isError
    rw [h] at isError
    cases isError
  · rename_i isError
    rw [h] at isError
    cases isError
  · rename_i other isOther
    rw [h] at isOther
    cases isOther
    rw [dif_neg (Nat.not_lt.mpr enough), isRecord]

theorem inspected_append {more : Bytes}
    (h : inspectBootstrapHeaderV1 stream dir = .ok bytes) :
    inspectBootstrapHeaderV1 (stream ++ more) dir = .ok bytes := by
  rw [inspect_append (inspect_eq_ok h).1, h]

/-- What follows a stream is parsed from where it was left. -/
theorem parseStream_append (stream more : Bytes) :
    parseStream dir (stream ++ more) =
      match (parseStream dir stream).rejection with
      | some status =>
        ⟨(parseStream dir stream).records, some status, (parseStream dir stream).rest ++ more⟩
      | none =>
        { parseStream dir ((parseStream dir stream).rest ++ more) with
          records := (parseStream dir stream).records ++
            (parseStream dir ((parseStream dir stream).rest ++ more)).records } := by
  induction size : stream.length using Nat.strongRecOn generalizing stream with
  | ind length ih =>
    cases begins dir stream with
    | unfinished h =>
      rw [parseStream_unfinished h]
      rfl
    | rejected long h =>
      rw [parseStream_rejected long h]
      refine parseStream_rejected ?_ (by rw [inspect_append long, h])
      rw [List.length_append]
      omega
    | @complete bytes h enough =>
      have longer := (inspect_eq_ok h).2.1
      have rest := ih (stream.drop bytes).length
        (by rw [List.length_drop]; omega) (stream.drop bytes) rfl
      have inspected : inspectBootstrapHeaderV1 (stream ++ more) dir = .ok bytes :=
        inspected_append h
      have whole := parseStream_complete inspected
        (by rw [List.length_append]; omega)
      rw [List.drop_append_of_le_length enough, List.take_append_of_le_length enough] at whole
      rw [whole, rest, parseStream_complete h enough]
      cases (parseStream dir (stream.drop bytes)).rejection with
      | none => rfl
      | some status => rfl

theorem unfinished_rest (h : (parseStream dir stream).rejection = none) :
    Unfinished dir (parseStream dir stream).rest := by
  induction size : stream.length using Nat.strongRecOn generalizing stream with
  | ind length ih =>
    cases begins dir stream with
    | unfinished partly =>
      rw [parseStream_unfinished partly]
      exact partly
    | rejected long isError =>
      rw [parseStream_rejected long isError] at h
      cases h
    | complete isOk enough =>
      have longer := (inspect_eq_ok isOk).2.1
      rw [parseStream_complete isOk enough] at h ⊢
      exact ih _ (by rw [List.length_drop]; omega) h rfl

theorem parse_of_mem_records {record : Bytes}
    (mem : record ∈ (parseStream dir stream).records) :
    ∃ parsed, parseAuthenticatedControlBootstrapRecordV1 record dir = .ok parsed := by
  induction size : stream.length using Nat.strongRecOn generalizing stream with
  | ind length ih =>
    cases begins dir stream with
    | unfinished partly =>
      rw [parseStream_unfinished partly] at mem
      cases mem
    | rejected long isError =>
      rw [parseStream_rejected long isError] at mem
      cases mem
    | complete isOk enough =>
      have longer := (inspect_eq_ok isOk).2.1
      rw [parseStream_complete isOk enough] at mem
      cases List.mem_cons.mp mem with
      | inl first =>
        rw [first]
        exact parse_take isOk enough
      | inr later => exact ih _ (by rw [List.length_drop]; omega) later rfl

namespace ControlBootstrapStreamDecoderV1

def holding (dir : ControlBootstrapDirectionV1) (pending : Bytes) :
    ControlBootstrapStreamDecoderV1 where
  expectedDirection := dir
  encoded := pending
  expectedRecordBytes :=
    match inspectBootstrapHeaderV1 pending dir with
    | .ok bytes => bytes
    | .error _ => 0

def stopped (dir : ControlBootstrapDirectionV1) (status : ControlBootstrapParseStatusV1) :
    ControlBootstrapStreamDecoderV1 where
  expectedDirection := dir
  failed := true
  rejection := status

def holdingRecord (dir : ControlBootstrapDirectionV1) (record : Bytes) :
    ControlBootstrapStreamDecoderV1 where
  expectedDirection := dir
  encoded := record
  expectedRecordBytes := record.length
  ready := true

variable {pending : Bytes}

theorem holding_short (short : pending.length < kAuthenticatedControlBootstrapHeaderBytes) :
    holding dir pending = { expectedDirection := dir, encoded := pending } := by
  unfold holding
  rw [inspect_short short]

theorem holding_ok (h : inspectBootstrapHeaderV1 pending dir = .ok bytes) :
    holding dir pending =
      { expectedDirection := dir, encoded := pending
        expectedRecordBytes := bytes } := by
  unfold holding
  rw [h]

/-- The second half of a call, from a header that was accepted. -/
theorem feedRecord_eq {source : Bytes} {consumed : Nat}
    (h : inspectBootstrapHeaderV1 pending dir = .ok bytes)
    (less : pending.length < bytes) (hin : consumed ≤ source.length) :
    (holding dir pending).feedRecord source consumed =
      if (pending ++ source.drop consumed).length < bytes then
        (holding dir (pending ++ source.drop consumed), ⟨.needMore, source.length, .recordTooShort⟩)
      else
        (holdingRecord dir ((pending ++ source.drop consumed).take bytes),
          ⟨.recordReady, consumed + (bytes - pending.length), .parsed⟩) := by
  have size : (pending ++ source.drop consumed).length =
      pending.length + (source.length - consumed) := by
    rw [List.length_append, List.length_drop]
  rw [holding_ok h]
  unfold feedRecord
  dsimp only
  by_cases short : (pending ++ source.drop consumed).length < bytes
  · have all : min (bytes - pending.length) (source.length - consumed) =
        source.length - consumed := by omega
    have taken : (source.drop consumed).take (source.length - consumed) = source.drop consumed := by
      rw [← List.length_drop]
      exact List.take_length
    have whole : consumed + (source.length - consumed) = source.length := by omega
    rw [all, taken, if_pos short, if_pos short, holding_ok (inspected_append h), whole]
  · have part : min (bytes - pending.length) (source.length - consumed) =
        bytes - pending.length := by omega
    have stream : pending ++ (source.drop consumed).take (bytes - pending.length) =
        (pending ++ source.drop consumed).take bytes := by
      rw [List.take_append, List.take_of_length_le less.le]
    have enough := Nat.not_lt.mp short
    have length : ((pending ++ source.drop consumed).take bytes).length = bytes :=
      List.length_take_of_le enough
    obtain ⟨record, isRecord⟩ := parse_take (inspected_append h) enough
    rw [part, stream, if_neg short, length, if_neg (Nat.lt_irrefl _), isRecord, holdingRecord,
      length]

/-- Everything a call can do to an unfinished record. -/
inductive Feeds (direction : ControlBootstrapDirectionV1) (pending source : Bytes) :
    ControlBootstrapStreamDecoderV1 × ControlBootstrapStreamFeedResultV1 → Prop
  | unfinished (h : Unfinished direction (pending ++ source)) :
      Feeds direction pending source
        (holding direction (pending ++ source), ⟨.needMore, source.length, .recordTooShort⟩)
  | rejected {status : ControlBootstrapParseStatusV1} {consumed : Nat}
      (long : kAuthenticatedControlBootstrapHeaderBytes ≤ (pending ++ source).length)
      (h : inspectBootstrapHeaderV1 (pending ++ source) direction = .error status) :
      Feeds direction pending source (stopped direction status, ⟨.rejected, consumed, status⟩)
  | ready {recordBytes : Nat}
      (h : inspectBootstrapHeaderV1 (pending ++ source) direction = .ok recordBytes)
      (enough : recordBytes ≤ (pending ++ source).length) (less : pending.length < recordBytes) :
      Feeds direction pending source
        (holdingRecord direction ((pending ++ source).take recordBytes),
          ⟨.recordReady, recordBytes - pending.length, .parsed⟩)

/-- Once a header is accepted, it no longer matters where it was completed. -/
theorem feedRecord_feeds {src start : Bytes} {used : Nat}
    (h : inspectBootstrapHeaderV1 start dir = .ok bytes)
    (less : start.length < bytes) (hin : used ≤ src.length)
    (same : start ++ src.drop used = pending ++ src)
    (length : start.length = pending.length + used) :
    Feeds dir pending src ((holding dir start).feedRecord src used) := by
  have inspected : inspectBootstrapHeaderV1 (pending ++ src) dir = .ok bytes := by
    rw [← same]
    exact inspected_append h
  rw [feedRecord_eq h less hin, same]
  split
  · rename_i short
    exact .unfinished (.inr ⟨bytes, inspected, short⟩)
  · rename_i enough
    have left : used + (bytes - start.length) = bytes - pending.length := by omega
    rw [left]
    exact .ready inspected (Nat.not_lt.mp enough) (by omega)

theorem feed_header {src : Bytes}
    (short : pending.length < kAuthenticatedControlBootstrapHeaderBytes)
    (long : kAuthenticatedControlBootstrapHeaderBytes ≤ (pending ++ src).length) :
    (holding dir pending).feed src =
      match inspectBootstrapHeaderV1
          ((pending ++ src).take kAuthenticatedControlBootstrapHeaderBytes) dir with
      | .error status =>
        (stopped dir status,
          ⟨.rejected, kAuthenticatedControlBootstrapHeaderBytes - pending.length, status⟩)
      | .ok _ =>
        (holding dir ((pending ++ src).take
          kAuthenticatedControlBootstrapHeaderBytes)).feedRecord src
            (kAuthenticatedControlBootstrapHeaderBytes - pending.length) := by
  have part : min (kAuthenticatedControlBootstrapHeaderBytes - pending.length) src.length =
      kAuthenticatedControlBootstrapHeaderBytes - pending.length := by
    rw [List.length_append] at long
    omega
  have split : pending ++ src.take (kAuthenticatedControlBootstrapHeaderBytes -
      pending.length) = (pending ++ src).take kAuthenticatedControlBootstrapHeaderBytes := by
    rw [List.take_append, List.take_of_length_le short.le]
  rw [holding_short short]
  unfold feed
  dsimp only
  rw [if_neg Bool.false_ne_true, if_neg Bool.false_ne_true, if_pos short, part, split,
    List.length_take_of_le long, if_neg (Nat.lt_irrefl _)]
  cases h : inspectBootstrapHeaderV1
      ((pending ++ src).take kAuthenticatedControlBootstrapHeaderBytes) dir with
  | error status => rfl
  | ok bytes => rw [holding_ok h]

theorem feed_feeds (h : Unfinished dir pending) (source : Bytes) :
    Feeds dir pending source ((holding dir pending).feed source) := by
  cases h with
  | inr partly =>
    obtain ⟨bytes, isOk, less⟩ := partly
    have fed : (holding dir pending).feed source = (holding dir pending).feedRecord source 0 := by
      rw [holding_ok isOk]
      unfold feed
      rw [if_neg Bool.false_ne_true, if_neg Bool.false_ne_true,
        if_neg (Nat.not_lt.mpr (inspect_eq_ok isOk).1)]
    rw [fed]
    exact feedRecord_feeds isOk less (Nat.zero_le _) rfl rfl
  | inl short =>
    by_cases still : (pending ++ source).length < kAuthenticatedControlBootstrapHeaderBytes
    · have all : min (kAuthenticatedControlBootstrapHeaderBytes - pending.length)
          source.length = source.length := by
        rw [List.length_append] at still
        omega
      have fed : (holding dir pending).feed source =
          (holding dir (pending ++ source), ⟨.needMore, source.length, .recordTooShort⟩) := by
        rw [holding_short short, holding_short still]
        unfold feed
        dsimp only
        rw [if_neg Bool.false_ne_true, if_neg Bool.false_ne_true, if_pos short, all,
          List.take_length, if_pos still]
      rw [fed]
      exact .unfinished (.inl still)
    · have long := Nat.not_lt.mp still
      have hdr : ((pending ++ source).take kAuthenticatedControlBootstrapHeaderBytes).length =
          kAuthenticatedControlBootstrapHeaderBytes := List.length_take_of_le long
      have joined : (pending ++ source).take kAuthenticatedControlBootstrapHeaderBytes ++
          source.drop (kAuthenticatedControlBootstrapHeaderBytes - pending.length) =
          pending ++ source := by
        rw [List.take_append, List.take_of_length_le short.le, List.append_assoc,
          List.take_append_drop]
      have inspected : inspectBootstrapHeaderV1
          ((pending ++ source).take kAuthenticatedControlBootstrapHeaderBytes) dir =
          inspectBootstrapHeaderV1 (pending ++ source) dir := by
        conv => rhs; rw [← joined]
        exact (inspect_append (by rw [hdr]) _).symm
      rw [feed_header short long]
      cases isHeader : inspectBootstrapHeaderV1
          ((pending ++ source).take kAuthenticatedControlBootstrapHeaderBytes) dir with
      | error status => exact .rejected long (inspected.symm.trans isHeader)
      | ok bytes =>
        have bounds := (inspect_eq_ok isHeader).2.1
        rw [List.length_append] at long
        exact feedRecord_feeds isHeader (by omega) (by omega) joined (by omega)

def landed (dir : ControlBootstrapDirectionV1) (parse : StreamParse) :
    ControlBootstrapStreamDecoderV1 :=
  match parse.rejection with
  | none => holding dir parse.rest
  | some status => stopped dir status

theorem takeRecord_holdingRecord (record : Bytes) :
    (holdingRecord dir record).takeRecord = (holding dir [], some record) := rfl

theorem feedAll_holding (h : Unfinished dir pending) {source : Bytes} {turns : Nat}
    (enough : source.length < turns) :
    feedAll turns (holding dir pending) source =
      (landed dir (parseStream dir (pending ++ source)),
        (parseStream dir (pending ++ source)).records) := by
  induction turns generalizing pending source with
  | zero => omega
  | succ turns ih =>
    have fed := feed_feeds h source
    unfold feedAll
    generalize (holding dir pending).feed source = outcome at fed
    cases fed with
    | unfinished unfinished =>
      simp only [reduceCtorEq, if_false, parseStream_unfinished unfinished, landed]
    | rejected long isError =>
      simp only [reduceCtorEq, if_false, parseStream_rejected long isError, landed]
    | @ready bytes isOk whole less =>
      have shorter : (source.drop (bytes - pending.length)).length < turns := by
        rw [List.length_drop]
        rw [List.length_append] at whole
        omega
      have left : (pending ++ source).drop bytes = source.drop (bytes - pending.length) := by
        rw [List.drop_append, List.drop_of_length_le less.le, List.nil_append]
      have rest := @ih [] (.inl (by decide)) _ shorter
      simp only [if_true, takeRecord_holdingRecord, rest, Option.toList_some,
        List.singleton_append, parseStream_complete isOk whole, left]
      rfl

variable {decoder : ControlBootstrapStreamDecoderV1}

theorem feedChunks_failed (failed : decoder.failed = true) (chunks : List Bytes) :
    decoder.feedChunks chunks = (decoder, []) := by
  induction chunks with
  | nil => rfl
  | cons chunk chunks ih =>
    have fed : decoder.feedChunk chunk = (decoder, []) := by
      unfold feedChunk feedAll feed
      rw [if_pos failed]
      simp only [reduceCtorEq, if_false]
    simp only [feedChunks, fed, ih, List.append_nil]

theorem feedChunks_holding (h : Unfinished dir pending) (chunks : List Bytes) :
    (holding dir pending).feedChunks chunks =
      (landed dir (parseStream dir (pending ++ chunks.flatten)),
        (parseStream dir (pending ++ chunks.flatten)).records) := by
  induction chunks generalizing pending with
  | nil =>
    rw [List.flatten_nil, List.append_nil, parseStream_unfinished h]
    rfl
  | cons chunk chunks ih =>
    have first := feedAll_holding h (Nat.lt_succ_self chunk.length)
    have whole := @parseStream_append dir (pending ++ chunk) chunks.flatten
    rw [List.append_assoc] at whole
    rw [List.flatten_cons, whole]
    simp only [feedChunks, feedChunk, first]
    cases rejected : (parseStream dir (pending ++ chunk)).rejection with
    | some status =>
      have stop : landed dir (parseStream dir (pending ++ chunk)) = stopped dir status := by
        unfold landed
        rw [rejected]
      rw [stop, feedChunks_failed rfl, List.append_nil]
      rfl
    | none =>
      have continues : landed dir (parseStream dir (pending ++ chunk)) =
          holding dir (parseStream dir (pending ++ chunk)).rest := by
        unfold landed
        rw [rejected]
      rw [continues, ih (unfinished_rest rejected)]
      rfl

structure Bounded (decoder : ControlBootstrapStreamDecoderV1) : Prop where
  encoded : decoder.encoded.length ≤ kAuthenticatedControlBootstrapHeaderBytes +
    kMaximumAuthenticatedControlBootstrapPayloadBytes
  expected : decoder.expectedRecordBytes ≤ kAuthenticatedControlBootstrapHeaderBytes +
    kMaximumAuthenticatedControlBootstrapPayloadBytes

theorem Bounded.feedRecord (h : decoder.Bounded) (src : Bytes) (used : Nat) :
    (decoder.feedRecord src used).1.Bounded := by
  have grown : (decoder.encoded ++ (src.drop used).take
      (min (decoder.expectedRecordBytes - decoder.encoded.length)
        (src.length - used))).length ≤
      kAuthenticatedControlBootstrapHeaderBytes +
        kMaximumAuthenticatedControlBootstrapPayloadBytes := by
    have old := h.encoded
    have limit := h.expected
    rw [List.length_append, List.length_take]
    omega
  unfold ControlBootstrapStreamDecoderV1.feedRecord
  dsimp only
  split
  · exact ⟨grown, h.expected⟩
  split
  · exact ⟨Nat.zero_le _, Nat.zero_le _⟩
  · exact ⟨grown, h.expected⟩

theorem Bounded.feed (h : decoder.Bounded) (src : Bytes) : (decoder.feed src).1.Bounded := by
  unfold ControlBootstrapStreamDecoderV1.feed
  split
  · exact h
  split
  · exact h
  split
  · have grown : (decoder.encoded ++ src.take
        (min (kAuthenticatedControlBootstrapHeaderBytes - decoder.encoded.length)
          src.length)).length ≤
        kAuthenticatedControlBootstrapHeaderBytes +
          kMaximumAuthenticatedControlBootstrapPayloadBytes := by
      rw [List.length_append, List.length_take]
      omega
    dsimp only
    split
    · exact ⟨grown, h.expected⟩
    split
    · exact ⟨Nat.zero_le _, Nat.zero_le _⟩
    · rename_i bytes isOk
      exact Bounded.feedRecord ⟨grown, (inspect_eq_ok isOk).2.2⟩ _ _
  · exact h.feedRecord src 0

theorem Bounded.takeRecord (h : decoder.Bounded) : decoder.takeRecord.1.Bounded := by
  unfold ControlBootstrapStreamDecoderV1.takeRecord
  split
  · exact h
  · exact ⟨Nat.zero_le _, Nat.zero_le _⟩

end ControlBootstrapStreamDecoderV1

inductive DecoderOp where
  | feed (source : Bytes)
  | takeRecord

def decoderStep (decoder : ControlBootstrapStreamDecoderV1) :
    DecoderOp → ControlBootstrapStreamDecoderV1 × Option Bytes
  | .feed source => ((decoder.feed source).1, none)
  | .takeRecord => decoder.takeRecord

theorem bounded_run (dir : ControlBootstrapDirectionV1) (ops : List DecoderOp) :
    (Lib.Run.exec decoderStep (.new dir) ops).Bounded := by
  refine Lib.Run.exec_invariant (P := ControlBootstrapStreamDecoderV1.Bounded) decoderStep
    ⟨Nat.zero_le _, Nat.zero_le _⟩ ?_ ops
  intro decoder op h
  cases op with
  | feed src => exact h.feed src
  | takeRecord => exact h.takeRecord

theorem decoderStep_failed (failed : decoder.failed = true) (op : DecoderOp) :
    decoderStep decoder op = (decoder, none) := by
  cases op with
  | feed src =>
    simp only [decoderStep, ControlBootstrapStreamDecoderV1.feed, failed, if_true]
  | takeRecord =>
    simp only [decoderStep, ControlBootstrapStreamDecoderV1.takeRecord, failed, Bool.true_or,
      if_true]

theorem records_of_failed (failed : decoder.failed = true) (ops : List DecoderOp) :
    (Lib.Run.trace decoderStep decoder ops).filterMap Prod.snd = [] := by
  induction ops with
  | nil => rfl
  | cons op ops ih => simp only [Lib.Run.trace_cons, decoderStep_failed failed,
      List.filterMap_cons, ih]

/-- What a stream is to give: its records and why they end. A decoder without a direction
    is of no use from the start. -/
def recordsOf (dir : ControlBootstrapDirectionV1) (stream : Bytes) :
    List Bytes × Option ControlBootstrapParseStatusV1 :=
  if validDirection dir then
    ((parseStream dir stream).records, (parseStream dir stream).rejection)
  else ([], some .unexpectedDirection)

def decodedFrom (dir : ControlBootstrapDirectionV1) (chunks : List Bytes) :
    List Bytes × Option ControlBootstrapParseStatusV1 :=
  let (decoder, records) := (ControlBootstrapStreamDecoderV1.new dir).feedChunks chunks
  (records, decoder.terminalRejection)

structure DecodesByRecord (direction : ControlBootstrapDirectionV1) (chunks : List Bytes) :
    Prop where
  outcome : decodedFrom direction chunks = recordsOf direction chunks.flatten
  parsed : ∀ record ∈ (decodedFrom direction chunks).1, ∃ parsed,
    parseAuthenticatedControlBootstrapRecordV1 record direction = .ok parsed
  bounded : ∀ ops, (Lib.Run.exec decoderStep (.new direction) ops).encoded.length ≤
    kAuthenticatedControlBootstrapHeaderBytes +
      kMaximumAuthenticatedControlBootstrapPayloadBytes
  final : ∀ earlier later, (Lib.Run.exec decoderStep (.new direction) earlier).failed = true →
    (Lib.Run.trace decoderStep (Lib.Run.exec decoderStep (.new direction) earlier)
      later).filterMap Prod.snd = []

theorem decodedFrom_eq (dir : ControlBootstrapDirectionV1) (chunks : List Bytes) :
    decodedFrom dir chunks = recordsOf dir chunks.flatten := by
  unfold decodedFrom recordsOf
  cases valid : validDirection dir with
  | true =>
    have start : ControlBootstrapStreamDecoderV1.new dir = .holding dir [] := by
      simp only [ControlBootstrapStreamDecoderV1.new, valid,
        ControlBootstrapStreamDecoderV1.holding, inspect_short (show ([] : Bytes).length < _ by
          decide)]
      rfl
    rw [start, ControlBootstrapStreamDecoderV1.feedChunks_holding (.inl (by decide)),
      List.nil_append]
    unfold ControlBootstrapStreamDecoderV1.landed
    cases (parseStream dir chunks.flatten).rejection with
    | none => rfl
    | some status => rfl
  | false =>
    have failed : (ControlBootstrapStreamDecoderV1.new dir).failed = true := by
      simp only [ControlBootstrapStreamDecoderV1.new, valid, Bool.not_false]
    rw [ControlBootstrapStreamDecoderV1.feedChunks_failed failed]
    simp only [ControlBootstrapStreamDecoderV1.terminalRejection,
      ControlBootstrapStreamDecoderV1.new, valid, Bool.not_false, Bool.false_eq_true, if_true,
      if_false]

/-- However a stream is cut into chunks, the decoder gives the records that parsing it one
    record after the other gives, and stops for the same reason; it never holds more than
    a record, and gives nothing out after a rejection. -/
theorem stream_decoder_follows_parsing (dir : ControlBootstrapDirectionV1)
    (chunks : List Bytes) : DecodesByRecord dir chunks := by
  refine ⟨decodedFrom_eq dir chunks, ?_, fun ops => (bounded_run dir ops).encoded,
    fun _ later failed => records_of_failed failed later⟩
  intro record member
  rw [decodedFrom_eq, recordsOf] at member
  split at member
  · exact parse_of_mem_records member
  · cases member

/-- Without a direction the decoder rejects before it reads what the parser would reject. -/
theorem undirected_decoder_rejects_first :
    decodedFrom .invalid [List.replicate 12 0] ≠
      ((parseStream .invalid (List.replicate 12 0)).records,
        (parseStream .invalid (List.replicate 12 0)).rejection) := by
  rw [decodedFrom_eq, parseStream_rejected (by decide)
    (show inspectBootstrapHeaderV1 (List.replicate 12 0) .invalid = .error .invalidMagic by
      decide)]
  decide

end VisionForge.Bootstrap
