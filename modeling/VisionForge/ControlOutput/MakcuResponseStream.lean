import Mathlib.Data.List.Induction
import VisionForge.Lib.Utf

/-! # The stream of responses and button reports

A report of the buttons may stand anywhere in the text of the responses. What may still become
one is held back until the next octet.
-/

namespace VisionForge.ControlOutput

open Lib.Ascii Lib.Utf

def BUTTON_PREFIX : Bytes := [0x6b, 0x6d, 0x2e]

def RESPONSE_PROMPT : Bytes := [0x3e, 0x3e, 0x3e, 0x20]

def MAXIMUM_RESPONSE_BYTES : Nat := 4096

def decodeAscii (response : Bytes) : Units :=
  response.map fun octet => if octet < 0x80 then octet.toUInt16 else 0xfffd

inductive ParserEvent where
  | buttonMask (mask : UInt8)
  | response (response : Units)
  | responseOverflow
  deriving DecidableEq

structure MakcuResponseStreamParser where
  response : Bytes := []
  buttonPrefixLength : Nat := 0
  events : List ParserEvent := []
  deriving DecidableEq

namespace MakcuResponseStreamParser

variable (parser : MakcuResponseStreamParser)

def appendResponse (value : UInt8) : MakcuResponseStreamParser :=
  let parser :=
    if MAXIMUM_RESPONSE_BYTES ≤ parser.response.length then
      { parser with response := [], events := parser.events ++ [.responseOverflow] }
    else parser
  let response := parser.response ++ [value]
  if RESPONSE_PROMPT.isSuffixOf response then
    { parser with response := [], events := parser.events ++ [.response (decodeAscii response)] }
  else { parser with response := response }

def flushButtonPrefix : MakcuResponseStreamParser :=
  (BUTTON_PREFIX.take parser.buttonPrefixLength).foldl appendResponse
    { parser with buttonPrefixLength := 0 }

/-- An octet that no part of a report stands before. -/
def acceptFirst (value : UInt8) : MakcuResponseStreamParser :=
  if value = BUTTON_PREFIX.headD 0 then { parser with buttonPrefixLength := 1 }
  else parser.appendResponse value

def acceptUnsigned (value : UInt8) : MakcuResponseStreamParser :=
  if parser.buttonPrefixLength = 0 then parser.acceptFirst value
  else if parser.buttonPrefixLength < BUTTON_PREFIX.length then
    if some value = BUTTON_PREFIX[parser.buttonPrefixLength]? then
      { parser with buttonPrefixLength := parser.buttonPrefixLength + 1 }
    else parser.flushButtonPrefix.acceptFirst value
  else if value ≤ 0x1f then
    { parser with buttonPrefixLength := 0, events := parser.events ++ [.buttonMask value] }
  else parser.flushButtonPrefix.acceptFirst value

def received (source : Option Bytes) (count : Int) : Bytes := (source.getD []).take count.toNat

def accept (source : Option Bytes) (count : Int) : MakcuResponseStreamParser :=
  (received source count).foldl acceptUnsigned parser

end MakcuResponseStreamParser

/-- A report of the buttons, or an octet of a response. -/
inductive Token where
  | button (mask : UInt8)
  | text (octet : UInt8)
  deriving DecidableEq

def Token.octets : Token → Bytes
  | .button mask => BUTTON_PREFIX ++ [mask]
  | .text octet => [octet]

def Token.text? : Token → Option UInt8
  | .button _ => none
  | .text octet => some octet

/-- The reports from left to right, the octets between them, and at the end of the stream what
    may become another report. -/
def scan : Bytes → List Token × Bytes
  | 0x6b :: 0x6d :: 0x2e :: mask :: rest =>
    if mask ≤ 0x1f then (.button mask :: (scan rest).1, (scan rest).2)
    else
      let next := scan (0x6d :: 0x2e :: mask :: rest)
      (.text 0x6b :: next.1, next.2)
  | octet :: rest =>
    if octet :: rest <+: BUTTON_PREFIX then ([], octet :: rest)
    else (.text octet :: (scan rest).1, (scan rest).2)
  | [] => ([], [])

structure Reading where
  events : List ParserEvent := []
  responses : List Bytes := []
  unfinished : Bytes := []
  longest : Nat := 0

/-- A response ends where the prompt does. -/
def Reading.append (reading : Reading) (octet : UInt8) : Reading :=
  let response := reading.unfinished ++ [octet]
  let reading := { reading with longest := max reading.longest response.length }
  if RESPONSE_PROMPT <:+ response then
    { reading with
      events := reading.events ++ [.response (decodeAscii response)]
      responses := reading.responses ++ [response]
      unfinished := [] }
  else { reading with unfinished := response }

def Reading.next (reading : Reading) : Token → Reading
  | .button mask => { reading with events := reading.events ++ [.buttonMask mask] }
  | .text octet => reading.append octet

def readTokens (tokens : List Token) : Reading := tokens.foldl Reading.next {}

section

variable {stream : Bytes} {value : UInt8} {parser : MakcuResponseStreamParser}
  {tokens : List Token} {reading : Reading}

theorem scan_text (other : value ≠ 0x6b) (rest : Bytes) :
    scan (value :: rest) = (.text value :: (scan rest).1, (scan rest).2) := by
  have apart : ¬value :: rest <+: BUTTON_PREFIX := by
    rintro ⟨more, same⟩
    exact other (List.cons.inj same).1
  rw [scan, if_neg apart]
  intro mask next same
  exact absurd same other

/-- Every octet is in a token or held back, once and in its place. -/
theorem scan_octets (stream : Bytes) :
    ((scan stream).1.map Token.octets).flatten ++ (scan stream).2 = stream := by
  fun_induction scan stream with
  | case1 mask rest isMask ih =>
    rw [List.map_cons, List.flatten_cons, List.append_assoc, ih]
    rfl
  | case2 mask rest noMask next ih => simpa [Token.octets] using ih
  | case3 octet rest noReport isHeld => rfl
  | case4 octet rest noReport notHeld ih => simpa [Token.octets] using ih
  | case5 => rfl

theorem scan_first {rest : Bytes} (apart : ¬0x6b :: value :: rest <+: BUTTON_PREFIX)
    (noReport : ∀ mask more, value :: rest ≠ 0x6d :: 0x2e :: mask :: more) :
    scan (0x6b :: value :: rest) =
      (.text 0x6b :: (scan (value :: rest)).1, (scan (value :: rest)).2) := by
  rw [scan, if_neg apart]
  intro mask more _ same
  exact noReport mask more same

theorem scan_broken {held : Nat} (begun : held ≠ 0) (few : held ≤ 3)
    (breaks : if held < 3 then some value ≠ BUTTON_PREFIX[held]? else ¬value ≤ 0x1f)
    (rest : Bytes) :
    scan (BUTTON_PREFIX.take held ++ value :: rest) =
      ((BUTTON_PREFIX.take held).map .text ++ (scan (value :: rest)).1,
        (scan (value :: rest)).2) := by
  obtain rfl | rfl | rfl : held = 1 ∨ held = 2 ∨ held = 3 := by omega
  · have other : value ≠ 0x6d := by simpa [BUTTON_PREFIX] using breaks
    exact scan_first (by simp [BUTTON_PREFIX, other]) (by simp [other])
  · change scan (0x6b :: 0x6d :: value :: rest) = (.text 0x6b :: .text 0x6d :: _, _)
    have other : value ≠ 0x2e := by simpa [BUTTON_PREFIX] using breaks
    rw [scan_first (by simp [BUTTON_PREFIX, other]) (by simp [other]), scan_text (by decide)]
    rfl
  · change scan (0x6b :: 0x6d :: 0x2e :: value :: rest) =
      (.text 0x6b :: .text 0x6d :: .text 0x2e :: _, _)
    rw [scan, if_neg (by simpa using breaks), scan_text (by decide), scan_text (by decide)]
    rfl

/-- The calls and the unfinished response of the parser, unless one was too long. -/
def Agrees (parser : MakcuResponseStreamParser) (reading : Reading) : Prop :=
  reading.longest ≤ MAXIMUM_RESPONSE_BYTES →
    parser.events = reading.events ∧ parser.response = reading.unfinished

theorem appendResponse_prefixLength (parser : MakcuResponseStreamParser) (value : UInt8) :
    (parser.appendResponse value).buttonPrefixLength = parser.buttonPrefixLength := by
  unfold MakcuResponseStreamParser.appendResponse
  dsimp only
  split
  · split <;> rfl
  · split <;> rfl

theorem Agrees.appendResponse (agrees : Agrees parser reading) (value : UInt8) :
    Agrees (parser.appendResponse value) (reading.append value) := by
  intro short
  have longest : (reading.append value).longest =
      max reading.longest (reading.unfinished.length + 1) := by
    unfold Reading.append
    dsimp only
    split <;> simp
  obtain ⟨events, resp⟩ := agrees (by omega)
  have room : ¬MAXIMUM_RESPONSE_BYTES ≤ reading.unfinished.length := by omega
  by_cases ends : RESPONSE_PROMPT <:+ reading.unfinished ++ [value]
  · simp [MakcuResponseStreamParser.appendResponse, Reading.append, events, resp, room, ends]
  · simp [MakcuResponseStreamParser.appendResponse, Reading.append, events, resp, room, ends]

theorem Agrees.flush (agrees : Agrees parser reading) (held : Bytes) :
    Agrees (held.foldl MakcuResponseStreamParser.appendResponse parser)
      ((held.map Token.text).foldl Reading.next reading) := by
  induction held generalizing parser reading with
  | nil => exact agrees
  | cons value held ih => exact ih (agrees.appendResponse value)

theorem flush_prefixLength (parser : MakcuResponseStreamParser) (held : Bytes) :
    (held.foldl MakcuResponseStreamParser.appendResponse parser).buttonPrefixLength =
      parser.buttonPrefixLength := by
  induction held generalizing parser with
  | nil => rfl
  | cons value held ih => exact (ih _).trans (appendResponse_prefixLength parser value)

/-- The parser reads what it holds back and the octets to come as one stream. -/
def Reads (parser : MakcuResponseStreamParser) (reading : Reading) (octets : Bytes) : Prop :=
  let scanned := scan (BUTTON_PREFIX.take parser.buttonPrefixLength ++ octets)
  let next := octets.foldl MakcuResponseStreamParser.acceptUnsigned parser
  Agrees next (scanned.1.foldl Reading.next reading) ∧
    BUTTON_PREFIX.take next.buttonPrefixLength = scanned.2

theorem reads (octets : Bytes) (few : parser.buttonPrefixLength ≤ 3)
    (agrees : Agrees parser reading) : Reads parser reading octets := by
  induction octets generalizing parser reading with
  | nil =>
    have held : scan (BUTTON_PREFIX.take parser.buttonPrefixLength) =
        ([], BUTTON_PREFIX.take parser.buttonPrefixLength) := by
      generalize parser.buttonPrefixLength = length at few
      obtain rfl | rfl | rfl | rfl : length = 0 ∨ length = 1 ∨ length = 2 ∨ length = 3 := by omega
      all_goals rfl
    unfold Reads
    rw [List.append_nil, held]
    exact ⟨agrees, rfl⟩
  | cons value octets ih =>
    have first {parser : MakcuResponseStreamParser} {reading : Reading}
        (none : parser.buttonPrefixLength = 0) (agrees : Agrees parser reading) :
        let next := octets.foldl MakcuResponseStreamParser.acceptUnsigned (parser.acceptFirst value)
        Agrees next ((scan (value :: octets)).1.foldl Reading.next reading) ∧
          BUTTON_PREFIX.take next.buttonPrefixLength = (scan (value :: octets)).2 := by
      unfold MakcuResponseStreamParser.acceptFirst
      split
      · rename_i begins
        obtain rfl : value = 0x6b := begins
        exact @ih { parser with buttonPrefixLength := 1 } _ (show 1 ≤ 3 by omega) agrees
      · rename_i other
        have zero := (appendResponse_prefixLength parser value).trans none
        have next := ih (by omega) (agrees.appendResponse value)
        unfold Reads at next
        rw [zero] at next
        rw [scan_text other]
        exact next
    have broken (begun : parser.buttonPrefixLength ≠ 0) (breaks) :=
      @scan_broken value _ begun few breaks octets
    have flushed := @first parser.flushButtonPrefix _ (flush_prefixLength _ _)
      (@Agrees.flush { parser with buttonPrefixLength := 0 } _ agrees
        (BUTTON_PREFIX.take parser.buttonPrefixLength))
    rw [← List.foldl_append] at flushed
    unfold Reads
    rw [List.foldl_cons, MakcuResponseStreamParser.acceptUnsigned]
    split
    · rename_i none
      rw [none]
      exact first none agrees
    rename_i begun
    split
    · rename_i partly
      split
      · rename_i fits
        have next := @ih { parser with buttonPrefixLength := parser.buttonPrefixLength + 1 } _
          partly agrees
        unfold Reads at next
        rwa [List.take_add_one, ← fits, List.append_assoc] at next
      · rename_i breaks
        rw [broken begun (by rw [if_pos (show _ < 3 from partly)]; exact breaks)]
        exact flushed
    · rename_i whole
      have three : parser.buttonPrefixLength = 3 := by
        simp only [BUTTON_PREFIX, List.length_cons, List.length_nil] at whole
        omega
      split
      · rename_i isMask
        have report : scan (BUTTON_PREFIX.take 3 ++ value :: octets) =
            (.button value :: (scan octets).1, (scan octets).2) := by
          change scan (0x6b :: 0x6d :: 0x2e :: value :: octets) = _
          rw [scan, if_pos isMask]
        rw [three, report]
        refine @ih { parser with
          buttonPrefixLength := 0
          events := parser.events ++ [.buttonMask value] } _ (Nat.zero_le 3) fun short => ?_
        obtain ⟨events, resp⟩ := agrees short
        exact ⟨congrArg (· ++ _) events, resp⟩
      · rename_i noMask
        rw [broken begun (by rw [three]; exact noMask)]
        exact flushed

structure Cut (tokens : List Token) (reading : Reading) : Prop where
  text : reading.responses.flatten ++ reading.unfinished = tokens.filterMap Token.text?
  ends : ∀ response ∈ reading.responses, RESPONSE_PROMPT <:+ response
  once : ∀ response ∈ reading.responses, ¬RESPONSE_PROMPT <:+: response.dropLast
  open' : ¬RESPONSE_PROMPT <:+: reading.unfinished

theorem cut_readTokens (tokens : List Token) : Cut tokens (readTokens tokens) := by
  induction tokens using List.reverseRecOn with
  | nil => exact ⟨rfl, nofun, nofun, by decide⟩
  | append_singleton tokens token ih =>
    rw [readTokens, List.foldl_concat, ← readTokens]
    cases token with
    | button mask => exact ⟨by simp [Reading.next, Token.text?, ih.text], ih.ends, ih.once, ih.open'⟩
    | text octet =>
      have text : (tokens ++ [Token.text octet]).filterMap Token.text? =
          (readTokens tokens).responses.flatten ++ ((readTokens tokens).unfinished ++ [octet]) := by
        rw [List.filterMap_append, ← ih.text, List.append_assoc]
        rfl
      unfold Reading.next Reading.append
      dsimp only
      split
      · rename_i ends
        refine ⟨by simpa using text.symm, ?_, ?_, show ¬RESPONSE_PROMPT <:+: [] by decide⟩
        · simpa [or_imp, forall_and] using ⟨ih.ends, ends⟩
        · simpa [or_imp, forall_and] using ⟨ih.once, ih.open'⟩
      · rename_i goesOn
        exact ⟨text.symm, ih.ends, ih.once, fun hin =>
          (List.infix_concat_iff.mp hin).elim goesOn ih.open'⟩

/-- Whatever the chunks, the parser makes the calls of the stream read as a whole, and holds
    back the rest. -/
theorem parser_reads_stream (chunks : List (Option Bytes × Int)) :
    let stream := chunks.flatMap fun chunk => MakcuResponseStreamParser.received chunk.1 chunk.2
    let parser : MakcuResponseStreamParser :=
      chunks.foldl (fun parser chunk => parser.accept chunk.1 chunk.2) {}
    let (tokens, held) := scan stream
    (readTokens tokens).longest ≤ MAXIMUM_RESPONSE_BYTES →
      parser.events = (readTokens tokens).events ∧
      parser.response = (readTokens tokens).unfinished ∧
      BUTTON_PREFIX.take parser.buttonPrefixLength = held ∧
      (tokens.map Token.octets).flatten ++ held = stream ∧ Cut tokens (readTokens tokens) := by
  intro stream parser
  have isParser : stream.foldl MakcuResponseStreamParser.acceptUnsigned {} = parser := by
    rw [List.foldl_flatMap]
    rfl
  obtain ⟨agrees, held⟩ := @reads {} {} stream (Nat.zero_le 3) fun _ => ⟨rfl, rfl⟩
  rw [isParser] at agrees held
  exact fun short => ⟨(agrees short).1, (agrees short).2, held, scan_octets stream,
    cut_readTokens _⟩

def splitReport : List (Option Bytes × Int) :=
  [(some [0x6f, 0x6b, 0x6b], 3), (some [0x6d, 0x2e], 8), (some [0x01, 0x3e, 0x3e, 0x3e, 0x20], 5)]

theorem split_report_is_read :
    let parser : MakcuResponseStreamParser :=
      splitReport.foldl (fun parser chunk => parser.accept chunk.1 chunk.2) {}
    parser.events = [.buttonMask 1, .response (text "ok>>> ")] ∧ parser.response = [] :=
  have read := parser_reads_stream splitReport (by decide)
  ⟨read.1.trans (by decide), read.2.1.trans (by decide)⟩

end

end VisionForge.ControlOutput
