import Mathlib.Algebra.Group.Nat.Defs
import VisionForge.Lib.Echoes

/-! # Captured frames and their labels

A frame is labelled when it is submitted: it repeats its content only if the same content was
submitted before.
-/

namespace VisionForge.HostVideo

open Lib.Echoes Lib.Histories

/-- The pipelines carry the first two numbers; the content is only carried here. -/
structure FrameMetadata where
  sourceSequence : Nat := 0
  repeatedContent : Bool := false
  contentSequence : Nat := 0
  deriving DecidableEq

def nextNumber (number : Nat) : Nat := (number + 1) % 2 ^ 64

/-- A retained texture repeats its content only if that content has been accepted before. -/
def retainedFrameRepeatsSubmittedContent (retainedTextureReused : Bool)
    (contentSequence lastSubmittedContentSequence : Nat) : Bool :=
  retainedTextureReused && contentSequence != 0 &&
    contentSequence == lastSubmittedContentSequence

/-- A synthetic repeat cannot replace a real observation that nobody has consumed. -/
def repeatedFrameCanSupersedeMailbox (pendingRepeatedContent incomingRepeatedContent : Bool) :
    Bool :=
  !incomingRepeatedContent || pendingRepeatedContent

def idleRepeatMustDeferToSource (freshMailboxFrameAvailable sourceReadbackPending : Bool) : Bool :=
  !freshMailboxFrameAvailable && sourceReadbackPending

/-- What is captured: an image, which has a content of its own, or the retained one again. -/
inductive CaptureOutcome where
  | image
  | retained
  /-- An image was copied, but the frame was not finished. -/
  | lost
  /-- An image was copied and labelled, but the pipeline does not accept its texture. -/
  | refused
  | nothing
  deriving DecidableEq

structure DesktopVideoAgent where
  contentSequence : Nat := 0
  nextSourceSequence : Nat := 0
  lastSubmittedContentSequence : Nat := 0
  deriving DecidableEq

namespace DesktopVideoAgent

variable (agent : DesktopVideoAgent)

/-- Zero is not the number of a content. -/
def copyImage : DesktopVideoAgent :=
  { agent with
    contentSequence :=
      if nextNumber agent.contentSequence = 0 then 1 else nextNumber agent.contentSequence }

def label (retainedTextureReused : Bool) : DesktopVideoAgent × FrameMetadata :=
  ({ agent with nextSourceSequence := nextNumber agent.nextSourceSequence },
    { sourceSequence := nextNumber agent.nextSourceSequence
      repeatedContent := retainedFrameRepeatsSubmittedContent retainedTextureReused
        agent.contentSequence agent.lastSubmittedContentSequence
      contentSequence := agent.contentSequence })

/-- The frame to submit, if one was captured. Nothing is retained before the first image. -/
def capture : CaptureOutcome → DesktopVideoAgent × Option FrameMetadata
  | .image =>
    let (agent, frame) := agent.copyImage.label false
    (agent, some frame)
  | .retained =>
    if agent.contentSequence = 0 then (agent, none)
    else
      let (agent, frame) := agent.label true
      (agent, some frame)
  | .lost => (agent.copyImage, none)
  | .refused => ((agent.copyImage.label false).1, none)
  | .nothing => (agent, none)

def accepted (frame : FrameMetadata) : DesktopVideoAgent :=
  { agent with lastSubmittedContentSequence := frame.contentSequence }

def HasNumbers : Prop :=
  agent.contentSequence < 2 ^ 64 - 1 ∧ agent.nextSourceSequence < 2 ^ 64 - 1

instance : Decidable agent.HasNumbers := inferInstanceAs (Decidable (_ ∧ _))

end DesktopVideoAgent

/-- Each frame labelled as a repeat has one that is not before it, with the same or newer content. -/
def Seen (line : List FrameMetadata) : Prop := Told FrameMetadata.repeatedContent
  FrameMetadata.contentSequence line

def InOrder (line : List FrameMetadata) : Prop :=
  line.Pairwise fun first second => first.sourceSequence < second.sourceSequence ∧
    first.contentSequence ≤ second.contentSequence

/-- A frame that is not a repeat shows the content or a newer one. -/
def Shown (line : List FrameMetadata) (contentSequence : Nat) : Prop :=
  Original FrameMetadata.repeatedContent FrameMetadata.contentSequence line contentSequence

/-- The frame is not a real observation that a repeat would displace. -/
def Displaceable (pending incoming : FrameMetadata) : Prop :=
  repeatedFrameCanSupersedeMailbox pending.repeatedContent incoming.repeatedContent = true

instance (pending incoming : FrameMetadata) : Decidable (Displaceable pending incoming) :=
  inferInstanceAs (Decidable (_ = _))

variable {line : List FrameMetadata} {frame : FrameMetadata}

theorem Displaceable.replaceable {next : FrameMetadata} {back : List FrameMetadata}
    (displaceable : Displaceable frame next)
    (older : frame.contentSequence ≤ next.contentSequence) :
    Replaceable FrameMetadata.repeatedContent FrameMetadata.contentSequence frame (next :: back) := by
  simp only [Displaceable, repeatedFrameCanSupersedeMailbox, Bool.or_eq_true,
    Bool.not_eq_true'] at displaceable
  rcases displaceable with fresh | isRepeat
  · exact .inr ⟨next, rfl, fresh, older⟩
  · exact .inl isRepeat

namespace DesktopVideoAgent

structure Submitted (agent : DesktopVideoAgent) (line : List FrameMetadata) : Prop where
  seen : Seen line
  inOrder : InOrder line
  sequences : ∀ frame ∈ line, frame.sourceSequence ≤ agent.nextSourceSequence
  contents : ∀ frame ∈ line, frame.contentSequence ≤ agent.contentSequence

variable {agent next : DesktopVideoAgent} {outcome : CaptureOutcome}

theorem nextNumber_eq {number : Nat} (room : number < 2 ^ 64 - 1) :
    nextNumber number = number + 1 := by
  unfold nextNumber
  omega

theorem copyImage_content (room : agent.contentSequence < 2 ^ 64 - 1) :
    agent.copyImage.contentSequence = agent.contentSequence + 1 := by
  simp [copyImage, nextNumber_eq room]

/-- A capture that gives nothing leaves everything in order. -/
theorem Submitted.capture_none (hsub : agent.Submitted line) (numbers : agent.HasNumbers)
    (captured : agent.capture outcome = (next, none)) :
    next.Submitted line ∧
      next.lastSubmittedContentSequence = agent.lastSubmittedContentSequence := by
  obtain ⟨seen, inOrder, sequences, contents⟩ := hsub
  cases outcome with
  | image => simp [capture, label] at captured
  | retained =>
    simp only [capture] at captured
    split at captured
    · simp only [Prod.mk.injEq, and_true] at captured
      subst captured
      exact ⟨⟨seen, inOrder, sequences, contents⟩, rfl⟩
    · simp [label] at captured
  | lost =>
    simp only [capture, Prod.mk.injEq, and_true] at captured
    subst captured
    refine ⟨⟨seen, inOrder, sequences, fun frame mem => ?_⟩, rfl⟩
    rw [copyImage_content numbers.1]
    exact Nat.le_succ_of_le (contents frame mem)
  | refused =>
    simp only [capture, label, Prod.mk.injEq, and_true] at captured
    subst captured
    refine ⟨⟨seen, inOrder, fun frame mem => ?_, fun frame mem => ?_⟩, rfl⟩
    · change frame.sourceSequence ≤ nextNumber agent.nextSourceSequence
      rw [nextNumber_eq numbers.2]
      exact Nat.le_succ_of_le (sequences frame mem)
    · rw [copyImage_content numbers.1]
      exact Nat.le_succ_of_le (contents frame mem)
  | nothing =>
    simp only [capture, Prod.mk.injEq, and_true] at captured
    subst captured
    exact ⟨⟨seen, inOrder, sequences, contents⟩, rfl⟩

/-- What a capture that gives a frame does to the numbers. -/
structure Labelled (agent next : DesktopVideoAgent) (frame : FrameMetadata) : Prop where
  sequence : frame.sourceSequence = agent.nextSourceSequence + 1
  nextSequence : next.nextSourceSequence = frame.sourceSequence
  content : frame.contentSequence = next.contentSequence
  newer : agent.contentSequence ≤ next.contentSequence
  last : next.lastSubmittedContentSequence = agent.lastSubmittedContentSequence
  repeated : frame.repeatedContent = true → agent.lastSubmittedContentSequence ≠ 0 ∧
    frame.contentSequence = agent.lastSubmittedContentSequence

theorem capture_labelled (numbers : agent.HasNumbers)
    (captured : agent.capture outcome = (next, some frame)) : Labelled agent next frame := by
  have seq := nextNumber_eq numbers.2
  cases outcome with
  | image =>
    simp only [capture, label, retainedFrameRepeatsSubmittedContent, Bool.false_and,
      Prod.mk.injEq, Option.some.injEq] at captured
    obtain ⟨rfl, rfl⟩ := captured
    have content := copyImage_content numbers.1
    exact ⟨seq, rfl, rfl, by simp [content], rfl, by simp⟩
  | retained =>
    simp only [capture] at captured
    split at captured
    · simp at captured
    simp only [label, retainedFrameRepeatsSubmittedContent, Bool.true_and, Prod.mk.injEq,
      Option.some.injEq] at captured
    obtain ⟨rfl, rfl⟩ := captured
    refine ⟨seq, rfl, rfl, Nat.le_refl _, rfl, fun repeated => ?_⟩
    simp only [Bool.and_eq_true, bne_iff_ne, beq_iff_eq] at repeated
    exact ⟨repeated.2 ▸ repeated.1, repeated.2⟩
  | lost | refused | nothing => simp [capture] at captured

/-- A frame is put at the end of the line with the right label, whatever came of the others. -/
theorem Submitted.label (hsub : agent.Submitted line)
    (shown : agent.lastSubmittedContentSequence ≠ 0 → Shown line agent.lastSubmittedContentSequence)
    (labelled : Labelled agent next frame) : next.Submitted (line ++ [frame]) := by
  obtain ⟨seen, inOrder, sequences, contents⟩ := hsub
  obtain ⟨sequence, nextSequence, content, newer, -, repeated⟩ := labelled
  refine ⟨told_append.mpr ⟨seen, fun isRepeat => ?_⟩, ?_, ?_, ?_⟩
  · obtain ⟨some, same⟩ := repeated isRepeat
    rw [same]
    exact shown some
  · refine List.pairwise_append.mpr ⟨inOrder, List.pairwise_singleton _ _, ?_⟩
    intro first mem last isLast
    obtain rfl := List.mem_singleton.mp isLast
    have pre := sequences first mem
    have older := contents first mem
    omega
  · intro other mem
    rcases List.mem_append.mp mem with old | isLast
    · have pre := sequences other old
      omega
    · obtain rfl := List.mem_singleton.mp isLast
      exact Nat.le_of_eq nextSequence.symm
  · intro other mem
    rcases List.mem_append.mp mem with old | isLast
    · exact Nat.le_trans (contents other old) newer
    · obtain rfl := List.mem_singleton.mp isLast
      exact Nat.le_of_eq content

theorem Submitted.drop {front back : List FrameMetadata}
    (hsub : agent.Submitted (front ++ frame :: back))
    (replaceable : Replaceable FrameMetadata.repeatedContent FrameMetadata.contentSequence frame
      back) : agent.Submitted (front ++ back) := by
  obtain ⟨seen, inOrder, sequences, contents⟩ := hsub
  have fewer : (front ++ back).Sublist (front ++ frame :: back) :=
    (List.Sublist.refl front).append (List.sublist_cons_self frame back)
  exact ⟨seen.drop replaceable, inOrder.sublist fewer,
    fun other mem => sequences other (fewer.subset mem),
    fun other mem => contents other (fewer.subset mem)⟩

theorem Submitted.replaceable {front back : List FrameMetadata} {newer : FrameMetadata}
    (hsub : agent.Submitted (front ++ frame :: newer :: back))
    (displaceable : Displaceable frame newer) :
    Replaceable FrameMetadata.repeatedContent FrameMetadata.contentSequence frame
      (newer :: back) := by
  have order := (List.pairwise_append.mp hsub.inOrder).2.1
  exact displaceable.replaceable ((List.pairwise_cons.mp order).1 newer (by simp)).2

theorem Submitted.of_append {back : List FrameMetadata} (hsub : agent.Submitted (line ++ back)) :
    agent.Submitted line := by
  obtain ⟨seen, inOrder, sequences, contents⟩ := hsub
  exact ⟨seen.of_append, (List.pairwise_append.mp inOrder).1,
    fun other mem => sequences other (List.mem_append_left _ mem),
    fun other mem => contents other (List.mem_append_left _ mem)⟩

end DesktopVideoAgent

/-- A line may become another one: who could submit before still can, and no content is lost. -/
def LineKept (line next : List FrameMetadata) : Prop :=
  (∀ (agent : DesktopVideoAgent) (back : List FrameMetadata),
      agent.Submitted (line ++ back) → agent.Submitted (next ++ back)) ∧
    ∀ agent : DesktopVideoAgent, agent.Submitted line →
      ∀ contentSequence, Shown line contentSequence → Shown next contentSequence

namespace LineKept

variable {next last front back : List FrameMetadata} {newer : FrameMetadata}

theorem refl (line : List FrameMetadata) : LineKept line line := ⟨fun _ _ => id, fun _ _ _ => id⟩

theorem trans (first : LineKept line next) (snd : LineKept next last) : LineKept line last := by
  refine ⟨fun agent back hsub => snd.1 agent back (first.1 agent back hsub),
    fun agent hsub content shown => ?_⟩
  have between := first.1 agent [] (by rw [List.append_nil]; exact hsub)
  rw [List.append_nil] at between
  exact snd.2 agent between content (first.2 agent hsub content shown)

/-- A real observation gives way to a newer one, and a repeat to anything. -/
theorem displace (displaceable : Displaceable frame newer) :
    LineKept (front ++ frame :: newer :: back) (front ++ newer :: back) := by
  refine ⟨fun agent rest hsub => ?_, fun agent hsub content shown => ?_⟩
  · simp only [List.append_assoc, List.cons_append] at hsub ⊢
    exact hsub.drop (hsub.replaceable displaceable)
  · exact shown.drop (hsub.replaceable displaceable)

theorem drop_repeat (isRepeat : frame.repeatedContent = true) :
    LineKept (front ++ frame :: back) (front ++ back) := by
  refine ⟨fun agent rest hsub => ?_, fun agent hsub content shown => ?_⟩
  · simp only [List.append_assoc, List.cons_append] at hsub ⊢
    exact hsub.drop (.inl isRepeat)
  · exact shown.drop (.inl isRepeat)

end LineKept

end VisionForge.HostVideo
