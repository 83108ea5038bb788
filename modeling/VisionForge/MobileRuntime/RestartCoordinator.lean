import VisionForge.MobileRuntime.VideoFragmentHeader

/-! # Restarts of the decoder

One restart is in flight at most; a later epoch only moves its target. Callbacks are told
apart by their epochs.
-/

namespace VisionForge.MobileRuntime

inductive RequestDecision where
  | startNow
  | coalesced
  | alreadyTargeted
  | stale
  deriving DecidableEq

/-- The decision on a completion; the next epoch comes with the restart it is for. -/
inductive Completion where
  | settled
  | startNext (nextEpoch : Int)
  | staleCallback
  | invalidFutureCallback
  deriving DecidableEq

structure DecoderRestartCoordinator where
  inFlight : Bool
  activeEpoch : Int
  latestEpoch : Int
  ordered : inFlight = true → 0 < activeEpoch ∧ activeEpoch ≤ latestEpoch
  deriving DecidableEq

namespace DecoderRestartCoordinator

def clear : DecoderRestartCoordinator where
  inFlight := false
  activeEpoch := 0
  latestEpoch := 0
  ordered := by simp

def request (restarts : DecoderRestartCoordinator) (epoch : Int) :
    Except Throwable (RequestDecision × DecoderRestartCoordinator) :=
  if positive : 0 < epoch then
    if restarts.inFlight = false then
      .ok (.startNow,
        { inFlight := true
          activeEpoch := epoch
          latestEpoch := epoch
          ordered := fun _ => ⟨positive, le_refl epoch⟩ })
    else if epoch < restarts.latestEpoch then .ok (.stale, restarts)
    else if later : restarts.latestEpoch < epoch then
      .ok (.coalesced,
        { restarts with
          latestEpoch := epoch
          ordered := fun flying =>
            ⟨(restarts.ordered flying).1, (restarts.ordered flying).2.trans later.le⟩ })
    else .ok (.alreadyTargeted, restarts)
  else .error .illegalArgument

def complete (restarts : DecoderRestartCoordinator) (completedEpoch : Int) :
    Except Throwable (Completion × DecoderRestartCoordinator) :=
  if completedEpoch ≤ 0 then .error .illegalArgument
  else if restarts.inFlight = false then .ok (.staleCallback, restarts)
  else if completedEpoch < restarts.activeEpoch then .ok (.staleCallback, restarts)
  else if restarts.activeEpoch < completedEpoch then .ok (.invalidFutureCallback, restarts)
  else if restarts.activeEpoch < restarts.latestEpoch then
    .ok (.startNext restarts.latestEpoch,
      { restarts with
        activeEpoch := restarts.latestEpoch
        ordered := fun flying =>
          ⟨(restarts.ordered flying).1.trans_le (restarts.ordered flying).2, le_refl _⟩ })
  else .ok (.settled, clear)

def abort (restarts : DecoderRestartCoordinator) (failedEpoch : Int) :
    Except Throwable (Bool × DecoderRestartCoordinator) :=
  if failedEpoch ≤ 0 then .error .illegalArgument
  else if restarts.inFlight = false ∨ failedEpoch ≠ restarts.activeEpoch then .ok (false, restarts)
  else .ok (true, clear)

/-- `activeEpoch`, present while a restart is in flight. -/
def activeEpoch? (restarts : DecoderRestartCoordinator) : Option Int :=
  if restarts.inFlight then some restarts.activeEpoch else none

section

variable {restarts restarts' : DecoderRestartCoordinator} {epoch : Int}

theorem request_startNow (req : restarts.request epoch = .ok (.startNow, restarts')) :
    restarts.inFlight = false ∧ 0 < epoch ∧ restarts'.inFlight = true ∧
      restarts'.activeEpoch = epoch := by
  unfold DecoderRestartCoordinator.request at req
  split_ifs at req with pos idle
  · obtain ⟨-, rfl⟩ := Prod.mk.inj (Except.ok.inj req)
    exact ⟨idle, pos, rfl, rfl⟩
  · cases req
  · cases req
  · cases req

theorem request_waits {decision : RequestDecision}
    (req : restarts.request epoch = .ok (decision, restarts')) (waits : decision ≠ .startNow) :
    restarts'.inFlight = restarts.inFlight ∧ restarts'.activeEpoch = restarts.activeEpoch := by
  unfold DecoderRestartCoordinator.request at req
  split_ifs at req
  · obtain ⟨rfl, -⟩ := Prod.mk.inj (Except.ok.inj req)
    exact absurd rfl waits
  · obtain ⟨-, rfl⟩ := Prod.mk.inj (Except.ok.inj req)
    exact ⟨rfl, rfl⟩
  · obtain ⟨-, rfl⟩ := Prod.mk.inj (Except.ok.inj req)
    exact ⟨rfl, rfl⟩
  · obtain ⟨-, rfl⟩ := Prod.mk.inj (Except.ok.inj req)
    exact ⟨rfl, rfl⟩

theorem complete_ignored {completion : Completion}
    (whole : restarts.complete epoch = .ok (completion, restarts'))
    (ignored : completion = .staleCallback ∨ completion = .invalidFutureCallback) :
    restarts' = restarts ∧
      (completion = .invalidFutureCallback → restarts.activeEpoch < epoch) := by
  unfold DecoderRestartCoordinator.complete at whole
  split_ifs at whole with _ _ _ later
  · obtain ⟨rfl, rfl⟩ := Prod.mk.inj (Except.ok.inj whole)
    exact ⟨rfl, by simp⟩
  · obtain ⟨rfl, rfl⟩ := Prod.mk.inj (Except.ok.inj whole)
    exact ⟨rfl, by simp⟩
  · obtain ⟨rfl, rfl⟩ := Prod.mk.inj (Except.ok.inj whole)
    exact ⟨rfl, fun _ => later⟩
  · obtain ⟨rfl, -⟩ := Prod.mk.inj (Except.ok.inj whole)
    simp at ignored
  · obtain ⟨rfl, -⟩ := Prod.mk.inj (Except.ok.inj whole)
    simp at ignored

theorem complete_startNext {next : Int}
    (whole : restarts.complete epoch = .ok (.startNext next, restarts')) :
    restarts.inFlight = true ∧ epoch = restarts.activeEpoch ∧ epoch < next ∧
      restarts'.inFlight = true ∧ restarts'.activeEpoch = next := by
  unfold DecoderRestartCoordinator.complete at whole
  split_ifs at whole with negative idle stale future later
  · cases whole
  · cases whole
  · cases whole
  · obtain ⟨isNext, rfl⟩ := Prod.mk.inj (Except.ok.inj whole)
    obtain rfl := Completion.startNext.inj isNext
    have flying : restarts.inFlight = true := by simpa using idle
    have hact : epoch = restarts.activeEpoch := by omega
    exact ⟨flying, hact, hact ▸ later, flying, rfl⟩
  · cases whole

theorem complete_settled (whole : restarts.complete epoch = .ok (.settled, restarts')) :
    restarts.inFlight = true ∧ epoch = restarts.activeEpoch ∧ restarts' = clear := by
  unfold DecoderRestartCoordinator.complete at whole
  split_ifs at whole with negative idle stale future later
  · cases whole
  · cases whole
  · cases whole
  · cases whole
  · obtain ⟨-, rfl⟩ := Prod.mk.inj (Except.ok.inj whole)
    exact ⟨by simpa using idle, by omega, rfl⟩

theorem abort_active_only (abort : restarts.abort epoch = .ok (true, restarts')) :
    restarts.inFlight = true ∧ epoch = restarts.activeEpoch ∧ restarts' = clear := by
  unfold DecoderRestartCoordinator.abort at abort
  split_ifs at abort with negative ignored
  · cases abort
  · obtain ⟨-, rfl⟩ := Prod.mk.inj (Except.ok.inj abort)
    rw [not_or, Bool.not_eq_false, not_not] at ignored
    exact ⟨ignored.1, ignored.2, rfl⟩

theorem abort_ignored (abort : restarts.abort epoch = .ok (false, restarts')) :
    restarts' = restarts := by
  unfold DecoderRestartCoordinator.abort at abort
  split_ifs at abort
  · obtain ⟨-, rfl⟩ := Prod.mk.inj (Except.ok.inj abort)
    rfl
  · cases abort

end

theorem abort_active (restarts : DecoderRestartCoordinator) (flying : restarts.inFlight = true) :
    restarts.abort restarts.activeEpoch = .ok (true, clear) := by
  have pos := (restarts.ordered flying).1
  simp [abort, flying, not_le.mpr pos]

end DecoderRestartCoordinator

end VisionForge.MobileRuntime
