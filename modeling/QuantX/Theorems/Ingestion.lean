import QuantX.Lib.Run
import QuantX.MarketData.Ingestion

/-! # Ingestion keeps its evidence and its budget

A transition is one of a few moves. Phases go forward one at a time, evidence stays, and a stage is begun at most four times
with its delays between. -/

namespace QuantX
open Lib IngestionProgress

variable {strOf : PyVal → String} {state next : IngestionProgress} {values : IngestionValues} {now : Int} {action : String}

theorem IngestionPhase.index_injective : Function.Injective IngestionPhase.index := by
  intro phase phase' h
  cases phase <;> cases phase' <;> first | rfl | cases h

/-! ## Moves -/

inductive IngestionMove (state : IngestionProgress) (values : IngestionValues) (now : Int) : String → IngestionProgress → Prop
  | idle (action : String) (hother : action ≠ "begin" ∧ action ≠ "defer") : IngestionMove state values now action state
  | spent (hdue : ∀ retry, state.nextRetryAt = some retry → retry ≤ now) (hfree : state.blocked = false) (reasonCode : PyVal) :
      IngestionMove state values now "begin" { state with blocked := true, reasonCode, nextRetryAt := none }
  | began (hdue : ∀ retry, state.nextRetryAt = some retry → retry ≤ now) (hfree : state.blocked = false) (hless : state.executions < maxExecutions) :
      IngestionMove state values now "begin" { state with executions := state.executions + 1, nextRetryAt := none }
  | frozen (hnone : state.manifestHash = .none) (digest : PyVal) :
      IngestionMove state values now "manifest" { state with manifestHash := digest, lastProgressAt := some now }
  | advanced (phase : IngestionPhase) (hnext : phase.index = state.phase.index + 1) (hfrozen : state.manifestHash.truthy = true)
      (writeResult : PyVal) :
      IngestionMove state values now "advance" { state with
        writeResult, phase, executions := 1, stageStartedAt := now, nextRetryAt := none, reasonCode := .none
        lastProgressAt := some now }
  | recorded (action : String) (hother : action ≠ "begin" ∧ action ≠ "defer") (key : String) (hnew : state.checkpoints.get? key = none)
      (checkpoint : IngestionCheckpoint) :
      IngestionMove state values now action { state with checkpoints := state.checkpoints.set key checkpoint, lastProgressAt := some now }
  | blocked (reasonCode diagnostic : PyVal) (failures : List IngestionFailure) :
      IngestionMove state values now "defer" { state with
        reasonCode, diagnostic, failures, blocked := true, nextRetryAt := none }
  | deferred (hwants : wantsBlock values = false) (hleft : state.exhausted now = false) (delay : Int)
      (hdelay : retryDelays[state.executions - 1]? = some delay) (reasonCode diagnostic : PyVal) (failures : List IngestionFailure) :
      IngestionMove state values now "defer" { state with
        reasonCode, diagnostic, failures, blocked := false, nextRetryAt := some (now + delay) }
  | resumed (hreason : (PyVal.get values "reason").truthy = true) (failures : List IngestionFailure) :
      IngestionMove state values now "resume" { state with
        failures, attempt := state.attempt + 1, executions := 0, blocked := false, reasonCode := .none, nextRetryAt := none
        stageStartedAt := now }

theorem exhausted_false (h : state.exhausted now = false) : state.executions < maxExecutions := by
  simp only [exhausted, Bool.or_eq_false_iff, decide_eq_false_iff_not, not_le] at h
  exact h.1

theorem beginStage_move (h : state.beginStage now = .ok next) : IngestionMove state values now "begin" next := by
  obtain ⟨hdue, h⟩ := require_bind.mp h
  obtain ⟨hfree, h⟩ := require_bind.mp h
  have hdue' : ∀ retry, state.nextRetryAt = some retry → retry ≤ now := by
    intro retry hretry
    simpa [hretry] using hdue
  have hfree' : state.blocked = false := by simpa using hfree
  split at h
  · obtain rfl := Except.ok.inj h
    exact .spent hdue' hfree' _
  · rename_i hleft
    obtain rfl := Except.ok.inj h
    exact .began hdue' hfree' (exhausted_false (by simpa using hleft))

theorem freezeManifest_move (h : state.freezeManifest values now = .ok next) : IngestionMove state values now "manifest" next := by
  obtain ⟨digest, -, h⟩ := bind_eq_ok.mp h
  obtain ⟨-, h⟩ := require_bind.mp h
  split at h
  · rename_i hnone
    obtain rfl := Except.ok.inj h
    exact .frozen hnone digest
  · obtain rfl := Except.ok.inj h
    exact .idle _ (by decide)

theorem advancePhase_move (h : state.advancePhase values now = .ok next) : IngestionMove state values now "advance" next := by
  obtain ⟨value, -, h⟩ := bind_eq_ok.mp h
  split at h
  · obtain rfl := Except.ok.inj h
    exact .idle _ (by decide)
  · obtain ⟨phase, -, h⟩ := bind_eq_ok.mp h
    obtain ⟨hnext, h⟩ := require_bind.mp h
    obtain ⟨hfrozen, h⟩ := require_bind.mp h
    obtain ⟨writeResult, -, h⟩ := bind_eq_ok.mp h
    obtain rfl := Except.ok.inj h
    exact .advanced phase hnext hfrozen writeResult

theorem checkBlock_move {record : Bool} (hother : action ≠ "begin" ∧ action ≠ "defer") (h : state.checkBlock strOf values now record = .ok next) :
    IngestionMove state values now action next := by
  obtain ⟨-, h⟩ := require_bind.mp h
  obtain ⟨block, -, h⟩ := bind_eq_ok.mp h
  obtain ⟨sha256, -, h⟩ := bind_eq_ok.mp h
  obtain ⟨rows, -, h⟩ := bind_eq_ok.mp h
  split at h
  · obtain ⟨-, h⟩ := require_bind.mp h
    obtain rfl := Except.ok.inj h
    exact .idle _ hother
  · cases h
  · rename_i hnew
    split at h
    · obtain rfl := Except.ok.inj h
      exact .recorded _ hother _ hnew _
    · obtain rfl := Except.ok.inj h
      exact .idle _ hother

theorem checkReadback_move {record : Bool} (hother : action ≠ "begin" ∧ action ≠ "defer") (h : state.checkReadback values now record = .ok next) :
    IngestionMove state values now action next := by
  obtain ⟨-, h⟩ := require_bind.mp h
  obtain ⟨sha256, -, h⟩ := bind_eq_ok.mp h
  split at h
  · split at h
    · obtain rfl := Except.ok.inj h
      exact .idle _ hother
    · obtain ⟨result, -, h⟩ := bind_eq_ok.mp h
      split at h
      · obtain ⟨-, h⟩ := require_bind.mp h
        obtain rfl := Except.ok.inj h
        exact .idle _ hother
      · cases h
      · rename_i hnew
        obtain rfl := Except.ok.inj h
        exact .recorded _ hother _ hnew _
  · cases h

theorem deferStage_move (h : state.deferStage values now = .ok next) : IngestionMove state values now "defer" next := by
  obtain ⟨reasonCode, -, h⟩ := bind_eq_ok.mp h
  obtain ⟨retry, hretry, h⟩ := bind_eq_ok.mp h
  obtain rfl := Except.ok.inj h
  unfold deferRetry at hretry
  split at hretry
  · rename_i hblocks
    obtain rfl := Except.ok.inj hretry
    rw [hblocks]
    exact .blocked _ _ _
  · rename_i hfree
    rw [Bool.not_eq_true] at hfree
    obtain ⟨hwants, hleft⟩ := Bool.or_eq_false_iff.mp hfree
    split at hretry
    · rename_i delay hdelay
      obtain rfl := Except.ok.inj hretry
      rw [hfree]
      exact .deferred hwants hleft delay hdelay _ _ _
    · cases hretry

theorem resumeStage_move (h : state.resumeStage values now = .ok next) : IngestionMove state values now "resume" next := by
  obtain ⟨hreason, h⟩ := require_bind.mp h
  obtain rfl := Except.ok.inj h
  exact .resumed hreason _

theorem act_move (h : state.act strOf values now action = .ok next) : IngestionMove state values now action next := by
  obtain ⟨-, h⟩ := require_bind.mp h
  split at h
  · exact beginStage_move h
  · exact freezeManifest_move h
  · exact advancePhase_move h
  · exact checkBlock_move (by decide) h
  · exact checkBlock_move (by decide) h
  · exact checkReadback_move (by decide) h
  · exact checkReadback_move (by decide) h
  · exact deferStage_move h
  · exact resumeStage_move h
  · cases h

theorem IngestionMove.of_defer (h : IngestionMove state values now action next) (haction : action = "defer") :
    next.blocked = true ∧ next.nextRetryAt = none ∨
      state.deferBlocks values now = false ∧ next.blocked = false ∧
        ∃ delay, retryDelays[next.executions - 1]? = some delay ∧ next.nextRetryAt = some (now + delay) := by
  cases h with
  | idle _ hother => exact absurd haction hother.2
  | recorded _ hother => exact absurd haction hother.2
  | blocked => exact .inl ⟨rfl, rfl⟩
  | deferred hwants hleft delay hdelay =>
    exact .inr ⟨Bool.or_eq_false_iff.mpr ⟨hwants, hleft⟩, rfl, delay, hdelay, rfl⟩
  | spent | began | frozen | advanced | resumed => exact absurd haction (by decide)

theorem IngestionMove.of_begin (h : IngestionMove state values now action next) (haction : action = "begin") :
    state.blocked = false ∧ (∀ retry, state.nextRetryAt = some retry → retry ≤ now) ∧
      next.phase = state.phase ∧ next.attempt = state.attempt := by
  cases h with
  | idle _ hother => exact absurd haction hother.1
  | recorded _ hother => exact absurd haction hother.1
  | spent hdue hfree => exact ⟨hfree, hdue, rfl, rfl⟩
  | began hdue hfree => exact ⟨hfree, hdue, rfl, rfl⟩
  | frozen | advanced | blocked | deferred | resumed => exact absurd haction (by decide)

theorem IngestionMove.freed (h : IngestionMove state values now action next) (hblocked : state.blocked = true) (hfree : next.blocked = false) :
    (action = "resume" ∧ (PyVal.get values "reason").truthy = true) ∨ (action = "defer" ∧ state.deferBlocks values now = false) := by
  cases h with
  | idle | began | frozen | advanced | recorded => exact absurd hfree (by simp [hblocked])
  | spent | blocked => cases hfree
  | deferred hwants hleft => exact .inr ⟨rfl, Bool.or_eq_false_iff.mpr ⟨hwants, hleft⟩⟩
  | resumed hreason => exact .inl ⟨rfl, hreason⟩

theorem IngestionMove.phase (h : IngestionMove state values now action next) : next.phase = state.phase ∨
    next.phase.index = state.phase.index + 1 ∧ state.manifestHash.truthy = true := by
  cases h with
  | advanced phase hnext hfrozen => exact .inr ⟨hnext, hfrozen⟩
  | idle | spent | began | frozen | recorded | blocked | deferred | resumed => exact .inl rfl

structure IngestionLater (state next : IngestionProgress) : Prop where
  phase : state.phase.index ≤ next.phase.index
  attempt : state.attempt ≤ next.attempt
  manifest : state.manifestHash ≠ .none → next.manifestHash = state.manifestHash
  checkpoints : ∀ key checkpoint, state.checkpoints.get? key = some checkpoint → next.checkpoints.get? key = some checkpoint

theorem IngestionLater.refl (state : IngestionProgress) : IngestionLater state state :=
  ⟨le_refl _, le_refl _, fun _ => rfl, fun _ _ h => h⟩

theorem IngestionLater.trans {first second third : IngestionProgress} (h : IngestionLater first second) (h' : IngestionLater second third) :
    IngestionLater first third where
  phase := h.phase.trans h'.phase
  attempt := h.attempt.trans h'.attempt
  manifest := by
    intro hset
    have hsecond := h.manifest hset
    rw [← hsecond] at hset
    rw [h'.manifest hset, hsecond]
  checkpoints := fun key checkpoint hget => h'.checkpoints key checkpoint (h.checkpoints key checkpoint hget)

theorem IngestionMove.later (h : IngestionMove state values now action next) : IngestionLater state next := by
  cases h with
  | idle => exact .refl state
  | spent => exact ⟨le_refl _, le_refl _, fun _ => rfl, fun _ _ h => h⟩
  | began => exact ⟨le_refl _, le_refl _, fun _ => rfl, fun _ _ h => h⟩
  | frozen hnone => exact ⟨le_refl _, le_refl _, fun hset => absurd hnone hset, fun _ _ h => h⟩
  | advanced phase hnext => exact ⟨by simp [hnext], le_refl _, fun _ => rfl, fun _ _ h => h⟩
  | recorded _ hother key hnew checkpoint =>
    refine ⟨le_refl _, le_refl _, fun _ => rfl, fun key' checkpoint' hget => ?_⟩
    have hkey : key ≠ key' := by
      rintro rfl
      rw [hnew] at hget
      cases hget
    exact (Dict.get?_set_ne _ _ hkey).trans hget
  | blocked => exact ⟨le_refl _, le_refl _, fun _ => rfl, fun _ _ h => h⟩
  | deferred => exact ⟨le_refl _, le_refl _, fun _ => rfl, fun _ _ h => h⟩
  | resumed => exact ⟨le_refl _, by simp, fun _ => rfl, fun _ _ h => h⟩

structure IngestionProgress.Sound (state : IngestionProgress) : Prop where
  version : state.version = 1
  budget : state.executions ≤ maxExecutions
  waiting : state.blocked = true → state.nextRetryAt = none
  frozen : state.phase ≠ .validate → state.manifestHash.truthy = true

theorem IngestionProgress.Sound.fresh (now : Int) : IngestionProgress.Sound { stageStartedAt := now } where
  version := rfl
  budget := Nat.zero_le _
  waiting := fun h => by cases h
  frozen := fun h => absurd rfl h

theorem IngestionMove.sound (h : IngestionMove state values now action next) (hstate : state.Sound) : next.Sound := by
  have hfrozen : ∀ digest, state.manifestHash = .none → state.phase ≠ .validate → PyVal.truthy digest = true := by
    intro digest hnone hphase
    have htruthy := hstate.frozen hphase
    rw [hnone] at htruthy
    cases htruthy
  cases h with
  | idle => exact hstate
  | spent => exact ⟨hstate.version, hstate.budget, fun _ => rfl, hstate.frozen⟩
  | began hdue hfree hless => exact ⟨hstate.version, hless, fun _ => rfl, hstate.frozen⟩
  | frozen hnone digest => exact ⟨hstate.version, hstate.budget, hstate.waiting, hfrozen digest hnone⟩
  | advanced phase hnext htruthy => exact ⟨hstate.version, by simp [maxExecutions], fun _ => rfl, fun _ => htruthy⟩
  | recorded => exact ⟨hstate.version, hstate.budget, hstate.waiting, hstate.frozen⟩
  | blocked => exact ⟨hstate.version, hstate.budget, fun _ => rfl, hstate.frozen⟩
  | deferred => exact ⟨hstate.version, hstate.budget, fun h => (by cases h), hstate.frozen⟩
  | resumed => exact ⟨hstate.version, Nat.zero_le _, fun _ => rfl, hstate.frozen⟩

theorem IngestionProgress.Sound.defers (hstate : state.Sound) (hreason : (Dict.lookup "reason_code" values).isSome) :
    ∃ next, state.act strOf values now "defer" = .ok next := by
  obtain ⟨reasonCode, hreason⟩ := Option.isSome_iff_exists.mp hreason
  have hfield : values.field "reason_code" = .ok reasonCode := by simp [IngestionValues.field, hreason]
  have hversion : require (state.version = 1) "unsupported ingestion progress version" = .ok () := require_eq_ok.mpr hstate.version
  have hretry : ∃ retry, state.deferRetry values now = .ok retry := by
    cases hblocks : state.deferBlocks values now with
    | true => exact ⟨none, by simp [deferRetry, hblocks]⟩
    | false =>
      have hless := exhausted_false (Bool.or_eq_false_iff.mp hblocks).2
      have hdelay : state.executions - 1 < retryDelays.length := by
        simp only [maxExecutions] at hless
        simp only [retryDelays, List.length_cons, List.length_nil]
        omega
      exact ⟨some (now + retryDelays[state.executions - 1]), by simp [deferRetry, hblocks, List.getElem?_eq_getElem hdelay]⟩
  obtain ⟨retry, hretry⟩ := hretry
  exact ⟨_, check_bind.mpr ⟨hversion, bind_eq_ok.mpr ⟨reasonCode, hfield, bind_eq_ok.mpr ⟨retry, hretry, rfl⟩⟩⟩⟩

/-- A deferral at `time` keeps its stage from being begun before its delay is over. -/
def Waits (deferred state : IngestionProgress) (time delay last : Int) : Prop :=
  state.phase.index = deferred.phase.index → state.attempt = deferred.attempt →
    deferred.executions ≤ state.executions ∧
      (state.blocked = true ∨ (∃ retry, state.nextRetryAt = some retry ∧ time + delay ≤ retry) ∨ time + delay ≤ last)

theorem retryDelays_mono {n n' : Nat} {delay delay' : Int} (h : n ≤ n') (hdelay : retryDelays[n]? = some delay)
    (hdelay' : retryDelays[n']? = some delay') : delay ≤ delay' := by
  obtain ⟨hn, rfl⟩ := List.getElem?_eq_some_iff.mp hdelay
  obtain ⟨hn', rfl⟩ := List.getElem?_eq_some_iff.mp hdelay'
  have hsorted : retryDelays.Pairwise (· ≤ ·) := by decide
  rcases Nat.eq_or_lt_of_le h with rfl | hlt
  · exact le_refl _
  · exact List.pairwise_iff_getElem.mp hsorted n n' hn hn' hlt

theorem IngestionMove.waits {deferred : IngestionProgress} {time delay last : Int} (h : IngestionMove state values now action next)
    (hdelay : retryDelays[deferred.executions - 1]? = some delay) (hlater : IngestionLater deferred state) (hlast : last ≤ now) (htime : time ≤ last)
    (hwaits : Waits deferred state time delay last) : Waits deferred next time delay now := by
  cases h with
  | idle =>
    intro hphase hattempt
    obtain ⟨hless, hwait⟩ := hwaits hphase hattempt
    exact ⟨hless, hwait.imp_right (Or.imp_right fun h => h.trans hlast)⟩
  | spent =>
    intro hphase hattempt
    exact ⟨(hwaits hphase hattempt).1, .inl rfl⟩
  | began hdue hfree =>
    intro hphase hattempt
    obtain ⟨hless, hwait⟩ := hwaits hphase hattempt
    refine ⟨hless.trans (Nat.le_succ _), .inr (.inr ?_)⟩
    rcases hwait with hblocked | ⟨retry, hretry, hle⟩ | hle
    · rw [hfree] at hblocked
      cases hblocked
    · exact hle.trans (hdue retry hretry)
    · exact hle.trans hlast
  | frozen =>
    intro hphase hattempt
    obtain ⟨hless, hwait⟩ := hwaits hphase hattempt
    exact ⟨hless, hwait.imp_right (Or.imp_right fun h => h.trans hlast)⟩
  | advanced phase hnext =>
    intro hphase
    have := hlater.phase
    simp only at hphase
    omega
  | recorded =>
    intro hphase hattempt
    obtain ⟨hless, hwait⟩ := hwaits hphase hattempt
    exact ⟨hless, hwait.imp_right (Or.imp_right fun h => h.trans hlast)⟩
  | blocked =>
    intro hphase hattempt
    exact ⟨(hwaits hphase hattempt).1, .inl rfl⟩
  | deferred hwants hleft delay' hdelay' =>
    intro hphase hattempt
    obtain ⟨hless, -⟩ := hwaits hphase hattempt
    have hmono : delay ≤ delay' := retryDelays_mono (Nat.sub_le_sub_right hless 1) hdelay hdelay'
    exact ⟨hless, .inr (.inl ⟨_, rfl, by omega⟩)⟩
  | resumed =>
    intro hphase hattempt
    have := hlater.attempt
    simp only at hattempt
    omega

/-! ## Runs -/

def inForce (previous : Option IngestionProgress) (now : Int) : IngestionProgress := previous.getD { stageStartedAt := now }

def CarefulDeferral (previous : Option IngestionProgress) (call : IngestionCall) : Prop :=
  call.action = "defer" → (Dict.lookup "reason_code" call.values).isSome ∧
    ∀ state, previous = some state → state.blocked = true → state.deferBlocks call.values call.now = true

abbrev IngestionMoment := Moment (Option IngestionProgress) IngestionCall

def CarefulCall (log : List IngestionMoment) (previous : Option IngestionProgress) (call : IngestionCall) : Prop :=
  (∀ m ∈ log, m.op.now ≤ call.now) ∧ CarefulDeferral previous call

abbrev Ingested (strOf : PyVal → String) : List IngestionMoment → Option IngestionProgress → Prop :=
  Run (· = none) (ingest strOf) CarefulCall

variable (strOf) in
def StageAccepted (m : IngestionMoment) (next : IngestionProgress) : Prop :=
  transition strOf m.before m.op.action m.op.values m.op.now = .ok next

variable (strOf) in
/-- A stage was deferred by `delay`. -/
def DeferredBy (m : IngestionMoment) (next : IngestionProgress) (delay : Int) : Prop :=
  m.op.action = "defer" ∧ StageAccepted strOf m next ∧ next.nextRetryAt = some (m.op.now + delay)

variable (strOf) in
def StageBegun (m : IngestionMoment) (next : IngestionProgress) : Prop := m.op.action = "begin" ∧ StageAccepted strOf m next

structure IngestionKept (strOf : PyVal → String) (log : List IngestionMoment) (current : Option IngestionProgress) : Prop where
  phases : ∀ m ∈ log, ∀ next, StageAccepted strOf m next → next.phase = (inForce m.before m.op.now).phase ∨
    next.phase.index = (inForce m.before m.op.now).phase.index + 1 ∧ (inForce m.before m.op.now).manifestHash.truthy = true
  frozen : ∀ state, current = some state → state.phase ≠ .validate → state.manifestHash.truthy = true
  evidence : ∀ m ∈ log, ∀ state, m.after = some state → ∃ state', current = some state' ∧ IngestionLater state state'
  budget : ∀ state, current = some state → state.executions ≤ maxExecutions
  defers : ∀ m ∈ log, m.op.action = "defer" → ∃ next, StageAccepted strOf m next
  blocked : ∀ state, current = some state → state.blocked = true → state.nextRetryAt = none ∧
    ∀ values now, transition strOf current "begin" values now = .error "ingestion requires explicit recovery"
  recovered : ∀ m ∈ log, ∀ state next, m.before = some state → state.blocked = true → m.after = some next → next.blocked = false →
    m.op.action = "resume" ∧ (PyVal.get m.op.values "reason").truthy = true
  delays : ∀ m ∈ log, m.op.action = "defer" → ∀ next, StageAccepted strOf m next → next.blocked = false →
    ∃ delay, retryDelays[next.executions - 1]? = some delay ∧ next.nextRetryAt = some (m.op.now + delay)
  separated : ∀ first second third, [third, second, first].Sublist log → ∀ begun deferred begun' delay,
    StageBegun strOf first begun → DeferredBy strOf second deferred delay → StageBegun strOf third begun' →
      begun'.phase = begun.phase → begun'.attempt = begun.attempt → first.op.now + delay ≤ third.op.now

variable {log : List IngestionMoment} {current : Option IngestionProgress} {call : IngestionCall} {m : IngestionMoment}

theorem StageAccepted.move (h : StageAccepted strOf m next) : IngestionMove (inForce m.before m.op.now) m.op.values m.op.now m.op.action next :=
  act_move h

theorem StageAccepted.after (h : StageAccepted strOf m next) (hm : m.after = ingest strOf m.before m.op) : m.after = some next := by
  rw [hm, ingest, h]

theorem ingest_cases (strOf : PyVal → String) (current : Option IngestionProgress) (call : IngestionCall) :
    (∃ next, transition strOf current call.action call.values call.now = .ok next ∧ ingest strOf current call = some next) ∨
      ingest strOf current call = current := by
  unfold ingest
  cases h : transition strOf current call.action call.values call.now with
  | ok next => exact .inl ⟨next, rfl, rfl⟩
  | error => exact .inr rfl

theorem ingest_later (h : current = some state) : ∃ next, ingest strOf current call = some next ∧ IngestionLater state next := by
  subst h
  rcases ingest_cases strOf (some state) call with ⟨next, haccept, hnext⟩ | hkept
  · exact ⟨next, hnext, (act_move haccept).later⟩
  · exact ⟨state, hkept, .refl state⟩

namespace Ingested

theorem sound (h : Ingested strOf log current) : ∀ state, current = some state → state.Sound := by
  induction h with
  | start h =>
    intro state hstate
    rw [h] at hstate
    cases hstate
  | @step log current h call hlegal ih =>
    intro state hstate
    rcases ingest_cases strOf current call with ⟨next, haccept, hnext⟩ | hkept
    · obtain rfl := Option.some.inj (hnext.symm.trans hstate)
      refine (act_move haccept).sound ?_
      cases current with
      | none => exact .fresh call.now
      | some state => exact ih state rfl
    · exact ih state (hkept.symm.trans hstate)

theorem recorded (h : Ingested strOf log current) : ∀ m ∈ log, m.after = ingest strOf m.before m.op ∧ CarefulDeferral m.before m.op ∧
    ∀ state, m.before = some state → state.Sound :=
  h.moments fun _ _ _ hrun hlegal => ⟨rfl, hlegal.2, sound hrun⟩

def GoesOn (previous current : Option IngestionProgress) : Prop :=
  ∀ state, previous = some state → ∃ state', current = some state' ∧ IngestionLater state state'

theorem later (h : Ingested strOf log current) : ∀ m ∈ log, GoesOn m.after current := by
  refine h.since (fun _ state hstate => ⟨state, hstate, .refl state⟩) ?_ fun _ _ _ _ _ _ => ingest_later
  intro _ _ _ hfirst hsecond state hstate
  obtain ⟨middle, hmiddle, hbefore⟩ := hfirst state hstate
  obtain ⟨last, hlast, hafter⟩ := hsecond middle hmiddle
  exact ⟨last, hlast, hbefore.trans hafter⟩

theorem ordered (h : Ingested strOf log current) : log.Pairwise fun m' m => m.op.now ≤ m'.op.now ∧ GoesOn m.after m'.after :=
  h.pairwise fun _ _ call hrun hlegal m hm => ⟨hlegal.1 m hm, later (hrun.step call hlegal) m (List.mem_cons_of_mem _ hm)⟩

theorem waits {deferred : IngestionProgress} {delay : Int} (h : Ingested strOf log current) : ∀ m ∈ log, DeferredBy strOf m deferred delay →
    retryDelays[deferred.executions - 1]? = some delay ∧
      ∀ last, (∀ m' ∈ log, m'.op.now ≤ last) → ∀ state, current = some state → Waits deferred state m.op.now delay last := by
  induction h with
  | start => simp
  | @step log current h call hlegal ih =>
    rintro m (_ | ⟨_, hm⟩) ⟨haction, haccept, hretry⟩
    · have hmove := StageAccepted.move haccept
      have hafter : ingest strOf current call = some deferred := StageAccepted.after haccept rfl
      rcases hmove.of_defer haction with ⟨-, hnone⟩ | ⟨-, -, delay', hdelay, hretry'⟩
      · rw [hretry] at hnone
        cases hnone
      · have hsame := Option.some.inj (hretry.symm.trans hretry')
        obtain rfl : delay = delay' := by omega
        refine ⟨hdelay, fun last _ state hstate _ _ => ?_⟩
        obtain rfl := Option.some.inj (hafter.symm.trans hstate)
        exact ⟨le_refl _, .inr (.inl ⟨_, hretry, le_refl _⟩)⟩
    · obtain ⟨hdelay, hwaits⟩ := ih m hm ⟨haction, haccept, hretry⟩
      refine ⟨hdelay, fun last hlast state hstate => ?_⟩
      obtain ⟨state', hcurrent, hlater⟩ := later h m hm deferred (haccept.after (recorded h m hm).1)
      have hnow : call.now ≤ last := hlast _ List.mem_cons_self
      have hwait := hwaits call.now hlegal.1 state' hcurrent
      have hstep : Waits deferred state m.op.now delay call.now := by
        rcases ingest_cases strOf current call with ⟨next, hnext, hset⟩ | hkept
        · obtain rfl := Option.some.inj (hset.symm.trans hstate)
          have hmove := act_move hnext
          rw [hcurrent] at hmove
          exact hmove.waits hdelay hlater (le_refl _) (hlegal.1 m hm) hwait
        · obtain rfl := Option.some.inj (hcurrent.symm.trans (hkept.symm.trans hstate))
          exact hwait
      intro hphase hattempt
      obtain ⟨hless, hdone⟩ := hstep hphase hattempt
      exact ⟨hless, hdone.imp_right (Or.imp_right fun h => h.trans hnow)⟩

theorem due (h : Ingested strOf log current) : log.Pairwise fun m' m => ∀ deferred begun delay, DeferredBy strOf m deferred delay →
    StageBegun strOf m' begun → begun.phase = deferred.phase → begun.attempt = deferred.attempt → m.op.now + delay ≤ m'.op.now := by
  refine Run.pairwise h fun log current call hrun hlegal m hm deferred begun delay hdefer hbegin hphase hattempt => ?_
  obtain ⟨state, hcurrent, -⟩ := later hrun m hm deferred (hdefer.2.1.after (recorded hrun m hm).1)
  have hmove := hbegin.2.move
  simp only [inForce, hcurrent, Option.getD_some] at hmove
  obtain ⟨hfree, hdue, hphase', hattempt'⟩ := hmove.of_begin hbegin.1
  have hindex : state.phase.index = deferred.phase.index := by rw [← hphase', hphase]
  obtain ⟨-, hblocked | ⟨retry, hretry, hle⟩ | hle⟩ :=
    (waits hrun m hm hdefer).2 call.now hlegal.1 state hcurrent hindex (hattempt'.symm.trans hattempt)
  · rw [hfree] at hblocked
    cases hblocked
  · exact hle.trans (hdue retry hretry)
  · exact hle

theorem separated (h : Ingested strOf log current) {first second third : IngestionMoment} (hsub : [third, second, first].Sublist log)
    {begun deferred begun' : IngestionProgress} {delay : Int} (hfirst : StageBegun strOf first begun) (hsecond : DeferredBy strOf second deferred delay)
    (hthird : StageBegun strOf third begun') (hphase : begun'.phase = begun.phase) (hattempt : begun'.attempt = begun.attempt) :
    first.op.now + delay ≤ third.op.now := by
  have hordered := List.Pairwise.sublist hsub h.ordered
  have hdue := List.Pairwise.sublist hsub h.due
  simp only [List.pairwise_cons, List.mem_cons, List.not_mem_nil, or_false, forall_eq_or_imp, forall_eq] at hordered hdue
  obtain ⟨⟨⟨-, hthird_second⟩, -⟩, ⟨hle, hsecond_first⟩, -⟩ := hordered
  have hafter : ∀ m ∈ [third, second, first], m.after = ingest strOf m.before m.op := fun m hm => (recorded h m (hsub.subset hm)).1
  have hafter₁ : first.after = some begun := hfirst.2.after (hafter first (by simp))
  have hafter₂ : second.after = some deferred := hsecond.2.1.after (hafter second (by simp))
  have hafter₃ : third.after = some begun' := hthird.2.after (hafter third (by simp))
  -- the stage between two begins of one stage is that stage
  obtain ⟨_, hmiddle, hlater⟩ := hsecond_first begun hafter₁
  obtain ⟨_, hlast, hlater'⟩ := hthird_second deferred hafter₂
  obtain rfl := Option.some.inj (hafter₂.symm.trans hmiddle)
  obtain rfl := Option.some.inj (hafter₃.symm.trans hlast)
  have hsame : begun'.phase = deferred.phase := by
    refine IngestionPhase.index_injective (le_antisymm ?_ hlater'.phase)
    rw [hphase]
    exact hlater.phase
  have hsame' : begun'.attempt = deferred.attempt := le_antisymm (hattempt.le.trans hlater.attempt) hlater'.attempt
  have := hdue.1.1 deferred begun' delay hsecond hthird hsame hsame'
  omega

end Ingested

theorem act_begin_blocked (hversion : state.version = 1) (hretry : state.nextRetryAt = none) (hblocked : state.blocked = true) :
    state.act strOf values now "begin" = .error "ingestion requires explicit recovery" := by
  simp [act, require, hversion, beginStage, hretry, hblocked, bind, Except.bind]

/-- An ingestion whose deferrals are careful keeps its evidence and its budget. -/
theorem ingestion_kept (h : Ingested strOf log current) : IngestionKept strOf log current where
  phases := fun m hm next haccept => haccept.move.phase
  frozen := fun state hstate => (h.sound state hstate).frozen
  evidence := h.later
  budget := fun state hstate => (h.sound state hstate).budget
  defers := by
    intro m hm haction
    obtain ⟨-, hcareful, hsound⟩ := h.recorded m hm
    have hbefore : (inForce m.before m.op.now).Sound := by
      cases hstate : m.before with
      | none => exact .fresh m.op.now
      | some state => exact hsound state hstate
    obtain ⟨next, hnext⟩ := hbefore.defers (hcareful haction).1
    rw [← haction] at hnext
    exact ⟨next, hnext⟩
  blocked := by
    rintro state rfl hblocked
    have hsound := h.sound state rfl
    have hretry := hsound.waiting hblocked
    exact ⟨hretry, fun values now => act_begin_blocked hsound.version hretry hblocked⟩
  recovered := by
    intro m hm state next hbefore hblocked hafter hfree
    obtain ⟨hrecorded, hcareful, -⟩ := h.recorded m hm
    rcases ingest_cases strOf m.before m.op with ⟨next', haccept, hnext⟩ | hkept
    · obtain rfl := Option.some.inj (hafter.symm.trans (hrecorded.trans hnext))
      have hmove := act_move haccept
      rw [hbefore, Option.getD_some] at hmove
      rcases hmove.freed hblocked hfree with hresume | ⟨haction, hblocks⟩
      · exact hresume
      · rw [(hcareful haction).2 state hbefore hblocked] at hblocks
        cases hblocks
    · obtain rfl := Option.some.inj (hbefore.symm.trans (hkept.symm.trans (hrecorded.symm.trans hafter)))
      rw [hfree] at hblocked
      cases hblocked
  delays := by
    intro m hm haction next haccept hfree
    rcases haccept.move.of_defer haction with ⟨hblocked, -⟩ | ⟨-, -, hdelay⟩
    · rw [hfree] at hblocked
      cases hblocked
    · exact hdelay
  separated := fun first second third hsub begun deferred begun' delay hfirst hsecond hthird =>
    h.separated hsub hfirst hsecond hthird

def delivery : List IngestionCall :=
  [⟨"begin", [], 0⟩, ⟨"defer", [("reason_code", .str "STORAGE_UNAVAILABLE")], 1000000⟩, ⟨"begin", [], 6000000⟩]

theorem ingestion_kept_delivery : IngestionKept (fun value => value.text "") (play (ingest fun value => value.text "") none delivery).1
    (play (ingest fun value => value.text "") none delivery).2 := by
  have hstart : Ingested (fun value => value.text "") [] none := .start rfl
  have hbegin := hstart.step ⟨"begin", [], 0⟩ ⟨by simp, by simp [CarefulDeferral]⟩
  have hdefer := hbegin.step ⟨"defer", [("reason_code", .str "STORAGE_UNAVAILABLE")], 1000000⟩ ⟨by simp, fun _ => ⟨rfl, by decide +kernel⟩⟩
  exact ingestion_kept (hdefer.step ⟨"begin", [], 6000000⟩ ⟨by simp, by simp [CarefulDeferral]⟩)

def manifestChanged : String × PyVal := ("reason_code", .str "MANIFEST_CHANGED")

/-- A second deferral frees what the first one has blocked. -/
theorem deferral_frees_blocked : ¬ ∀ log current,
    Run (· = none) (ingest fun value => value.text "") (fun log _ call => ∀ m ∈ log, m.op.now ≤ call.now) log current →
      ∀ m ∈ log, ∀ state next, m.before = some state → state.blocked = true → m.after = some next → next.blocked = false →
        m.op.action = "resume" ∧ (PyVal.get m.op.values "reason").truthy = true := by
  intro h
  have hstart : Run (· = none) (ingest fun value => value.text "")
    (fun log _ call => ∀ m ∈ log, m.op.now ≤ call.now) [] none := .start rfl
  have hbegin := hstart.step ⟨"begin", [], 0⟩ (by simp)
  have hblock := hbegin.step ⟨"defer", [manifestChanged, ("blocked", .bool true)], 1000000⟩ (by simp)
  have hfree := hblock.step ⟨"defer", [manifestChanged], 2000000⟩ (by simp)
  have hresume := h _ _ hfree _ List.mem_cons_self _ _ rfl (by decide +kernel) rfl (by decide +kernel)
  exact absurd hresume.1 (by decide)

end QuantX
