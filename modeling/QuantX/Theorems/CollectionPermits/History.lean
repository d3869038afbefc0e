import QuantX.Lib.Run
import QuantX.Theorems.CollectionPermits.Sound

namespace QuantX
open Lib CollectionPermitStore

variable {Payload : Type} {planning : CollectionPlanning Payload} {s next : CollectionPermitStore Payload} {call : PermitCall Payload}

inductive PermitState.Moves : PermitState → PermitState → Prop
  | stays (state : PermitState) : Moves state state
  | starts : Moves .issued .started
  | finishes : Moves .started .finished
  | expires : Moves .issued .expired
  | abortsIssued : Moves .issued .aborted
  | abortsStarted : Moves .started .aborted

def CollectionPermitRow.holdsSlot (row : CollectionPermitRow) (now : Int) : Prop :=
  row.state = .started ∨ row.state = .issued ∧ now < row.permit.expiresAt

abbrev PermitMoment (Payload : Type) := Moment (CollectionPermitStore Payload) (PermitCall Payload)

abbrev Permitted (planning : CollectionPlanning Payload) : List (PermitMoment Payload) → CollectionPermitStore Payload → Prop :=
  Run (· = {}) (CollectionPermitStore.call planning) fun _ _ _ => True

/-- A permit is for the next unit of a plan that still stands for its request, under the epoch of the lease. -/
structure IssuedNext (planning : CollectionPlanning Payload) (m : PermitMoment Payload) (permit : CollectionPermit) (request : CollectionRequestRow Payload)
    (units : List Payload) (plan : CollectionPlanRow) : Prop where
  requested : m.before.requests.get? permit.unit.requestId = some request
  cut : planning.units request.payload = .ok units
  unit : ∃ payload, units[permit.unit.unitIndex]? = some payload ∧
    planning.unit permit.unit.requestId permit.unit.unitIndex payload = permit.unit
  registered : m.after.plans.get? permit.unit.requestId = some plan
  next : plan.nextUnitIndex = permit.unit.unitIndex
  unchanged : plan.planVersion = COLLECTION_PLAN_VERSION ∧ plan.payloadSha256 = planning.payloadSha256 request.payload ∧ plan.unitCount = units.length
  epoch : ∃ lease, m.before.lease = some lease ∧ permit.ownerEpoch = lease.epoch

def PlansStay (s s' : CollectionPermitStore Payload) : Prop := ∀ requestId plan, s.plans.get? requestId = some plan →
  ∃ plan', s'.plans.get? requestId = some plan' ∧ plan'.planVersion = plan.planVersion ∧ plan'.payloadSha256 = plan.payloadSha256 ∧
    plan'.unitCount = plan.unitCount ∧ plan.nextUnitIndex ≤ plan'.nextUnitIndex

structure PermitsKept (planning : CollectionPlanning Payload) (log : List (PermitMoment Payload)) (s : CollectionPermitStore Payload) : Prop where
  slot : ∀ id id' row row' now, s.permits.get? id = some row → s.permits.get? id' = some row' → row.holdsSlot now → row'.holdsSlot now → id = id'
  finishedOnce : ∀ id id' row row', s.permits.get? id = some row → s.permits.get? id' = some row' → row.state = .finished →
    row'.state = .finished → row.permit.unit = row'.permit.unit → id = id'
  contiguous : ∀ requestId plan, s.plans.get? requestId = some plan → ∀ k, FinishedUnit s requestId k ↔ k < plan.nextUnitIndex
  planned : ∀ requestId k, FinishedUnit s requestId k → ∃ plan, s.plans.get? requestId = some plan
  moves : ∀ m ∈ log, ∀ id row, m.before.permits.get? id = some row →
    ∃ row', m.after.permits.get? id = some row' ∧ row'.permit = row.permit ∧ row.state.Moves row'.state
  issued : ∀ m ∈ log, ∀ id row, m.before.permits.get? id = none → m.after.permits.get? id = some row →
    row.state = .issued ∧ ∃ request units plan, IssuedNext planning m row.permit request units plan
  plans : ∀ m ∈ log, PlansStay m.after s
  started : ∀ m ∈ log, ∀ id row row', m.before.permits.get? id = some row → row.state = .issued → m.after.permits.get? id = some row' →
    row'.state = .started → ∃ worker deviceId completion abort lease, m.op = .acknowledge worker id deviceId .start completion abort ∧
      row.permit.issuedAt ≤ worker.now ∧ worker.now < row.permit.expiresAt ∧ m.before.lease = some lease ∧ worker.epoch = lease.epoch ∧
        row.permit.ownerEpoch = worker.epoch
  repeated : ∀ m ∈ log, ∀ worker permitId deviceId event completion abort next,
    m.op = .acknowledge worker permitId deviceId event completion abort →
      m.before.acknowledge worker permitId deviceId event completion abort = .ok (next, true) →
        ∀ worker', s.call planning (.acknowledge worker' permitId deviceId event completion abort) = s

namespace PermitMove

theorem set_row {permitId id : String} {row moved : CollectionPermitRow} {state : PermitState} (hrow : s.permits.get? id = some row)
    (hmoved : s.permits.get? permitId = some moved) (hmoves : moved.state.Moves state) :
    ∃ row', (s.setState permitId state).permits.get? id = some row' ∧ row'.permit = row.permit ∧ row.state.Moves row'.state := by
  by_cases hid : permitId = id
  · subst hid
    obtain rfl := Option.some.inj (hrow.symm.trans hmoved)
    exact ⟨_, Sound.get?_setState_self hrow, rfl, hmoves⟩
  · exact ⟨row, (Sound.get?_setState_ne hid).trans hrow, rfl, .stays _⟩

theorem expire_row {id : String} {row : CollectionPermitRow} (now : Int) (hrow : s.permits.get? id = some row) :
    ∃ row', (s.expireIssued now).permits.get? id = some row' ∧ row'.permit = row.permit ∧ row.state.Moves row'.state := by
  refine ⟨expireRow now row, by rw [get?_expireIssued, hrow, Option.map_some], expireRow_permit now row, ?_⟩
  unfold expireRow
  split
  · rename_i hissued
    rw [hissued.1]
    exact .expires
  · exact .stays _

theorem row (h : PermitMove planning s call next) {id : String} {row : CollectionPermitRow} (hrow : s.permits.get? id = some row) :
    ∃ row', next.permits.get? id = some row' ∧ row'.permit = row.permit ∧ row.state.Moves row'.state := by
  cases h with
  | kept _ _ hpermits => exact ⟨row, by rw [hpermits, hrow], rfl, .stays _⟩
  | registered => exact ⟨row, hrow, rfl, .stays _⟩
  | expired _ _ _ _ _ _ now => exact expire_row now hrow
  | granted _ _ _ _ now permit _ _ _ _ _ hfresh =>
    obtain ⟨row', hrow', hrest⟩ := expire_row now hrow
    have hid : permit.permitId ≠ id := by
      rintro rfl
      cases hfresh.symm.trans hrow
    exact ⟨row', (Dict.get?_set_ne _ _ hid).trans hrow', hrest⟩
  | started _ _ _ _ _ moved hmoved hissued => exact set_row hrow hmoved (hissued ▸ .starts)
  | finished _ _ moved hmoved hstarted => exact set_row hrow hmoved (hstarted ▸ .finishes)
  | aborted _ _ moved hmoved hopen =>
    refine set_row hrow hmoved ?_
    rcases hopen with hopen | hopen
    · exact hopen ▸ .abortsIssued
    · exact hopen ▸ .abortsStarted

theorem new_row (h : PermitMove planning s call next) {id : String} {row : CollectionPermitRow} (hnew : s.permits.get? id = none)
    (hrow : next.permits.get? id = some row) :
    row.state = .issued ∧ ∃ request units plan, IssuedNext planning ⟨s, call, next⟩ row.permit request units plan := by
  have hset : ∀ {permitId : String} {state : PermitState}, (s.setState permitId state).permits.get? id ≠ some row := by
    intro permitId state hget
    obtain ⟨old, hold, -⟩ := Sound.get?_setState hget
    cases hnew.symm.trans hold
  have hexpire : ∀ {now : Int}, (s.permits.get? id).map (expireRow now) ≠ some row := by
    rw [hnew]
    simp
  cases h with
  | kept _ _ hpermits =>
    rw [hpermits] at hrow
    cases hnew.symm.trans hrow
  | registered => cases hnew.symm.trans hrow
  | expired =>
    rw [get?_expireIssued] at hrow
    exact absurd hrow hexpire
  | granted _ request units plan now permit hrequest hunits hfits hunit hnext _ _ hepoch =>
    rcases Sound.get?_insertPermit hrow with ⟨rfl, rfl⟩ | ⟨-, hold⟩
    · obtain ⟨payload, hpayload, hsame⟩ := (Option.any_eq_true _ _).mp hunit
      refine ⟨rfl, request, units, plan, hrequest, hunits, ⟨payload, hpayload, of_decide_eq_true hsame⟩, ?_, hnext,
        ⟨hfits.version, hfits.payloadSha256, hfits.unitCount⟩, hepoch⟩
      cases hold : s.plans.get? permit.unit.requestId with
      | none => exact Dict.get?_setdefault_eq_some.mpr (.inr ⟨hold, rfl, rfl⟩)
      | some old => exact Dict.get?_setdefault_eq_some.mpr (.inl (by rw [hold, hfits.kept old hold]))
    · rw [get?_expireIssued] at hold
      exact absurd hold hexpire
  | started => exact absurd hrow hset
  | finished => exact absurd hrow hset
  | aborted => exact absurd hrow hset

theorem plans (h : PermitMove planning s call next) : PlansStay s next := by
  intro requestId plan hplan
  have hdefault : ∀ {key : String} {registered : CollectionPlanRow},
      ∃ plan', (s.plans.setdefault key registered).get? requestId = some plan' ∧ plan'.planVersion = plan.planVersion ∧
        plan'.payloadSha256 = plan.payloadSha256 ∧ plan'.unitCount = plan.unitCount ∧ plan.nextUnitIndex ≤ plan'.nextUnitIndex :=
    ⟨plan, Dict.get?_setdefault_eq_some.mpr (.inl hplan), rfl, rfl, rfl, le_refl _⟩
  cases h with
  | kept _ _ _ hplans => exact ⟨plan, by rw [hplans, hplan], rfl, rfl, rfl, le_refl _⟩
  | registered => exact hdefault
  | expired => exact hdefault
  | granted => exact hdefault
  | started => exact ⟨plan, hplan, rfl, rfl, rfl, le_refl _⟩
  | finished _ _ row _ _ advanced hadvanced =>
    by_cases hid : row.permit.unit.requestId = requestId
    · subst hid
      obtain rfl := Option.some.inj (hplan.symm.trans hadvanced)
      exact ⟨_, Dict.get?_set_self _ _ _, rfl, rfl, rfl, Nat.le_succ _⟩
    · exact ⟨plan, (Dict.get?_set_ne _ _ hid).trans hplan, rfl, rfl, rfl, le_refl _⟩
  | aborted => exact ⟨plan, hplan, rfl, rfl, rfl, le_refl _⟩

theorem start (h : PermitMove planning s call next) (hsound : s.Sound) {id : String} {row row' : CollectionPermitRow}
    (hrow : s.permits.get? id = some row) (hissued : row.state = .issued) (hrow' : next.permits.get? id = some row') (hstarted : row'.state = .started) :
    ∃ worker deviceId completion abort lease, call = .acknowledge worker id deviceId .start completion abort ∧
      row.permit.issuedAt ≤ worker.now ∧ worker.now < row.permit.expiresAt ∧ s.lease = some lease ∧ worker.epoch = lease.epoch ∧
        row.permit.ownerEpoch = worker.epoch := by
  have hstay : row' ≠ row := by
    rintro rfl
    cases hissued.symm.trans hstarted
  have hexpire : ∀ {now : Int}, (s.permits.get? id).map (expireRow now) ≠ some row' := by
    intro now hget
    rw [hrow, Option.map_some] at hget
    obtain rfl := Option.some.inj hget
    rw [Sound.expireRow_state (.inl (by rw [hstarted]; decide))] at hstarted
    cases hissued.symm.trans hstarted
  have hset : ∀ {permitId : String} {state : PermitState}, state ≠ .started → (s.setState permitId state).permits.get? id ≠ some row' := by
    intro permitId state hne hget
    obtain ⟨old, hold, -, ⟨rfl, -⟩ | ⟨-, hstate⟩⟩ := Sound.get?_setState hget
    · exact hstay (Option.some.inj (hold.symm.trans hrow))
    · exact hne (hstate.symm.trans hstarted)
  cases h with
  | kept _ _ hpermits =>
    rw [hpermits] at hrow'
    exact absurd (Option.some.inj (hrow'.symm.trans hrow)) hstay
  | registered => exact absurd (Option.some.inj (hrow'.symm.trans hrow)) hstay
  | expired =>
    rw [get?_expireIssued] at hrow'
    exact absurd hrow' hexpire
  | granted =>
    rcases Sound.get?_insertPermit hrow' with ⟨-, rfl⟩ | ⟨-, hold⟩
    · cases hstarted
    · rw [get?_expireIssued] at hold
      exact absurd hold hexpire
  | started worker permitId deviceId completion abort moved hmoved _ htime hepoch hlease =>
    obtain ⟨lease, hlease, hequal⟩ := hlease
    obtain ⟨old, hold, -, ⟨rfl, -⟩ | ⟨rfl, -⟩⟩ := Sound.get?_setState hrow'
    · exact absurd (Option.some.inj (hold.symm.trans hrow)) hstay
    · obtain rfl := Option.some.inj (hmoved.symm.trans hrow)
      obtain ⟨lease', hlease', hbound⟩ := hsound.epochs permitId moved hmoved
      obtain rfl := Option.some.inj (hlease.symm.trans hlease')
      exact ⟨worker, deviceId, completion, abort, lease, rfl, htime.1, htime.2, hlease, hequal.symm,
        le_antisymm (hbound.trans hequal.le) hepoch⟩
  | finished => exact absurd hrow' (hset (by decide))
  | aborted => exact absurd hrow' (hset (by decide))

end PermitMove

namespace Permitted
variable {log : List (PermitMoment Payload)}

theorem sound (h : Permitted planning log s) : s.Sound := by
  induction h with
  | start h =>
    subst h
    exact .empty
  | step _ call _ ih => exact (permit_call_move ih call).sound ih

theorem recorded (h : Permitted planning log s) : ∀ m ∈ log, m.after = m.before.call planning m.op ∧ PermitMove planning m.before m.op m.after ∧
    m.before.Sound := h.moments fun _ _ call hrun _ => ⟨rfl, permit_call_move (sound hrun) call, sound hrun⟩

theorem plans (h : Permitted planning log s) : ∀ m ∈ log, PlansStay m.after s := by
  refine h.since (fun _ _ plan hplan => ⟨plan, hplan, rfl, rfl, rfl, le_refl _⟩) ?_ fun _ _ call hrun _ => (permit_call_move (sound hrun) call).plans
  intro _ _ _ hfirst hsecond requestId plan hplan
  obtain ⟨middle, hmiddle, hversion, hsha, hcount, hnext⟩ := hfirst requestId plan hplan
  obtain ⟨last, hlast, hversion', hsha', hcount', hnext'⟩ := hsecond requestId middle hmiddle
  exact ⟨last, hlast, hversion'.trans hversion, hsha'.trans hsha, hcount'.trans hcount, hnext.trans hnext'⟩

def PermitsStay (s s' : CollectionPermitStore Payload) : Prop := ∀ id row, s.permits.get? id = some row →
  ∃ row', s'.permits.get? id = some row' ∧ (row.state ≠ .issued → row'.state ≠ .issued) ∧
    (row.state = .finished → row'.state = .finished) ∧ (row.state = .aborted → row'.state = .aborted)

theorem permits (h : Permitted planning log s) : ∀ m ∈ log, PermitsStay m.after s := by
  refine h.since (fun _ _ row hrow => ⟨row, hrow, id, id, id⟩) ?_ fun _ _ call hrun _ id row hrow => ?_
  · intro _ _ _ hfirst hsecond id row hrow
    obtain ⟨middle, hmiddle, htaken, hfinished, haborted⟩ := hfirst id row hrow
    obtain ⟨last, hlast, htaken', hfinished', haborted'⟩ := hsecond id middle hmiddle
    exact ⟨last, hlast, htaken' ∘ htaken, hfinished' ∘ hfinished, haborted' ∘ haborted⟩
  · obtain ⟨row', hrow', -, hmoves⟩ := (permit_call_move (sound hrun) call).row hrow
    refine ⟨row', hrow', ?_⟩
    generalize row.state = state, row'.state = state' at hmoves
    cases hmoves with
    | stays => exact ⟨fun h => h, fun h => h, fun h => h⟩
    | starts | finishes | expires | abortsIssued | abortsStarted => exact ⟨nofun, nofun, nofun⟩

/-- What the state of a permit tells a receipt that was applied before. -/
def Settled (event : CollectionEvent) (state : PermitState) : Prop :=
  match event with
  | .start => state ≠ .issued
  | .finish => state = .finished
  | .abort => state = .aborted

theorem applied_settles {worker : WorkerCall} {permitId deviceId : String} {event : CollectionEvent} {completion : Option CollectionCompletion}
    {abort : Option CollectionAbort} (hsound : s.Sound) (h : s.acknowledge worker permitId deviceId event completion abort = .ok (next, true)) :
    ∃ row, next.permits.get? permitId = some row ∧ Settled event row.state := by
  obtain ⟨-, h⟩ := check_bind.mp h
  unfold applyReceipt at h
  split at h
  · cases h
  · rename_i row hrow
    have hkey := hsound.keyed permitId row hrow
    obtain ⟨-, h⟩ := require_bind.mp h
    split at h
    · rcases applyAbort_ok h with ⟨hfalse, -⟩ | ⟨-, -, requests, rfl⟩
      · cases hfalse
      · rw [hkey]
        exact ⟨_, Sound.get?_setState_self hrow, rfl⟩
    · obtain ⟨-, h⟩ := require_bind.mp h
      rcases applyStart_ok h with ⟨hfalse, -⟩ | ⟨-, -, -, -, -, rfl⟩
      · cases hfalse
      · rw [hkey]
        exact ⟨_, Sound.get?_setState_self hrow, fun heq => by cases heq⟩
    · obtain ⟨-, h⟩ := require_bind.mp h
      rcases applyFinish_ok h with ⟨hfalse, -⟩ | ⟨-, -, plan, -, -, streak, rfl⟩
      · cases hfalse
      · rw [hkey]
        exact ⟨_, Sound.get?_setState_self hrow, rfl⟩

theorem settled_kept {worker : WorkerCall} {permitId deviceId : String} {event : CollectionEvent} {completion : Option CollectionCompletion}
    {abort : Option CollectionAbort} {row : CollectionPermitRow} (hrow : s.permits.get? permitId = some row) (hsettled : Settled event row.state) :
    s.call planning (.acknowledge worker permitId deviceId event completion abort) = s := by
  refine committed (P := (· = s)) rfl fun next applied h => ?_
  obtain ⟨-, h⟩ := check_bind.mp h
  rw [applyReceipt, hrow] at h
  obtain ⟨-, h⟩ := require_bind.mp h
  cases event with
  | abort =>
    rcases applyAbort_ok h with ⟨-, hkept⟩ | ⟨-, hopen | hopen, -⟩
    · exact hkept
    · cases hopen.symm.trans hsettled
    · cases hopen.symm.trans hsettled
  | start =>
    obtain ⟨-, h⟩ := require_bind.mp h
    rcases applyStart_ok h with ⟨-, hkept⟩ | ⟨-, hissued, -⟩
    · exact hkept
    · exact absurd hissued hsettled
  | finish =>
    obtain ⟨-, h⟩ := require_bind.mp h
    rcases applyFinish_ok h with ⟨-, hkept⟩ | ⟨-, hstarted, -⟩
    · exact hkept
    · cases hstarted.symm.trans hsettled

end Permitted

theorem CollectionPermitRow.holdsSlot.isOpen {row : CollectionPermitRow} {now : Int} (h : row.holdsSlot now) : row.isOpen := by
  rcases h with hstarted | ⟨hissued, -⟩
  · exact .inl hstarted
  · exact .inr hissued

/-- Permits hold one native slot, and units are finished in order. -/
theorem permits_kept {log : List (PermitMoment Payload)} (h : Permitted planning log s) : PermitsKept planning log s where
  slot := fun id id' row row' now hrow hrow' hholds hholds' => h.sound.slot id id' row row' hrow hrow' hholds.isOpen hholds'.isOpen
  finishedOnce := by
    intro id id' row row' hrow hrow' hfinished hfinished' hunit
    exact h.sound.once id id' row row' hrow hrow' hfinished hfinished' (by rw [hunit]) (by rw [hunit])
  contiguous := h.sound.contiguous
  planned := by
    rintro _ k ⟨id, row, hrow, -, rfl, -⟩
    exact h.sound.plan id row hrow
  moves := fun m hm id row hrow => (h.recorded m hm).2.1.row hrow
  issued := fun m hm id row hnew hrow => (h.recorded m hm).2.1.new_row hnew hrow
  plans := h.plans
  started := fun m hm id row row' hrow hissued hrow' hstarted => (h.recorded m hm).2.1.start (h.recorded m hm).2.2 hrow hissued hrow' hstarted
  repeated := by
    intro m hm worker permitId deviceId event completion abort next hop happlied worker'
    obtain ⟨hcall, -, hsound⟩ := h.recorded m hm
    obtain ⟨row, hrow, hsettled⟩ := Permitted.applied_settles hsound happlied
    have hafter : m.after = next := by
      rw [hcall, hop, CollectionPermitStore.call, happlied]
      rfl
    rw [← hafter] at hrow
    obtain ⟨row', hrow', htaken, hfinished, haborted⟩ := h.permits m hm permitId row hrow
    refine Permitted.settled_kept hrow' ?_
    cases event with
    | start => exact htaken hsettled
    | finish => exact hfinished hsettled
    | abort => exact haborted hsettled

def plainPlanning : CollectionPlanning Nat where
  units := fun payload => .ok (List.range payload)
  payloadSha256 := toString
  unitId := fun unit => unit.requestId ++ toString unit.unitIndex

def permitWorker (now : Int) (permitId : String) : WorkerCall where
  epoch := 1
  now := now
  later := now
  permitId := permitId
  hasCapacity := fun _ => true
  unavailable := fun _ => false

def firstUnit : CollectionUnit where
  requestId := "request"
  unitIndex := 0
  payloadSha256 := "0"

def permitCalls : List (PermitCall Nat) :=
  [.acquire 0, .request "request" ⟨2, "device", .queued, false, 0, 0, none⟩, .issue (permitWorker 1 "permit") "device" firstUnit,
    .acknowledge (permitWorker 2 "") "permit" "device" .start none none,
    .acknowledge (permitWorker 3 "") "permit" "device" .finish (some ⟨firstUnit, "", 1, 1⟩) none]

theorem permits_kept_two_units : PermitsKept plainPlanning (play (CollectionPermitStore.call plainPlanning) {} permitCalls).1
    (play (CollectionPermitStore.call plainPlanning) {} permitCalls).2 := by
  refine permits_kept (Run.of_play ?_ permitCalls)
  rfl

end QuantX
