import QuantX.MarketData.CollectionPermits

/-! # One native slot

A call either leaves the permits, or registers a plan, lets permits expire and inserts one, or moves one permit on. -/

namespace QuantX
open Lib CollectionPermitStore

variable {Payload : Type} {planning : CollectionPlanning Payload} {s next : CollectionPermitStore Payload} {worker : WorkerCall}
  {permitId requestId deviceId : String} {row : CollectionPermitRow}
variable {permit : Option CollectionPermit}
variable {abort : Option CollectionAbort}

/-! ## Calls that return -/

theorem guardOwner_ok (h : s.guardOwner worker = .ok ()) : ∃ lease, s.lease = some lease ∧ lease.epoch = worker.epoch := by
  have hguard := require_eq_ok.mp h
  obtain ⟨lease, hlease, hepoch⟩ := (Option.any_eq_true _ _).mp hguard
  exact ⟨lease, hlease, (of_decide_eq_true hepoch).1⟩

theorem mem_permitsOfRequest : row ∈ s.requestPermits requestId ↔ ∃ id, s.permits.get? id = some row ∧ row.permit.unit.requestId = requestId := by
  rw [requestPermits, List.mem_filter, Dict.mem_values, decide_eq_true_iff, ← exists_and_right]

theorem mem_completed {k : Nat} : k ∈ s.completed requestId ↔ ∃ id row, s.permits.get? id = some row ∧ row.state = .finished ∧
    row.permit.unit.requestId = requestId ∧ row.permit.unit.unitIndex = k := by
  simp only [completed, List.mem_toFinset, List.mem_map, List.mem_filter, decide_eq_true_eq, mem_permitsOfRequest]
  constructor
  · rintro ⟨row, ⟨⟨id, hrow, hrequest⟩, hfinished⟩, hindex⟩
    exact ⟨id, row, hrow, hfinished, hrequest, hindex⟩
  · rintro ⟨id, row, hrow, hfinished, hrequest, hindex⟩
    exact ⟨row, ⟨⟨id, hrow, hrequest⟩, hfinished⟩, hindex⟩

structure PlanFits (planning : CollectionPlanning Payload) (s : CollectionPermitStore Payload) (requestId : String) (payload : Payload)
    (units : List Payload) (plan : CollectionPlanRow) : Prop where
  completed : s.completed requestId = Finset.range plan.nextUnitIndex
  version : plan.planVersion = COLLECTION_PLAN_VERSION
  payloadSha256 : plan.payloadSha256 = planning.payloadSha256 payload
  unitCount : plan.unitCount = units.length
  kept : ∀ old, s.plans.get? requestId = some old → plan = old

theorem registerPlan_ok {payload : Payload} {units : List Payload} {plan : CollectionPlanRow}
    (h : s.registerPlan planning requestId payload units = .ok (next, plan)) :
    next = { s with plans := s.plans.setdefault requestId plan } ∧ PlanFits planning s requestId payload units plan := by
  obtain ⟨-, h⟩ := require_bind.mp h
  obtain ⟨hrange, h⟩ := require_bind.mp h
  obtain ⟨-, h⟩ := require_bind.mp h
  obtain ⟨hplan, h⟩ := require_bind.mp h
  obtain ⟨hnext, h⟩ := require_bind.mp h
  obtain ⟨rfl, rfl⟩ := Prod.mk.inj (Except.ok.inj h)
  refine ⟨rfl, ⟨by rw [hnext]; exact hrange, hplan.1, hplan.2.1, hplan.2.2, fun old hold => ?_⟩⟩
  rw [planRow, Dict.getD, hold, Option.getD_some]

theorem newPermit_ok {unit : CollectionUnit} {permit : CollectionPermit} (h : s.newPermit worker deviceId unit = .ok permit) :
    permit.permitId = worker.permitId ∧ permit.unit = unit ∧ permit.ownerEpoch = worker.epoch := by
  unfold newPermit at h
  split at h
  · cases h
  · split at h
    · obtain rfl := Except.ok.inj h
      exact ⟨rfl, rfl, rfl⟩
    · cases h

theorem grantUnit_ok {unit : CollectionUnit} {developmentOnly : Bool}
    (h : s.grantUnit planning worker deviceId unit developmentOnly = .ok (next, permit)) :
    next = s ∨ ∃ granted, next = s.insertPermit planning granted developmentOnly ∧ s.standing planning unit = [] ∧
      s.permits.get? granted.permitId = none ∧ granted.unit = unit ∧ granted.ownerEpoch = worker.epoch := by
  unfold grantUnit at h
  split at h
  · exact .inl (Prod.mk.inj (Except.ok.inj h)).1.symm
  · split at h
    · exact .inl (Prod.mk.inj (Except.ok.inj h)).1.symm
    · rename_i hstanding
      obtain ⟨granted, hgranted, h⟩ := bind_eq_ok.mp h
      obtain ⟨hfresh, h⟩ := require_bind.mp h
      obtain ⟨-, hunit, hepoch⟩ := newPermit_ok hgranted
      refine .inr ⟨granted, (Prod.mk.inj (Except.ok.inj h)).1.symm, ?_, Option.isNone_iff_eq_none.mp hfresh, hunit, hepoch⟩
      exact List.length_eq_zero_iff.mp (not_not.mp hstanding)

theorem applyAbort_ok {completion : Option CollectionCompletion} {applied : Bool}
    (h : s.applyAbort row completion abort = .ok (next, applied)) :
    (applied = false ∧ next = s) ∨ (applied = true ∧ (row.state = .issued ∨ row.state = .started) ∧
      ∃ requests, next = { s.setState row.permit.permitId .aborted with requests }) := by
  obtain ⟨-, h⟩ := require_bind.mp h
  split at h
  · obtain ⟨rfl, rfl⟩ := Prod.mk.inj (Except.ok.inj h)
    exact .inl ⟨rfl, rfl⟩
  · obtain ⟨hopen, h⟩ := require_bind.mp h
    split at h
    · cases h
    · obtain ⟨-, h⟩ := require_bind.mp h
      obtain ⟨rfl, rfl⟩ := Prod.mk.inj (Except.ok.inj h)
      exact .inr ⟨rfl, hopen, _, rfl⟩

theorem applyStart_ok {completion : Option CollectionCompletion} {applied : Bool} (h : s.applyStart worker row completion = .ok (next, applied)) :
    (applied = false ∧ next = s) ∨ (applied = true ∧ row.state = .issued ∧ worker.epoch ≤ row.permit.ownerEpoch ∧
      row.permit.issuedAt ≤ worker.now ∧ worker.now < row.permit.expiresAt ∧ next = s.setState row.permit.permitId .started) := by
  obtain ⟨-, h⟩ := require_bind.mp h
  split at h
  · obtain ⟨rfl, rfl⟩ := Prod.mk.inj (Except.ok.inj h)
    exact .inl ⟨rfl, rfl⟩
  · obtain ⟨hvalid, h⟩ := check_bind.mp h
    obtain ⟨hissued, h⟩ := require_bind.mp h
    obtain ⟨-, hvalid⟩ := require_bind.mp hvalid
    obtain ⟨hepoch, hvalid⟩ := require_bind.mp hvalid
    obtain ⟨rfl, rfl⟩ := Prod.mk.inj (Except.ok.inj h)
    exact .inr ⟨rfl, hissued, hepoch, (require_eq_ok.mp hvalid).1, (require_eq_ok.mp hvalid).2, rfl⟩

theorem applyFinish_ok {completion : Option CollectionCompletion} {applied : Bool} (h : s.applyFinish row completion = .ok (next, applied)) :
    (applied = false ∧ next = s) ∨ (applied = true ∧ row.state = .started ∧ ∃ plan, s.plans.get? row.permit.unit.requestId = some plan ∧
      plan.nextUnitIndex = row.permit.unit.unitIndex ∧ ∃ streak, next = { s.setState row.permit.permitId .finished with
        plans := s.plans.set row.permit.unit.requestId { plan with nextUnitIndex := plan.nextUnitIndex + 1 }
        productionStreak := streak }) := by
  obtain ⟨-, h⟩ := require_bind.mp h
  split at h
  · obtain ⟨rfl, rfl⟩ := Prod.mk.inj (Except.ok.inj h)
    exact .inl ⟨rfl, rfl⟩
  · obtain ⟨hstarted, h⟩ := require_bind.mp h
    split at h
    · cases h
    · rename_i plan hplan
      obtain ⟨hnext, h⟩ := require_bind.mp h
      obtain ⟨rfl, rfl⟩ := Prod.mk.inj (Except.ok.inj h)
      exact .inr ⟨rfl, hstarted, plan, hplan, hnext.1, _, rfl⟩

inductive PermitMove (planning : CollectionPlanning Payload) (s : CollectionPermitStore Payload) :
    PermitCall Payload → CollectionPermitStore Payload → Prop
  | kept (call : PermitCall Payload) (next : CollectionPermitStore Payload) (hpermits : next.permits = s.permits) (hplans : next.plans = s.plans)
      (hlease : ∀ lease, s.lease = some lease → ∃ lease', next.lease = some lease' ∧ lease.epoch ≤ lease'.epoch) : PermitMove planning s call next
  | registered (call : PermitCall Payload) (requestId : String) (payload : Payload) (units : List Payload) (plan : CollectionPlanRow)
      (hfits : PlanFits planning s requestId payload units plan) :
      PermitMove planning s call { s with plans := s.plans.setdefault requestId plan }
  | expired (call : PermitCall Payload) (requestId : String) (payload : Payload) (units : List Payload) (plan : CollectionPlanRow)
      (hfits : PlanFits planning s requestId payload units plan) (now : Int) :
      PermitMove planning s call (({ s with plans := s.plans.setdefault requestId plan } : CollectionPermitStore Payload).expireIssued now)
  | granted (call : PermitCall Payload) (request : CollectionRequestRow Payload) (units : List Payload) (plan : CollectionPlanRow) (now : Int)
      (permit : CollectionPermit) (hrequest : s.requests.get? permit.unit.requestId = some request)
      (hunits : planning.units request.payload = .ok units) (hfits : PlanFits planning s permit.unit.requestId request.payload units plan)
      (hunit : (units[permit.unit.unitIndex]?).any fun payload =>
        planning.unit permit.unit.requestId permit.unit.unitIndex payload = permit.unit)
      (hnext : plan.nextUnitIndex = permit.unit.unitIndex) (hfresh : s.permits.get? permit.permitId = none)
      (hfree : ∀ id row, s.permits.get? id = some row → row.state = .started ∨ row.state = .issued → row.state = .issued ∧ row.permit.expiresAt ≤ now)
      (hepoch : ∃ lease, s.lease = some lease ∧ permit.ownerEpoch = lease.epoch) :
      PermitMove planning s call ((({ s with plans := s.plans.setdefault permit.unit.requestId plan } : CollectionPermitStore Payload).expireIssued
        now).insertPermit planning permit request.developmentOnly)
  | started (worker : WorkerCall) (permitId deviceId : String) (completion : Option CollectionCompletion) (abort : Option CollectionAbort)
      (row : CollectionPermitRow) (hrow : s.permits.get? permitId = some row) (hissued : row.state = .issued)
      (htime : row.permit.issuedAt ≤ worker.now ∧ worker.now < row.permit.expiresAt) (hepoch : worker.epoch ≤ row.permit.ownerEpoch)
      (hlease : ∃ lease, s.lease = some lease ∧ lease.epoch = worker.epoch) :
      PermitMove planning s (.acknowledge worker permitId deviceId .start completion abort) (s.setState permitId .started)
  | finished (call : PermitCall Payload) (permitId : String) (row : CollectionPermitRow) (hrow : s.permits.get? permitId = some row)
      (hstarted : row.state = .started) (plan : CollectionPlanRow) (hplan : s.plans.get? row.permit.unit.requestId = some plan)
      (hnext : plan.nextUnitIndex = row.permit.unit.unitIndex) (streak : Nat) :
      PermitMove planning s call { s.setState permitId .finished with
        plans := s.plans.set row.permit.unit.requestId { plan with nextUnitIndex := plan.nextUnitIndex + 1 }
        productionStreak := streak }
  | aborted (call : PermitCall Payload) (permitId : String) (row : CollectionPermitRow) (hrow : s.permits.get? permitId = some row)
      (hopen : row.state = .issued ∨ row.state = .started) (requests : Dict String (CollectionRequestRow Payload)) :
      PermitMove planning s call { s.setState permitId .aborted with requests }

theorem PermitMove.same (planning : CollectionPlanning Payload) (s : CollectionPermitStore Payload) (call : PermitCall Payload) :
    PermitMove planning s call s := .kept call s rfl rfl fun lease hlease => ⟨lease, hlease, le_refl _⟩

theorem mem_standing_of_open {unit : CollectionUnit} {id : String} (hrow : s.permits.get? id = some row)
    (hopen : row.state = .started ∨ row.state = .issued) : row ∈ s.standing planning unit := by
  refine List.mem_filter.mpr ⟨Dict.mem_values.mpr ⟨id, hrow⟩, ?_⟩
  rcases hopen with hstate | hstate <;> simp [hstate]

def expireRow (now : Int) (row : CollectionPermitRow) : CollectionPermitRow :=
  if row.state = .issued ∧ row.permit.expiresAt ≤ now then { row with state := .expired } else row

theorem get?_expireIssued (s : CollectionPermitStore Payload) (now : Int) (id : String) :
    (s.expireIssued now).permits.get? id = (s.permits.get? id).map (expireRow now) := Dict.get?_map _ _ _

theorem expireRow_permit (now : Int) (row : CollectionPermitRow) : (expireRow now row).permit = row.permit := by
  unfold expireRow
  split <;> rfl

theorem issueUnit_move {unit : CollectionUnit} (h : s.issueUnit planning worker deviceId unit = .ok (next, permit))
    (hguard : ∃ lease, s.lease = some lease ∧ lease.epoch = worker.epoch) (call : PermitCall Payload) : PermitMove planning s call next := by
  unfold issueUnit at h
  split at h
  · obtain ⟨rfl, rfl⟩ := Prod.mk.inj (Except.ok.inj h)
    exact .same planning s call
  · split at h
    · cases h
    · rename_i request hrequest
      obtain ⟨-, h⟩ := require_bind.mp h
      obtain ⟨-, h⟩ := require_bind.mp h
      split at h
      · obtain ⟨units, hunits, h⟩ := bind_eq_ok.mp h
        obtain ⟨hunit, h⟩ := require_bind.mp h
        obtain ⟨registered, hregistered, h⟩ := bind_eq_ok.mp h
        obtain ⟨hmid, hfits⟩ := registerPlan_ok hregistered
        split at h
        · obtain ⟨rfl, rfl⟩ := Prod.mk.inj (Except.ok.inj h)
          rw [hmid]
          exact .registered call _ _ _ _ hfits
        · rename_i hindex
          rw [hmid] at h
          rcases grantUnit_ok h with rfl | ⟨granted, rfl, hstanding, hfresh, rfl, hepoch⟩
          · exact .expired call _ _ _ _ hfits _
          · obtain ⟨lease, hlease, hleaseEpoch⟩ := hguard
            refine .granted call request units _ _ granted hrequest hunits hfits hunit (not_not.mp hindex) ?_ ?_
              ⟨lease, hlease, hepoch.trans hleaseEpoch.symm⟩
            · rw [get?_expireIssued] at hfresh
              exact Option.map_eq_none_iff.mp hfresh
            · intro id row hrow hopen
              by_contra hlive
              have hget : (({ s with plans := s.plans.setdefault granted.unit.requestId registered.2 } :
                  CollectionPermitStore Payload).expireIssued worker.now).permits.get? id = some row := by
                rw [get?_expireIssued]
                simp [hrow, expireRow, if_neg hlive]
              have hmem : row ∈ CollectionPermitStore.standing planning _ granted.unit := mem_standing_of_open hget hopen
              rw [hstanding] at hmem
              cases hmem
      · obtain ⟨rfl, rfl⟩ := Prod.mk.inj (Except.ok.inj h)
        exact .same planning s call

def CollectionPermitRow.isOpen (row : CollectionPermitRow) : Prop := row.state = .started ∨ row.state = .issued

def FinishedUnit (s : CollectionPermitStore Payload) (requestId : String) (k : Nat) : Prop :=
  ∃ id row, s.permits.get? id = some row ∧ row.state = .finished ∧ row.permit.unit.requestId = requestId ∧ row.permit.unit.unitIndex = k

structure CollectionPermitStore.Sound (s : CollectionPermitStore Payload) : Prop where
  keyed : ∀ id row, s.permits.get? id = some row → row.permit.permitId = id
  epochs : ∀ id row, s.permits.get? id = some row → ∃ lease, s.lease = some lease ∧ row.permit.ownerEpoch ≤ lease.epoch
  slot : ∀ id id' row row', s.permits.get? id = some row → s.permits.get? id' = some row' → row.isOpen → row'.isOpen → id = id'
  plan : ∀ id row, s.permits.get? id = some row → ∃ plan, s.plans.get? row.permit.unit.requestId = some plan
  contiguous : ∀ requestId plan, s.plans.get? requestId = some plan → ∀ k, FinishedUnit s requestId k ↔ k < plan.nextUnitIndex
  once : ∀ id id' row row', s.permits.get? id = some row → s.permits.get? id' = some row' → row.state = .finished → row'.state = .finished →
    row.permit.unit.requestId = row'.permit.unit.requestId → row.permit.unit.unitIndex = row'.permit.unit.unitIndex → id = id'

theorem CollectionPermitStore.Sound.empty : ({} : CollectionPermitStore Payload).Sound where
  keyed := fun _ _ h => by cases h
  epochs := fun _ _ h => by cases h
  slot := fun _ _ _ _ h => by cases h
  plan := fun _ _ h => by cases h
  contiguous := fun _ _ h => by cases h
  once := fun _ _ _ _ h => by cases h

theorem acquire_lease (s : CollectionPermitStore Payload) (now : Int) {lease : WorkerLease} (h : s.lease = some lease) :
    ∃ lease', (s.acquire now).lease = some lease' ∧ lease.epoch ≤ lease'.epoch := by
  unfold acquire
  rw [h]
  simp only
  split
  · exact ⟨_, rfl, by simp⟩
  · exact ⟨lease, h, le_refl _⟩

theorem acquire_tables (s : CollectionPermitStore Payload) (now : Int) :
    (s.acquire now).permits = s.permits ∧ (s.acquire now).plans = s.plans := by
  unfold acquire
  split
  · exact ⟨rfl, rfl⟩
  · split <;> exact ⟨rfl, rfl⟩

theorem setLease_lease (s : CollectionPermitStore Payload) (epoch now expiresAt : Int) (live : Bool) {lease : WorkerLease} (h : s.lease = some lease) :
    ∃ lease', (s.setLease epoch now expiresAt live).lease = some lease' ∧ lease.epoch ≤ lease'.epoch := by
  simp only [setLease, h, Option.map_some]
  split <;> exact ⟨_, rfl, le_refl _⟩

theorem applyReceipt_move (hsound : s.Sound) {event : CollectionEvent} {completion : Option CollectionCompletion}
    {applied : Bool} (h : s.applyReceipt worker permitId deviceId event completion abort = .ok (next, applied))
    (hguard : ∃ lease, s.lease = some lease ∧ lease.epoch = worker.epoch) :
    PermitMove planning s (.acknowledge worker permitId deviceId event completion abort) next := by
  unfold applyReceipt at h
  split at h
  · cases h
  · rename_i row hrow
    have hkey := hsound.keyed permitId row hrow
    obtain ⟨-, h⟩ := require_bind.mp h
    split at h
    · rcases applyAbort_ok h with ⟨-, rfl⟩ | ⟨-, hopen, requests, rfl⟩
      · exact .same planning next _
      · rw [hkey]
        exact .aborted _ permitId row hrow hopen requests
    · obtain ⟨-, h⟩ := require_bind.mp h
      rcases applyStart_ok h with ⟨-, rfl⟩ | ⟨-, hissued, hepoch, hbegun, hlive, rfl⟩
      · exact .same planning next _
      · rw [hkey]
        exact .started worker permitId deviceId completion abort row hrow hissued ⟨hbegun, hlive⟩ hepoch hguard
    · obtain ⟨-, h⟩ := require_bind.mp h
      rcases applyFinish_ok h with ⟨-, rfl⟩ | ⟨-, hstarted, plan, hplan, hnext, streak, rfl⟩
      · exact .same planning next _
      · rw [hkey]
        exact .finished _ permitId row hrow hstarted plan hplan hnext streak

theorem issueNext_move {collectionAllowed developmentAllowed sessionReady : Bool}
    (h : s.issueNext planning worker deviceId collectionAllowed developmentAllowed sessionReady = .ok (next, permit)) (call : PermitCall Payload) :
    PermitMove planning s call next := by
  unfold issueNext at h
  split at h
  · obtain ⟨rfl, rfl⟩ := Prod.mk.inj (Except.ok.inj h)
    exact .same planning s call
  · obtain ⟨hguard, h⟩ := check_bind.mp h
    split at h
    · obtain ⟨rfl, rfl⟩ := Prod.mk.inj (Except.ok.inj h)
      exact .same planning s call
    · split at h
      · obtain ⟨rfl, rfl⟩ := Prod.mk.inj (Except.ok.inj h)
        exact .same planning s call
      · obtain ⟨units, -, h⟩ := bind_eq_ok.mp h
        split at h
        · cases h
        · exact issueUnit_move h (guardOwner_ok hguard) call

theorem register_move (h : s.register planning worker requestId = .ok next) (call : PermitCall Payload) : PermitMove planning s call next := by
  obtain ⟨-, h⟩ := check_bind.mp h
  split at h
  · cases h
  · obtain ⟨-, h⟩ := require_bind.mp h
    obtain ⟨units, -, h⟩ := bind_eq_ok.mp h
    obtain ⟨registered, hregistered, h⟩ := bind_eq_ok.mp h
    obtain ⟨hnext, hfits⟩ := registerPlan_ok hregistered
    obtain rfl := Except.ok.inj h
    rw [hnext]
    exact .registered call _ _ _ _ hfits

theorem committed {α : Type} {answer : Except String (CollectionPermitStore Payload × α)} {P : CollectionPermitStore Payload → Prop} (hkept : P s)
    (hok : ∀ next value, answer = .ok (next, value) → P next) : P ((answer.map Prod.fst).toOption.getD s) := by
  cases answer with
  | error => exact hkept
  | ok result => exact hok result.1 result.2 rfl

theorem permit_call_move (hsound : s.Sound) (call : PermitCall Payload) : PermitMove planning s call (s.call planning call) := by
  cases call with
  | acquire now =>
    obtain ⟨hpermits, hplans⟩ := acquire_tables s now
    exact .kept _ _ hpermits hplans fun lease hlease => acquire_lease s now hlease
  | setLease epoch now expiresAt live => exact .kept _ _ rfl rfl fun lease hlease => setLease_lease s epoch now expiresAt live hlease
  | request requestId row => exact .kept _ _ rfl rfl fun lease hlease => ⟨lease, hlease, le_refl _⟩
  | register worker requestId =>
    rw [CollectionPermitStore.call]
    cases hregister : s.register planning worker requestId with
    | error => exact .same planning s _
    | ok next => exact register_move hregister _
  | issue worker deviceId unit =>
    refine committed (.same planning s _) fun next permit h => ?_
    obtain ⟨hguard, h⟩ := check_bind.mp h
    exact issueUnit_move h (guardOwner_ok hguard) _
  | issueNext worker deviceId collectionAllowed developmentAllowed sessionReady =>
    exact committed (.same planning s _) fun next permit h => issueNext_move h _
  | acknowledge worker permitId deviceId event completion abort =>
    refine committed (.same planning s _) fun next applied h => ?_
    obtain ⟨hguard, h⟩ := check_bind.mp h
    exact applyReceipt_move hsound h (guardOwner_ok hguard)

/-! ## What the moves keep -/

namespace CollectionPermitStore.Sound

theorem congr (h : s.Sound) (hpermits : next.permits = s.permits) (hplans : next.plans = s.plans)
    (hlease : ∀ lease, s.lease = some lease → ∃ lease', next.lease = some lease' ∧ lease.epoch ≤ lease'.epoch) : next.Sound where
  keyed := by
    rw [hpermits]
    exact h.keyed
  epochs := by
    intro id row hrow
    rw [hpermits] at hrow
    obtain ⟨lease, hsome, hle⟩ := h.epochs id row hrow
    obtain ⟨lease', hsome', hle'⟩ := hlease lease hsome
    exact ⟨lease', hsome', hle.trans hle'⟩
  slot := by
    rw [hpermits]
    exact h.slot
  plan := by
    rw [hpermits, hplans]
    exact h.plan
  contiguous := by
    unfold FinishedUnit
    rw [hpermits, hplans]
    exact h.contiguous
  once := by
    rw [hpermits]
    exact h.once

theorem register {payload : Payload} {units : List Payload} {plan : CollectionPlanRow} (h : s.Sound)
    (hfits : PlanFits planning s requestId payload units plan) :
    ({ s with plans := s.plans.setdefault requestId plan } : CollectionPermitStore Payload).Sound where
  keyed := h.keyed
  epochs := h.epochs
  slot := h.slot
  plan := by
    intro id row hrow
    obtain ⟨old, hold⟩ := h.plan id row hrow
    exact ⟨old, Dict.get?_setdefault_eq_some.mpr (.inl hold)⟩
  contiguous := by
    intro request plan' hplan k
    rcases Dict.get?_setdefault_eq_some.mp hplan with hold | ⟨-, rfl, rfl⟩
    · exact h.contiguous request plan' hold k
    · rw [← Finset.mem_range, ← hfits.completed]
      exact mem_completed.symm
  once := h.once

theorem expireRow_state {now : Int} (h : (expireRow now row).state ≠ .expired ∨ row.state ≠ .issued) : expireRow now row = row := by
  unfold expireRow at h ⊢
  split
  · rename_i hissued
    rw [if_pos hissued] at h
    rcases h with h | h
    · exact absurd rfl h
    · exact absurd hissued.1 h
  · rfl

theorem finished_expireIssued (s : CollectionPermitStore Payload) (now : Int) (k : Nat) :
    FinishedUnit (s.expireIssued now) requestId k ↔ FinishedUnit s requestId k := by
  constructor
  · rintro ⟨id, row, hrow, hfinished, hunit⟩
    rw [get?_expireIssued] at hrow
    obtain ⟨old, hold, rfl⟩ := Option.map_eq_some_iff.mp hrow
    have hsame : expireRow now old = old := expireRow_state (.inl (by simp [hfinished]))
    rw [hsame] at hfinished hunit
    exact ⟨id, old, hold, hfinished, hunit⟩
  · rintro ⟨id, row, hrow, hfinished, hunit⟩
    refine ⟨id, row, ?_, hfinished, hunit⟩
    rw [get?_expireIssued, hrow, Option.map_some, expireRow_state (.inr (by simp [hfinished]))]

theorem expire (h : s.Sound) (now : Int) : (s.expireIssued now).Sound where
  keyed := by
    intro id row hrow
    rw [get?_expireIssued] at hrow
    obtain ⟨old, hold, rfl⟩ := Option.map_eq_some_iff.mp hrow
    rw [expireRow_permit]
    exact h.keyed id old hold
  epochs := by
    intro id row hrow
    rw [get?_expireIssued] at hrow
    obtain ⟨old, hold, rfl⟩ := Option.map_eq_some_iff.mp hrow
    rw [expireRow_permit]
    exact h.epochs id old hold
  slot := by
    intro id id' row row' hrow hrow' hopen hopen'
    rw [get?_expireIssued] at hrow hrow'
    obtain ⟨old, hold, rfl⟩ := Option.map_eq_some_iff.mp hrow
    obtain ⟨old', hold', rfl⟩ := Option.map_eq_some_iff.mp hrow'
    have hlive : ∀ old, (expireRow now old).isOpen → expireRow now old = old := by
      rintro old (hstate | hstate)
      · exact expireRow_state (.inl (by simp [hstate]))
      · exact expireRow_state (.inl (by simp [hstate]))
    rw [hlive old hopen] at hopen
    rw [hlive old' hopen'] at hopen'
    exact h.slot id id' old old' hold hold' hopen hopen'
  plan := by
    intro id row hrow
    rw [get?_expireIssued] at hrow
    obtain ⟨old, hold, rfl⟩ := Option.map_eq_some_iff.mp hrow
    rw [expireRow_permit]
    exact h.plan id old hold
  contiguous := fun requestId plan hplan k => (finished_expireIssued s now k).trans (h.contiguous requestId plan hplan k)
  once := by
    intro id id' row row' hrow hrow' hfinished hfinished' hrequest hindex
    rw [get?_expireIssued] at hrow hrow'
    obtain ⟨old, hold, rfl⟩ := Option.map_eq_some_iff.mp hrow
    obtain ⟨old', hold', rfl⟩ := Option.map_eq_some_iff.mp hrow'
    have hsame : expireRow now old = old := expireRow_state (.inl (by simp [hfinished]))
    have hsame' : expireRow now old' = old' := expireRow_state (.inl (by simp [hfinished']))
    rw [hsame] at hfinished hrequest hindex
    rw [hsame'] at hfinished' hrequest hindex
    exact h.once id id' old old' hold hold' hfinished hfinished' hrequest hindex

theorem get?_insertPermit {permit : CollectionPermit} {developmentOnly : Bool} {id : String}
    (h : (s.insertPermit planning permit developmentOnly).permits.get? id = some row) :
    (id = permit.permitId ∧ row = { permit, unitId := planning.unitId permit.unit, developmentOnly }) ∨
      (id ≠ permit.permitId ∧ s.permits.get? id = some row) := by
  rw [insertPermit, Dict.get?_set] at h
  split at h
  · rename_i hid
    exact .inl ⟨hid.symm, (Option.some.inj h).symm⟩
  · rename_i hid
    exact .inr ⟨Ne.symm hid, h⟩

theorem insert {permit : CollectionPermit} {developmentOnly : Bool} (h : s.Sound) (hfresh : s.permits.get? permit.permitId = none)
    (hfree : ∀ id row, s.permits.get? id = some row → ¬ row.isOpen) (hplan : ∃ plan, s.plans.get? permit.unit.requestId = some plan)
    (hepoch : ∃ lease, s.lease = some lease ∧ permit.ownerEpoch = lease.epoch) : (s.insertPermit planning permit developmentOnly).Sound where
  keyed := by
    intro id row hrow
    rcases get?_insertPermit hrow with ⟨rfl, rfl⟩ | ⟨-, hold⟩
    · rfl
    · exact h.keyed id row hold
  epochs := by
    intro id row hrow
    rcases get?_insertPermit hrow with ⟨rfl, rfl⟩ | ⟨-, hold⟩
    · obtain ⟨lease, hlease, hequal⟩ := hepoch
      exact ⟨lease, hlease, hequal.le⟩
    · exact h.epochs id row hold
  slot := by
    intro id id' row row' hrow hrow' hopen hopen'
    rcases get?_insertPermit hrow with ⟨rfl, rfl⟩ | ⟨-, hold⟩
    · rcases get?_insertPermit hrow' with ⟨rfl, rfl⟩ | ⟨-, hold'⟩
      · rfl
      · exact absurd hopen' (hfree id' row' hold')
    · exact absurd hopen (hfree id row hold)
  plan := by
    intro id row hrow
    rcases get?_insertPermit hrow with ⟨rfl, rfl⟩ | ⟨-, hold⟩
    · exact hplan
    · exact h.plan id row hold
  contiguous := by
    intro requestId plan hplan k
    rw [← h.contiguous requestId plan hplan k]
    constructor
    · rintro ⟨id, row, hrow, hfinished, hunit⟩
      rcases get?_insertPermit hrow with ⟨-, rfl⟩ | ⟨-, hold⟩
      · cases hfinished
      · exact ⟨id, row, hold, hfinished, hunit⟩
    · rintro ⟨id, row, hrow, hfinished, hunit⟩
      have hid : permit.permitId ≠ id := by
        rintro rfl
        cases hfresh.symm.trans hrow
      exact ⟨id, row, (Dict.get?_set_ne _ _ hid).trans hrow, hfinished, hunit⟩
  once := by
    intro id id' row row' hrow hrow' hfinished hfinished'
    rcases get?_insertPermit hrow with ⟨-, rfl⟩ | ⟨-, hold⟩
    · cases hfinished
    · rcases get?_insertPermit hrow' with ⟨-, rfl⟩ | ⟨-, hold'⟩
      · cases hfinished'
      · exact h.once id id' row row' hold hold' hfinished hfinished'

theorem get?_setState {state : PermitState} {id : String} (h : (s.setState permitId state).permits.get? id = some row) :
    ∃ old, s.permits.get? id = some old ∧ row.permit = old.permit ∧ (row = old ∧ permitId ≠ id ∨ permitId = id ∧ row.state = state) := by
  rw [setState, Dict.get?_modify] at h
  split at h
  · rename_i hid
    subst hid
    obtain ⟨old, hold, rfl⟩ := Option.map_eq_some_iff.mp h
    exact ⟨old, hold, rfl, .inr ⟨rfl, rfl⟩⟩
  · rename_i hid
    exact ⟨row, h, rfl, .inl ⟨rfl, hid⟩⟩

theorem get?_setState_ne {state : PermitState} {id : String} (hid : permitId ≠ id) :
    (s.setState permitId state).permits.get? id = s.permits.get? id := by
  rw [setState, Dict.get?_modify, if_neg hid]

theorem get?_setState_self {state : PermitState} (hrow : s.permits.get? permitId = some row) :
    (s.setState permitId state).permits.get? permitId = some { row with state } := by
  rw [setState, Dict.get?_modify, if_pos rfl, hrow, Option.map_some]

theorem slot_setState {state : PermitState} (h : s.Sound) (hrow : s.permits.get? permitId = some row) (hopen : row.isOpen) :
    ∀ id id' next next', (s.setState permitId state).permits.get? id = some next → (s.setState permitId state).permits.get? id' = some next' →
      next.isOpen → next'.isOpen → id = id' := by
  have hback : ∀ id next, (s.setState permitId state).permits.get? id = some next → next.isOpen →
      ∃ old, s.permits.get? id = some old ∧ old.isOpen := by
    intro id next hnext hnextOpen
    obtain ⟨old, hold, -, ⟨rfl, -⟩ | ⟨rfl, -⟩⟩ := get?_setState hnext
    · exact ⟨next, hold, hnextOpen⟩
    · exact ⟨row, hrow, hopen⟩
  intro id id' next next' hnext hnext' hnextOpen hnextOpen'
  obtain ⟨old, hold, holdOpen⟩ := hback id next hnext hnextOpen
  obtain ⟨old', hold', holdOpen'⟩ := hback id' next' hnext' hnextOpen'
  exact h.slot id id' old old' hold hold' holdOpen holdOpen'

theorem move {state : PermitState} (h : s.Sound) (hrow : s.permits.get? permitId = some row) (hopen : row.isOpen) (hstate : state ≠ .finished) :
    (s.setState permitId state).Sound where
  keyed := by
    intro id row hrow
    obtain ⟨old, hold, hpermit, -⟩ := get?_setState hrow
    rw [hpermit]
    exact h.keyed id old hold
  epochs := by
    intro id row hrow
    obtain ⟨old, hold, hpermit, -⟩ := get?_setState hrow
    rw [hpermit]
    exact h.epochs id old hold
  slot := slot_setState h hrow hopen
  plan := by
    intro id row hrow
    obtain ⟨old, hold, hpermit, -⟩ := get?_setState hrow
    rw [hpermit]
    exact h.plan id old hold
  contiguous := by
    intro requestId plan hplan k
    rw [← h.contiguous requestId plan hplan k]
    constructor
    · rintro ⟨id, next, hnext, hfinished, hunit⟩
      obtain ⟨old, hold, hpermit, ⟨rfl, -⟩ | ⟨-, hmoved⟩⟩ := get?_setState hnext
      · exact ⟨id, next, hold, hfinished, hunit⟩
      · exact absurd (hmoved.symm.trans hfinished) hstate
    · rintro ⟨id, old, hold, hfinished, hunit⟩
      have hid : permitId ≠ id := by
        rintro rfl
        obtain rfl := Option.some.inj (hrow.symm.trans hold)
        rcases hopen with hopen | hopen <;> cases hfinished.symm.trans hopen
      exact ⟨id, old, (get?_setState_ne hid).trans hold, hfinished, hunit⟩
  once := by
    intro id id' next next' hnext hnext' hfinished hfinished'
    obtain ⟨old, hold, -, ⟨rfl, -⟩ | ⟨-, hmoved⟩⟩ := get?_setState hnext
    · obtain ⟨old', hold', -, ⟨rfl, -⟩ | ⟨-, hmoved⟩⟩ := get?_setState hnext'
      · exact h.once id id' next next' hold hold' hfinished hfinished'
      · exact absurd (hmoved.symm.trans hfinished') hstate
    · exact absurd (hmoved.symm.trans hfinished) hstate

theorem finish {plan : CollectionPlanRow} {streak : Nat} (h : s.Sound) (hrow : s.permits.get? permitId = some row) (hstarted : row.state = .started)
    (hplan : s.plans.get? row.permit.unit.requestId = some plan) (hnext : plan.nextUnitIndex = row.permit.unit.unitIndex) :
    ({ s.setState permitId .finished with
      plans := s.plans.set row.permit.unit.requestId { plan with nextUnitIndex := plan.nextUnitIndex + 1 }
      productionStreak := streak } : CollectionPermitStore Payload).Sound where
  keyed := by
    intro id next hnext
    obtain ⟨old, hold, hpermit, -⟩ := get?_setState hnext
    rw [hpermit]
    exact h.keyed id old hold
  epochs := by
    intro id next hnext
    obtain ⟨old, hold, hpermit, -⟩ := get?_setState hnext
    rw [hpermit]
    exact h.epochs id old hold
  slot := slot_setState h hrow (.inl hstarted)
  plan := by
    intro id next hnext
    obtain ⟨old, hold, hpermit, -⟩ := get?_setState hnext
    rw [hpermit]
    obtain ⟨plan', hplan'⟩ := h.plan id old hold
    by_cases hrequest : row.permit.unit.requestId = old.permit.unit.requestId
    · exact ⟨_, by rw [hrequest]; exact Dict.get?_set_self _ _ _⟩
    · exact ⟨plan', (Dict.get?_set_ne _ _ hrequest).trans hplan'⟩
  contiguous := by
    intro requestId plan' hplan' k
    have hunits : FinishedUnit (s.setState permitId .finished) requestId k ↔
        FinishedUnit s requestId k ∨ (row.permit.unit.requestId = requestId ∧ row.permit.unit.unitIndex = k) := by
      constructor
      · rintro ⟨id, next, hnext, hfinished, hunit⟩
        obtain ⟨old, hold, hpermit, ⟨rfl, -⟩ | ⟨rfl, -⟩⟩ := get?_setState hnext
        · exact .inl ⟨id, next, hold, hfinished, hunit⟩
        · obtain rfl := Option.some.inj (hrow.symm.trans hold)
          rw [hpermit] at hunit
          exact .inr hunit
      · rintro (⟨id, old, hold, hfinished, hunit⟩ | hunit)
        · by_cases hid : permitId = id
          · subst hid
            obtain rfl := Option.some.inj (hrow.symm.trans hold)
            cases hfinished.symm.trans hstarted
          · exact ⟨id, old, (get?_setState_ne hid).trans hold, hfinished, hunit⟩
        · exact ⟨permitId, _, get?_setState_self hrow, rfl, hunit⟩
    refine hunits.trans ?_
    by_cases hrequest : row.permit.unit.requestId = requestId
    · subst hrequest
      obtain rfl := Option.some.inj ((Dict.get?_set_self _ _ _).symm.trans hplan')
      rw [h.contiguous _ plan hplan k, ← hnext]
      simp only [true_and]
      omega
    · rw [Dict.get?_set_ne _ _ hrequest] at hplan'
      rw [h.contiguous requestId plan' hplan' k]
      simp [hrequest]
  once := by
    intro id id' next next' hget hget' hfinished hfinished' hrequest hindex
    have hfirst : ∀ id next, s.permits.get? id = some next → next.state = .finished → next.permit.unit.requestId = row.permit.unit.requestId →
        next.permit.unit.unitIndex ≠ row.permit.unit.unitIndex := by
      intro id next hget hfinished hsame hequal
      have hbefore := (h.contiguous _ plan hplan _).mp ⟨id, next, hget, hfinished, hsame, rfl⟩
      omega
    obtain ⟨old, hold, hpermit, ⟨rfl, -⟩ | ⟨hid, -⟩⟩ := get?_setState hget
    · obtain ⟨old', hold', hpermit', ⟨rfl, -⟩ | ⟨hid', -⟩⟩ := get?_setState hget'
      · exact h.once id id' next next' hold hold' hfinished hfinished' hrequest hindex
      · subst hid'
        obtain rfl := Option.some.inj (hrow.symm.trans hold')
        rw [hpermit'] at hrequest hindex
        exact absurd hindex (hfirst id next hold hfinished hrequest)
    · obtain ⟨old', hold', hpermit', ⟨rfl, -⟩ | ⟨hid', -⟩⟩ := get?_setState hget'
      · subst hid
        obtain rfl := Option.some.inj (hrow.symm.trans hold)
        rw [hpermit] at hrequest hindex
        exact absurd hindex.symm (hfirst id' next' hold' hfinished' hrequest.symm)
      · exact hid.symm.trans hid'

end CollectionPermitStore.Sound

theorem PermitMove.sound {call : PermitCall Payload} (h : PermitMove planning s call next) (hsound : s.Sound) : next.Sound := by
  cases h with
  | kept _ _ hpermits hplans hlease => exact hsound.congr hpermits hplans hlease
  | registered _ _ _ _ _ hfits => exact hsound.register hfits
  | expired _ _ _ _ _ hfits now => exact (hsound.register hfits).expire now
  | granted _ request units plan now permit _ _ hfits _ _ hfresh hfree hepoch =>
    refine ((hsound.register hfits).expire now).insert ?_ ?_ ?_ hepoch
    · rw [get?_expireIssued]
      exact Option.map_eq_none_iff.mpr hfresh
    · intro id row hrow hopen
      rw [get?_expireIssued] at hrow
      obtain ⟨old, hold, rfl⟩ := Option.map_eq_some_iff.mp hrow
      by_cases hlive : old.isOpen
      · rw [expireRow, if_pos (hfree id old hold hlive)] at hopen
        rcases hopen with hopen | hopen <;> cases hopen
      · have hsame : expireRow now old = old := by
          refine CollectionPermitStore.Sound.expireRow_state (.inr fun hissued => hlive (.inr hissued))
        rw [hsame] at hopen
        exact hlive hopen
    · cases hold : s.plans.get? permit.unit.requestId with
      | none => exact ⟨plan, Dict.get?_setdefault_eq_some.mpr (.inr ⟨hold, rfl, rfl⟩)⟩
      | some old => exact ⟨old, Dict.get?_setdefault_eq_some.mpr (.inl hold)⟩
  | started _ _ _ _ _ row hrow hissued => exact hsound.move hrow (.inr hissued) (by decide)
  | finished _ _ row hrow hstarted plan hplan hnext streak => exact hsound.finish hrow hstarted hplan hnext
  | aborted _ _ row hrow hopen => exact (hsound.move hrow hopen.symm (by decide)).congr rfl rfl fun lease hlease => ⟨lease, hlease, le_refl _⟩

end QuantX
