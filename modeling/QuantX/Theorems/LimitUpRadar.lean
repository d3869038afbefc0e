import Mathlib.Data.List.Destutter
import Mathlib.Data.List.Induction
import QuantX.Services.LimitUpRadar

/-! # Restarts of the limit-up radar

A restored lifecycle counts every break that was emitted, the running one only those that come straight from a seal. -/

namespace QuantX
namespace LimitUpRadarBuilder
open RadarLifecycle

variable {b : LimitUpRadarBuilder} {o : RadarObservation} {os : List RadarObservation} {l : RadarLifecycle}

/-- Whether the board was sealed since the price last fell below the limit, and how often it fell. -/
def fall (seen : Bool × Nat) (o : RadarObservation) : Bool × Nat :=
  if o.sealed then (true, seen.2) else if o.belowLimit ∧ seen.1 then (false, seen.2 + 1) else seen

def falls (items : List RadarItem) : Bool × Nat := (items.map (·.observation)).foldl fall (false, 0)

/-- The builder after the scans of a day. -/
def scanned (os : List RadarObservation) : LimitUpRadarBuilder := scan {} os

/-- A restart is not seen, breaks are counted once, and a seal after a break is a reseal. -/
structure Transparent (b : LimitUpRadarBuilder) : Prop where
  restored : restore b.events = b.lifecycle
  continued : ∀ rest, (scan { lifecycle := restore b.events } rest).items = (scan { lifecycle := b.lifecycle } rest).items
  counted : b.lifecycle.breakCount = (falls b.items).2
  resealed : (∃ event ∈ b.events, event.stage = .broken) → ∀ o : RadarObservation, o.sealed → b.lifecycle.stageOf o = .resealed

/-- The board does not fall below the limit while it is touched after a seal. -/
def FallsFromSeal (l : RadarLifecycle) (o : RadarObservation) : Prop :=
  l.stage = some .touching → l.everSealed → o.belowLimit = false

/-- What holds of a lifecycle in every run. -/
structure Marked (l : RadarLifecycle) : Prop where
  touched : l.everSealed → l.everTouched
  sealedAt : l.everSealed → l.firstSealedAt.isSome
  stage : l.everSealed → l.stage ∈ [some .touching, some .sealed, some .broken, some .resealed]
  everSealed : l.stage ∈ [some .sealed, some .resealed] → l.everSealed

theorem atLimit_of_not_belowLimit (h : o.belowLimit = false) : o.atLimit := by
  simp only [RadarObservation.belowLimit, decide_eq_false_iff_not, not_lt] at h
  simp [RadarObservation.atLimit, o.upStopPrice_pos, h]

theorem sealed_not_belowLimit (h : o.sealed) : o.belowLimit = false := by
  simp only [RadarObservation.sealed, RadarObservation.atLimit, decide_eq_true_eq] at h
  simpa [RadarObservation.belowLimit] using h.1.2

/-- The stage of a scan: a seal, a fall after a seal, or neither of them. -/
theorem stageOf_cases (l : RadarLifecycle) (o : RadarObservation) :
    (o.sealed ∧ l.stageOf o = if 0 < l.breakCount then .resealed else .sealed) ∨
      (o.sealed = false ∧ l.everSealed ∧ o.belowLimit ∧ l.stageOf o = .broken) ∨
      (o.sealed = false ∧ (l.everSealed → o.belowLimit = false ∧ l.stageOf o = .touching) ∧
        l.stageOf o ∈ [.touching, .nearLimit, .surging, .momentum]) := by
  by_cases hsealed : o.sealed
  · exact Or.inl ⟨hsealed, by rw [stageOf, if_pos hsealed]⟩
  · by_cases hbroken : l.everSealed ∧ o.belowLimit
    · exact Or.inr (Or.inl ⟨by simpa using hsealed, hbroken.1, hbroken.2, by rw [stageOf, if_neg hsealed, if_pos hbroken]⟩)
    · refine Or.inr (Or.inr ⟨by simpa using hsealed, fun hever => ?_, ?_⟩)
      · have hnot : o.belowLimit = false := by simpa [hever] using hbroken
        exact ⟨hnot, by rw [stageOf, if_neg hsealed, if_neg hbroken, if_pos (atLimit_of_not_belowLimit hnot)]⟩
      · rw [stageOf, if_neg hsealed, if_neg hbroken]
        split_ifs <;> simp

theorem scanned_concat : scanned (os ++ [o]) = (scanned os).build o := by simp [scanned, scan]

theorem restore_concat (events : List RadarEvent) (event : RadarEvent) :
    restore (events ++ [event]) = (restore events).restoreEvent event := by simp [restore]

theorem falls_concat (items : List RadarItem) (item : RadarItem) : falls (items ++ [item]) = fall (falls items) item.observation := by
  simp [falls]

theorem restoreEvent_breakCount (l : RadarLifecycle) (event : RadarEvent) :
    (l.restoreEvent event).breakCount = l.breakCount + if event.stage = .broken then 1 else 0 := by
  unfold restoreEvent
  cases event.stage <;> rfl

theorem restore_breakCount (events : List RadarEvent) :
    (restore events).breakCount = events.countP (·.stage = .broken) := by
  induction events using List.reverseRecOn with
  | nil => rfl
  | append_singleton events event ih => simp [restore_concat, restoreEvent_breakCount, ih]

theorem transition_broken (hstage : l.stage ≠ some .broken) (occurredAt : Int) :
    l.transition .broken occurredAt =
      ({ l.markTouched occurredAt with
          stage := some .broken, breakCount := l.breakCount + if l.stage ∈ [some .sealed, some .resealed] then 1 else 0
          lastStageAt := some occurredAt }, [⟨.broken, occurredAt⟩]) := by
  rw [RadarLifecycle.transition, if_neg hstage]
  by_cases hfrom : l.stage = some .sealed ∨ l.stage = some .resealed <;> simp [markTouched, hfrom]

/-- The transition and the restart agree where a break comes from a seal. -/
theorem restoreEvent_eq {stage : RadarStage} (hstage : l.stage ≠ some stage)
    (hbroken : stage = .broken → l.everSealed ∧ l.firstSealedAt.isSome ∧ l.stage ∈ [some .sealed, some .resealed]) (occurredAt : Int) :
    l.transition stage occurredAt = (l.restoreEvent ⟨stage, occurredAt⟩, [⟨stage, occurredAt⟩]) := by
  cases stage with
  | broken =>
    obtain ⟨hever, hfirst, hfrom⟩ := hbroken rfl
    obtain ⟨first, hfirst⟩ := Option.isSome_iff_exists.mp hfirst
    rw [transition_broken hstage, if_pos hfrom]
    simp [restoreEvent, markTouched, markSealed, hever, hfirst]
  | _ =>
    rw [RadarLifecycle.transition, if_neg hstage]
    rfl

theorem Marked.step (h : Marked l) {stage : RadarStage} (hbroken : stage = .broken → l.everSealed)
    (hstage : l.everSealed → stage ∈ [.touching, .sealed, .broken, .resealed]) (occurredAt : Int) :
    Marked (l.transition stage occurredAt).1 := by
  by_cases hsame : l.stage = some stage
  · rwa [RadarLifecycle.transition, if_pos hsame]
  cases stage with
  | broken =>
    rw [transition_broken hsame]
    exact ⟨fun _ => rfl, h.sealedAt, fun _ => by simp, fun hseal => by simp at hseal⟩
  | sealed | resealed =>
    rw [RadarLifecycle.transition, if_neg hsame]
    exact ⟨fun _ => rfl, fun _ => by simp [markSealed], fun _ => by simp, fun _ => rfl⟩
  | touching =>
    rw [RadarLifecycle.transition, if_neg hsame]
    exact ⟨fun _ => rfl, h.sealedAt, fun _ => by simp, fun hseal => by simp at hseal⟩
  | _ =>
    rw [RadarLifecycle.transition, if_neg hsame]
    exact ⟨h.touched, h.sealedAt, fun hever => absurd (hstage hever) (by simp), fun hseal => by simp at hseal⟩

theorem Marked.build (h : Marked b.lifecycle) (o : RadarObservation) : Marked (b.build o).lifecycle := by
  unfold LimitUpRadarBuilder.build
  split_ifs
  · refine h.step (fun hstage => ?_) (fun hever => ?_) o.updatedAt <;>
      obtain ⟨hsealed, heq⟩ | ⟨-, hever', -, heq⟩ | ⟨-, htouching, heq⟩ := stageOf_cases b.lifecycle o
    · rw [heq] at hstage
      split_ifs at hstage
    · exact hever'
    · simp [hstage] at heq
    · rw [heq]
      split_ifs <;> simp
    · simp [heq]
    · simp [(htouching hever).2]
  · exact h

theorem marked (os : List RadarObservation) : Marked (scanned os).lifecycle := by
  induction os using List.reverseRecOn with
  | nil => constructor <;> simp [scanned, scan]
  | append_singleton os o ih =>
    rw [scanned_concat]
    exact ih.build o

theorem candidate_of_everSealed (h : Marked l) (hever : l.everSealed) (o : RadarObservation) : o.isCandidate l.everTouched := by
  simp [RadarObservation.isCandidate, h.touched hever]

/-! ## Runs whose boards fall from a seal -/

structure Tracked (b : LimitUpRadarBuilder) : Prop where
  restored : restore b.events = b.lifecycle
  counted : b.lifecycle.breakCount = (falls b.items).2
  armed : b.lifecycle.stage ∈ [some .sealed, some .resealed] → (falls b.items).1
  disarmed : b.lifecycle.stage = some .broken ∨ b.lifecycle.everSealed = false → (falls b.items).1 = false

theorem restored_transition {events : List RadarEvent} (h : restore events = l) (hmarked : Marked l)
    (hfalls : FallsFromSeal l o) (occurredAt : Int) :
    restore (events ++ (l.transition (l.stageOf o) occurredAt).2) = (l.transition (l.stageOf o) occurredAt).1 := by
  by_cases hsame : l.stage = some (l.stageOf o)
  · simpa [RadarLifecycle.transition, hsame] using h
  · have hbroken : l.stageOf o = .broken → l.everSealed ∧ l.firstSealedAt.isSome ∧ l.stage ∈ [some .sealed, some .resealed] := by
      intro hstage
      rcases stageOf_cases l o with ⟨-, heq⟩ | ⟨-, hever, hbelow, -⟩ | ⟨-, -, heq⟩
      · rw [hstage] at heq
        split_ifs at heq
      · refine ⟨hever, hmarked.sealedAt hever, ?_⟩
        have hfrom := hmarked.stage hever
        have htouching : l.stage ≠ some .touching := fun h => by simp [hfalls h hever] at hbelow
        rw [hstage] at hsame
        simpa [htouching, hsame] using hfrom
      · simp [hstage] at heq
    rw [restoreEvent_eq hsame hbroken]
    simp [restore_concat, h]

theorem transition_fields (l : RadarLifecycle) (stage : RadarStage) (occurredAt : Int) :
    (l.transition stage occurredAt).1.stage = some stage ∧
      (l.transition stage occurredAt).1.breakCount =
        l.breakCount + (if stage = .broken ∧ l.stage ∈ [some .sealed, some .resealed] then 1 else 0) ∧
      (l.everSealed → (l.transition stage occurredAt).1.everSealed) := by
  by_cases hsame : l.stage = some stage
  · rw [RadarLifecycle.transition, if_pos hsame, hsame]
    refine ⟨rfl, ?_, id⟩
    cases stage <;> rfl
  · cases stage with
    | broken => simp [transition_broken hsame, markTouched]
    | _ => simp [RadarLifecycle.transition, hsame, markTouched, markSealed]

theorem Tracked.build (h : Tracked b) (hmarked : Marked b.lifecycle) (hfalls : FallsFromSeal b.lifecycle o) :
    Tracked (b.build o) := by
  by_cases hcandidate : o.isCandidate b.lifecycle.everTouched
  swap
  · rwa [LimitUpRadarBuilder.build, if_neg hcandidate]
  have hmarked' := hmarked.build o
  obtain ⟨hstage, hcount, hever⟩ := transition_fields b.lifecycle (b.lifecycle.stageOf o) o.updatedAt
  have hrestored := restored_transition h.restored hmarked hfalls o.updatedAt
  rw [LimitUpRadarBuilder.build, if_pos hcandidate] at hmarked' ⊢
  rcases stageOf_cases b.lifecycle o with ⟨hsealed, heq⟩ | ⟨hnot, hbefore, hbelow, heq⟩ | ⟨hnot, htouching, heq⟩
  · -- a seal: the next fall counts
    have hboth : b.lifecycle.stageOf o = .sealed ∨ b.lifecycle.stageOf o = .resealed := by
      rw [heq]
      split_ifs <;> simp
    refine ⟨hrestored, ?_, fun _ => ?_, fun hdisarmed => ?_⟩
    · rw [falls_concat, fall, if_pos hsealed, hcount, if_neg, ← h.counted]
      · rfl
      · rintro ⟨hbroken, -⟩
        simp [hbroken] at hboth
    · rw [falls_concat, fall, if_pos hsealed]
    · dsimp only at hmarked' hdisarmed
      rw [hstage] at hdisarmed
      rcases hdisarmed with hbroken | hnever
      · simp [Option.some.inj hbroken] at hboth
      · have hsealed := hmarked'.everSealed (by rw [hstage]; rcases hboth with hseal | hseal <;> simp [hseal])
        simp [hnever] at hsealed
  · -- a fall after a seal: counted where none was counted since
    have hfrom := hmarked.stage hbefore
    have htouched : b.lifecycle.stage ≠ some .touching := fun htouching => by simp [hfalls htouching hbefore] at hbelow
    have hfall : fall (falls b.items) o =
        (false, b.lifecycle.breakCount + if b.lifecycle.stage ∈ [some .sealed, some .resealed] then 1 else 0) := by
      rw [h.counted, fall, if_neg (by simp [hnot])]
      by_cases hsealed : b.lifecycle.stage ∈ [some .sealed, some .resealed]
      · rw [if_pos ⟨hbelow, h.armed hsealed⟩, if_pos hsealed]
      · have hbroken : b.lifecycle.stage = some .broken := by
          simp only [List.mem_cons, List.not_mem_nil, or_false, not_or] at hfrom hsealed
          tauto
        have hoff := h.disarmed (Or.inl hbroken)
        rw [if_neg (by simp [hoff]), if_neg hsealed, ← hoff]
        rfl
    refine ⟨hrestored, ?_, fun harmed => ?_, fun _ => ?_⟩
    · rw [falls_concat, hfall, hcount, heq]
      simp
    · dsimp only at harmed
      rw [hstage, heq] at harmed
      simp at harmed
    · rw [falls_concat, hfall]
  · -- neither
    have hfall : fall (falls b.items) o = falls b.items := by
      rw [fall, if_neg (by simp [hnot]), if_neg]
      rintro ⟨hbelow, harmed⟩
      have hever : b.lifecycle.everSealed := by
        by_contra hever
        simp [h.disarmed (Or.inr (Bool.eq_false_iff.mpr hever))] at harmed
      simp [(htouching hever).1] at hbelow
    refine ⟨hrestored, ?_, fun harmed => ?_, fun hdisarmed => ?_⟩
    · rw [falls_concat, hfall, hcount, if_neg, ← h.counted]
      · rfl
      · rintro ⟨hbroken, -⟩
        simp [hbroken] at heq
    · dsimp only at harmed
      rw [hstage] at harmed
      simp only [List.mem_cons, Option.some.injEq, List.not_mem_nil, or_false] at harmed
      rcases harmed with hseal | hseal <;> simp [hseal] at heq
    · dsimp only at hdisarmed
      rw [hstage] at hdisarmed
      rw [falls_concat, hfall]
      rcases hdisarmed with hbroken | hnever
      · simp [Option.some.inj hbroken] at heq
      · exact h.disarmed (Or.inr (Bool.eq_false_iff.mpr fun hbefore => absurd (hever hbefore) (by simp [hnever])))

theorem Tracked.transparent (h : Tracked b) : Transparent b where
  restored := h.restored
  continued rest := by rw [h.restored]
  counted := h.counted
  resealed := by
    rintro ⟨event, hevent, hbroken⟩ o hsealed
    have hpos : 0 < b.lifecycle.breakCount := by
      rw [← h.restored, restore_breakCount, List.countP_pos_iff]
      exact ⟨event, hevent, by simpa using hbroken⟩
    rw [stageOf, if_pos hsealed, if_pos hpos]

theorem tracked (hfalls : ∀ before o, before ++ [o] <+: os → FallsFromSeal (scanned before).lifecycle o) : Tracked (scanned os) := by
  induction os using List.reverseRecOn with
  | nil => exact ⟨rfl, rfl, fun h => by simp [scanned, scan] at h, fun _ => rfl⟩
  | append_singleton os o ih =>
    rw [scanned_concat]
    exact (ih fun before o' hmore => hfalls before o' (hmore.trans (List.prefix_append os [o]))).build (marked os)
      (hfalls os o (List.prefix_refl _))

/-- Restarts are nowhere seen and breaks are counted once exactly where no board that is touched after a seal falls
    below the limit. -/
theorem transparent_iff (os : List RadarObservation) :
    (∀ before, before <+: os → Transparent (scanned before)) ↔
      ∀ before o, before ++ [o] <+: os → FallsFromSeal (scanned before).lifecycle o := by
  refine ⟨fun h before o hprefix htouching hever => ?_, fun h before hprefix =>
    (tracked fun first o hfirst => h first o (hfirst.trans hprefix)).transparent⟩
  have hbefore := (h before ((List.prefix_append before [o]).trans hprefix)).restored
  have hafter := (h _ hprefix).restored
  by_contra hbelow
  have hbroken : (scanned before).lifecycle.stageOf o = .broken := by
    rcases stageOf_cases (scanned before).lifecycle o with ⟨hsealed, -⟩ | ⟨-, -, -, heq⟩ | ⟨-, hnot, -⟩
    · exact absurd (sealed_not_belowLimit hsealed) hbelow
    · exact heq
    · exact absurd (hnot hever).1 hbelow
  rw [scanned_concat, LimitUpRadarBuilder.build, if_pos (candidate_of_everSealed (marked before) hever o), hbroken] at hafter
  -- the restart counts the break, the transition does not
  have hcount := congrArg (·.breakCount) hafter
  dsimp only at hcount
  rw [transition_broken (by simp [htouching])] at hcount
  simp [restore_concat, restoreEvent_breakCount, hbefore, htouching] at hcount

private def sealedBoard : RadarObservation where
  currentPrice := 1087 / 100
  upStopPrice := 1087 / 100
  priceTick := 1 / 100
  highPrice := 1087 / 100
  preClose := 988 / 100
  askPrice := [0]
  bidVol := [31000]
  minuteClose := []
  changePct := 10
  growthSegment := false
  updatedAt := 1
  currentPrice_pos := by decide +kernel
  upStopPrice_pos := by decide +kernel
  priceTick_pos := by decide +kernel

private def touchedBoard : RadarObservation := { sealedBoard with askPrice := [1087 / 100], updatedAt := 2 }

private def fallenBoard : RadarObservation :=
  { touchedBoard with currentPrice := 1080 / 100, updatedAt := 3, currentPrice_pos := by decide +kernel }

/-- A board that is sealed, then only touched, then falls: the running radar counts no break, the restored one counts it. -/
theorem touched_break_uncounted : ¬Transparent (scanned [sealedBoard, touchedBoard, fallenBoard]) := fun h =>
  absurd h.restored (by decide +kernel)

/-! ## The events of a day -/

inductive RadarOp where
  | scan (o : RadarObservation)
  | restart

/-- A restart knows only what the stored events tell. -/
def respond (b : LimitUpRadarBuilder) : RadarOp → LimitUpRadarBuilder
  | .scan o => b.build o
  | .restart => { b with lifecycle := restore b.events }

def eventOf (item : RadarItem) : RadarEvent := ⟨item.stage, item.observation.updatedAt⟩

theorem destutter'_concat {α : Type} (R : α → α → Prop) [DecidableRel R] (l : List α) (a b : α) :
    (l ++ [b]).destutter' R a = l.destutter' R a ++ if ∀ c ∈ (l.destutter' R a).getLast?, R c b then [b] else [] := by
  induction l generalizing a with
  | nil => simp [List.destutter'_singleton, apply_ite (List.cons a)]
  | cons c l ih =>
    rw [List.cons_append]
    by_cases hc : R a c
    · rw [List.destutter'_cons_pos _ hc, List.destutter'_cons_pos _ hc, ih c, List.cons_append,
        List.getLast?_cons_of_ne_nil (l.destutter'_ne_nil R)]
    · rw [List.destutter'_cons_neg _ hc, List.destutter'_cons_neg _ hc, ih a]

theorem destutter_concat {α : Type} (R : α → α → Prop) [DecidableRel R] (l : List α) (b : α) :
    (l ++ [b]).destutter R = l.destutter R ++ if ∀ c ∈ (l.destutter R).getLast?, R c b then [b] else [] := by
  cases l with
  | nil => simp
  | cons a l => exact destutter'_concat R l a b

theorem restore_stage (events : List RadarEvent) : (restore events).stage = events.getLast?.map (·.stage) := by
  induction events using List.reverseRecOn with
  | nil => rfl
  | append_singleton events event ih =>
    obtain ⟨stage, occurredAt⟩ := event
    rw [restore_concat, List.getLast?_concat]
    cases stage <;> rfl

/-- The events that were emitted: the items of the day without those that repeat a stage. -/
structure Emitted (b : LimitUpRadarBuilder) : Prop where
  stage : b.lifecycle.stage = b.events.getLast?.map (·.stage)
  events : b.events = (b.items.map eventOf).destutter (·.stage ≠ ·.stage)

theorem Emitted.build (h : Emitted b) (o : RadarObservation) : Emitted (b.build o) := by
  by_cases hcandidate : o.isCandidate b.lifecycle.everTouched
  swap
  · rwa [LimitUpRadarBuilder.build, if_neg hcandidate]
  obtain ⟨hstage, hevents⟩ := h
  have hlast : (∀ event ∈ b.events.getLast?, event.stage ≠ b.lifecycle.stageOf o) ↔
      b.lifecycle.stage ≠ some (b.lifecycle.stageOf o) := by
    rw [hstage]
    cases b.events.getLast? <;> simp
  have hitems := destutter_concat (fun x y : RadarEvent => x.stage ≠ y.stage) (b.items.map eventOf)
    ⟨b.lifecycle.stageOf o, o.updatedAt⟩
  rw [← hevents] at hitems
  rw [LimitUpRadarBuilder.build, if_pos hcandidate]
  by_cases hsame : b.lifecycle.stage = some (b.lifecycle.stageOf o)
  · rw [if_neg fun hnew => hlast.mp hnew hsame] at hitems
    have hkept : b.lifecycle.transition (b.lifecycle.stageOf o) o.updatedAt = (b.lifecycle, []) := if_pos hsame
    simp only [hkept]
    exact ⟨by simpa using hstage, by simpa [eventOf] using hitems.symm⟩
  · rw [if_pos (hlast.mpr hsame)] at hitems
    have hemits : (b.lifecycle.transition (b.lifecycle.stageOf o) o.updatedAt).2 = [⟨b.lifecycle.stageOf o, o.updatedAt⟩] := by
      rw [RadarLifecycle.transition, if_neg hsame]
    simp only [hemits]
    refine ⟨?_, by simpa [eventOf] using hitems.symm⟩
    rw [(transition_fields b.lifecycle (b.lifecycle.stageOf o) o.updatedAt).1]
    simp

/-- A restart repeats no event and loses none: the events of a day are its items without those that repeat a stage. -/
theorem events_destutter (ops : List RadarOp) : Emitted (ops.foldl respond {}) := by
  induction ops using List.reverseRecOn with
  | nil => exact ⟨rfl, rfl⟩
  | append_singleton ops op ih =>
    rw [List.foldl_concat]
    cases op with
    | scan o => exact ih.build o
    | restart => exact ⟨restore_stage _, ih.events⟩

end LimitUpRadarBuilder
end QuantX
