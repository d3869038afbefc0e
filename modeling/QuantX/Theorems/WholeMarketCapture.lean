import QuantX.QmtAgent.WholeMarketCapture
import QuantX.Lib.Run

namespace QuantX
open Lib

def overlay (base : Dict String PyVal) (events : List CapturedMarketEvent) : Dict String PyVal :=
  events.foldl (fun state event => state.update event.data.entries) base

theorem get?_overlay_concat (base : Dict String PyVal) (events : List CapturedMarketEvent) (event : CapturedMarketEvent)
    (code : String) :
    (overlay base (events ++ [event])).get? code = (event.data.get? code).or ((overlay base events).get? code) := by
  rw [overlay, List.foldl_append, List.foldl_cons, List.foldl_nil, Dict.get?_update]
  rfl

def CaptureOp.updates : CaptureOp → List (Dict String PyVal)
  | .capture _ data => if (normalizeData data).entries = [] then [] else [normalizeData data]
  | _ => []

def captureUpdates : List (Moment CaptureWorld CaptureOp) → List (Dict String PyVal)
  | [] => []
  | m :: log => captureUpdates log ++ m.op.updates

/-- The events follow the converged one without a gap: consecutive numbers, and the very updates. -/
structure Follows (updates : List (Dict String PyVal)) (converged : CapturedMarketEvent)
    (events : List CapturedMarketEvent) : Prop where
  numbers : events.map (·.captureSequence) = List.range' (converged.captureSequence + 1) events.length
  updates : events.map (·.data) <+: updates.drop converged.captureSequence

namespace Follows
variable {updates : List (Dict String PyVal)} {converged event : CapturedMarketEvent}
  {events queue : List CapturedMarketEvent}

theorem nil : Follows updates converged [] := ⟨rfl, List.nil_prefix⟩

theorem left (h : Follows updates converged (events ++ queue)) : Follows updates converged events := by
  obtain ⟨hnumbers, hupdates⟩ := h
  refine ⟨?_, ?_⟩
  · rw [List.map_append, List.length_append, ← List.range'_append_1] at hnumbers
    exact (List.append_inj hnumbers (by simp)).1
  · rw [List.map_append] at hupdates
    exact (List.prefix_append _ _).trans hupdates

theorem extend (h : Follows updates converged events) (later : List (Dict String PyVal)) :
    Follows (updates ++ later) converged events := by
  refine ⟨h.numbers, h.updates.trans ?_⟩
  rw [List.drop_append]
  exact List.prefix_append _ _

theorem concat (h : Follows updates converged events)
    (hall : converged.captureSequence + events.length = updates.length)
    (hevent : event.captureSequence = updates.length + 1) :
    Follows (updates ++ [event.data]) converged (events ++ [event]) := by
  obtain ⟨hnumbers, hupdates⟩ := h
  have hle : converged.captureSequence ≤ updates.length := hall ▸ Nat.le_add_right _ _
  refine ⟨?_, ?_⟩
  · rw [List.map_append, hnumbers, List.length_append, List.length_singleton, List.range'_concat, List.map_singleton,
      hevent, ← hall]
    simp only [one_mul]
    rw [Nat.add_right_comm]
  · have hsame : events.map (·.data) = updates.drop converged.captureSequence :=
      hupdates.eq_of_length (by rw [List.length_map, List.length_drop, ← hall, Nat.add_sub_cancel_left])
    rw [List.map_append, hsame, List.drop_append_of_le_length hle]
    exact List.prefix_refl _

end Follows

namespace WholeMarketCapture
variable {self : WholeMarketCapture} {clock : Clock} {data : PyVal} {reason : String}

theorem invalidation_eq_none : self.invalidation = none ↔ self.invalidationReason = "" := by
  unfold invalidation
  split
  · simp [*]
  · split <;> simp [*]

theorem overflowReason_ne (depth projected : Nat) : self.overflowReason depth projected ≠ "" := by
  unfold overflowReason
  intro h
  have hprefix : "whole-market READY ingress overflow: depth=" = "" := by
    iterate 7
      rw [String.append_eq_empty_iff] at h
      replace h := h.1
    exact h
  exact absurd hprefix (by decide)

/-- A capture is ignored, merged into the latest state only, refused for lack of room, or queued. -/
theorem capture_cases (self : WholeMarketCapture) (clock : Clock) (data : PyVal) :
    ((normalizeData data).entries = [] ∧ self.capture clock data = self) ∨
    ((normalizeData data).entries ≠ [] ∧
      ((self.ready = false ∧ self.capture clock data =
          { self.merge clock (normalizeData data) with syncMergedCallbacks := self.syncMergedCallbacks + 1 }) ∨
        (self.ready = true ∧ (self.capture clock data).invalidation ≠ none ∧ ∃ text, self.capture clock data =
          { (self.merge clock (normalizeData data)).dropReady with
            invalidationReason := text, invalidationIsOverflow := true }) ∨
        (self.ready = true ∧ self.readyEvents.length < self.limits.maxReadyCallbacks ∧
          self.readyEstimatedBytes + (self.event clock (normalizeData data)).estimatedBytes ≤
            self.limits.maxReadyEstimatedBytes ∧
          self.capture clock data =
            { self.merge clock (normalizeData data) with
              readyEvents := self.readyEvents ++ [self.event clock (normalizeData data)]
              readyEstimatedBytes :=
                self.readyEstimatedBytes + (self.event clock (normalizeData data)).estimatedBytes }))) := by
  simp only [capture]
  split
  · rename_i hempty
    exact .inl ⟨hempty, rfl⟩
  · rename_i hupdate
    refine .inr ⟨hupdate, ?_⟩
    split
    · rename_i hready
      exact .inl ⟨hready, rfl⟩
    · rename_i hready
      rw [Bool.not_eq_false] at hready
      split
      · refine .inr (.inl ⟨hready, ?_, _, rfl⟩)
        rw [Ne, invalidation_eq_none]
        exact overflowReason_ne _ _
      · rename_i hroom
        rw [not_or, not_le, not_lt] at hroom
        exact .inr (.inr ⟨hready, hroom.1, hroom.2, rfl⟩)

theorem forceResync_invalidation (self : WholeMarketCapture) (reason : String) :
    (self.forceResync reason).invalidation ≠ none := by
  rw [Ne, invalidation_eq_none]
  show (if reason = "" then "whole-market capture invalidated" else reason) ≠ ""
  split
  · decide
  · assumption

theorem resetSource_invalidation (self : WholeMarketCapture) (reason : String) :
    (self.resetSource reason).invalidation ≠ none := by
  rw [Ne, invalidation_eq_none]
  show (if reason = "" then "whole-market source reset" else reason) ≠ ""
  split
  · decide
  · assumption

theorem merge_latest (self : WholeMarketCapture) (clock : Clock) (normalized : Dict String PyVal) (code : String) :
    ((self.merge clock normalized).latest.get? code) =
      ((normalized.get? code).map (self.tick clock)).or (self.latest.get? code) := by
  rw [merge, Dict.get?_update, Dict.get?_map]

theorem merge_value (self : WholeMarketCapture) (clock : Clock) (normalized : Dict String PyVal) (code : String) :
    ((self.merge clock normalized).latest.get? code).map (·.value) =
      (normalized.get? code).or ((self.latest.get? code).map (·.value)) := by
  rw [merge_latest]
  cases normalized.get? code <;> rfl

theorem get?_included (self : WholeMarketCapture) (code : String) :
    (self.included none).get? code = self.latest.get? code := by
  rw [included, Dict.get?_filter]
  cases self.latest.get? code <;> rfl

structure Bounded (c : WholeMarketCapture) : Prop where
  bytes : c.readyEstimatedBytes = (c.readyEvents.map (·.estimatedBytes)).sum
  depth : c.readyEvents.length ≤ c.limits.maxReadyCallbacks
  room : c.readyEstimatedBytes ≤ c.limits.maxReadyEstimatedBytes

namespace Bounded

theorem of_empty (hevents : self.readyEvents = []) (hbytes : self.readyEstimatedBytes = 0) : self.Bounded := by
  constructor
  · rw [hevents, hbytes]
    rfl
  · simp [hevents]
  · simp [hbytes]

theorem capture (h : self.Bounded) (clock : Clock) (data : PyVal) : (self.capture clock data).Bounded := by
  obtain ⟨hbytes, hdepth, hroom⟩ := h
  obtain ⟨-, hsame⟩ | ⟨-, ⟨-, hmerged⟩ | ⟨-, -, text, hdropped⟩ | ⟨-, hfree, hfits, hqueued⟩⟩ := capture_cases self clock data
  · rw [hsame]
    exact ⟨hbytes, hdepth, hroom⟩
  · rw [hmerged]
    exact ⟨hbytes, hdepth, hroom⟩
  · rw [hdropped]
    exact of_empty rfl rfl
  · rw [hqueued]
    refine ⟨?_, ?_, hfits⟩
    · simp [hbytes]
    · rw [List.length_append]
      exact hfree

end Bounded

theorem nextReadyEvent_cases {result : Option CapturedMarketEvent} {next : WholeMarketCapture}
    (h : self.nextReadyEvent = .ok (result, next)) :
    self.invalidation = none ∧
      ((∃ event rest, self.readyEvents = event :: rest ∧ result = some event ∧
          next = { self with readyEvents := rest
                             readyEstimatedBytes := self.readyEstimatedBytes - event.estimatedBytes }) ∨
        (self.readyEvents = [] ∧ result = none ∧ next = self)) := by
  unfold nextReadyEvent at h
  split at h
  · cases h
  · rename_i hvalid
    refine ⟨hvalid, ?_⟩
    split at h
    · rename_i event rest hevents
      cases h
      exact .inl ⟨event, rest, hevents, rfl, rfl⟩
    · rename_i hevents
      split at h
      · cases h
        exact .inr ⟨hevents, rfl, rfl⟩
      · cases h

theorem Bounded.nextReadyEvent (hself : self.Bounded) {result : Option CapturedMarketEvent} {next : WholeMarketCapture}
    (h : self.nextReadyEvent = .ok (result, next)) : next.Bounded := by
  obtain ⟨hbytes, hdepth, hroom⟩ := hself
  obtain ⟨-, ⟨event, rest, hevents, -, rfl⟩ | ⟨-, -, rfl⟩⟩ := nextReadyEvent_cases h
  · rw [hevents] at hbytes hdepth
    refine ⟨?_, ?_, ?_⟩
    · simp [hbytes]
    · exact (Nat.le_succ _).trans hdepth
    · exact (Nat.sub_le _ _).trans hroom
  · exact ⟨hbytes, hdepth, hroom⟩

/-! ## The seams of a session -/

/-- Between a copy of the latest state and the cut an instrument that the capture has numbered up to the watermark has
    in the copy the value that it has now. -/
structure Kept (c : WholeMarketCapture) (snapshot : WholeMarketSnapshot) : Prop where
  watermark : snapshot.captureWatermark ≤ c.captureSequence
  absent : ∀ code, c.latest.get? code = none → snapshot.data.get? code = none
  older : ∀ code tick, c.latest.get? code = some tick → tick.captureSequence ≤ snapshot.captureWatermark →
    snapshot.data.get? code = some tick.value

theorem kept_latestSnapshot (self : WholeMarketCapture) : self.Kept (self.latestSnapshot none) := by
  have hdata : ∀ code, (self.latestSnapshot none).data.get? code = (self.latest.get? code).map (·.value) := by
    intro code
    rw [← get?_included]
    exact Dict.get?_map _ _ _
  refine ⟨le_rfl, ?_, ?_⟩
  · intro code hnone
    rw [hdata, hnone]
    rfl
  · intro code tick htick _
    rw [hdata, htick]
    rfl

theorem Kept.merge {snapshot : WholeMarketSnapshot} (h : self.Kept snapshot) (clock : Clock)
    (normalized : Dict String PyVal) : (self.merge clock normalized).Kept snapshot := by
  obtain ⟨hwatermark, habsent, holder⟩ := h
  refine ⟨hwatermark.trans (Nat.le_succ _), ?_, ?_⟩
  · intro code hnone
    rw [merge_latest, Option.or_eq_none_iff] at hnone
    exact habsent code hnone.2
  · intro code tick htick hle
    rw [merge_latest, Option.or_eq_some_iff] at htick
    obtain hnew | ⟨-, hold⟩ := htick
    · -- A tick of this update has a number past the watermark.
      obtain ⟨value, -, rfl⟩ := Option.map_eq_some_iff.mp hnew
      exact absurd (hle.trans hwatermark) (Nat.not_succ_le_self _)
    · exact holder code tick hold hle

theorem Kept.converged {snapshot : WholeMarketSnapshot} (h : self.Kept snapshot) (clock : Clock) (code : String) :
    (snapshot.data.update (self.convergedEvent clock snapshot.captureWatermark none).data.entries).get? code =
      (self.latest.get? code).map (·.value) := by
  have hdata : (self.convergedEvent clock snapshot.captureWatermark none).data.get? code =
      ((self.latest.get? code).filter fun tick => snapshot.captureWatermark < tick.captureSequence).map (·.value) := by
    rw [← get?_included, ← Dict.get?_filter (self.included none)
      (fun e => decide (snapshot.captureWatermark < e.2.captureSequence))]
    exact Dict.get?_map _ _ _
  obtain ⟨-, habsent, holder⟩ := h
  rw [Dict.get?_update, hdata]
  cases hlatest : self.latest.get? code with
  | none => exact habsent code hlatest
  | some tick =>
    rw [Option.filter_some]
    split
    · rfl
    · rename_i hle
      exact holder code tick hlatest (not_lt.mp (of_decide_eq_false (Bool.eq_false_of_not_eq_true hle)))

/-- What a READY session and the capture know of each other while nothing broke the continuity. -/
structure Joined (c : WholeMarketCapture) (updates : List (Dict String PyVal)) (snapshot : WholeMarketSnapshot)
    (converged : CapturedMarketEvent) (events : List CapturedMarketEvent) : Prop where
  ready : c.ready = true
  follows : Follows updates converged (events ++ c.readyEvents)
  all : converged.captureSequence + (events ++ c.readyEvents).length = updates.length
  view : ∀ code, (overlay (snapshot.data.update converged.data.entries) (events ++ c.readyEvents)).get? code =
    (c.latest.get? code).map (·.value)

theorem Joined.capture {updates : List (Dict String PyVal)} {snapshot : WholeMarketSnapshot}
    {converged : CapturedMarketEvent} {events : List CapturedMarketEvent}
    (h : self.Joined updates snapshot converged events) (hcount : self.captureSequence = updates.length) (clock : Clock)
    (data : PyVal) (hvalid : (self.capture clock data).invalidation = none) :
    (self.capture clock data).Joined (updates ++ (CaptureOp.capture clock data).updates) snapshot converged events := by
  obtain ⟨hready, hfollows, hall, hview⟩ := h
  obtain ⟨hempty, hsame⟩ | ⟨hupdate, ⟨hnot, -⟩ | ⟨-, hbroken, -⟩ | ⟨-, -, -, hqueued⟩⟩ := capture_cases self clock data
  · rw [hsame, CaptureOp.updates, if_pos hempty, List.append_nil]
    exact ⟨hready, hfollows, hall, hview⟩
  · rw [hready] at hnot
    cases hnot
  · exact absurd hvalid hbroken
  · rw [hqueued, CaptureOp.updates, if_neg hupdate]
    refine ⟨hready, ?_, ?_, ?_⟩
    · have hevent : (self.event clock (normalizeData data)).captureSequence = updates.length + 1 :=
        congrArg (· + 1) hcount
      rw [← List.append_assoc]
      exact hfollows.concat hall hevent
    · rw [← List.append_assoc, List.length_append, ← Nat.add_assoc, hall, List.length_append]
      rfl
    · intro code
      rw [← List.append_assoc, get?_overlay_concat, hview]
      exact (merge_value self clock _ code).symm

end WholeMarketCapture

namespace CaptureSession

def Given (snapshot : WholeMarketSnapshot) (converged : CapturedMarketEvent) (events : List CapturedMarketEvent) :
    CaptureSession → Prop
  | .ready snapshot' converged' events' => snapshot = snapshot' ∧ converged = converged' ∧ events = events'
  | .stopped snapshot' converged' events' _ => snapshot = snapshot' ∧ converged = converged' ∧ events = events'
  | _ => False

def Sound (updates : List (Dict String PyVal)) (capture : WholeMarketCapture) : CaptureSession → Prop
  | .copied snapshot => capture.invalidation = none → capture.Kept snapshot
  | .ready snapshot converged events => Follows updates converged events ∧
      (capture.invalidation = none → capture.Joined updates snapshot converged events)
  | .stopped _ converged events _ => Follows updates converged events
  | _ => True

end CaptureSession

namespace CaptureWorld
variable {w : CaptureWorld} {log : List (Moment CaptureWorld CaptureOp)} {limits : CaptureLimits}

def initial (limits : CaptureLimits) : CaptureWorld := { capture := { limits } }

structure Sound (limits : CaptureLimits) (updates : List (Dict String PyVal)) (w : CaptureWorld) : Prop where
  limited : w.capture.limits = limits
  bounded : w.capture.Bounded
  count : w.capture.captureSequence = updates.length
  session : w.session.Sound updates w.capture

theorem Sound.capture {updates : List (Dict String PyVal)} (h : w.Sound limits updates) (clock : Clock) (data : PyVal) :
    (w.step (.capture clock data)).Sound limits (updates ++ (CaptureOp.capture clock data).updates) := by
  obtain ⟨hlimits, hbounded, hcount, hsession⟩ := h
  have hcases := WholeMarketCapture.capture_cases w.capture clock data
  refine ⟨?_, hbounded.capture clock data, ?_, ?_⟩
  · show (w.capture.capture clock data).limits = limits
    obtain ⟨-, hsame⟩ | ⟨-, ⟨-, hmerged⟩ | ⟨-, -, text, hdropped⟩ | ⟨-, -, -, hqueued⟩⟩ := hcases
    · rw [hsame, hlimits]
    · rw [hmerged]
      exact hlimits
    · rw [hdropped]
      exact hlimits
    · rw [hqueued]
      exact hlimits
  · show (w.capture.capture clock data).captureSequence = _
    rw [List.length_append, ← hcount, CaptureOp.updates]
    obtain ⟨hempty, hsame⟩ | ⟨hupdate, hcases⟩ := hcases
    · rw [hsame, if_pos hempty]
      rfl
    · rw [if_neg hupdate]
      obtain ⟨-, hmerged⟩ | ⟨-, -, text, hdropped⟩ | ⟨-, -, -, hqueued⟩ := hcases
      · rw [hmerged]
        rfl
      · rw [hdropped]
        rfl
      · rw [hqueued]
        rfl
  · show w.session.Sound _ (w.capture.capture clock data)
    cases hcurrent : w.session with
    | idle => trivial
    | syncing => trivial
    | refused snapshot error => trivial
    | copied snapshot =>
      rw [hcurrent] at hsession
      intro hvalid
      obtain ⟨-, hsame⟩ | ⟨-, ⟨-, hmerged⟩ | ⟨-, hbroken, -⟩ | ⟨-, -, -, hqueued⟩⟩ := hcases
      · rw [hsame] at hvalid ⊢
        exact hsession hvalid
      · rw [hmerged] at hvalid ⊢
        obtain ⟨hwatermark, habsent, holder⟩ := (hsession hvalid).merge clock (normalizeData data)
        exact ⟨hwatermark, habsent, holder⟩
      · exact absurd hvalid hbroken
      · rw [hqueued] at hvalid ⊢
        obtain ⟨hwatermark, habsent, holder⟩ := (hsession hvalid).merge clock (normalizeData data)
        exact ⟨hwatermark, habsent, holder⟩
    | ready snapshot converged events =>
      rw [hcurrent] at hsession
      obtain ⟨hfollows, hjoined⟩ := hsession
      refine ⟨hfollows.extend _, fun hvalid => ?_⟩
      -- A reason is never taken back by a capture, so the two were joined before.
      have hbefore : w.capture.invalidation = none := by
        obtain ⟨-, hsame⟩ | ⟨-, ⟨-, hmerged⟩ | ⟨-, hbroken, -⟩ | ⟨-, -, -, hqueued⟩⟩ := hcases
        · rwa [hsame] at hvalid
        · rwa [hmerged] at hvalid
        · exact absurd hvalid hbroken
        · rwa [hqueued] at hvalid
      exact (hjoined hbefore).capture hcount clock data hvalid
    | stopped snapshot converged events error =>
      rw [hcurrent] at hsession
      exact Follows.extend hsession _

/-- Losing the continuity leaves a reason, so nothing is claimed of the latest state any more. -/
theorem Sound.invalidate {updates : List (Dict String PyVal)} (h : w.Sound limits updates) {next : WholeMarketCapture}
    (hlimits : next.limits = w.capture.limits) (hevents : next.readyEvents = []) (hbytes : next.readyEstimatedBytes = 0)
    (hcount : next.captureSequence = w.capture.captureSequence) (hbroken : next.invalidation ≠ none) :
    Sound limits updates { w with capture := next } := by
  refine ⟨hlimits.trans h.limited, .of_empty hevents hbytes, hcount.trans h.count, ?_⟩
  have hsession := h.session
  cases hcurrent : w.session with
  | idle => trivial
  | syncing => trivial
  | refused snapshot error => trivial
  | copied snapshot => exact fun hvalid => absurd hvalid hbroken
  | ready snapshot converged events =>
    rw [hcurrent] at hsession
    exact ⟨hsession.1, fun hvalid => absurd hvalid hbroken⟩
  | stopped snapshot converged events error =>
    rw [hcurrent] at hsession
    exact hsession

theorem Sound.bind {updates : List (Dict String PyVal)} (h : w.Sound limits updates) (bound : Bool) :
    Sound limits updates { w with capture := { w.capture with bound } } := by
  obtain ⟨hlimits, ⟨hbytes, hdepth, hroom⟩, hcount, hsession⟩ := h
  refine ⟨hlimits, ⟨hbytes, hdepth, hroom⟩, hcount, ?_⟩
  cases hcurrent : w.session with
  | idle => trivial
  | syncing => trivial
  | refused snapshot error => trivial
  | copied snapshot =>
    rw [hcurrent] at hsession
    intro hvalid
    obtain ⟨hwatermark, habsent, holder⟩ := hsession hvalid
    exact ⟨hwatermark, habsent, holder⟩
  | ready snapshot converged events =>
    rw [hcurrent] at hsession
    refine ⟨hsession.1, fun hvalid => ?_⟩
    obtain ⟨hready, hfollows, hall, hview⟩ := hsession.2 hvalid
    exact ⟨hready, hfollows, hall, hview⟩
  | stopped snapshot converged events error =>
    rw [hcurrent] at hsession
    exact hsession

theorem Sound.begin {updates : List (Dict String PyVal)} (h : w.Sound limits updates) : w.begin.Sound limits updates :=
  ⟨h.limited, .of_empty rfl rfl, h.count, trivial⟩

theorem Sound.activate {updates : List (Dict String PyVal)} (h : w.Sound limits updates) {snapshot : WholeMarketSnapshot}
    (hcurrent : w.session = .copied snapshot) (clock : Clock) : (w.advance clock).Sound limits updates := by
  obtain ⟨hlimits, hbounded, hcount, hsession⟩ := h
  rw [hcurrent] at hsession
  unfold advance
  rw [hcurrent]
  simp only [WholeMarketCapture.activateReady]
  cases hinvalid : w.capture.invalidation with
  | some error => exact ⟨hlimits, hbounded, hcount, trivial⟩
  | none =>
    refine ⟨hlimits, .of_empty rfl rfl, hcount, .nil, fun _ => ⟨rfl, .nil, hcount, ?_⟩⟩
    exact (hsession hinvalid).converged clock

theorem Sound.read {updates : List (Dict String PyVal)} (h : w.Sound limits updates) {snapshot : WholeMarketSnapshot}
    {converged : CapturedMarketEvent} {events : List CapturedMarketEvent}
    (hcurrent : w.session = .ready snapshot converged events) (clock : Clock) :
    (w.advance clock).Sound limits updates := by
  obtain ⟨hlimits, hbounded, hcount, hsession⟩ := h
  rw [hcurrent] at hsession
  obtain ⟨hgiven, hjoined⟩ := hsession
  unfold advance
  rw [hcurrent]
  simp only
  cases hread : w.capture.nextReadyEvent with
  | error error => exact ⟨hlimits, hbounded, hcount, hgiven⟩
  | ok result =>
    obtain ⟨result, next⟩ := result
    have hnext := hbounded.nextReadyEvent hread
    obtain ⟨hvalid, ⟨event, rest, hevents, rfl, rfl⟩ | ⟨hevents, rfl, rfl⟩⟩ := WholeMarketCapture.nextReadyEvent_cases hread
    · obtain ⟨hready, hfollows, hall, hview⟩ := hjoined hvalid
      have hmoved : events ++ w.capture.readyEvents = events ++ [event] ++ rest := by
        rw [hevents, List.append_assoc, List.singleton_append]
      rw [hmoved] at hfollows hall hview
      exact ⟨hlimits, hnext, hcount, hfollows.left, fun _ => ⟨hready, hfollows, hall, hview⟩⟩
    · exact ⟨hlimits, hnext, hcount, hgiven, hjoined⟩

theorem Sound.advance {updates : List (Dict String PyVal)} (h : w.Sound limits updates) (clock : Clock) :
    (w.advance clock).Sound limits updates := by
  cases hcurrent : w.session with
  | idle =>
    unfold CaptureWorld.advance
    rwa [hcurrent]
  | syncing =>
    unfold CaptureWorld.advance
    rw [hcurrent]
    exact ⟨h.limited, h.bounded, h.count, fun _ => WholeMarketCapture.kept_latestSnapshot _⟩
  | copied snapshot => exact h.activate hcurrent clock
  | refused snapshot error =>
    unfold CaptureWorld.advance
    rwa [hcurrent]
  | ready snapshot converged events => exact h.read hcurrent clock
  | stopped snapshot converged events error =>
    unfold CaptureWorld.advance
    rwa [hcurrent]

theorem Sound.step {updates : List (Dict String PyVal)} (h : w.Sound limits updates) (op : CaptureOp) :
    (w.step op).Sound limits (updates ++ op.updates) := by
  cases op with
  | capture clock data => exact h.capture clock data
  | forceResync reason =>
    show Sound limits (updates ++ []) _
    rw [List.append_nil]
    exact h.invalidate rfl rfl rfl rfl (WholeMarketCapture.forceResync_invalidation w.capture reason)
  | resetSource reason =>
    show Sound limits (updates ++ []) _
    rw [List.append_nil]
    exact h.invalidate rfl rfl rfl rfl (WholeMarketCapture.resetSource_invalidation w.capture reason)
  | bindLoop =>
    show Sound limits (updates ++ []) _
    rw [List.append_nil]
    exact h.bind true
  | unbindLoop =>
    show Sound limits (updates ++ []) _
    rw [List.append_nil]
    exact h.bind false
  | begin =>
    show Sound limits (updates ++ []) _
    rw [List.append_nil]
    exact h.begin
  | advance clock =>
    show Sound limits (updates ++ []) _
    rw [List.append_nil]
    exact h.advance clock

abbrev Runs (limits : CaptureLimits) (log : List (Moment CaptureWorld CaptureOp)) (w : CaptureWorld) : Prop :=
  Run (· = initial limits) CaptureWorld.step (fun _ _ _ => True) log w

theorem Runs.of_play (limits : CaptureLimits) (ops : List CaptureOp) :
    Runs limits (play step (initial limits) ops).1 (play step (initial limits) ops).2 := by
  refine Run.of_play ?_ ops
  rfl

theorem Sound.of_run (h : Runs limits log w) : w.Sound limits (captureUpdates log) := by
  refine h.invariant (fun log w => w.Sound limits (captureUpdates log)) ?_ ?_
  · rintro w rfl
    exact ⟨rfl, .of_empty rfl rfl, rfl, trivial⟩
  · intro log w op hsound _
    exact hsound.step op

end CaptureWorld

/-- An update before the copy, one between the copy and the cut, and one that the session reads. -/
def sampleCaptureOps : List CaptureOp :=
  [.bindLoop, .capture ⟨1000, 1⟩ (.dict [("600000.sh", .int 1), ("000001.SZ", .int 5)]), .begin, .advance ⟨2000, 2⟩,
    .capture ⟨3000, 3⟩ (.dict [("600000.SH ", .int 2)]), .advance ⟨4000, 4⟩,
    .capture ⟨5000, 5⟩ (.dict [("600000.SH", .int 3)]), .advance ⟨6000, 6⟩]

def sampleCaptureLimits : CaptureLimits :=
  { maxReadyCallbacks := 2, maxReadyEstimatedBytes := 4096, estimatedTickBytes := 512
    callbacks_pos := by decide, bytes_pos := by decide, tick_pos := by decide }

def sampleCapture : CaptureWorld := (play CaptureWorld.step (CaptureWorld.initial sampleCaptureLimits) sampleCaptureOps).2

end QuantX
