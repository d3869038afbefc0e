import QuantX.TTrade.ModelMinuteBatch
import QuantX.Lib.Run

/-! A window collects its ticks one by one, and what it is sealed with is what the builder makes of all of them at once.
    From there: what a batch is, over every run of its runtime. -/

namespace QuantX
open Lib

section Builder
variable {host : FeatureHost} {args : FeatureArgs} {watermarkMs availableAtMs : Int} {first tick : AcceptedTMarketTick}
  {previous : Option AcceptedTMarketTick} {ticks : List AcceptedTMarketTick} {row : FeatureRow} {rows : List FeatureRow}
  {bar : TModelFeatureBar}

abbrev Chained (ticks : List AcceptedTMarketTick) : Prop := ticks.IsChain fun previous tick => previous.follows tick = true

theorem readTick_ok (h : readTick args availableAtMs first previous tick = .ok row) :
    tick.inMinute args.intervalStartMs = true ∧ ∀ p, previous = some p → p.follows tick = true := by
  obtain ⟨⟨-, -, hminute, -, -, hfollows⟩, -⟩ := require_bind.mp h
  refine ⟨hminute, ?_⟩
  rintro p rfl
  exact hfollows

theorem readTicks_ok (h : readTicks args availableAtMs first previous ticks = .ok rows) :
    (∀ tick ∈ ticks, tick.inMinute args.intervalStartMs = true) ∧ Chained ticks ∧
      ∀ p, previous = some p → ∀ tick ∈ ticks.head?, p.follows tick = true := by
  induction ticks generalizing previous rows with
  | nil => simp
  | cons tick ticks ih =>
    obtain ⟨row, hrow, hrest⟩ := bind_eq_ok.mp h
    obtain ⟨rest, hrest, -⟩ := bind_eq_ok.mp hrest
    obtain ⟨hminute, hfollows⟩ := readTick_ok hrow
    obtain ⟨hall, hchain, hnext⟩ := ih hrest
    refine ⟨?_, List.isChain_cons.mpr ⟨hnext tick rfl, hchain⟩, ?_⟩
    · intro other hother
      rcases List.mem_cons.mp hother with rfl | hother
      · exact hminute
      · exact hall other hother
    · rintro p hp other hother
      cases hother
      exact hfollows p hp

theorem build_ok (h : buildCompleteFeatureBar host ticks args watermarkMs availableAtMs = .ok bar) :
    (∀ tick ∈ ticks, tick.inMinute args.intervalStartMs = true) ∧ Chained ticks := by
  simp only [buildCompleteFeatureBar, require_bind] at h
  obtain ⟨-, -, -, -, h⟩ := h
  obtain ⟨session, -, h⟩ := bind_eq_ok.mp h
  obtain ⟨lastSession, -, h⟩ := bind_eq_ok.mp h
  obtain ⟨-, h⟩ := require_bind.mp h
  cases ticks with
  | nil => cases h
  | cons first rest =>
    obtain ⟨rows, hrows, -⟩ := bind_eq_ok.mp h
    obtain ⟨hminute, hchain, -⟩ := readTicks_ok hrows
    exact ⟨hminute, hchain⟩

end Builder

/-! ### Windows -/

namespace TModelMinuteWindow
variable {host : FeatureHost} {window after : TModelMinuteWindow} {ticks : List AcceptedTMarketTick} {tick : AcceptedTMarketTick}
  {request : SealRequest} {watermarkMs availableAtMs : Int}

def Own (window : TModelMinuteWindow) (tick : AcceptedTMarketTick) : Prop :=
  tick.instrumentCode = window.instrumentCode ∧ tick.identity = window.config.identity

structure Fits (window : TModelMinuteWindow) (ticks : List AcceptedTMarketTick) : Prop where
  few : ticks.length ≤ window.config.maxTicks
  own : ∀ tick ∈ ticks, window.Own tick
  minute : ∀ tick ∈ ticks, tick.inMinute window.config.intervalStartMs = true
  chain : Chained ticks

def fed (window : TModelMinuteWindow) (ticks : List AcceptedTMarketTick) : TModelMinuteWindow := ticks.foldl take window

structure Fed (window : TModelMinuteWindow) (ticks : List AcceptedTMarketTick) (after : TModelMinuteWindow) : Prop where
  instrument : after.instrumentCode = window.instrumentCode
  config : after.config = window.config
  context : after.context = window.context
  outcome : after.outcome = window.outcome
  collected : after.reason = none → after.ticks = ticks ∧ window.Fits ticks
  spoiled : after.reason ≠ none → after.ticks = [] ∧ ¬window.Fits ticks

theorem fits_concat : window.Fits (ticks ++ [tick]) ↔ window.Fits ticks ∧ window.Own tick ∧
    tick.inMinute window.config.intervalStartMs = true ∧ ticks.length < window.config.maxTicks ∧
      ∀ previous ∈ ticks.getLast?, previous.follows tick = true := by
  constructor
  · rintro ⟨hfew, hown, hminute, hchain⟩
    obtain ⟨hbefore, -, hlast⟩ := List.isChain_append.mp hchain
    rw [List.length_append, List.length_singleton] at hfew
    refine ⟨⟨by omega, fun t ht => hown t (List.mem_append_left _ ht), fun t ht => hminute t (List.mem_append_left _ ht), hbefore⟩,
      hown tick (by simp), hminute tick (by simp), by omega, fun previous hprevious => hlast previous hprevious tick rfl⟩
  · rintro ⟨⟨hfew, hown, hminute, hchain⟩, hown', hminute', hless, hlast⟩
    refine ⟨by simp; omega, ?_, ?_, ?_⟩
    · intro t ht
      rcases List.mem_append.mp ht with ht | ht
      · exact hown t ht
      · rw [List.mem_singleton.mp ht]
        exact hown'
    · intro t ht
      rcases List.mem_append.mp ht with ht | ht
      · exact hminute t ht
      · rw [List.mem_singleton.mp ht]
        exact hminute'
    · refine List.isChain_append.mpr ⟨hchain, .singleton _, ?_⟩
      rintro previous hprevious _ ⟨⟩
      exact hlast previous hprevious

theorem refusal_eq_none : window.refusal tick = none ↔ window.Own tick ∧ tick.inMinute window.config.intervalStartMs = true ∧
    window.ticks.length < window.config.maxTicks ∧ ∀ previous ∈ window.ticks.getLast?, previous.follows tick = true := by
  unfold refusal Own
  split
  next hforeign =>
    refine iff_of_false (by simp) ?_
    rintro ⟨⟨hcode, hidentity⟩, hminute, -⟩
    rcases hforeign with h | h | h
    · exact h hcode
    · exact h hidentity
    · exact h hminute
  next hown =>
    simp only [not_or, not_not] at hown
    split
    next hfull => exact iff_of_false (by simp) fun h => by omega
    next hfree =>
      split
      next hnext => exact iff_of_true rfl ⟨⟨hown.1, hown.2.1⟩, hown.2.2, by omega, by simpa [Option.all_eq_true] using hnext⟩
      next hbreak =>
        refine iff_of_false (by simp) ?_
        rintro ⟨-, -, -, hnext⟩
        exact hbreak (by simpa [Option.all_eq_true] using hnext)

theorem Fed.take (h : Fed window ticks after) : Fed window (ticks ++ [tick]) (after.take tick) := by
  unfold TModelMinuteWindow.take
  split
  next hreason =>
    refine ⟨h.instrument, h.config, h.context, h.outcome, fun hnone => absurd hnone hreason, fun _ => ?_⟩
    obtain ⟨hempty, hspoiled⟩ := h.spoiled hreason
    exact ⟨hempty, fun hfits => hspoiled (fits_concat.mp hfits).1⟩
  next hreason =>
    obtain ⟨hticks, hfits⟩ := h.collected (not_not.mp hreason)
    have hrefusal : after.refusal tick = none ↔ window.Own tick ∧ tick.inMinute window.config.intervalStartMs = true ∧
        ticks.length < window.config.maxTicks ∧ ∀ previous ∈ ticks.getLast?, previous.follows tick = true := by
      rw [refusal_eq_none, Own, h.instrument, h.config, hticks]
      rfl
    split
    next reason hsome =>
      refine ⟨h.instrument, h.config, h.context, h.outcome, by simp, fun _ => ⟨rfl, fun hmore => ?_⟩⟩
      rw [hrefusal.mpr (fits_concat.mp hmore).2] at hsome
      cases hsome
    next hnone =>
      refine ⟨h.instrument, h.config, h.context, h.outcome, fun _ => ?_, fun hsome => absurd (not_not.mp hreason) hsome⟩
      exact ⟨by rw [hticks], fits_concat.mpr ⟨hfits, hrefusal.mp hnone⟩⟩

theorem fed_spec (hticks : window.ticks = []) (hreason : window.reason = none) (ticks : List AcceptedTMarketTick) :
    Fed window ticks (window.fed ticks) := by
  induction ticks using List.reverseRecOn with
  | nil =>
    refine ⟨rfl, rfl, rfl, rfl, fun _ => ⟨hticks, ?_⟩, fun h => absurd hreason h⟩
    exact ⟨by simp, by simp, by simp, .nil⟩
  | append_singleton ticks tick ih =>
    rw [fed, List.foldl_append]
    exact ih.take

theorem fed_concat (ticks : List AcceptedTMarketTick) (tick : AcceptedTMarketTick) : window.fed (ticks ++ [tick]) = (window.fed ticks).take tick := by
  rw [fed, List.foldl_append]
  rfl

def Complete (outcome : TModelMinuteOutcome) (bar : TModelFeatureBar) : Prop := outcome.status = .complete ∧ outcome.featureBar = some bar

theorem complete_outcomeOf {built : Except String TModelFeatureBar} {bar : TModelFeatureBar} :
    Complete (window.outcomeOf built) bar ↔ built = .ok bar := by
  cases built <;> simp [outcomeOf, Complete]

/-- What a window becomes when it is sealed in time: the builder says what of, unless the ticks or the request do not fit. -/
theorem Fed.close (h : Fed window ticks after) (hclocks : request.clocks window.config.intervalEndMs = some (watermarkMs, availableAtMs)) :
    ∃ outcome closed, after.close host request = (closed, .ok outcome) ∧ closed.outcome = some outcome ∧ closed.ticks = [] ∧
      closed.instrumentCode = window.instrumentCode ∧ outcome.instrumentCode = window.instrumentCode ∧
      ∀ bar, Complete outcome bar ↔ window.Fits ticks ∧
        buildCompleteFeatureBar host ticks (featureArgs window.config window.context) watermarkMs availableAtMs = .ok bar := by
  unfold TModelMinuteWindow.close
  rw [h.config, hclocks]
  refine ⟨_, _, rfl, rfl, rfl, h.instrument, ?_, fun bar => ?_⟩
  · rw [← h.instrument]
    unfold outcomeOf
    split <;> rfl
  · rw [complete_outcomeOf]
    cases hreason : after.reason with
    | none =>
      obtain ⟨hticks, hfits⟩ := h.collected hreason
      simp [h.context, hticks, hfits]
    | some reason => exact iff_of_false (by simp) fun hbuilt => (h.spoiled (by simp [hreason])).2 hbuilt.1

theorem Fed.sealed (h : Fed window ticks after) (houtcome : window.outcome = none)
    (hclocks : request.clocks window.config.intervalEndMs = some (watermarkMs, availableAtMs)) :
    ∃ outcome closed, after.sealWith host request = (closed, .ok outcome) ∧ closed.outcome = some outcome ∧ closed.ticks = [] ∧
      closed.instrumentCode = window.instrumentCode ∧ outcome.instrumentCode = window.instrumentCode ∧
      ∀ bar, Complete outcome bar ↔ request.identity = window.config.identity ∧ ticks.length ≤ window.config.maxTicks ∧
        (∀ tick ∈ ticks, window.Own tick) ∧
        buildCompleteFeatureBar host ticks (featureArgs window.config window.context) watermarkMs availableAtMs = .ok bar := by
  have hnone : after.outcome = none := h.outcome.trans houtcome
  unfold sealWith
  rw [h.config, hnone]
  by_cases hidentity : request.identity = window.config.identity
  · rw [if_neg (not_not.mpr hidentity)]
    obtain ⟨outcome, closed, hclose, hsealed, hempty, hcode, hcode', hcomplete⟩ := @Fed.close host _ _ _ _ _ _ h hclocks
    refine ⟨outcome, closed, hclose, hsealed, hempty, hcode, hcode', fun bar => (hcomplete bar).trans ?_⟩
    constructor
    · rintro ⟨hfits, hbuilt⟩
      exact ⟨hidentity, hfits.few, hfits.own, hbuilt⟩
    · rintro ⟨-, hfew, hown, hbuilt⟩
      obtain ⟨hminute, hchain⟩ := build_ok hbuilt
      exact ⟨⟨hfew, hown, hminute, hchain⟩, hbuilt⟩
  · rw [if_pos hidentity]
    simp only [TModelMinuteWindow.close, h.config, hclocks]
    refine ⟨_, _, rfl, rfl, rfl, h.instrument, h.instrument, fun bar => iff_of_false ?_ fun hright => hidentity hright.1⟩
    rw [complete_outcomeOf]
    simp

theorem sealWith_congr {request' : SealRequest} (hidentity : request'.identity = request.identity)
    (hclocks : request'.clocks window.config.intervalEndMs = request.clocks window.config.intervalEndMs) :
    window.sealWith host request' = window.sealWith host request := by simp only [sealWith, close, hidentity, hclocks]

end TModelMinuteWindow

inductive MinuteOp where
  | accept (tick : AcceptedTMarketTick)
  | request (request : SealRequest)
  | boundary (ticks : List AcceptedTMarketTick)
  | advance (codes : List String) (contexts : Dict String TModelMinuteContext) (config : MinuteConfig)

abbrev MinuteLog := List (Moment TModelMinuteBatchRuntime MinuteOp)

namespace TModelMinuteBatchRuntime
variable {host : MinuteHost} {runtime : TModelMinuteBatchRuntime} {log : MinuteLog} {op : MinuteOp}
variable {windows : List TModelMinuteWindow}
variable {contexts : Dict String TModelMinuteContext}

/-- What an operation leaves, and the batch that it returns or what it raises. -/
def apply (host : MinuteHost) (runtime : TModelMinuteBatchRuntime) : MinuteOp → TModelMinuteBatchRuntime × Except String (Option TModelMinuteBatch)
  | .accept tick =>
    match runtime.acceptTick tick with
    | .ok after => (after, .ok none)
    | .error message => (runtime, .error message)
  | .request request => ((runtime.sealWith host request).1, (runtime.sealWith host request).2.map some)
  | .boundary ticks => ((runtime.sealFromAcceptedTicks host ticks).1, (runtime.sealFromAcceptedTicks host ticks).2.map some)
  | .advance codes contexts config =>
    match runtime.advance host codes contexts config with
    | .ok after => (after, .ok none)
    | .error message => (runtime, .error message)

def step (host : MinuteHost) (runtime : TModelMinuteBatchRuntime) (op : MinuteOp) : TModelMinuteBatchRuntime := (runtime.apply host op).1

def New (host : MinuteHost) (runtime : TModelMinuteBatchRuntime) : Prop :=
  ∃ codes contexts config, create host codes contexts config = .ok runtime

abbrev MinuteRun (host : MinuteHost) : MinuteLog → TModelMinuteBatchRuntime → Prop := Run (New host) (step host) fun _ _ _ => True

/-- The ticks of a symbol that the runtime took for the minute it is in. -/
def given (host : MinuteHost) (code : String) : MinuteLog → List AcceptedTMarketTick
  | [] => []
  | m :: log => match m.op with
    | .accept tick => if tick.instrumentCode = code ∧ (m.before.apply host m.op).2.isOk then given host code log ++ [tick] else given host code log
    | .advance .. => if (m.before.apply host m.op).2.isOk then [] else given host code log
    | _ => given host code log

def batches : MinuteLog → List TModelMinuteBatch
  | [] => []
  | m :: log => match m.before.latest, m.after.latest with
    | none, some batch => batch :: batches log
    | _, _ => batches log

/-- A new window of the minute for a symbol and its context. -/
def window (config : MinuteConfig) (planned : String × TModelMinuteContext) : TModelMinuteWindow where
  instrumentCode := planned.1
  config := config
  context := planned.2

structure Assembled (host : MinuteHost) (log : MinuteLog) (runtime : TModelMinuteBatchRuntime) : Prop where
  nodup : (runtime.contexts.map Prod.fst).Nodup
  last : ∀ code, runtime.lastTicks.get? code = (given host code log).getLast?
  unsealed : runtime.latest = none →
    runtime.windows = runtime.contexts.map fun planned => (window runtime.config planned).fed (given host planned.1 log)
  sealed : ∀ batch, runtime.latest = some batch →
    runtime.windows.map TModelMinuteWindow.instrumentCode = runtime.contexts.map Prod.fst ∧ (∀ w ∈ runtime.windows, w.outcome ≠ none ∧ w.ticks = []) ∧
    ∃ request watermarkMs availableAtMs outcomes, request.clocks runtime.config.intervalEndMs = some (watermarkMs, availableAtMs) ∧
      batch = batchOf host runtime.config runtime.contexts watermarkMs availableAtMs request.identity outcomes ∧
      List.Forall₂ (fun planned outcome =>
        (((window runtime.config planned).fed (given host planned.1 log)).sealWith host.toFeatureHost request).2 = .ok outcome) runtime.contexts outcomes

theorem window_fed (config : MinuteConfig) (planned : String × TModelMinuteContext) (ticks : List AcceptedTMarketTick) :
    (window config planned).Fed ticks ((window config planned).fed ticks) := TModelMinuteWindow.fed_spec rfl rfl ticks

/-! ### Steps -/

theorem mem_windows (h : Assembled host log runtime) (hlatest : runtime.latest = none) {w : TModelMinuteWindow} (hw : w ∈ runtime.windows) :
    ∃ planned ∈ runtime.contexts, w = (window runtime.config planned).fed (given host planned.1 log) ∧ w.instrumentCode = planned.1 ∧
      w.outcome = none := by
  rw [h.unsealed hlatest] at hw
  obtain ⟨planned, hplanned, rfl⟩ := List.mem_map.mp hw
  have hfed := window_fed runtime.config planned (given host planned.1 log)
  exact ⟨planned, hplanned, rfl, hfed.instrument, hfed.outcome⟩

theorem acceptTick_ok (h : Assembled host log runtime) {tick : AcceptedTMarketTick} {after : TModelMinuteBatchRuntime}
    (haccept : runtime.acceptTick tick = .ok after) : runtime.latest = none ∧
      after = { runtime with
        windows := runtime.windows.map fun other => if other.instrumentCode = tick.instrumentCode then other.take tick else other
        lastTicks := runtime.lastTicks.set tick.instrumentCode tick } := by
  unfold acceptTick at haccept
  split at haccept
  next => cases haccept
  next w hfind =>
    obtain ⟨w', hw', rfl⟩ := map_eq_ok.mp haccept
    have hmem := List.mem_of_find?_eq_some hfind
    have hcode : w.instrumentCode = tick.instrumentCode := by simpa using List.find?_some hfind
    unfold TModelMinuteWindow.acceptTick at hw'
    split at hw'
    next => cases hw'
    next hopen =>
      cases hw'
      have hlatest : runtime.latest = none := by
        cases hlatest : runtime.latest with
        | none => rfl
        | some batch => exact absurd (not_not.mp hopen) ((h.sealed batch hlatest).2.1 w hmem).1
      refine ⟨hlatest, ?_⟩
      have hsame : ∀ other ∈ runtime.windows, other.instrumentCode = tick.instrumentCode → other = w := by
        intro other hother hsame
        obtain ⟨planned, hplanned, rfl, hcode', -⟩ := mem_windows h hlatest hother
        obtain ⟨planned', hplanned', rfl, hcode'', -⟩ := mem_windows h hlatest hmem
        have heq : planned = planned' := List.inj_on_of_nodup_map h.nodup hplanned hplanned' (by rw [← hcode', ← hcode'', hsame, hcode])
        rw [heq]
      have hmap : (runtime.windows.map fun other => if other.instrumentCode = tick.instrumentCode then w.take tick else other) =
          runtime.windows.map fun other => if other.instrumentCode = tick.instrumentCode then other.take tick else other := by
        refine List.map_congr_left fun other hother => ?_
        split
        next hthis => rw [hsame other hother hthis]
        next => rfl
      rw [hmap]

theorem sealWindows_ok {request : SealRequest} (h : ∀ w ∈ windows, ∃ outcome closed,
      w.sealWith host.toFeatureHost request = (closed, .ok outcome) ∧ closed.outcome = some outcome ∧ closed.ticks = [] ∧ closed.instrumentCode = w.instrumentCode) :
    ∃ closed outcomes, sealWindows host request windows = (closed, .ok outcomes) ∧ (∀ w ∈ closed, w.outcome ≠ none ∧ w.ticks = []) ∧
      closed.map TModelMinuteWindow.instrumentCode = windows.map TModelMinuteWindow.instrumentCode ∧
      List.Forall₂ (fun w outcome => (w.sealWith host.toFeatureHost request).2 = .ok outcome) windows outcomes := by
  induction windows with
  | nil => exact ⟨[], [], rfl, by simp, rfl, .nil⟩
  | cons w windows ih =>
    obtain ⟨outcome, closed, hseal, hclosed, hempty, hcode⟩ := h w (List.mem_cons_self ..)
    obtain ⟨rest, outcomes, hrest, hsealed, hcodes, hall⟩ := ih fun w' hw' => h w' (List.mem_cons_of_mem _ hw')
    refine ⟨closed :: rest, outcome :: outcomes, ?_, ?_, ?_, .cons (by rw [hseal]) hall⟩
    · rw [sealWindows, hseal, hrest]
      rfl
    · intro w' hw'
      rcases List.mem_cons.mp hw' with rfl | hw'
      · simp [hclosed, hempty]
      · exact hsealed w' hw'
    · rw [List.map_cons, List.map_cons, hcode, hcodes]

theorem seal_unsealed (h : Assembled host log runtime) (hlatest : runtime.latest = none) {request : SealRequest} {watermarkMs availableAtMs : Int}
    (hclocks : request.clocks runtime.config.intervalEndMs = some (watermarkMs, availableAtMs)) :
    ∃ windows outcomes, runtime.sealWith host request =
        ({ runtime with
            windows
            latest := some (batchOf host runtime.config runtime.contexts watermarkMs availableAtMs request.identity outcomes) },
          .ok (batchOf host runtime.config runtime.contexts watermarkMs availableAtMs request.identity outcomes)) ∧
      windows.map TModelMinuteWindow.instrumentCode = runtime.contexts.map Prod.fst ∧ (∀ w ∈ windows, w.outcome ≠ none ∧ w.ticks = []) ∧
      List.Forall₂ (fun planned outcome =>
        (((window runtime.config planned).fed (given host planned.1 log)).sealWith host.toFeatureHost request).2 = .ok outcome) runtime.contexts outcomes := by
  have hseals : ∀ w ∈ runtime.windows, ∃ outcome closed,
      w.sealWith host.toFeatureHost request = (closed, .ok outcome) ∧ closed.outcome = some outcome ∧ closed.ticks = [] ∧ closed.instrumentCode = w.instrumentCode := by
    intro w hw
    obtain ⟨planned, -, rfl, hcode, -⟩ := mem_windows h hlatest hw
    obtain ⟨outcome, closed, hseal, hclosed, hempty, hcode', -⟩ :=
      @TModelMinuteWindow.Fed.sealed host.toFeatureHost _ _ _ _ _ _ (window_fed runtime.config planned (given host planned.1 log)) rfl hclocks
    exact ⟨outcome, closed, hseal, hclosed, hempty, hcode'.trans hcode.symm⟩
  obtain ⟨closed, outcomes, hseal, hsealed, hcodes, hall⟩ := sealWindows_ok hseals
  refine ⟨closed, outcomes, ?_, ?_, hsealed, ?_⟩
  · simp only [sealWith, hlatest, hclocks, hseal]
  · rw [hcodes, h.unsealed hlatest, List.map_map]
    exact List.map_congr_left fun planned _ => (window_fed runtime.config planned _).instrument
  · rw [h.unsealed hlatest, List.forall₂_map_left_iff] at hall
    exact hall

theorem sealWith_cases (h : Assembled host log runtime) (request : SealRequest) :
    (∃ message, runtime.sealWith host request = (runtime, .error message)) ∨
    (∃ batch, runtime.latest = some batch ∧ runtime.sealWith host request = (runtime, .ok batch)) ∨
    runtime.latest = none ∧ ∃ watermarkMs availableAtMs, request.clocks runtime.config.intervalEndMs = some (watermarkMs, availableAtMs) := by
  cases hlatest : runtime.latest with
  | some batch =>
    by_cases hidentity : request.identity = (batch.streamId, batch.continuityGeneration)
    · exact .inr (.inl ⟨batch, rfl, by simp [sealWith, hlatest, hidentity]⟩)
    · exact .inl ⟨_, by simp only [sealWith, hlatest]; rw [if_pos hidentity]⟩
  | none =>
    cases hclocks : request.clocks runtime.config.intervalEndMs with
    | none => exact .inl ⟨"T_MODEL_MINUTE_NOT_COMPLETE", by simp only [sealWith, hlatest, hclocks]⟩
    | some clocks => exact .inr (.inr ⟨rfl, clocks.1, clocks.2, rfl⟩)

def Asks (runtime : TModelMinuteBatchRuntime) (op : MinuteOp) (request : SealRequest) : Prop :=
  op = .request request ∨ ∃ ticks, op = .boundary ticks ∧ request = runtime.boundaryRequest ticks

inductive Stepped (host : MinuteHost) (log : MinuteLog) (runtime : TModelMinuteBatchRuntime) (op : MinuteOp) : Prop
  | raised (message : String) (h : runtime.apply host op = (runtime, .error message))
  | accepted (tick : AcceptedTMarketTick) (hop : op = .accept tick) (hlatest : runtime.latest = none)
      (h : runtime.apply host op =
        ({ runtime with
            windows := runtime.windows.map fun other => if other.instrumentCode = tick.instrumentCode then other.take tick else other
            lastTicks := runtime.lastTicks.set tick.instrumentCode tick },
          .ok none))
  | again (batch : TModelMinuteBatch) (request : SealRequest) (hop : runtime.Asks op request) (hlatest : runtime.latest = some batch)
      (h : runtime.apply host op = (runtime, .ok (some batch)))
  | closed (request : SealRequest) (watermarkMs availableAtMs : Int) (windows : List TModelMinuteWindow) (outcomes : List TModelMinuteOutcome)
      (hop : runtime.Asks op request) (hlatest : runtime.latest = none)
      (hclocks : request.clocks runtime.config.intervalEndMs = some (watermarkMs, availableAtMs))
      (hcodes : windows.map TModelMinuteWindow.instrumentCode = runtime.contexts.map Prod.fst) (hsealed : ∀ w ∈ windows, w.outcome ≠ none ∧ w.ticks = [])
      (hall : List.Forall₂ (fun planned outcome =>
        (((window runtime.config planned).fed (given host planned.1 log)).sealWith host.toFeatureHost request).2 = .ok outcome)
        runtime.contexts outcomes)
      (h : runtime.apply host op =
        ({ runtime with
            windows
            latest := some (batchOf host runtime.config runtime.contexts watermarkMs availableAtMs request.identity outcomes) },
          .ok (some (batchOf host runtime.config runtime.contexts watermarkMs availableAtMs request.identity outcomes))))
  | advanced (codes : List String) (contexts : Dict String TModelMinuteContext) (config : MinuteConfig) (batch : TModelMinuteBatch)
      (windows : List TModelMinuteWindow) (hop : op = .advance codes contexts config) (hlatest : runtime.latest = some batch)
      (hnext : config.intervalStartMs = batch.intervalEndMs ∧ config.streamId = batch.streamId ∧
        config.continuityGeneration = batch.continuityGeneration)
      (hwindows : createWindows host codes contexts config = .ok windows)
      (h : runtime.apply host op = (ofWindows windows config, .ok none))

theorem stepped_request (h : Assembled host log runtime) {request : SealRequest} (hop : runtime.Asks op request)
    (happly : runtime.apply host op = ((runtime.sealWith host request).1, (runtime.sealWith host request).2.map some)) :
    Stepped host log runtime op := by
  rcases sealWith_cases h request with ⟨message, hseal⟩ | ⟨batch, hlatest, hseal⟩ | ⟨hlatest, watermarkMs, availableAtMs, hclocks⟩
  · exact .raised message (by rw [happly, hseal]; rfl)
  · exact .again batch request hop hlatest (by rw [happly, hseal]; rfl)
  · obtain ⟨windows, outcomes, hseal, hcodes, hsealed, hall⟩ := seal_unsealed h hlatest hclocks
    exact .closed request watermarkMs availableAtMs windows outcomes hop hlatest hclocks hcodes hsealed hall (by rw [happly, hseal]; rfl)

theorem stepped (h : Assembled host log runtime) (op : MinuteOp) : Stepped host log runtime op := by
  cases op with
  | accept tick =>
    cases haccept : runtime.acceptTick tick with
    | error message => exact .raised message (by simp only [apply, haccept])
    | ok after =>
      obtain ⟨hlatest, rfl⟩ := acceptTick_ok h haccept
      exact .accepted tick rfl hlatest (by simp only [apply, haccept])
  | request request => exact stepped_request h (.inl rfl) rfl
  | boundary ticks =>
    by_cases hscope : runtime.boundaryScope ticks
    · by_cases hnext : ticks.all runtime.boundaryTick
      · refine stepped_request h (.inr ⟨ticks, rfl, rfl⟩) ?_
        simp only [apply, sealFromAcceptedTicks]
        rw [if_neg (not_not.mpr hscope), if_neg (not_not.mpr hnext)]
      · refine .raised "T_MODEL_MINUTE_BOUNDARY_INVALID" ?_
        simp only [apply, sealFromAcceptedTicks]
        rw [if_neg (not_not.mpr hscope), if_pos hnext]
        rfl
    · refine .raised "T_MODEL_MINUTE_BOUNDARY_SCOPE_INVALID" ?_
      simp only [apply, sealFromAcceptedTicks]
      rw [if_pos hscope]
      rfl
  | advance codes contexts config =>
    cases hadvance : runtime.advance host codes contexts config with
    | error message => exact .raised message (by simp only [apply, hadvance])
    | ok after =>
      have happly : runtime.apply host (.advance codes contexts config) = (after, .ok none) := by simp only [apply, hadvance]
      unfold advance at hadvance
      split at hadvance
      next => cases hadvance
      next batch hlatest =>
        obtain ⟨⟨-, hnext⟩, hcreate⟩ := require_bind.mp hadvance
        obtain ⟨windows, hwindows, rfl⟩ := map_eq_ok.mp hcreate
        exact .advanced codes contexts config batch windows rfl hlatest hnext hwindows happly

theorem createWindows_ok {codes : List String} {config : MinuteConfig}
    (h : createWindows host codes contexts config = .ok windows) :
    ((windows.map fun w => (w.instrumentCode, w.context)).map Prod.fst).Nodup ∧
      windows = (windows.map fun w => (w.instrumentCode, w.context)).map (window config) := by
  obtain ⟨⟨-, -, hnodup⟩, h⟩ := require_bind.mp h
  obtain ⟨-, h⟩ := require_bind.mp h
  have hnew : ∀ code w, createWindow host contexts config code = .ok w → code = w.instrumentCode ∧ w = window config (w.instrumentCode, w.context) := by
    intro code w hw
    unfold createWindow at hw
    split at hw
    next context _ =>
      obtain ⟨-, hw⟩ := require_bind.mp hw
      obtain ⟨_, -, hw⟩ := bind_eq_ok.mp hw
      cases hw
      exact ⟨rfl, rfl⟩
    next => cases hw
  constructor
  · have hcodes : (codes.mergeSort fun a b => decide (a ≤ b)) = windows.map TModelMinuteWindow.instrumentCode := by
      rw [← List.forall₂_eq_eq_eq, List.forall₂_map_right_iff]
      exact (mapM_eq_ok.mp h).imp fun code w hw => (hnew code w hw).1
    rw [List.map_map]
    change (windows.map TModelMinuteWindow.instrumentCode).Nodup
    rw [← hcodes, (List.mergeSort_perm codes _).nodup_iff]
    exact hnodup
  · rw [List.map_map]
    refine (List.map_id windows).symm.trans (List.map_congr_left fun w hw => ?_)
    obtain ⟨code, -, hcode⟩ := (mapM_each h).2 w hw
    exact (hnew code w hcode).2

theorem assembled_of_created {codes : List String} {config : MinuteConfig}
    (h : createWindows host codes contexts config = .ok windows) (hlog : ∀ code, given host code log = []) :
    Assembled host log (ofWindows windows config) := by
  obtain ⟨hnodup, hwindows⟩ := createWindows_ok h
  refine ⟨hnodup, fun code => ?_, fun _ => ?_, by simp [ofWindows]⟩
  · rw [hlog]
    rfl
  · refine hwindows.trans (List.map_congr_left fun planned _ => ?_)
    rw [hlog]
    rfl

theorem given_raised {message : String} (h : runtime.apply host op = (runtime, .error message)) (code : String) (next : TModelMinuteBatchRuntime) :
    given host code (⟨runtime, op, next⟩ :: log) = given host code log := by
  cases op <;> simp [given, h, Except.isOk, Except.toBool]

theorem given_asks {request : SealRequest} (h : runtime.Asks op request) (code : String) (next : TModelMinuteBatchRuntime) :
    given host code (⟨runtime, op, next⟩ :: log) = given host code log := by
  rcases h with rfl | ⟨ticks, rfl, -⟩ <;> rfl

theorem given_accepted {tick : AcceptedTMarketTick} {after : TModelMinuteBatchRuntime} (h : runtime.apply host (.accept tick) = (after, .ok none))
    (code : String) (next : TModelMinuteBatchRuntime) : given host code (⟨runtime, .accept tick, next⟩ :: log) =
      if tick.instrumentCode = code then given host code log ++ [tick] else given host code log := by
  simp [given, h, Except.isOk, Except.toBool]

theorem Assembled.congr {log' : MinuteLog} (h : Assembled host log runtime) (hlog : ∀ code, given host code log' = given host code log) :
    Assembled host log' runtime := by
  refine ⟨h.nodup, fun code => ?_, fun hlatest => ?_, fun batch hlatest => ?_⟩
  · rw [hlog]
    exact h.last code
  · simp only [hlog]
    exact h.unsealed hlatest
  · simp only [hlog]
    exact h.sealed batch hlatest

theorem Assembled.step (h : Assembled host log runtime) (op : MinuteOp) :
    Assembled host (⟨runtime, op, runtime.step host op⟩ :: log) (runtime.step host op) := by
  unfold TModelMinuteBatchRuntime.step
  rcases stepped h op with ⟨message, happly⟩ | ⟨tick, rfl, hlatest, happly⟩ | ⟨batch, request, hop, hlatest, happly⟩ |
    ⟨request, watermarkMs, availableAtMs, windows, outcomes, hop, hlatest, hclocks, hcodes, hsealed, hall, happly⟩ |
    ⟨codes, contexts, config, batch, windows, rfl, hlatest, hnext, hwindows, happly⟩
  · rw [happly]
    exact h.congr fun code => given_raised happly code _
  · have hgiven := @given_accepted host runtime log tick _ happly
    rw [happly]
    refine ⟨h.nodup, fun code => ?_, fun _ => ?_, fun batch hbatch => ?_⟩
    · rw [hgiven, Dict.get?_set]
      split
      · rw [List.getLast?_concat]
      · exact h.last code
    · simp only [hgiven, h.unsealed hlatest, List.map_map]
      refine List.map_congr_left fun planned _ => ?_
      have hcode := (window_fed runtime.config planned (given host planned.1 log)).instrument
      simp only [Function.comp_apply, hcode]
      by_cases hthis : planned.1 = tick.instrumentCode
      · rw [if_pos hthis.symm, ← TModelMinuteWindow.fed_concat]
        exact if_pos hthis
      · rw [if_neg (Ne.symm hthis)]
        exact if_neg hthis
    · rw [hlatest] at hbatch
      cases hbatch
  · rw [happly]
    exact h.congr fun code => given_asks hop code _
  · have hgiven := @given_asks host runtime log op request hop
    rw [happly]
    refine ⟨h.nodup, fun code => ?_, by simp, ?_⟩
    · rw [hgiven]
      exact h.last code
    · rintro batch ⟨⟩
      simp only [hgiven]
      exact ⟨hcodes, hsealed, request, watermarkMs, availableAtMs, outcomes, hclocks, rfl, hall⟩
  · rw [happly]
    refine assembled_of_created hwindows fun code => ?_
    simp [given, happly, Except.isOk, Except.toBool]

theorem New.assembled (h : New host runtime) : Assembled host [] runtime := by
  obtain ⟨codes, contexts, config, hcreate⟩ := h
  obtain ⟨windows, hwindows, rfl⟩ := map_eq_ok.mp hcreate
  exact assembled_of_created hwindows fun _ => rfl

theorem MinuteRun.assembled (h : MinuteRun host log runtime) : Assembled host log runtime :=
  h.invariant (Assembled host) (fun _ hnew => hnew.assembled) fun _ _ op hassembled _ => hassembled.step op

theorem Assembled.outcomes (h : Assembled host log runtime) {batch : TModelMinuteBatch} (hlatest : runtime.latest = some batch) :
    ∃ (request : SealRequest) (watermarkMs availableAtMs : Int) (outcomes : List TModelMinuteOutcome),
      request.clocks runtime.config.intervalEndMs = some (watermarkMs, availableAtMs) ∧
      batch = batchOf host runtime.config runtime.contexts watermarkMs availableAtMs request.identity outcomes ∧
      List.Forall₂ (fun planned outcome => outcome.instrumentCode = planned.1 ∧ ∀ bar, TModelMinuteWindow.Complete outcome bar ↔
        request.identity = runtime.config.identity ∧ (given host planned.1 log).length ≤ runtime.config.maxTicks ∧
          (∀ tick ∈ given host planned.1 log, tick.instrumentCode = planned.1 ∧ tick.identity = runtime.config.identity) ∧
          buildCompleteFeatureBar host.toFeatureHost (given host planned.1 log) (TModelMinuteWindow.featureArgs runtime.config planned.2)
            watermarkMs availableAtMs = .ok bar) runtime.contexts outcomes := by
  obtain ⟨-, -, request, watermarkMs, availableAtMs, outcomes, hclocks, hbatch, hall⟩ := h.sealed batch hlatest
  refine ⟨request, watermarkMs, availableAtMs, outcomes, hclocks, hbatch, hall.imp fun planned outcome hseal => ?_⟩
  obtain ⟨outcome', closed, hseal', -, -, -, hcode, hcomplete⟩ :=
    @TModelMinuteWindow.Fed.sealed host.toFeatureHost _ _ _ _ _ _ (window_fed runtime.config planned (given host planned.1 log)) rfl hclocks
  rw [hseal'] at hseal
  cases hseal
  exact ⟨hcode, hcomplete⟩

def Succeeds (newer older : TModelMinuteBatch) : Prop :=
  newer.intervalStartMs = older.intervalEndMs ∧ newer.streamId = older.streamId ∧ newer.continuityGeneration = older.continuityGeneration

/-- The batches so far are of one minute after another, and the runtime is in the last of them or in the next one. -/
structure Contiguous (log : MinuteLog) (runtime : TModelMinuteBatchRuntime) : Prop where
  chain : (batches log).IsChain Succeeds
  minutes : ∀ batch ∈ batches log, batch.intervalEndMs = batch.intervalStartMs + 60000
  sealed : ∀ batch, runtime.latest = some batch → (batches log).head? = some batch
  unsealed : runtime.latest = none → ∀ batch ∈ (batches log).head?, runtime.config.intervalStartMs = batch.intervalEndMs ∧
    runtime.config.streamId = batch.streamId ∧ runtime.config.continuityGeneration = batch.continuityGeneration

theorem batches_same {next : TModelMinuteBatchRuntime} (h : runtime.latest = none → next.latest = none) :
    batches (⟨runtime, op, next⟩ :: log) = batches log := by
  cases hlatest : runtime.latest with
  | none => simp only [batches, hlatest, h hlatest]
  | some batch => simp only [batches, hlatest]

theorem Contiguous.same (h : Contiguous log runtime) : Contiguous (⟨runtime, op, runtime⟩ :: log) runtime := by
  have hbatches := @batches_same runtime log op runtime id
  exact ⟨hbatches ▸ h.chain, hbatches ▸ h.minutes, hbatches ▸ h.sealed, hbatches ▸ h.unsealed⟩

theorem Contiguous.step (h : Contiguous log runtime) (hassembled : Assembled host log runtime) (op : MinuteOp) :
    Contiguous (⟨runtime, op, runtime.step host op⟩ :: log) (runtime.step host op) := by
  unfold TModelMinuteBatchRuntime.step
  rcases stepped hassembled op with ⟨message, happly⟩ | ⟨tick, rfl, hlatest, happly⟩ | ⟨batch, request, hop, hlatest, happly⟩ |
    ⟨request, watermarkMs, availableAtMs, windows, outcomes, hop, hlatest, hclocks, hcodes, hsealed, hall, happly⟩ |
    ⟨codes, contexts, config, batch, windows, rfl, hlatest, hnext, hwindows, happly⟩
  · rw [happly]
    exact h.same
  · rw [happly]
    have hbatches := @batches_same runtime log (.accept tick)
      { runtime with
        windows := runtime.windows.map fun other => if other.instrumentCode = tick.instrumentCode then other.take tick else other
        lastTicks := runtime.lastTicks.set tick.instrumentCode tick } id
    exact ⟨hbatches ▸ h.chain, hbatches ▸ h.minutes, hbatches ▸ h.sealed, hbatches ▸ h.unsealed⟩
  · rw [happly]
    exact h.same
  · rw [happly]
    have hbatches : batches (⟨runtime, op, { runtime with
          windows
          latest := some (batchOf host runtime.config runtime.contexts watermarkMs availableAtMs request.identity outcomes) }⟩ :: log) =
        batchOf host runtime.config runtime.contexts watermarkMs availableAtMs request.identity outcomes :: batches log := by
      simp only [batches, hlatest]
    refine ⟨?_, ?_, ?_, by simp⟩
    · rw [hbatches, List.isChain_cons]
      exact ⟨fun older holder => h.unsealed hlatest older holder, h.chain⟩
    · intro batch hbatch
      rw [hbatches] at hbatch
      rcases List.mem_cons.mp hbatch with rfl | hbatch
      · rfl
      · exact h.minutes batch hbatch
    · rintro batch ⟨⟩
      rw [hbatches]
      rfl
  · rw [happly]
    have hbatches := @batches_same runtime log (.advance codes contexts config) (ofWindows windows config) (by simp [hlatest])
    refine ⟨hbatches ▸ h.chain, hbatches ▸ h.minutes, by simp [ofWindows], fun _ older holder => ?_⟩
    rw [hbatches, h.sealed batch hlatest] at holder
    cases holder
    exact hnext

theorem MinuteRun.contiguous (h : MinuteRun host log runtime) : Contiguous log runtime := by
  refine (h.invariant (fun log runtime => Assembled host log runtime ∧ Contiguous log runtime) ?_ ?_).2
  · intro runtime hnew
    refine ⟨hnew.assembled, .nil, by simp [batches], ?_, by simp [batches]⟩
    obtain ⟨codes, contexts, config, hcreate⟩ := hnew
    obtain ⟨windows, -, rfl⟩ := map_eq_ok.mp hcreate
    simp [ofWindows]
  · rintro log runtime op ⟨hassembled, hcontiguous⟩ -
    exact ⟨hassembled.step op, hcontiguous.step hassembled op⟩

/-! ### Faithfulness -/

structure Honest (host : MinuteHost) (earlier : MinuteLog) (m : Moment TModelMinuteBatchRuntime MinuteOp) : Prop where
  raised : ∀ message, (m.before.apply host m.op).2 = .error message → m.after = m.before
  kept : ∀ batch, m.before.latest = some batch → m.after.latest = some batch ∨
    ∃ codes contexts config, m.op = .advance codes contexts config ∧ (m.before.apply host m.op).2 = .ok none
  refused : ∀ batch tick, m.before.latest = some batch → m.op = .accept tick → ∃ message, (m.before.apply host m.op).2 = .error message
  returned : ∀ batch, (m.before.apply host m.op).2 = .ok (some batch) → m.after.latest = some batch
  boundary : ∀ ticks result, m.op = .boundary ticks → (m.before.apply host m.op).2 = .ok result →
    (∀ w ∈ m.before.windows, ∃ tick ∈ ticks, tick.instrumentCode = w.instrumentCode) ∧ ∀ tick ∈ ticks,
      (∀ last ∈ (given host tick.instrumentCode earlier).getLast?, tick.acceptedSequence = last.acceptedSequence + 1) ∧
      ∀ w ∈ m.before.windows, w.instrumentCode = tick.instrumentCode → ∀ last ∈ w.ticks.getLast?, tick.acceptedSequence = last.acceptedSequence + 1

theorem Assembled.buffered (h : Assembled host log runtime) {w : TModelMinuteWindow} (hw : w ∈ runtime.windows) {last : AcceptedTMarketTick}
    (hlast : last ∈ w.ticks.getLast?) : last ∈ (given host w.instrumentCode log).getLast? := by
  cases hlatest : runtime.latest with
  | some batch =>
    rw [((h.sealed batch hlatest).2.1 w hw).2] at hlast
    cases hlast
  | none =>
    obtain ⟨planned, -, rfl, hcode, -⟩ := mem_windows h hlatest hw
    have hfed := window_fed runtime.config planned (given host planned.1 log)
    rw [hcode]
    by_cases hreason : ((window runtime.config planned).fed (given host planned.1 log)).reason = none
    · rw [(hfed.collected hreason).1] at hlast
      exact hlast
    · rw [(hfed.spoiled hreason).1] at hlast
      cases hlast

theorem sealFrom_ok (h : Assembled host log runtime) {ticks : List AcceptedTMarketTick} {result : Option TModelMinuteBatch}
    (hok : (runtime.apply host (.boundary ticks)).2 = .ok result) : runtime.boundaryScope ticks ∧ ∀ tick ∈ ticks,
      ∀ last ∈ (given host tick.instrumentCode log).getLast?, tick.acceptedSequence = last.acceptedSequence + 1 := by
  simp only [apply, sealFromAcceptedTicks] at hok
  by_cases hscope : runtime.boundaryScope ticks
  · rw [if_neg (not_not.mpr hscope)] at hok
    by_cases hnext : ticks.all runtime.boundaryTick
    · refine ⟨hscope, fun tick htick last hlast => ?_⟩
      have htick := List.all_eq_true.mp hnext tick htick
      simp only [boundaryTick, decide_eq_true_eq] at htick
      obtain ⟨-, -, -, -, hprevious⟩ := htick
      rw [← h.last] at hlast
      rw [Option.mem_def.mp hlast, Option.all_some, decide_eq_true_iff] at hprevious
      exact hprevious.1
    · rw [if_pos hnext] at hok
      cases hok
  · rw [if_pos hscope] at hok
    cases hok

theorem Assembled.honest (h : Assembled host log runtime) (op : MinuteOp) : Honest host log ⟨runtime, op, runtime.step host op⟩ where
  raised := by
    intro message hmessage
    simp only [TModelMinuteBatchRuntime.step] at hmessage ⊢
    rcases stepped h op with ⟨message, happly⟩ | ⟨tick, rfl, hlatest, happly⟩ | ⟨batch, request, hop, hlatest, happly⟩ |
      ⟨request, watermarkMs, availableAtMs, windows, outcomes, hop, hlatest, hclocks, hcodes, hsealed, hall, happly⟩ |
      ⟨codes, contexts, config, batch, windows, rfl, hlatest, hnext, hwindows, happly⟩
    all_goals rw [happly] at hmessage ⊢
    all_goals cases hmessage
  kept := by
    intro batch hbatch
    simp only [TModelMinuteBatchRuntime.step] at hbatch ⊢
    rcases stepped h op with ⟨message, happly⟩ | ⟨tick, rfl, hlatest, happly⟩ | ⟨batch', request, hop, hlatest, happly⟩ |
      ⟨request, watermarkMs, availableAtMs, windows, outcomes, hop, hlatest, hclocks, hcodes, hsealed, hall, happly⟩ |
      ⟨codes, contexts, config, batch', windows, rfl, hlatest, hnext, hwindows, happly⟩
    · rw [happly]
      exact .inl hbatch
    · rw [hlatest] at hbatch
      cases hbatch
    · rw [happly]
      exact .inl hbatch
    · rw [hlatest] at hbatch
      cases hbatch
    · exact .inr ⟨codes, contexts, config, rfl, by rw [happly]⟩
  refused := by
    rintro batch tick hbatch rfl
    simp only at hbatch ⊢
    rcases stepped h (.accept tick) with ⟨message, happly⟩ | ⟨tick', -, hlatest, -⟩ | ⟨batch', request, hop, -⟩ |
      ⟨request, watermarkMs, availableAtMs, windows, outcomes, hop, -⟩ | ⟨codes, contexts, config, batch', windows, hop, -⟩
    · exact ⟨message, by rw [happly]⟩
    · rw [hlatest] at hbatch
      cases hbatch
    · rcases hop with hop | ⟨ticks, hop, -⟩ <;> cases hop
    · rcases hop with hop | ⟨ticks, hop, -⟩ <;> cases hop
    · cases hop
  returned := by
    intro batch hbatch
    simp only [TModelMinuteBatchRuntime.step] at hbatch ⊢
    rcases stepped h op with ⟨message, happly⟩ | ⟨tick, rfl, hlatest, happly⟩ | ⟨batch', request, hop, hlatest, happly⟩ |
      ⟨request, watermarkMs, availableAtMs, windows, outcomes, hop, hlatest, hclocks, hcodes, hsealed, hall, happly⟩ |
      ⟨codes, contexts, config, batch', windows, rfl, hlatest, hnext, hwindows, happly⟩
    all_goals rw [happly] at hbatch ⊢
    all_goals cases hbatch
    · exact hlatest
    · rfl
  boundary := by
    rintro ticks result rfl hok
    obtain ⟨⟨-, -, hscope⟩, hnext⟩ := sealFrom_ok h hok
    refine ⟨fun w hw => ?_, fun tick htick => ⟨hnext tick htick, fun w hw hcode last hlast => ?_⟩⟩
    · obtain ⟨tick, htick, hcode⟩ := List.mem_map.mp (hscope w hw)
      exact ⟨tick, htick, hcode⟩
    · exact hnext tick htick last (hcode ▸ h.buffered hw hlast)

structure SealedFaithful (host : MinuteHost) (log : MinuteLog) (runtime : TModelMinuteBatchRuntime) (batch : TModelMinuteBatch) : Prop where
  planned : batch.universeCodes = runtime.contexts.map Prod.fst ∧ batch.universeCodes.Nodup ∧
    batch.outcomes.map TModelMinuteOutcome.instrumentCode = batch.universeCodes
  complete : ∀ code bar, (∃ outcome ∈ batch.outcomes, outcome.instrumentCode = code ∧ outcome.status = .complete ∧ outcome.featureBar = some bar) ↔
    ∃ context, (code, context) ∈ runtime.contexts ∧ (given host code log).length ≤ runtime.config.maxTicks ∧
      (∀ tick ∈ given host code log, tick.instrumentCode = code ∧ tick.identity = (batch.streamId, batch.continuityGeneration)) ∧
      (batch.watermarkStreamId, batch.watermarkContinuityGeneration) = (batch.streamId, batch.continuityGeneration) ∧
      buildCompleteFeatureBar host.toFeatureHost (given host code log) (TModelMinuteWindow.featureArgs runtime.config context)
        batch.watermarkMs batch.availableAtMs = .ok bar

theorem Assembled.faithful (h : Assembled host log runtime) {batch : TModelMinuteBatch} (hlatest : runtime.latest = some batch) :
    SealedFaithful host log runtime batch := by
  obtain ⟨request, watermarkMs, availableAtMs, outcomes, -, rfl, hall⟩ := h.outcomes hlatest
  refine ⟨⟨rfl, h.nodup, ?_⟩, fun code bar => ?_⟩
  · change outcomes.map TModelMinuteOutcome.instrumentCode = runtime.contexts.map Prod.fst
    rw [← List.forall₂_eq_eq_eq, List.forall₂_map_left_iff, List.forall₂_map_right_iff]
    exact (hall.imp fun _ _ houtcome => houtcome.1).flip
  · constructor
    · rintro ⟨outcome, houtcome, rfl, hcomplete⟩
      obtain ⟨planned, hplanned, hcode, hiff⟩ := (forall₂_each hall).2 outcome houtcome
      obtain ⟨hidentity, hfew, hown, hbuilt⟩ := (hiff bar).mp hcomplete
      rw [hcode]
      exact ⟨planned.2, hplanned, hfew, hown, hidentity, hbuilt⟩
    · rintro ⟨context, hplanned, hfew, hown, hidentity, hbuilt⟩
      obtain ⟨outcome, houtcome, hcode, hiff⟩ := (forall₂_each hall).1 (code, context) hplanned
      exact ⟨outcome, houtcome, hcode, (hiff bar).mpr ⟨hidentity, hfew, hown, hbuilt⟩⟩

/-- Two runtimes of one minute whose symbols got the same ticks, in whatever order among the symbols. -/
structure SameMinute (host : MinuteHost) (log log' : MinuteLog) (runtime runtime' : TModelMinuteBatchRuntime) : Prop where
  config : runtime'.config = runtime.config
  contexts : runtime'.contexts = runtime.contexts
  ticks : ∀ code, given host code log' = given host code log

/-- Neither what a request returns nor a batch depends on the order among the symbols. -/
structure Interleaved (host : MinuteHost) (runtime runtime' : TModelMinuteBatchRuntime) : Prop where
  requested : runtime.latest = none → runtime'.latest = none → ∀ op request, runtime.Asks op request →
    (runtime'.apply host op).2 = (runtime.apply host op).2
  sealed : ∀ batch batch', runtime.latest = some batch → runtime'.latest = some batch' →
    batch'.watermarkMs = batch.watermarkMs → batch'.availableAtMs = batch.availableAtMs → batch'.watermarkStreamId = batch.watermarkStreamId →
    batch'.watermarkContinuityGeneration = batch.watermarkContinuityGeneration → batch' = batch

theorem sealWith_congr {runtime' : TModelMinuteBatchRuntime} (hconfig : runtime'.config = runtime.config)
    (hcontexts : runtime'.contexts = runtime.contexts) (hwindows : runtime'.windows = runtime.windows) (hlatest : runtime.latest = none)
    (hlatest' : runtime'.latest = none) (request : SealRequest) :
    (runtime'.sealWith host request).2 = (runtime.sealWith host request).2 := by
  simp only [sealWith, hlatest, hlatest', hconfig, hcontexts, hwindows]
  cases request.clocks runtime.config.intervalEndMs with
  | none => rfl
  | some clocks =>
    rcases sealWindows host request runtime.windows with ⟨windows, message | outcomes⟩
    · rfl
    · rfl

theorem SameMinute.interleaved {log' : MinuteLog} {runtime' : TModelMinuteBatchRuntime} (hsame : SameMinute host log log' runtime runtime')
    (h : Assembled host log runtime) (h' : Assembled host log' runtime') : Interleaved host runtime runtime' where
  requested := by
    intro hlatest hlatest' op request hop
    have hwindows : runtime'.windows = runtime.windows := by
      rw [h.unsealed hlatest, h'.unsealed hlatest', hsame.config, hsame.contexts]
      simp only [hsame.ticks]
    have hseal := @sealWith_congr host runtime runtime' hsame.config hsame.contexts hwindows hlatest hlatest'
    rcases hop with rfl | ⟨ticks, rfl, -⟩
    · simp only [apply, hseal]
    · have hscope : runtime'.boundaryScope ticks ↔ runtime.boundaryScope ticks := by simp only [boundaryScope, hwindows]
      have hnext : runtime'.boundaryTick = runtime.boundaryTick := by
        funext tick
        simp only [boundaryTick, hsame.config, h.last, h'.last, hsame.ticks]
      have hrequest : runtime'.boundaryRequest ticks = runtime.boundaryRequest ticks := by simp only [boundaryRequest, hsame.config]
      simp only [apply, sealFromAcceptedTicks, hscope, hnext, hrequest]
      split
      · rfl
      · split
        · rfl
        · rw [hseal]
  sealed := by
    intro batch batch' hbatch hbatch' hwatermark havailable hstream hgeneration
    obtain ⟨-, -, request, watermarkMs, availableAtMs, outcomes, hclocks, rfl, hall⟩ := h.sealed batch hbatch
    obtain ⟨-, -, request', watermarkMs', availableAtMs', outcomes', hclocks', rfl, hall'⟩ := h'.sealed batch' hbatch'
    obtain rfl : watermarkMs' = watermarkMs := hwatermark
    obtain rfl : availableAtMs' = availableAtMs := havailable
    have hidentity : request'.identity = request.identity := Prod.ext hstream hgeneration
    simp only [hsame.config, hsame.contexts, hsame.ticks] at hall'
    rw [hsame.config] at hclocks'
    have hseal : ∀ planned : String × TModelMinuteContext,
        ((window runtime.config planned).fed (given host planned.1 log)).sealWith host.toFeatureHost request' =
          ((window runtime.config planned).fed (given host planned.1 log)).sealWith host.toFeatureHost request := by
      intro planned
      have hconfig := (window_fed runtime.config planned (given host planned.1 log)).config
      refine TModelMinuteWindow.sealWith_congr hidentity ?_
      rw [hconfig]
      exact hclocks'.trans hclocks.symm
    simp only [hseal] at hall'
    have houtcomes : outcomes' = outcomes := Except.ok.inj ((mapM_eq_ok.mpr hall').symm.trans (mapM_eq_ok.mpr hall))
    rw [hsame.config, hsame.contexts, hidentity, houtcomes]

structure MinuteFaithful (host : MinuteHost) (log : MinuteLog) (runtime : TModelMinuteBatchRuntime) : Prop where
  sealed : ∀ batch, runtime.latest = some batch → SealedFaithful host log runtime batch
  interleaved : ∀ log' runtime', MinuteRun host log' runtime' → SameMinute host log log' runtime runtime' → Interleaved host runtime runtime'
  honest : ∀ later m earlier, log = later ++ m :: earlier → Honest host earlier m
  contiguous : (batches log).IsChain Succeeds
  minutes : ∀ batch ∈ batches log, batch.intervalEndMs = batch.intervalStartMs + 60000

theorem minute_faithful (hrun : MinuteRun host log runtime) : MinuteFaithful host log runtime where
  sealed := fun _ hbatch => (MinuteRun.assembled hrun).faithful hbatch
  interleaved := fun _ _ hrun' hsame => hsame.interleaved (MinuteRun.assembled hrun) (MinuteRun.assembled hrun')
  honest := fun later m earlier hlog =>
    @Run.each _ _ _ _ _ _ _ (Honest host) hrun (fun _ _ op hrun _ => (MinuteRun.assembled hrun).honest op) later m earlier hlog
  contiguous := (MinuteRun.contiguous hrun).chain
  minutes := (MinuteRun.contiguous hrun).minutes

def mondayHost : MinuteHost where
  localTime := fun t => ⟨"2026-01-05", (t / 60000 + 480).toNat % 1440⟩
  vectorHash := fun values => .ok (toString values)
  barHash := fun identity => .ok (identity.instrumentCode ++ identity.vectorHash)
  batchHash := fun batch => batch.streamId
  upper := upperText

def mondayConfig : MinuteConfig := ⟨1767576600000, "stream-1", "generation-1", 30000, 10⟩

theorem quotes_ne : stripText "quotes-v1" ≠ "" := by decide +kernel

def quotesContext : TModelMinuteContext := ⟨"quotes-v1", 1767576600000, 1767576600000, quotes_ne⟩

def mondayStart : TModelMinuteBatchRuntime := ofWindows [window mondayConfig ("600000.SH", quotesContext)] mondayConfig

theorem mondayStart_new : New mondayHost mondayStart := by
  refine ⟨["600000.SH"], Dict.empty.set "600000.SH" quotesContext, mondayConfig, ?_⟩
  have hcode : stripText "600000.SH" = "600000.SH" := by decide +kernel
  have hupper : upperText "600000.SH" = "600000.SH" := by decide +kernel
  have hwindow : TModelMinuteWindow.create mondayHost.toFeatureHost "600000.SH" mondayConfig quotesContext =
      .ok (window mondayConfig ("600000.SH", quotesContext)) := rfl
  have hplanned : ∀ code ∈ ["600000.SH"], stripText code ≠ "" ∧ code = mondayHost.upper (stripText code) := by
    intro code hmem
    rw [List.mem_singleton.mp hmem, hcode]
    exact ⟨by simp, hupper.symm⟩
  have hwindows : createWindows mondayHost ["600000.SH"] (Dict.empty.set "600000.SH" quotesContext) mondayConfig =
      .ok [window mondayConfig ("600000.SH", quotesContext)] := by
    refine require_bind.mpr ⟨⟨by simp, hplanned, by simp⟩, require_bind.mpr ⟨⟨by simp [Dict.keys, Dict.set, Dict.empty, Dict.put], ?_⟩, ?_⟩⟩
    · simp [Dict.keys, Dict.set, Dict.empty, Dict.put]
    · simp [createWindow, hwindow]
  rw [create, hwindows]
  rfl

theorem mondayCode_ne : "600000.SH" ≠ "" := by decide

theorem mondayDate_ne : "2026-01-05" ≠ "" := by decide

theorem mondayGeneration_ne : "generation-1" ≠ "" := by decide

theorem mondayStream_ne : "stream-1" ≠ "" := by decide

def mondayTick (sequence sourceMs : Nat) : AcceptedTMarketTick where
  streamId := "stream-1"
  acceptedSequence := sequence + 1
  receivedAtMs := 1767576600000 + sourceMs
  sample :=
    { instrumentCode := "600000.SH", tradeDate := "2026-01-05", sourceTimeMs := 1767576600000 + sourceMs
      tickOrdinal := 0, price := 10, continuityGeneration := "generation-1", bidPrice := some 10, askPrice := some 11
      bidVolume := some 300, askVolume := some 100, cumulativeAmount := some 5000, instrument_ne := mondayCode_ne
      tradeDate_ne := mondayDate_ne, generation_ne := mondayGeneration_ne }
  stream_ne := mondayStream_ne
  sequence_pos := Nat.succ_pos sequence
  fence_pos := Nat.succ_pos sequence

def mondayOps : List MinuteOp :=
  [.accept (mondayTick 0 20000), .request ⟨none, some 1767576660001, "other", "other"⟩, .accept (mondayTick 1 40000), .boundary [mondayTick 2 60000]]

theorem minute_faithful_monday : MinuteFaithful mondayHost (play (step mondayHost) mondayStart mondayOps).1 (play (step mondayHost) mondayStart mondayOps).2 ∧
    (play (step mondayHost) mondayStart mondayOps).2.latest.map (fun batch => batch.outcomes.map TModelMinuteOutcome.status) = some [.complete] :=
  ⟨minute_faithful (Run.of_play mondayStart_new mondayOps), by decide +kernel⟩

end TModelMinuteBatchRuntime
end QuantX
