import QuantX.TTrade.ModelFeatures

/-! # Minutes of a universe of symbols

Every planned symbol has a window for the minute, which is sealed once. Clocks of a request that are no integers are
`none`; the payload of a batch is always JSON, so its hash does not raise. -/

namespace QuantX
open Lib

inductive MinuteStatus where
  | complete
  | unavailable
  deriving DecidableEq, Repr

structure TModelMinuteOutcome where
  instrumentCode : String
  (intervalStartMs intervalEndMs : Int)
  status : MinuteStatus
  reason : String
  featureBar : Option TModelFeatureBar
  deriving DecidableEq, Repr

structure TModelMinuteContext where
  capabilityManifestVersion : String
  (marketContextAsOfMs sectorContextAsOfMs : Nat)
  capability_ne : stripText capabilityManifestVersion ≠ ""

structure MinuteConfig where
  intervalStartMs : Int
  (streamId continuityGeneration : String)
  maxGapMs : Int
  maxTicks : Nat
  deriving DecidableEq, Repr

namespace MinuteConfig

def intervalEndMs (config : MinuteConfig) : Int := config.intervalStartMs + 60000

def identity (config : MinuteConfig) : String × String := (config.streamId, config.continuityGeneration)

end MinuteConfig

structure SealRequest where
  (watermarkMs availableAtMs : Option Int)
  (streamId continuityGeneration : String)

namespace SealRequest

def identity (request : SealRequest) : String × String := (request.streamId, request.continuityGeneration)

def clocks (request : SealRequest) (intervalEndMs : Int) : Option (Int × Int) :=
  match request.watermarkMs, request.availableAtMs with
  | some watermarkMs, some availableAtMs =>
    if intervalEndMs ≤ watermarkMs ∧ watermarkMs ≤ availableAtMs then some (watermarkMs, availableAtMs) else none
  | _, _ => none

end SealRequest

structure TModelMinuteWindow where
  instrumentCode : String
  config : MinuteConfig
  context : TModelMinuteContext
  ticks : List AcceptedTMarketTick := []
  reason : Option String := none
  outcome : Option TModelMinuteOutcome := none

namespace TModelMinuteWindow
variable (host : FeatureHost) (window : TModelMinuteWindow)

def create (instrumentCode : String) (config : MinuteConfig) (context : TModelMinuteContext) : Except String TModelMinuteWindow := do
  require
    (instrumentCode ≠ "" ∧ config.streamId ≠ "" ∧ config.continuityGeneration ≠ "" ∧ context.capabilityManifestVersion ≠ "" ∧
      0 ≤ config.intervalStartMs ∧ config.intervalStartMs % 60000 = 0 ∧ 2 ≤ config.maxTicks ∧ 0 < config.maxGapMs ∧
      config.maxGapMs < 60000 ∧ context.marketContextAsOfMs ≤ config.intervalStartMs ∧ context.sectorContextAsOfMs ≤ config.intervalStartMs)
    "T_MODEL_MINUTE_CONFIG_INVALID"
  discard (marketSession host.localTime config.intervalStartMs)
  return { instrumentCode, config, context }

def featureArgs (config : MinuteConfig) (context : TModelMinuteContext) : FeatureArgs where
  intervalStartMs := config.intervalStartMs
  capabilityManifestVersion := context.capabilityManifestVersion
  marketContextAsOfMs := context.marketContextAsOfMs
  sectorContextAsOfMs := context.sectorContextAsOfMs
  maxGapMs := config.maxGapMs

def refusal (tick : AcceptedTMarketTick) : Option String :=
  if tick.instrumentCode ≠ window.instrumentCode ∨ tick.identity ≠ window.config.identity ∨ ¬tick.inMinute window.config.intervalStartMs then
    some "T_MODEL_FEATURE_CONTINUITY_INVALID"
  else if window.config.maxTicks ≤ window.ticks.length then some "T_MODEL_MINUTE_BUFFER_OVERFLOW"
  else if window.ticks.getLast?.all fun previous => previous.follows tick then none
  else some "T_MODEL_FEATURE_CONTINUITY_INVALID"

def take (tick : AcceptedTMarketTick) : TModelMinuteWindow :=
  if window.reason ≠ none then window
  else
    match window.refusal tick with
    | some reason =>
      { window with
        reason := some reason, ticks := [] }
    | none => { window with ticks := window.ticks ++ [tick] }

def acceptTick (tick : AcceptedTMarketTick) : Except String TModelMinuteWindow :=
  if window.outcome ≠ none then .error "T_MODEL_MINUTE_ALREADY_SEALED" else .ok (window.take tick)

def outcomeOf : Except String TModelFeatureBar → TModelMinuteOutcome
  | .ok bar => ⟨window.instrumentCode, window.config.intervalStartMs, window.config.intervalEndMs, .complete, "VALID", some bar⟩
  | .error reason =>
    ⟨window.instrumentCode, window.config.intervalStartMs, window.config.intervalEndMs, .unavailable, if reason = "" then "VALID" else reason, none⟩

/-- The end of `seal`, for a window without an outcome. -/
def close (request : SealRequest) : TModelMinuteWindow × Except String TModelMinuteOutcome :=
  match request.clocks window.config.intervalEndMs with
  | none => (window, .error "T_MODEL_MINUTE_NOT_COMPLETE")
  | some (watermarkMs, availableAtMs) =>
    let built := match window.reason with
      | some reason => .error reason
      | none => buildCompleteFeatureBar host window.ticks (featureArgs window.config window.context) watermarkMs availableAtMs
    ({ window with
        outcome := some (window.outcomeOf built), ticks := [] },
      .ok (window.outcomeOf built))

def sealWith (request : SealRequest) : TModelMinuteWindow × Except String TModelMinuteOutcome :=
  if request.identity ≠ window.config.identity then
    match window.outcome with
    | some _ => (window, .error "T_MODEL_MINUTE_WATERMARK_IDENTITY_INVALID")
    | none =>
      close host
        { window with
          reason := some "T_MODEL_MINUTE_WATERMARK_IDENTITY_INVALID", ticks := [] }
        request
  else
    match window.outcome with
    | some outcome => (window, .ok outcome)
    | none => window.close host request

end TModelMinuteWindow

/-! ## Batches -/

structure MinuteIdentity where
  (intervalStartMs intervalEndMs : Int)
  (streamId continuityGeneration : String)
  (watermarkMs availableAtMs : Int)
  (watermarkStreamId watermarkContinuityGeneration : String)
  universeCodes : List String
  outcomes : List TModelMinuteOutcome
  contexts : List (String × TModelMinuteContext)

structure TModelMinuteBatch extends MinuteIdentity where
  manifestHash : String

structure MinuteHost extends FeatureHost where
  upper : String → String
  batchHash : MinuteIdentity → String

structure TModelMinuteBatchRuntime where
  windows : List TModelMinuteWindow
  contexts : List (String × TModelMinuteContext)
  config : MinuteConfig
  lastTicks : Dict String AcceptedTMarketTick := Dict.empty
  latest : Option TModelMinuteBatch := none

namespace TModelMinuteBatchRuntime
variable (host : MinuteHost) (runtime : TModelMinuteBatchRuntime)

def createWindow (contexts : Dict String TModelMinuteContext) (config : MinuteConfig) (code : String) : Except String TModelMinuteWindow :=
  match contexts.get? code with
  | some context => TModelMinuteWindow.create host.toFeatureHost code config context
  | none => .error "T_MODEL_MINUTE_CONTEXT_SCOPE_INVALID"

def createWindows (codes : List String) (contexts : Dict String TModelMinuteContext) (config : MinuteConfig) :
    Except String (List TModelMinuteWindow) := do
  require (codes ≠ [] ∧ (∀ code ∈ codes, stripText code ≠ "" ∧ code = host.upper (stripText code)) ∧ codes.Nodup)
    "T_MODEL_MINUTE_UNIVERSE_INVALID"
  require ((∀ code ∈ contexts.keys, code ∈ codes) ∧ ∀ code ∈ codes, code ∈ contexts.keys) "T_MODEL_MINUTE_CONTEXT_SCOPE_INVALID"
  (codes.mergeSort fun a b => decide (a ≤ b)).mapM (createWindow host contexts config)

def ofWindows (windows : List TModelMinuteWindow) (config : MinuteConfig) : TModelMinuteBatchRuntime where
  windows := windows
  contexts := windows.map fun window => (window.instrumentCode, window.context)
  config := config

def create (codes : List String) (contexts : Dict String TModelMinuteContext) (config : MinuteConfig) :
    Except String TModelMinuteBatchRuntime := (createWindows host codes contexts config).map fun windows => ofWindows windows config

def acceptTick (tick : AcceptedTMarketTick) : Except String TModelMinuteBatchRuntime :=
  match runtime.windows.find? (·.instrumentCode = tick.instrumentCode) with
  | none => .error "T_MODEL_MINUTE_SYMBOL_NOT_PLANNED"
  | some window =>
    (window.acceptTick tick).map fun window =>
      { runtime with
        windows := runtime.windows.map fun other => if other.instrumentCode = tick.instrumentCode then window else other
        lastTicks := runtime.lastTicks.set tick.instrumentCode tick }

def sealWindows (request : SealRequest) : List TModelMinuteWindow → List TModelMinuteWindow × Except String (List TModelMinuteOutcome)
  | [] => ([], .ok [])
  | window :: rest =>
    match window.sealWith host.toFeatureHost request with
    | (window, .error message) => (window :: rest, .error message)
    | (window, .ok outcome) =>
      let (rest, outcomes) := sealWindows request rest
      (window :: rest, outcomes.map (outcome :: ·))

def batchOf (config : MinuteConfig) (contexts : List (String × TModelMinuteContext)) (watermarkMs availableAtMs : Int)
    (identity : String × String) (outcomes : List TModelMinuteOutcome) : TModelMinuteBatch :=
  let batch : MinuteIdentity :=
    { intervalStartMs := config.intervalStartMs, intervalEndMs := config.intervalEndMs, streamId := config.streamId
      continuityGeneration := config.continuityGeneration, watermarkMs, availableAtMs
      watermarkStreamId := identity.1, watermarkContinuityGeneration := identity.2
      universeCodes := contexts.map Prod.fst, outcomes, contexts }
  { batch with manifestHash := host.batchHash batch }

def sealWith (request : SealRequest) : TModelMinuteBatchRuntime × Except String TModelMinuteBatch :=
  match runtime.latest with
  | some batch =>
    if request.identity ≠ (batch.streamId, batch.continuityGeneration) then (runtime, .error "T_MODEL_MINUTE_WATERMARK_IDENTITY_INVALID")
    else (runtime, .ok batch)
  | none =>
    match request.clocks runtime.config.intervalEndMs with
    | none => (runtime, .error "T_MODEL_MINUTE_NOT_COMPLETE")
    | some (watermarkMs, availableAtMs) =>
      match sealWindows host request runtime.windows with
      | (windows, .error message) => ({ runtime with windows }, .error message)
      | (windows, .ok outcomes) =>
        let batch := batchOf host runtime.config runtime.contexts watermarkMs availableAtMs request.identity outcomes
        ({ runtime with
            windows, latest := some batch },
          .ok batch)

def boundaryScope (ticks : List AcceptedTMarketTick) : Prop :=
  ticks.length = runtime.windows.length ∧ (∀ tick ∈ ticks, tick.instrumentCode ∈ runtime.windows.map TModelMinuteWindow.instrumentCode) ∧
    ∀ window ∈ runtime.windows, window.instrumentCode ∈ ticks.map AcceptedTMarketTick.instrumentCode

instance (ticks : List AcceptedTMarketTick) : Decidable (runtime.boundaryScope ticks) := inferInstanceAs (Decidable (_ ∧ _))

def boundaryTick (tick : AcceptedTMarketTick) : Bool :=
  tick.identity = runtime.config.identity ∧ tick.discontinuityReason = none ∧ runtime.config.intervalEndMs ≤ tick.sample.sourceTimeMs ∧
    tick.sample.sourceTimeMs ≤ tick.receivedAtMs ∧
    (runtime.lastTicks.get? tick.instrumentCode).all fun previous =>
      tick.acceptedSequence = previous.acceptedSequence + 1 ∧ previous.marketFenceSequence < tick.marketFenceSequence ∧
        previous.receivedAtMs ≤ tick.receivedAtMs

def boundaryRequest (ticks : List AcceptedTMarketTick) : SealRequest where
  watermarkMs := some (((ticks.map fun tick => tick.sample.sourceTimeMs).min?).getD 0 : Nat)
  availableAtMs := some (((ticks.map fun tick => tick.receivedAtMs).max?).getD 0 : Nat)
  streamId := runtime.config.streamId
  continuityGeneration := runtime.config.continuityGeneration

def sealFromAcceptedTicks (ticks : List AcceptedTMarketTick) : TModelMinuteBatchRuntime × Except String TModelMinuteBatch :=
  if ¬runtime.boundaryScope ticks then (runtime, .error "T_MODEL_MINUTE_BOUNDARY_SCOPE_INVALID")
  else if ¬ticks.all runtime.boundaryTick then (runtime, .error "T_MODEL_MINUTE_BOUNDARY_INVALID")
  else runtime.sealWith host (runtime.boundaryRequest ticks)

def advance (codes : List String) (contexts : Dict String TModelMinuteContext) (config : MinuteConfig) : Except String TModelMinuteBatchRuntime :=
  match runtime.latest with
  | none => .error "T_MODEL_MINUTE_ADVANCE_BEFORE_SEAL"
  | some batch => do
    require
      ((batch.watermarkStreamId, batch.watermarkContinuityGeneration) = (batch.streamId, batch.continuityGeneration) ∧
        config.intervalStartMs = batch.intervalEndMs ∧ config.streamId = batch.streamId ∧
        config.continuityGeneration = batch.continuityGeneration)
      "T_MODEL_MINUTE_RESET_REQUIRED"
    create host codes contexts config

end TModelMinuteBatchRuntime
end QuantX
