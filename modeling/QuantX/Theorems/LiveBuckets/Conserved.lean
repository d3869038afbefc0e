import QuantX.Theorems.LiveBuckets.Projection

namespace QuantX
open Lib BucketLedger

variable {calendar : ExchangeCalendar} {host : ReplayHost} {hash : ReplayInputs → ProjectedInstruments → String}
  {inputs : ReplayInputs} {seed : Dict String (Dict Bucket SeedBucket)} {book : Book} {code : String} {fill : LiveAttributedFill}
  {fills : List LiveAttributedFill} {move : Move} {projection : LiveBucketProjection} {rows : List (Bucket × LiveBucketRow)}
variable {free : Nat}
variable {row : Bucket × LiveBucketRow}

/-! ## Volumes of fills -/

def sideVolume (fills : List LiveAttributedFill) (code side : String) : Int :=
  ((fills.filter fun fill => fill.instrumentCode = code && fill.side = side).map (·.volume)).sum

def lockedVolume (fills : List LiveAttributedFill) (code side : String) : Int :=
  sideVolume (fills.filter (·.bucket = "locked_core")) code side

def signedVolume (fill : LiveAttributedFill) : Int := if fill.side = "BUY" then fill.volume else -fill.volume

theorem sum_signedVolume (h : ∀ fill ∈ fills, fill.side = "BUY" ∨ fill.side = "SELL") (code : String) :
    (fills.map fun fill => if code = fill.instrumentCode then signedVolume fill else 0).sum =
      sideVolume fills code "BUY" - sideVolume fills code "SELL" := by
  induction fills with
  | nil => rfl
  | cons fill fills ih =>
    have hrest := ih fun f hf => h f (List.mem_cons_of_mem fill hf)
    rw [List.map_cons, List.sum_cons, hrest]
    rcases h fill List.mem_cons_self with hside | hside <;> by_cases hcode : code = fill.instrumentCode <;>
      simp [sideVolume, signedVolume, hside, hcode, Ne.symm] <;> ring

theorem sum_filter_locked (g : LiveAttributedFill → Int) (fills : List LiveAttributedFill) :
    ((fills.filter (·.bucket = "locked_core")).map g).sum = (fills.map fun fill => if fill.bucket = "locked_core" then g fill else 0).sum := by
  induction fills with
  | nil => rfl
  | cons fill fills ih => by_cases hlocked : fill.bucket = "locked_core" <;> simp [hlocked, ih]

theorem moveOf_isBuy (h : moveOf fill = some move) : move.isBuy = decide (fill.side = "BUY") := by
  unfold moveOf at h
  split at h
  · rename_i hside
    obtain rfl := Option.some.inj h
    simp [hside, Move.isBuy]
  · rename_i hside
    split at h
    · split at h
      · cases h
      · obtain rfl := Option.some.inj h
        simp [hside, Move.isBuy]
    · obtain ⟨plan, legs, target, parts, -, -, -, -, -, rfl⟩ := planMove_some h
      simp [hside, Move.isBuy]

theorem legsOf_spares {legs : List PyVal} {parts : List (Bucket × Nat)} (h : legsOf legs = some parts) :
    ∀ part ∈ parts, part.1 ≠ .lockedCore := by
  induction legs generalizing parts with
  | nil =>
    obtain rfl := Option.some.inj h
    simp
  | cons leg legs ih =>
    obtain ⟨part, rest, hpart, hrest, rfl⟩ := legsOf_cons h
    obtain ⟨fields, s, -, hs, -, -, hown⟩ := legOf_some hpart
    intro part' hmem
    rcases List.mem_cons.mp hmem with rfl | hmem
    · intro hlocked
      have hname := name_normalizeBucket hs
      rw [← hown, hlocked] at hname
      exact absurd (hname ▸ hs) (by decide)
    · exact ih hrest part' hmem

theorem moveOf_spares (h : moveOf fill = some move) : move.SparesLocked := by
  unfold moveOf at h
  intro n
  split at h
  · obtain rfl := Option.some.inj h
    rfl
  · split at h
    · split at h
      · cases h
      · rename_i hlocked
        obtain rfl := Option.some.inj h
        simp [Move.taken, hlocked]
    · obtain ⟨plan, legs, target, parts, -, -, -, -, hparts, rfl⟩ := planMove_some h
      exact takenFrom_eq_zero (legsOf_spares hparts) n

theorem bucket_locked_iff (h : fill.bucket ∈ knownBuckets.map Bucket.name) :
    normalizeBucket fill.bucket = .lockedCore ↔ fill.bucket = "locked_core" := by
  obtain ⟨bucket, -, hname⟩ := List.mem_map.mp h
  rw [← hname, normalizeBucket_name]
  cases bucket <;> simp [Bucket.name]

theorem brings_locked (hbucket : fill.bucket ∈ knownBuckets.map Bucket.name) (hvolume : 0 < fill.volume) (h : moveOf fill = some move) :
    (entryOf fill).brings .lockedCore = if fill.bucket = "locked_core" then signedVolume fill else 0 := by
  have hn : ((entryOf fill).volume : Int) = fill.volume := Int.toNat_of_nonneg hvolume.le
  have hmove : (entryOf fill).move = move := by simp [entryOf, h]
  have hlocked := bucket_locked_iff hbucket
  rw [Entry.brings, hn, hmove, signedVolume]
  unfold moveOf at h
  split at h
  · rename_i hside
    obtain rfl := Option.some.inj h
    simp [Move.entering, hside, hlocked]
  · rename_i hside
    split at h
    · split at h
      · cases h
      · rename_i hspared
        obtain rfl := Option.some.inj h
        simp [Move.entering, hlocked.not.mp hspared]
    · obtain ⟨plan, legs, target, parts, -, hplan, -, -, -, rfl⟩ := planMove_some h
      have htarget : normalizeBucket target ≠ .lockedCore := by
        intro hsame
        have hname := name_normalizeBucket hplan.target_mem
        rw [hsame] at hname
        exact absurd (hname ▸ hplan.target_mem) (by decide)
      by_cases hown : fill.bucket = "locked_core"
      · rw [Move.entering, if_neg htarget, if_pos (hlocked.mpr hown), if_pos hown, if_neg hside]
        ring
      · simp [Move.entering, htarget, hlocked.not.mpr hown, hown]

def LiveBucketRow.settledVolume (row : LiveBucketRow) : Int := row.totalVolume - row.todayBuyVolume

structure Attribution (rows : List (Bucket × LiveBucketRow)) (unexplained : Int) (frozen : Bucket → Int) : Prop where
  nonneg : ∀ row ∈ rows, 0 ≤ frozen row.1
  settled : ∀ row ∈ rows, frozen row.1 ≤ row.2.settledVolume
  whole : (rows.map fun row => frozen row.1).sum = unexplained

structure Conserves (calendar : ExchangeCalendar) (inputs : ReplayInputs) (seed : Dict String (Dict Bucket SeedBucket)) (code : String)
    (rows : List (Bucket × LiveBucketRow)) (total free : Nat) : Prop where
  volume : brokerVolume (inputs.brokerPositions.get? code) "volume" = .ok total
  usable : brokerVolume (inputs.brokerPositions.get? code) "can_use_volume" = .ok free
  buckets : rows.map Prod.fst = knownBuckets
  broker : (rows.map (·.2.totalVolume)).sum = total
  replayed : (rows.map (·.2.totalVolume)).sum = (knownBuckets.map fun bucket => (seedTotal seed code bucket : Int)).sum +
    sideVolume inputs.fills code "BUY" - sideVolume inputs.fills code "SELL"
  nonneg : ∀ row ∈ rows, 0 ≤ row.2.availableVolume ∧ 0 ≤ row.2.todayBuyVolume
  parts : ∀ row ∈ rows, row.2.availableVolume + row.2.todayBuyVolume ≤ row.2.totalVolume
  today : ∀ row ∈ rows, row.2.todayBuyVolume =
    (if calendar.date inputs.seedAsOf = calendar.date inputs.asOf then (seedToday seed code row.1 : Int) else 0) +
      enteredOn calendar.date (inputs.fills.map entryOf) code row.1 (calendar.date inputs.asOf)
  sellable : ∀ frozen, Attribution rows ((rows.map (·.2.settledVolume)).sum - free) frozen →
    ∀ row ∈ rows, row.2.availableVolume ≤ row.2.settledVolume - frozen row.1
  free : (rows.map (·.2.availableVolume)).sum ≤ free

def LockedKept (seed : Dict String (Dict Bucket SeedBucket)) (code : String) (rows : List (Bucket × LiveBucketRow)) : Prop :=
  ∀ row ∈ rows, row.1 = .lockedCore → (seedTotal seed code .lockedCore : Int) ≤ row.2.totalVolume

theorem Book.mem_rowsOf (h : row ∈ book.rowsOf code free) :
    row.2.totalVolume = book.total code row.1 ∧ row.2.todayBuyVolume = book.today code row.1 ∧
      row.2.availableVolume = max 0 (book.settled code row.1 - ((knownBuckets.map (book.settled code)).sum - free)) := by
  obtain ⟨bucket, -, rfl⟩ := List.mem_map.mp h
  exact ⟨rfl, rfl, rfl⟩

theorem Book.rowsOf_settled (h : row ∈ book.rowsOf code free) :
    row.2.settledVolume = book.settled code row.1 := by
  obtain ⟨htotal, htoday, -⟩ := mem_rowsOf h
  rw [LiveBucketRow.settledVolume, htotal, htoday, Book.total]
  ring

theorem Book.mem_of_rowsOf (book : Book) (code : String) (free : Nat) (bucket : Bucket) :
    ∃ row ∈ book.rowsOf code free, row.1 = bucket := by
  refine ⟨_, List.mem_map_of_mem (a := bucket) ?_, rfl⟩
  cases bucket <;> simp [knownBuckets]

theorem Book.rowsOf_sellable {frozen : Bucket → Int}
    (h : Attribution (book.rowsOf code free) (((book.rowsOf code free).map (·.2.settledVolume)).sum - free) frozen) :
    ∀ row ∈ book.rowsOf code free, row.2.availableVolume ≤ row.2.settledVolume - frozen row.1 := by
  obtain ⟨hnonneg, hsettled, hwhole⟩ := h
  have heach : ∀ bucket, 0 ≤ frozen bucket ∧ frozen bucket ≤ book.settled code bucket := by
    intro bucket
    obtain ⟨row, hrow, rfl⟩ := book.mem_of_rowsOf code free bucket
    exact ⟨hnonneg row hrow, (hsettled row hrow).trans_eq (rowsOf_settled hrow)⟩
  have hlocked := heach .lockedCore
  have hcore := heach .core
  have hswing := heach .swing
  simp only [rowsOf, knownBuckets, List.map_cons, List.map_nil, List.sum_cons, List.sum_nil, LiveBucketRow.settledVolume,
    Book.total] at hwhole
  intro row hrow
  rw [rowsOf_settled hrow, (mem_rowsOf hrow).2.2]
  simp only [knownBuckets, List.map_cons, List.map_nil, List.sum_cons, List.sum_nil]
  obtain ⟨bucket, -, rfl⟩ := List.mem_map.mp hrow
  cases bucket <;> dsimp only <;> omega

theorem Book.rowsOf_free (hsound : book.Sound) (h : (free : Int) ≤ (knownBuckets.map (book.settled code)).sum) :
    ((book.rowsOf code free).map (·.2.availableVolume)).sum ≤ free := by
  have hlocked := hsound.settled code .lockedCore
  have hcore := hsound.settled code .core
  have hswing := hsound.settled code .swing
  simp only [rowsOf, knownBuckets, List.map_cons, List.map_nil, List.sum_cons, List.sum_nil] at h ⊢
  omega

theorem Replays.each (h : Replays calendar inputs seed) : ∀ fill ∈ inputs.fills,
    WellFormed inputs.seedAsOf inputs.asOf fill ∧ (moveOf fill).isSome = true :=
  fun fill hfill => h.fills.each fill ((ordered_perm inputs).mem_iff.mpr hfill)

theorem Replays.sound (h : Replays calendar inputs seed) : (finalBook calendar inputs seed).Sound :=
  Book.advance_sound (Book.after_sound (bookOf_sound seed _) h.fills.admits) _

theorem bookOf_total (seed : Dict String (Dict Bucket SeedBucket)) (day : Int) (code : String) (bucket : Bucket) :
    (bookOf seed day).total code bucket = seedTotal seed code bucket := by
  simp [Book.total, bookOf]

theorem Book.instrumentVolume_advance (day : Int) : (book.advance day).instrumentVolume code = book.instrumentVolume code := by
  simp [Book.instrumentVolume, knownBuckets]

theorem entryOf_signed (h : (moveOf fill).isSome = true) (hvolume : 0 < fill.volume) : (entryOf fill).signed = signedVolume fill := by
  obtain ⟨move, hmove⟩ := Option.isSome_iff_exists.mp h
  have hn : ((entryOf fill).volume : Int) = fill.volume := Int.toNat_of_nonneg hvolume.le
  have hown : (entryOf fill).move = move := by simp [entryOf, hmove]
  simp [Entry.signed, signedVolume, hn, hown, moveOf_isBuy hmove]

theorem Replays.instrumentVolume (h : Replays calendar inputs seed) (code : String) :
    (finalBook calendar inputs seed).instrumentVolume code =
      (knownBuckets.map fun bucket => (seedTotal seed code bucket : Int)).sum +
        sideVolume inputs.fills code "BUY" - sideVolume inputs.fills code "SELL" := by
  have hstart : (bookOf seed (calendar.date inputs.seedAsOf)).instrumentVolume code =
      (knownBuckets.map fun bucket => (seedTotal seed code bucket : Int)).sum := by
    simp [Book.instrumentVolume, knownBuckets, bookOf_total]
  have hfills : (inputs.fills.map fun fill => if code = (entryOf fill).code then (entryOf fill).signed else 0) =
      inputs.fills.map fun fill => if code = fill.instrumentCode then signedVolume fill else 0 := by
    refine List.map_congr_left fun fill hfill => ?_
    obtain ⟨hformed, hmoves⟩ := h.each fill hfill
    rw [entryOf_signed hmoves hformed.volume]
    rfl
  rw [finalBook, Book.instrumentVolume_advance, Book.instrumentVolume_after h.fills.admits, hstart, sum_ordered, hfills,
    sum_signedVolume fun fill hfill => (h.each fill hfill).1.side]
  ring

theorem Replays.today (h : Replays calendar inputs seed) (code : String) (bucket : Bucket) :
    (finalBook calendar inputs seed).today code bucket =
      (if calendar.date inputs.seedAsOf = calendar.date inputs.asOf then (seedToday seed code bucket : Int) else 0) +
        enteredOn calendar.date (inputs.fills.map entryOf) code bucket (calendar.date inputs.asOf) := by
  have hmem : ∀ e ∈ inputs.ordered.map entryOf, ∃ fill ∈ inputs.fills, entryOf fill = e := by
    intro e he
    obtain ⟨fill, hfill, rfl⟩ := List.mem_map.mp he
    exact ⟨fill, (ordered_perm inputs).mem_iff.mp hfill, rfl⟩
  have hsum : enteredOn calendar.date (inputs.ordered.map entryOf) code bucket (calendar.date inputs.asOf) =
      enteredOn calendar.date (inputs.fills.map entryOf) code bucket (calendar.date inputs.asOf) := by
    rw [enteredOn, sum_ordered, enteredOn, List.map_map]
    rfl
  rw [finalBook, Book.today_after (ordered_timed inputs) calendar.date_mono, hsum]
  · rfl
  · intro e he
    obtain ⟨fill, hfill, rfl⟩ := hmem e he
    exact calendar.date_mono (h.each fill hfill).1.since.le
  · intro e he
    obtain ⟨fill, hfill, rfl⟩ := hmem e he
    exact calendar.date_mono (h.each fill hfill).1.past

theorem Replays.locked (h : Replays calendar inputs seed) (code : String) :
    (finalBook calendar inputs seed).total code .lockedCore =
      seedTotal seed code .lockedCore + (lockedVolume inputs.fills code "BUY" - lockedVolume inputs.fills code "SELL") := by
  have hspares : ∀ e ∈ inputs.ordered.map entryOf, e.move.SparesLocked := by
    intro e he
    obtain ⟨fill, hfill, rfl⟩ := List.mem_map.mp he
    obtain ⟨move, hmove⟩ := Option.isSome_iff_exists.mp (h.fills.each fill hfill).2
    have hown : (entryOf fill).move = move := by simp [entryOf, hmove]
    exact hown ▸ moveOf_spares hmove
  have hfills : (inputs.fills.map fun fill => if code = (entryOf fill).code then (entryOf fill).brings .lockedCore else 0) =
      inputs.fills.map fun fill => if fill.bucket = "locked_core" then
        (if code = fill.instrumentCode then signedVolume fill else 0) else 0 := by
    refine List.map_congr_left fun fill hfill => ?_
    obtain ⟨hformed, hmoves⟩ := h.each fill hfill
    obtain ⟨move, hmove⟩ := Option.isSome_iff_exists.mp hmoves
    rw [brings_locked hformed.bucket hformed.volume hmove]
    have hcode : (entryOf fill).code = fill.instrumentCode := rfl
    rw [hcode]
    split <;> split <;> rfl
  rw [finalBook, Book.total_advance, Book.locked_after hspares, bookOf_total, sum_ordered, hfills, ← sum_filter_locked,
    sum_signedVolume fun fill hfill => (h.each fill (List.mem_of_mem_filter hfill)).1.side]
  rfl

theorem Replays.conserves (h : Replays calendar inputs seed) {total free : Nat}
    (hrows : Projected (finalBook calendar inputs seed) inputs.brokerPositions code rows total free) :
    Conserves calendar inputs seed code rows total free := by
  obtain ⟨hvolume, husable, hagrees, -, hsettled, rfl⟩ := hrows
  have hsound := h.sound
  have htotals : (((finalBook calendar inputs seed).rowsOf code free).map (·.2.totalVolume)).sum =
      (finalBook calendar inputs seed).instrumentVolume code := by
    simp [Book.rowsOf, Book.instrumentVolume, Function.comp_def]
  refine ⟨hvolume, husable, ?_, htotals.trans hagrees, htotals.trans (h.instrumentVolume code), fun row hrow => ?_, fun row hrow => ?_,
    fun row hrow => ?_, fun frozen hfrozen => Book.rowsOf_sellable hfrozen, Book.rowsOf_free hsound hsettled⟩
  · rw [Book.rowsOf, List.map_map]
    exact List.map_id _
  · obtain ⟨-, htoday, havailable⟩ := Book.mem_rowsOf hrow
    rw [havailable, htoday]
    exact ⟨le_max_left _ _, hsound.today code row.1⟩
  · obtain ⟨htotal, htoday, havailable⟩ := Book.mem_rowsOf hrow
    have hown := hsound.settled code row.1
    rw [htotal, htoday, havailable, Book.total]
    omega
  · obtain ⟨-, htoday, -⟩ := Book.mem_rowsOf hrow
    rw [htoday, h.today]

theorem Replays.locked_iff (h : Replays calendar inputs seed) {total free : Nat}
    (hrows : Projected (finalBook calendar inputs seed) inputs.brokerPositions code rows total free) :
    LockedKept seed code rows ↔ lockedVolume inputs.fills code "SELL" ≤ lockedVolume inputs.fills code "BUY" := by
  obtain ⟨-, -, -, -, -, rfl⟩ := hrows
  have hlocked := h.locked code
  constructor
  · intro hkept
    obtain ⟨row, hrow, hbucket⟩ := Book.mem_of_rowsOf (finalBook calendar inputs seed) code free .lockedCore
    have hle := hkept row hrow hbucket
    rw [(Book.mem_rowsOf hrow).1, hbucket, hlocked] at hle
    omega
  · intro hle row hrow hbucket
    rw [(Book.mem_rowsOf hrow).1, hbucket, hlocked]
    omega

theorem lockedVolume_eq_zero (h : ∀ fill ∈ fills, fill.instrumentCode ≠ code) (side : String) : lockedVolume fills code side = 0 := by
  have hnone : (fills.filter (·.bucket = "locked_core")).filter (fun fill => fill.instrumentCode = code && fill.side = side) = [] := by
    refine List.filter_eq_nil_iff.mpr fun fill hfill => ?_
    simp [h fill (List.mem_of_mem_filter hfill)]
  rw [lockedVolume, sideVolume, hnone]
  rfl

/-- A replay that succeeds conserves every instrument and reports no more than can be sold, and the locked buckets
    exactly where their sells stay within their purchases. -/
theorem replay_conserves_iff (calendar : ExchangeCalendar) (host : ReplayHost) (hash : ReplayInputs → ProjectedInstruments → String)
    (inputs : ReplayInputs) (projection : LiveBucketProjection)
    (h : replayLiveBucketProjection calendar host hash inputs = .ok projection) :
    ∃ seed, validateSeed inputs.seed = .ok seed ∧
      (∀ code ∈ seed.keys ++ inputs.fills.map (·.instrumentCode) ++ inputs.brokerPositions.keys,
        ∃ rows, (code, rows) ∈ projection.instruments) ∧
      ((∀ code rows, (code, rows) ∈ projection.instruments →
          (∃ total free, Conserves calendar inputs seed code rows total free) ∧ LockedKept seed code rows) ↔
        ∀ code, lockedVolume inputs.fills code "SELL" ≤ lockedVolume inputs.fills code "BUY") := by
  rcases replay_cases calendar host hash inputs with ⟨-, e, he⟩ | ⟨seed, hreplays, hprojects⟩
  · cases he.symm.trans h
  rw [hprojects] at h
  cases hbook : projectBook (finalBook calendar inputs seed) inputs.brokerPositions (projectedCodes inputs seed) with
  | error e =>
    rw [hbook] at h
    cases h
  | ok instruments =>
    rw [hbook] at h
    obtain rfl := Except.ok.inj h
    obtain ⟨hrows, hcodes⟩ := projectBook_ok hbook
    have hknown : ∀ code ∈ seed.keys ++ inputs.fills.map (·.instrumentCode) ++ inputs.brokerPositions.keys,
        ∃ rows, (code, rows) ∈ instruments :=
      fun code hcode => hcodes code (mem_sortedSet.mpr hcode)
    refine ⟨seed, hreplays.validSeed, hknown, fun hkept code => ?_, fun hbounds code rows hmem => ?_⟩
    · by_cases htraded : ∀ fill ∈ inputs.fills, fill.instrumentCode ≠ code
      · rw [lockedVolume_eq_zero htraded, lockedVolume_eq_zero htraded]
      · simp only [not_forall, not_not] at htraded
        obtain ⟨fill, hfill, rfl⟩ := htraded
        obtain ⟨rows, hmem⟩ := hknown fill.instrumentCode
          (List.mem_append_left _ (List.mem_append_right _ (List.mem_map_of_mem hfill)))
        obtain ⟨total, free, hprojected⟩ := project_ok (hrows _ rows hmem)
        exact (hreplays.locked_iff hprojected).mp (hkept _ rows hmem).2
    · obtain ⟨total, free, hprojected⟩ := project_ok (hrows code rows hmem)
      exact ⟨⟨total, free, hreplays.conserves hprojected⟩, (hreplays.locked_iff hprojected).mpr (hbounds code)⟩

/-- Days of China, eight hours ahead; their texts are told apart by the distance from the epoch. -/
def chinaCalendar : ExchangeCalendar where
  date instant := (instant + 28800000000) / 86400000000
  isoformat day := "1970-01-01" ++ String.ofList (List.replicate day.toNat '+' ++ List.replicate (-day).toNat '-')
  date_mono := fun _ _ h => Int.ediv_le_ediv (by decide) (by omega)
  isoformat_injective := by
    intro day day' h
    have htexts := congrArg String.toList h
    have hafter := congrArg (List.count '+') htexts
    have hbefore := congrArg (List.count '-') htexts
    simp [List.count_replicate] at hafter hbefore
    omega

def plainHost : ReplayHost := ⟨fun _ => "3f2c9d1a-7b64-4a55-9a43-0f4c6f1f8e21", fun _ => "1970-01-01T08:00:00"⟩

def seedField (lockedCore core swing : Int × Int) : PyVal :=
  let row := fun (volumes : Int × Int) => PyVal.dict [("total_volume", .int volumes.1), ("today_buy_volume", .int volumes.2)]
  .dict [("600000.SH", .dict [("locked_core", row lockedCore), ("core", row core), ("swing", row swing)])]

/-- A plan that sells from one bucket and hands today's purchases of another one over. -/
def planField (requested target sold : String) (volume : Int) : PyVal :=
  .dict [("enabled", .bool true), ("requested_bucket", .str requested), ("reattribute_buy_to_bucket", .str target),
    ("sell_from_buckets", .list [.dict [("bucket", .str sold), ("volume", .int volume)]])]

/-- Today's purchases of the locked bucket stand in for the core shares that are sold. -/
def handedOver : ReplayInputs where
  seed := seedField (200, 200) (100, 0) (0, 0)
  seedAsOf := 0
  asOf := 2
  fills := [⟨"fill", "order", "600000.SH", "SELL", 100, some 10, 1, "locked_core", planField "locked_core" "core" "core" 100⟩]
  brokerPositions := Dict.empty.set "600000.SH" (.dict [("volume", .int 200), ("can_use_volume", .int 0)])

theorem handedOver_projects : replayLiveBucketProjection chinaCalendar plainHost (fun _ _ => "") handedOver =
    .ok ⟨[("600000.SH", [(.lockedCore, ⟨100, 100, 0⟩), (.core, ⟨100, 100, 0⟩), (.swing, ⟨0, 0, 0⟩)])], ""⟩ := by
  decide +kernel

/-- The locked bucket ends below its seed. -/
theorem handedOver_breaks_locked : ∃ projection seed rows,
    replayLiveBucketProjection chinaCalendar plainHost (fun _ _ => "") handedOver = .ok projection ∧
      validateSeed handedOver.seed = .ok seed ∧ ("600000.SH", rows) ∈ projection.instruments ∧ ¬ LockedKept seed "600000.SH" rows := by
  have hseed : (validateSeed handedOver.seed).map (fun seed => seedTotal seed "600000.SH" .lockedCore) = .ok 200 := by decide +kernel
  cases h : validateSeed handedOver.seed with
  | error e =>
    rw [h] at hseed
    cases hseed
  | ok seed =>
    rw [h] at hseed
    have htotal : seedTotal seed "600000.SH" .lockedCore = 200 := Except.ok.inj hseed
    refine ⟨_, seed, _, handedOver_projects, rfl, List.mem_cons_self, fun hkept => ?_⟩
    have hle := hkept _ List.mem_cons_self rfl
    rw [htotal] at hle
    exact absurd hle (by decide)

theorem replay_conserves_handedOver : ∃ seed, validateSeed handedOver.seed = .ok seed ∧
    (∀ code ∈ seed.keys ++ handedOver.fills.map (·.instrumentCode) ++ handedOver.brokerPositions.keys, ∃ rows,
      (code, rows) ∈ [("600000.SH", [(Bucket.lockedCore, (⟨100, 100, 0⟩ : LiveBucketRow)), (.core, ⟨100, 100, 0⟩), (.swing, ⟨0, 0, 0⟩)])]) ∧
    ((∀ code rows, (code, rows) ∈ [("600000.SH", [(Bucket.lockedCore, (⟨100, 100, 0⟩ : LiveBucketRow)), (.core, ⟨100, 100, 0⟩),
        (.swing, ⟨0, 0, 0⟩)])] →
        (∃ total free, Conserves chinaCalendar handedOver seed code rows total free) ∧ LockedKept seed code rows) ↔
      ∀ code, lockedVolume handedOver.fills code "SELL" ≤ lockedVolume handedOver.fills code "BUY") :=
  replay_conserves_iff chinaCalendar plainHost (fun _ _ => "") handedOver _ handedOver_projects

end QuantX
