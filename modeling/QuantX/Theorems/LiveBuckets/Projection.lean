import QuantX.Theorems.LiveBuckets.Replay

/-! # What a replay projects

A replay that succeeds has taken every fill, and its rows are read off the book. -/

namespace QuantX
open Lib BucketLedger

variable {calendar : ExchangeCalendar} {host : ReplayHost} {hash : ReplayInputs → ProjectedInstruments → String}
  {inputs : ReplayInputs} {seed : Dict String (Dict Bucket SeedBucket)} {ledger : BucketLedger} {book : Book} {code : String}
  {positions : Dict String PyVal} {rows : List (Bucket × LiveBucketRow)}

def Book.rowsOf (book : Book) (code : String) (free : Nat) : List (Bucket × LiveBucketRow) :=
  knownBuckets.map fun bucket => (bucket, ⟨book.total code bucket, book.today code bucket,
    max 0 (book.settled code bucket - ((knownBuckets.map (book.settled code)).sum - free))⟩)

def Book.project (book : Book) (positions : Dict String PyVal) (code : String) : Except String (List (Bucket × LiveBucketRow)) := do
  let total ← brokerVolume (positions.get? code) "volume"
  let free ← brokerVolume (positions.get? code) "can_use_volume"
  if (total : Int) ≠ book.instrumentVolume code ∨ total < free then throw "LIVE_BUCKET_BROKER_TOTAL_CONFLICT"
  if (knownBuckets.map (book.settled code)).sum < free then throw "LIVE_BUCKET_BROKER_SETTLEMENT_CONFLICT"
  return book.rowsOf code free

theorem projectInstrument_mirrors (h : Mirrors calendar ledger book) (positions : Dict String PyVal) (code : String) :
    projectInstrument ledger positions code = book.project positions code := by
  have htotal : ∀ bucket, (ledger.state code bucket).totalVolume = book.total code bucket :=
    fun bucket => congrArg Volumes.total (h.volumes code bucket)
  have hsettled : ∀ bucket, (ledger.state code bucket).availableVolume = book.settled code bucket :=
    fun bucket => congrArg Volumes.available (h.volumes code bucket)
  have htoday : ∀ bucket, (ledger.state code bucket).todayBuyVolume = book.today code bucket :=
    fun bucket => congrArg Volumes.todayBuy (h.volumes code bucket)
  simp only [projectInstrument, htotal, hsettled, htoday]
  rfl

structure Projected (book : Book) (positions : Dict String PyVal) (code : String) (rows : List (Bucket × LiveBucketRow))
    (total free : Nat) : Prop where
  volume : brokerVolume (positions.get? code) "volume" = .ok total
  usable : brokerVolume (positions.get? code) "can_use_volume" = .ok free
  agrees : book.instrumentVolume code = total
  free_le : free ≤ total
  settled : (free : Int) ≤ (knownBuckets.map (book.settled code)).sum
  rows : rows = book.rowsOf code free

theorem project_ok (h : book.project positions code = .ok rows) : ∃ total free, Projected book positions code rows total free := by
  obtain ⟨total, htotal, h⟩ := bind_eq_ok.mp h
  obtain ⟨free, hfree, h⟩ := bind_eq_ok.mp h
  simp only [bind, Except.bind] at h
  split at h
  · cases h
  · rename_i hagrees
    split at h
    · cases h
    · rename_i hsettled
      simp only [not_or, not_not, not_lt] at hagrees hsettled
      exact ⟨total, free, htotal, hfree, hagrees.1.symm, hagrees.2, hsettled, (Except.ok.inj h).symm⟩

def ReplayInputs.ordered (inputs : ReplayInputs) : List LiveAttributedFill := inputs.fills.insertionSort FillLe

structure Replays (calendar : ExchangeCalendar) (inputs : ReplayInputs) (seed : Dict String (Dict Bucket SeedBucket)) : Prop where
  future : inputs.seedAsOf ≤ inputs.asOf
  validSeed : validateSeed inputs.seed = .ok seed
  fills : Admissible calendar inputs.seedAsOf inputs.asOf [] (bookOf seed (calendar.date inputs.seedAsOf)) inputs.ordered

def finalBook (calendar : ExchangeCalendar) (inputs : ReplayInputs) (seed : Dict String (Dict Bucket SeedBucket)) : Book :=
  ((bookOf seed (calendar.date inputs.seedAsOf)).after calendar.date (inputs.ordered.map entryOf)).advance (calendar.date inputs.asOf)

def projectedCodes (inputs : ReplayInputs) (seed : Dict String (Dict Bucket SeedBucket)) : List String :=
  sortedSet (seed.keys ++ inputs.fills.map (·.instrumentCode) ++ inputs.brokerPositions.keys)

def projectBook (book : Book) (positions : Dict String PyVal) (codes : List String) : Except String ProjectedInstruments :=
  codes.mapM fun code => do return (code, ← book.project positions code)

theorem snapshot_keys (ledger : BucketLedger) (code : String) : code ∈ ledger.snapshot.buckets.keys ↔ ledger.knows code := by
  rw [← knows_iff_mem, snapshot_knows]

theorem projectLedger_mirrors {codes : List String} (h : Mirrors calendar ledger book)
    (hcodes : sortedSet (ledger.buckets.keys ++ positions.keys) = codes) :
    projectLedger ledger positions = projectBook book positions codes := by
  simp only [projectLedger, hcodes, projectInstrument_mirrors h]
  rfl

theorem replay_cases (calendar : ExchangeCalendar) (host : ReplayHost) (hash : ReplayInputs → ProjectedInstruments → String)
    (inputs : ReplayInputs) :
    ((¬ ∃ seed, Replays calendar inputs seed) ∧ ∃ e, replayLiveBucketProjection calendar host hash inputs = .error e) ∨
      ∃ seed, Replays calendar inputs seed ∧ replayLiveBucketProjection calendar host hash inputs =
        (projectBook (finalBook calendar inputs seed) inputs.brokerPositions (projectedCodes inputs seed)).map fun instruments =>
          ⟨instruments, hash inputs instruments⟩ := by
  simp only [replayLiveBucketProjection, bind, Except.bind]
  split
  · rename_i hfuture
    exact .inl ⟨fun ⟨seed, h⟩ => absurd h.future (not_le.mpr hfuture), _, rfl⟩
  · rename_i hfuture
    cases hseed : validateSeed inputs.seed with
    | error e =>
      refine .inl ⟨fun ⟨seed, h⟩ => ?_, e, rfl⟩
      cases hseed.symm.trans h.validSeed
    | ok seed =>
      dsimp only [pure, Except.pure]
      have hstart := ofSeed_follows calendar seed (calendar.date inputs.seedAsOf)
      rcases replayFills_cases host inputs.seedAsOf inputs.asOf hstart inputs.ordered with ⟨hno, e, he⟩ | ⟨hall, last, hlast, hfollows⟩
      · refine .inl ⟨fun ⟨seed', h⟩ => hno ?_, e, ?_⟩
        · obtain rfl := Except.ok.inj (hseed.symm.trans h.validSeed)
          exact acceptsAll_iff.mpr h.fills
        · rw [ReplayInputs.ordered] at he
          rw [he]
      · rw [ReplayInputs.ordered] at hlast
        rw [hlast]
        refine .inr ⟨seed, ⟨not_lt.mp hfuture, hseed, acceptsAll_iff.mp hall⟩, ?_⟩
        obtain ⟨hmirrors, -, hknows⟩ := settleTo_mirrors last hfollows.mirrors hfollows.sound hfollows.day (calendar.date inputs.asOf)
        have hbook := hmirrors.snapshot (Book.advance_sound hfollows.sound _)
        have hcodes : sortedSet ((settleTo calendar (calendar.date inputs.asOf) last).ledger.snapshot.buckets.keys ++
            inputs.brokerPositions.keys) = projectedCodes inputs seed := by
          refine sortedSet_congr fun code => ?_
          simp only [List.mem_append, snapshot_keys, hknows, hfollows.knows, List.nil_append, List.mem_map, ReplayInputs.ordered,
            List.mem_insertionSort]
        dsimp only
        rw [projectLedger_mirrors hbook hcodes]
        have hfinal : ((bookOf seed (calendar.date inputs.seedAsOf)).after calendar.date (inputs.ordered.map entryOf)).advance
            (calendar.date inputs.asOf) = finalBook calendar inputs seed := rfl
        rw [hfinal]
        cases projectBook (finalBook calendar inputs seed) inputs.brokerPositions (projectedCodes inputs seed) <;> rfl

theorem projectBook_ok {codes : List String} {instruments : ProjectedInstruments} (h : projectBook book positions codes = .ok instruments) :
    (∀ code rows, (code, rows) ∈ instruments → book.project positions code = .ok rows) ∧
      ∀ code ∈ codes, ∃ rows, (code, rows) ∈ instruments := by
  induction codes generalizing instruments with
  | nil =>
    obtain rfl := Except.ok.inj h
    exact ⟨by simp, by simp⟩
  | cons code codes ih =>
    rw [projectBook, List.mapM_cons] at h
    obtain ⟨entry, hentry, h⟩ := bind_eq_ok.mp h
    obtain ⟨rest, hrest, h⟩ := bind_eq_ok.mp h
    obtain ⟨rows, hrows, hentry⟩ := bind_eq_ok.mp hentry
    obtain rfl := Except.ok.inj h
    obtain rfl := Except.ok.inj hentry
    obtain ⟨hproject, hall⟩ := ih hrest
    refine ⟨fun code' rows' hmem => ?_, fun code' hmem => ?_⟩
    · rcases List.mem_cons.mp hmem with hhead | hmem
      · obtain ⟨rfl, rfl⟩ := Prod.mk.inj hhead
        exact hrows
      · exact hproject code' rows' hmem
    · rcases List.mem_cons.mp hmem with rfl | hmem
      · exact ⟨rows, List.mem_cons_self⟩
      · obtain ⟨rows', hrows'⟩ := hall code' hmem
        exact ⟨rows', List.mem_cons_of_mem _ hrows'⟩

instance : Std.Total FillLe := ⟨fun a b => by
  rcases lt_trichotomy a.occurredAt b.occurredAt with hless | hsame | hmore
  · exact .inl (.inl hless)
  · rcases le_total a.fillId b.fillId with hle | hle
    · exact .inl (.inr ⟨hsame, hle⟩)
    · exact .inr (.inr ⟨hsame.symm, hle⟩)
  · exact .inr (.inl hmore)⟩

instance : IsTrans LiveAttributedFill FillLe := ⟨fun a b c hab hbc => by
  rcases hab with hab | ⟨hab, hid⟩
  · rcases hbc with hbc | ⟨hbc, -⟩
    · exact .inl (hab.trans hbc)
    · exact .inl (hab.trans_eq hbc)
  · rcases hbc with hbc | ⟨hbc, hid'⟩
    · exact .inl (hab.trans_lt hbc)
    · exact .inr ⟨hab.trans hbc, hid.trans hid'⟩⟩

theorem ordered_perm (inputs : ReplayInputs) : inputs.ordered.Perm inputs.fills := List.perm_insertionSort _ _

theorem ordered_timed (inputs : ReplayInputs) : Timed Entry.instant (inputs.ordered.map entryOf) := by
  refine List.pairwise_map.mpr (List.Pairwise.imp ?_ (List.pairwise_insertionSort FillLe inputs.fills))
  rintro a b (hless | ⟨hsame, -⟩)
  · exact hless.le
  · exact hsame.le

theorem sum_ordered (inputs : ReplayInputs) (g : Entry → Int) :
    ((inputs.ordered.map entryOf).map g).sum = (inputs.fills.map fun fill => g (entryOf fill)).sum := by
  rw [List.map_map]
  exact ((ordered_perm inputs).map _).sum_eq

end QuantX
