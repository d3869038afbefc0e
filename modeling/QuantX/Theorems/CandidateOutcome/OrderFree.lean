import QuantX.Theorems.CandidateOutcome.Deliveries

namespace QuantX
open Lib CandidateOutcomeState

variable {definition : CandidateOutcomeDefinition} {log log' : List (Moment CandidateOutcomeState CandidateExecutionFill)}
  {s s' : CandidateOutcomeState} {fill : CandidateExecutionFill} {p : CandidateFills definition}

theorem Sums.same {execution execution' : CandidateExecutionOutcome} (h : Sums execution) (h' : Sums execution')
    (hentry : (execution.applied .entry).Perm (execution'.applied .entry)) (hexit : (execution.applied .exit).Perm (execution'.applied .exit))
    (hfrozen : execution.entryFrozen = execution'.entryFrozen) (htarget : execution.entryTargetVolume = execution'.entryTargetVolume) :
    { execution with appliedFillIds := [], appliedFillFingerprints := .empty } =
      { execution' with appliedFillIds := [], appliedFillFingerprints := .empty } := by
  have hentryVolume := h.entryVolume.trans ((totalVolume_perm hentry).trans h'.entryVolume.symm)
  have hentryAmount := h.entryAmount.trans ((totalAmount_perm hentry).trans h'.entryAmount.symm)
  have hentryFee := h.entryFee.trans ((totalFee_perm hentry).trans h'.entryFee.symm)
  have hlast := h.last.trans ((latestTime_perm hentry).trans h'.last.symm)
  have hexitVolume := h.exitVolume.trans ((totalVolume_perm hexit).trans h'.exitVolume.symm)
  have hexitAmount := h.exitAmount.trans ((totalAmount_perm hexit).trans h'.exitAmount.symm)
  have hexitFee := h.exitFee.trans ((totalFee_perm hexit).trans h'.exitFee.symm)
  have hrealized : execution.realizedNetPnl = execution'.realizedNetPnl := by
    have hclosed : execution.closed = execution'.closed := by
      simp only [CandidateExecutionOutcome.closed, hentryVolume, hexitVolume]
    have hresult : execution.realized = execution'.realized := by
      rw [CandidateExecutionOutcome.realized, CandidateExecutionOutcome.realized, hentryVolume, hentryAmount, hentryFee, hexitVolume,
        hexitAmount, hexitFee]
    rw [h.realized, h'.realized, hclosed, hresult]
  simp only [hentryVolume, hentryAmount, hentryFee, hlast, hexitVolume, hexitAmount, hexitFee, hrealized, hfrozen, htarget]

namespace Progress

theorem exit_perm (h : Progress p log s) (hfit : p.exited ≤ p.entered) (harrived : p.Arrived log) :
    (s.execution.applied .exit).Perm (p.fitting.map (·.toFillFingerprint)) := by
  refine applied_perm p.fitting_distinct h.exit_fill fun fill hfill => ?_
  have hexit := (List.mem_filter.mp hfill).1
  exact ⟨h.exits hfit fill hfill (harrived.all fill (List.mem_append_right _ hexit)), p.exit_role fill hexit⟩

theorem target_eq (h : Progress p log s) (harrived : p.Arrived log) : s.execution.entryTargetVolume = p.target := by
  refine Option.ext fun volume => ⟨h.targetTold volume, fun hvolume => ?_⟩
  obtain ⟨m, hm, hrole, htold⟩ := harrived.target volume hvolume
  exact h.targetKept m hm hrole volume htold

theorem frozen_iff (h : Progress p log s) (harrived : p.Arrived log) :
    s.execution.entryFrozen = true ↔ p.completes = true ∧ ∃ volume, p.target = some volume ∧ volume ≤ p.entered := by
  constructor
  · intro hfrozen
    obtain ⟨hcompletes, hreached, -⟩ := h.frozenAfter hfrozen
    exact ⟨hcompletes, hreached⟩
  · rintro ⟨hcompletes, volume, hvolume, hle⟩
    obtain ⟨m, hm, hrole, hcomplete, htarget⟩ := harrived.completed hcompletes
    exact h.frozenBy m hm hrole hcomplete volume (htarget.trans hvolume) hle

theorem get?_iff (h : Progress p log s) (hfit : p.exited ≤ p.entered) (harrived : p.Arrived log) (fillId : String) (facts : FillFingerprint) :
    s.execution.appliedFillFingerprints.get? fillId = some facts ↔
      ∃ fill ∈ p.entries ++ p.fitting, fill.fillId = fillId ∧ fill.toFillFingerprint = facts := by
  constructor
  · intro hknown
    cases hrole : facts.role with
    | entry =>
      obtain ⟨fill, hfill, hsame⟩ := h.entry_fill fillId facts hknown hrole
      exact ⟨fill, List.mem_append_left _ hfill, hsame⟩
    | exit =>
      obtain ⟨fill, hfill, hsame⟩ := h.exit_fill fillId facts hknown hrole
      exact ⟨fill, List.mem_append_right _ hfill, hsame⟩
  · rintro ⟨fill, hfill, rfl, rfl⟩
    rcases List.mem_append.mp hfill with hentry | hexit
    · exact h.entries fill hentry (harrived.all fill (List.mem_append_left _ hentry))
    · exact h.exits hfit fill hexit (harrived.all fill (List.mem_append_right _ (List.mem_filter.mp hexit).1))

theorem closed_iff (h : Progress p log s) (hfit : p.exited ≤ p.entered) (harrived : p.Arrived log) :
    s.execution.entryVolume = p.entered ∧ s.execution.exitVolume = p.exited :=
  ⟨h.toTold.entered h.toSums fun fill hfill => harrived.all fill (List.mem_append_left _ hfill),
    h.exitVolume.trans (totalVolume_perm (h.exit_perm hfit harrived))⟩

theorem same (h : Progress p log s) (h' : Progress p log' s') (hsettles : p.Settles) (harrived : p.Arrived log) (harrived' : p.Arrived log') :
    SameOutcome s s' := by
  have hentry := (h.entry_perm fun fill hfill => harrived.all fill (List.mem_append_left _ hfill)).trans
    (h'.entry_perm fun fill hfill => harrived'.all fill (List.mem_append_left _ hfill)).symm
  have hexit := (h.exit_perm hsettles.1 harrived).trans (h'.exit_perm hsettles.1 harrived').symm
  have hfrozen : s.execution.entryFrozen = s'.execution.entryFrozen :=
    Bool.eq_iff_iff.mpr ((h.frozen_iff harrived).trans (h'.frozen_iff harrived').symm)
  have hfacts : ∀ fillId, s.execution.appliedFillFingerprints.get? fillId = s'.execution.appliedFillFingerprints.get? fillId :=
    fun fillId => Option.ext fun facts => (h.get?_iff hsettles.1 harrived fillId facts).trans (h'.get?_iff hsettles.1 harrived' fillId facts).symm
  have hexecution := h.toSums.same h'.toSums hentry hexit hfrozen ((h.target_eq harrived).trans (h'.target_eq harrived').symm)
  have hdefinition := h.definition.trans h'.definition.symm
  refine ⟨hdefinition, ?_, hfacts, hexecution, ?_⟩
  · rw [h.ids, h'.ids]
    refine (List.perm_ext_iff_of_nodup s.execution.appliedFillFingerprints.nodup s'.execution.appliedFillFingerprints.nodup).mpr fun fillId => ?_
    have hmem : ∀ d : Dict String FillFingerprint, fillId ∈ d.entries.map Prod.fst ↔ ∃ facts, d.get? fillId = some facts := by
      intro d
      rw [List.mem_map]
      constructor
      · rintro ⟨⟨_, facts⟩, hpair, rfl⟩
        exact ⟨facts, Dict.mem_entries.mp hpair⟩
      · rintro ⟨facts, hknown⟩
        exact ⟨_, Dict.mem_entries.mpr hknown, rfl⟩
    rw [hmem, hmem, hfacts]
  · cases hnow : s.execution.entryFrozen with
    | false => rw [h.waiting hnow, h'.waiting (hfrozen ▸ hnow)]
    | true =>
      obtain ⟨hcompletes, volume, hvolume, hle⟩ := (h.frozen_iff harrived).mp hnow
      have hopen := hsettles.2 hcompletes volume hvolume hle
      obtain ⟨hentered, hexited⟩ := h.closed_iff hsettles.1 harrived
      obtain ⟨hentered', hexited'⟩ := h'.closed_iff hsettles.1 harrived'
      obtain ⟨armedAtMs, hlast, hwindow⟩ := h.armed hnow (by omega)
      obtain ⟨armedAtMs', hlast', hwindow'⟩ := h'.armed (hfrozen ▸ hnow) (by omega)
      have hsame := congrArg CandidateExecutionOutcome.lastEntryFillSourceTimeMs hexecution
      cases hlast.symm.trans (Eq.trans hsame hlast')
      have hamount := congrArg CandidateExecutionOutcome.entryAmount hexecution
      simp only at hamount
      rw [hwindow, hwindow', armedWindow, armedWindow, hdefinition, hamount, hentered, hentered']

end Progress

/-! ## Where the order matters -/

def CandidateExecutionFill.plain (fill : CandidateExecutionFill) : CandidateExecutionFill :=
  { fill with entryComplete := false, entryTargetVolume := none, target_pos := fun _ h => by cases h }

theorem Delivered.mono {fill : CandidateExecutionFill} (h : Delivered log fill) (hsuffix : log <:+ log') : Delivered log' fill := by
  obtain ⟨m, hm, hid⟩ := h
  exact ⟨m, hsuffix.subset hm, hid⟩

theorem delivered_of_ops {ops : List CandidateExecutionFill} (hops : log.map Moment.op = ops) {fill delivery : CandidateExecutionFill}
    (hmem : delivery ∈ ops) (hid : delivery.fillId = fill.fillId) : Delivered log fill := by
  rw [← hops] at hmem
  obtain ⟨m, hm, rfl⟩ := List.mem_map.mp hmem
  exact ⟨m, hm, hid⟩

theorem applyFill_exit_cases (hrole : fill.role = .exit) :
    (s.applyFill fill).1 = s ∨ (s.applyFill fill).1 = (s.exited fill).settleFill fill := by
  rw [applyFill]
  split
  · rw [redeliver]
    split
    · exact .inl rfl
    · rw [if_neg (by simp [hrole])]
      exact .inl rfl
  · split
    · exact .inl rfl
    · simp only [hrole, applyExit]
      split
      · exact .inl rfl
      · split
        · exact .inl rfl
        · exact .inr rfl

theorem exit_watched (hrole : fill.role = .exit) (h : s.execution.entryFrozen = true ∧ (s.postFill.status = .observing → s.execution.closed = false)) :
    (s.applyFill fill).1.execution.entryFrozen = true ∧
      ((s.applyFill fill).1.postFill.status = .observing → (s.applyFill fill).1.execution.closed = false) := by
  rcases applyFill_exit_cases (s := s) hrole with heq | heq
  · rwa [heq]
  · rw [heq, settleFill_execution]
    exact ⟨h.1, settleFill_observing⟩

theorem exit_known (hrole : fill.role = .exit) {fillId : String} (h : (s.execution.appliedFillFingerprints.get? fillId).isSome) :
    ((s.applyFill fill).1.execution.appliedFillFingerprints.get? fillId).isSome := by
  rcases applyFill_exit_cases (s := s) hrole with heq | heq
  · rwa [heq]
  · rw [heq, settleFill_execution]
    have hset : (s.exited fill).execution.settled.appliedFillFingerprints.get? fillId =
        if fill.fillId = fillId then some fill.toFillFingerprint else s.execution.appliedFillFingerprints.get? fillId := Dict.get?_set _ _ _ _
    rw [hset]
    split
    · rfl
    · exact h

namespace CandidateFills

def entryAlone (p : CandidateFills definition) : CandidateFills definition where
  entries := p.entries
  exits := []
  target := p.target
  completes := p.completes
  entry_role := p.entry_role
  exit_role := fun _ h => by cases h
  distinct := by simpa using p.entries_distinct
  causal := fun fill h => p.causal fill (List.mem_append_left _ (by simpa using h))
  target_pos := p.target_pos

def uncompleted (p : CandidateFills definition) : CandidateFills definition := { p with completes := false }

theorem Delivers.of_entryAlone (h : p.entryAlone.Delivers log fill) : p.Delivers log fill := by
  obtain ⟨other, hother, htells⟩ := h.known
  exact ⟨⟨other, List.mem_append_left _ (by simpa [entryAlone] using hother), htells⟩, h.entriesFirst, h.target, h.completing⟩

theorem Delivers.of_uncompleted (h : p.uncompleted.Delivers log fill) : p.Delivers log fill :=
  ⟨h.known, h.entriesFirst, h.target, fun hrole hcomplete => by cases (h.completing hrole hcomplete).1⟩

def completing (p : CandidateFills definition) (fill : CandidateExecutionFill) : CandidateExecutionFill :=
  { fill with entryComplete := p.completes, entryTargetVolume := p.target, target_pos := p.target_pos }

theorem delivers_plain (hfill : fill ∈ p.entries ++ p.exits) (hfirst : fill.role = .exit → ∀ entry ∈ p.entries, Delivered log entry) :
    p.Delivers log fill.plain :=
  ⟨⟨fill, hfill, rfl, rfl⟩, hfirst, fun _ _ h => absurd h (by simp [CandidateExecutionFill.plain]),
    fun _ h => absurd h (by simp [CandidateExecutionFill.plain])⟩

theorem delivers_completing (hfill : fill ∈ p.entries) (hall : ∀ entry ∈ p.entries, Delivered log entry) : p.Delivers log (p.completing fill) :=
  ⟨⟨fill, List.mem_append_left _ hfill, rfl, rfl⟩, fun _ => hall, fun _ _ h => h, fun _ h => ⟨h, fun entry hentry => .inr (hall entry hentry)⟩⟩

theorem run_entries (p : CandidateFills definition) : ∃ log s, p.Run log s ∧ ∀ fill ∈ p.entries, Delivered log fill := by
  have hstart : p.Run [] (startCandidateOutcome definition) := .start rfl
  have hlegal : ∀ op ∈ p.entries.map (·.plain), ∀ log' (_ : CandidateOutcomeState), [] <:+ log' → p.Delivers log' op := by
    intro op hop log' _ _
    obtain ⟨fill, hfill, rfl⟩ := List.mem_map.mp hop
    exact delivers_plain (List.mem_append_left _ hfill) fun hrole => by cases (p.entry_role fill hfill).symm.trans hrole
  obtain ⟨log, s, hrun, -, -, hops⟩ := hstart.extend (I := fun _ => True) _ trivial hlegal fun _ _ _ h => h
  refine ⟨log, s, hrun, fun fill hfill => delivered_of_ops hops ?_ (rfl : fill.plain.fillId = fill.fillId)⟩
  simpa using ⟨fill, hfill, rfl⟩

theorem run_exits {p : CandidateFills definition} {I : CandidateOutcomeState → Prop} (h : p.Run log s) (hs : I s)
    (hall : ∀ fill ∈ p.entries, Delivered log fill) {fills : List CandidateExecutionFill} (hfills : ∀ fill ∈ fills, fill ∈ p.exits)
    (hstep : ∀ fill s, fill.role = .exit → I s → I (s.applyFill fill).1) :
    ∃ log' s', p.Run log' s' ∧ I s' ∧ log <:+ log' ∧ ∀ fill ∈ fills, Delivered log' fill := by
  have hlegal : ∀ op ∈ fills.map (·.plain), ∀ log' (_ : CandidateOutcomeState), log <:+ log' → p.Delivers log' op := by
    intro op hop log' _ hsuffix
    obtain ⟨fill, hfill, rfl⟩ := List.mem_map.mp hop
    exact delivers_plain (List.mem_append_right _ (hfills fill hfill)) fun _ entry hentry => (hall entry hentry).mono hsuffix
  obtain ⟨log', s', hrun, hs', hsuffix, hops⟩ := h.extend _ hs hlegal fun op hop s hs => by
    obtain ⟨fill, hfill, rfl⟩ := List.mem_map.mp hop
    exact hstep _ s (p.exit_role fill (hfills fill hfill)) hs
  refine ⟨log', s', hrun, hs', hsuffix, fun fill hfill => delivered_of_ops hops ?_ (rfl : fill.plain.fillId = fill.fillId)⟩
  simpa using .inl ⟨fill, hfill, rfl⟩

theorem run_completed (hpos : 0 < p.entered) : ∃ log s, p.entryAlone.Run log s ∧ p.entryAlone.Arrived log := by
  have hsome : p.entries ≠ [] := by
    intro hnil
    rw [entered, hnil] at hpos
    cases hpos
  obtain ⟨entry, hentry⟩ := List.exists_mem_of_ne_nil _ hsome
  obtain ⟨log, s, hrun, hall⟩ := p.entryAlone.run_entries
  have hrole : (p.completing entry).role = .entry := p.entry_role entry hentry
  have hlegal : p.entryAlone.Delivers log (p.completing entry) := delivers_completing (p := p.entryAlone) hentry hall
  refine ⟨_, _, .step hrun _ hlegal, fun fill hfill => ?_, fun volume hvolume => ?_, fun hcompletes => ?_⟩
  · exact delivered_cons.mpr (.inr (hall fill (by simpa [entryAlone] using hfill)))
  · exact ⟨_, List.mem_cons_self .., hrole, hvolume⟩
  · exact ⟨_, List.mem_cons_self .., hrole, hcompletes, rfl⟩

theorem Arrived.mono (h : p.entryAlone.Arrived log) (hsuffix : log <:+ log') (hexits : ∀ fill ∈ p.exits, Delivered log' fill) : p.Arrived log' := by
  refine ⟨fun fill hfill => ?_, fun volume hvolume => ?_, fun hcompletes => ?_⟩
  · rcases List.mem_append.mp hfill with hentry | hexit
    · exact (h.all fill (List.mem_append_left _ hentry)).mono hsuffix
    · exact hexits fill hexit
  · obtain ⟨m, hm, htold⟩ := h.target volume hvolume
    exact ⟨m, hsuffix.subset hm, htold⟩
  · obtain ⟨m, hm, htold⟩ := h.completed hcompletes
    exact ⟨m, hsuffix.subset hm, htold⟩

theorem Arrived.entries (h : p.entryAlone.Arrived log) (fill : CandidateExecutionFill) (hfill : fill ∈ p.entries) : Delivered log fill :=
  h.all fill (List.mem_append_left _ hfill)

theorem entryAlone_exited : p.entryAlone.exited = 0 := by simp [exited, fitting, entryAlone, totalVolume]

theorem Run.of_entryAlone (h : p.entryAlone.Run log s) : p.Run log s := Lib.Run.mono (fun _ _ _ hlegal => hlegal.of_entryAlone) h

theorem exits_ordered (hexceed : p.entered < p.exited) : ¬ p.OrderFree := by
  intro hfree
  have hpos : 0 < p.entered := by
    by_contra hzero
    have hnone : p.fitting = [] := by
      refine List.filter_eq_nil_iff.mpr fun fill hfill => ?_
      have := fill.volume_pos
      simpa using (by omega : p.entered < fill.volume)
    rw [exited, hnone] at hexceed
    cases hexceed
  obtain ⟨log, s, hentry, harrived⟩ := run_completed hpos
  have hrun := Run.of_entryAlone hentry
  obtain ⟨logA, sA, hrunA, -, hsuffixA, hdeliveredA⟩ := run_exits (I := fun _ => True) hrun trivial harrived.entries (fun _ h => h) fun _ _ _ h => h
  have hA := progress hrunA
  have harrivedA := harrived.mono hsuffixA hdeliveredA
  -- an exit that fits is rejected, since all of them do not
  have hrejected : ∃ exit ∈ p.fitting, sA.execution.appliedFillFingerprints.get? exit.fillId ≠ some exit.toFillFingerprint := by
    by_contra hall
    push Not at hall
    have hperm : (sA.execution.applied .exit).Perm (p.fitting.map (·.toFillFingerprint)) :=
      applied_perm p.fitting_distinct hA.exit_fill fun fill hfill => ⟨hall fill hfill, p.exit_role fill (List.mem_filter.mp hfill).1⟩
    have hexited : sA.execution.exitVolume = p.exited := hA.exitVolume.trans (totalVolume_perm hperm)
    have hentered := hA.toTold.entered hA.toSums fun fill hfill => harrivedA.all fill (List.mem_append_left _ hfill)
    have hwithin := hA.within
    omega
  obtain ⟨exit, hfitting, hmissing⟩ := hrejected
  obtain ⟨hexit, hfits⟩ := List.mem_filter.mp hfitting
  have hfits : exit.volume ≤ p.entered := by simpa using hfits
  have hnoneA : sA.execution.appliedFillFingerprints.get? exit.fillId = none := by
    refine Option.eq_none_iff_forall_ne_some.mpr fun facts hfacts => ?_
    obtain ⟨fill, hfill, hid, rfl, -⟩ := hA.known _ _ hfacts
    cases p.eq_of_id hfill (List.mem_append_right _ hexit) hid
    exact hmissing hfacts
  -- delivered first, it is applied
  have hrole : exit.plain.role = .exit := p.exit_role exit hexit
  have hlegal : p.Delivers log exit.plain := delivers_plain (List.mem_append_right _ hexit) fun _ => harrived.entries
  have hS := progress hrun
  have hAlone := progress hentry
  have hexitZero : s.execution.exitVolume = 0 := by
    have hle := hAlone.exited_le hAlone.toSums
    rw [entryAlone_exited] at hle
    omega
  have hentered := hS.toTold.entered hS.toSums harrived.entries
  have hsome : ((s.applyFill exit.plain).1.execution.appliedFillFingerprints.get? exit.fillId).isSome := by
    cases hknown : s.execution.appliedFillFingerprints.get? exit.fillId with
    | some facts =>
      refine exit_known hrole ?_
      rw [hknown]
      rfl
    | none =>
      have hcausal : s.definition.sourceTimeMs < exit.sourceTimeMs := by
        rw [hS.definition]
        exact p.causal exit (List.mem_append_right _ hexit)
      have hnew : exit.plain.fillId ∉ s.execution.appliedFillIds := hS.new_of hknown
      have hroom : s.execution.exitVolume + exit.plain.volume ≤ s.execution.entryVolume := by
        rw [hexitZero, hentered, Nat.zero_add]
        exact hfits
      rw [applyFill_exit hnew hcausal hrole (by omega) hroom, settleFill_execution]
      exact congrArg Option.isSome (Dict.get?_set_self _ _ _)
  obtain ⟨logB, sB, hrunB, hsomeB, hsuffixB, hdeliveredB⟩ := run_exits (I := fun s => (s.execution.appliedFillFingerprints.get? exit.fillId).isSome)
    (.step hrun _ hlegal) hsome (fun fill hfill => delivered_cons.mpr (.inr (harrived.entries fill hfill))) (fun _ h => h)
    fun _ _ hrole h => exit_known hrole h
  have hsame := hfree _ _ _ _ hrunA harrivedA hrunB (harrived.mono ((List.suffix_cons _ _).trans hsuffixB) hdeliveredB)
  rw [← hsame.facts, hnoneA] at hsomeB
  cases hsomeB

/-- Of an entry that is completed, and of exits that close it, the last that came decides whether it is observed. -/
theorem completion_ordered (hfit : p.exited ≤ p.entered) (hcompletes : p.completes = true) {volume : Nat} (hvolume : p.target = some volume)
    (hle : volume ≤ p.entered) (hclosed : p.entered ≤ p.exited) : ¬ p.OrderFree := by
  intro hfree
  have hpos : 0 < p.entered := (p.target_pos volume hvolume).trans_le hle
  -- completed first, its observation ends
  obtain ⟨log, s, hentry, harrived⟩ := run_completed hpos
  have hrun := Run.of_entryAlone hentry
  have hS := progress hrun
  have hAlone := progress hentry
  have hfrozen : s.execution.entryFrozen = true := (hAlone.frozen_iff harrived).mpr ⟨hcompletes, volume, hvolume, hle⟩
  have hopen : s.execution.closed = false := by
    have hzero := hAlone.exited_le hAlone.toSums
    rw [entryAlone_exited] at hzero
    simp [CandidateExecutionOutcome.closed]
    omega
  obtain ⟨logA, sA, hrunA, hwatched, hsuffixA, hdeliveredA⟩ := run_exits
    (I := fun s => s.execution.entryFrozen = true ∧ (s.postFill.status = .observing → s.execution.closed = false)) hrun ⟨hfrozen, fun _ => hopen⟩
    harrived.entries (fun _ h => h) fun _ _ hrole h => exit_watched hrole h
  have harrivedA := harrived.mono hsuffixA hdeliveredA
  obtain ⟨henteredA, hexitedA⟩ := (progress hrunA).closed_iff hfit harrivedA
  have hclosedA : sA.execution.closed = true := by
    simp [CandidateExecutionOutcome.closed]
    omega
  have hstatusA : sA.postFill.status ≠ .observing := fun hstatus => by cases hclosedA.symm.trans (hwatched.2 hstatus)
  -- completed last, it is observed
  obtain ⟨log', s', hentries, hall⟩ := p.uncompleted.run_entries
  obtain ⟨logB, sB, hrunB, -, hsuffixB, hdeliveredB⟩ := run_exits (I := fun _ => True) hentries trivial hall (fun _ h => h) fun _ _ _ h => h
  have hunfrozen : sB.execution.entryFrozen = false := by
    by_contra hnow
    cases ((progress hrunB).frozenAfter (by simpa using hnow)).1
  have hrunB' : p.Run logB sB := Lib.Run.mono (fun _ _ _ hlegal => hlegal.of_uncompleted) hrunB
  have hallB : ∀ fill ∈ p.entries, Delivered logB fill := fun fill hfill => (hall fill hfill).mono hsuffixB
  have hsome : p.entries ≠ [] := by
    intro hnil
    rw [entered, hnil] at hpos
    cases hpos
  obtain ⟨entry, hmem⟩ := List.exists_mem_of_ne_nil _ hsome
  have hrole : (p.completing entry).role = .entry := p.entry_role entry hmem
  have hlegal : p.Delivers logB (p.completing entry) := delivers_completing hmem hallB
  have hlast : p.Run _ _ := .step hrunB' _ hlegal
  have harrivedB : p.Arrived (⟨sB, p.completing entry, (sB.applyFill (p.completing entry)).1⟩ :: logB) := by
    refine ⟨fun fill hfill => ?_, fun volume hvolume => ⟨_, List.mem_cons_self .., hrole, hvolume⟩,
      fun hcompletes => ⟨_, List.mem_cons_self .., hrole, hcompletes, rfl⟩⟩
    rcases List.mem_append.mp hfill with hentry | hexit
    · exact delivered_cons.mpr (.inr (hallB fill hentry))
    · exact delivered_cons.mpr (.inr (hdeliveredB fill hexit))
  have hstatusB : (sB.applyFill (p.completing entry)).1.postFill.status = .observing := by
    have hnow := ((progress hlast).frozen_iff harrivedB).mpr ⟨hcompletes, volume, hvolume, hle⟩
    obtain ⟨base, after, hbase, harm, heq⟩ := (progress hrunB').entry_base hlegal hrole
    rw [heq] at hnow ⊢
    rcases harm with ⟨rfl, -⟩ | ⟨armedAtMs, -, rfl⟩
    · cases hunfrozen.symm.trans (hbase.frozen.symm.trans hnow)
    · rfl
  have hsame := hfree _ _ _ _ hrunA harrivedA hlast harrivedB
  exact hstatusA ((congrArg CandidatePostFillOutcome.status hsame.postFill).trans hstatusB)

theorem orderFree_iff (p : CandidateFills definition) : p.OrderFree ↔ p.Settles := by
  constructor
  · intro hfree
    have hfit : p.exited ≤ p.entered := by
      by_contra hexceed
      exact exits_ordered (by omega) hfree
    refine ⟨hfit, fun hcompletes volume hvolume hle => ?_⟩
    by_contra hclosed
    exact completion_ordered hfit hcompletes hvolume hle (by omega) hfree
  · intro hsettles log s log' s' hrun harrived hrun' harrived'
    exact (progress hrun).same (progress hrun') hsettles harrived harrived'

end CandidateFills

section Example

private def soldCandidate : CandidateOutcomeDefinition := ⟨0, [60], by decide⟩

private def sampleEntry : CandidateExecutionFill where
  role := .entry
  sourceTimeMs := 1
  price := 10
  volume := 100
  fee := some 5
  fillId := "entry"
  price_pos := by decide +kernel
  volume_pos := by decide
  fee_nonneg := by rintro _ ⟨⟩; decide +kernel
  target_pos := by rintro _ ⟨⟩

private def sampleCompletion : CandidateExecutionFill :=
  { sampleEntry with entryComplete := true, entryTargetVolume := some 100, target_pos := by rintro _ ⟨⟩; decide }

private def sampleExit : CandidateExecutionFill :=
  { sampleEntry with role := .exit, sourceTimeMs := 2, price := 11, fillId := "exit", price_pos := by decide +kernel }

end Example

end QuantX
