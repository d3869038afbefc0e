import QuantX.Theorems.TickIdentity.Merge

namespace QuantX
open Lib Tick

variable {host : TickHost} {sequences : List (List Tick)} {out ticks : List Tick} {group : TickGroup}
variable {items : List ((TickGroup × String) × Tick)}

def hasKey (host : TickHost) (key : TickGroup × String) (tick : Tick) : Bool := (tick.identityKey host).toOption = some key

def inTickGroup (host : TickHost) (group : TickGroup) (tick : Tick) : Bool := ((tick.identityKey host).toOption.map Prod.fst) = some group

structure LosslessMerge (host : TickHost) (sequences : List (List Tick)) (out : List Tick) : Prop where
  /-- A key comes out as often as the sequence has it that has it most often. -/
  counts : ∀ key, out.countP (hasKey host key) = (sequences.map fun sequence => sequence.countP (hasKey host key)).foldl max 0
  /-- The ordinals of a group count up from zero. -/
  ordinals : ∀ group, (out.filter (inTickGroup host group)).map (·.get "tick_ordinal" (.scalar .none)) =
    (List.range (out.filter (inTickGroup host group)).length).map fun ordinal => .scalar (.int ordinal)
  /-- The times of a stock and a period grow. -/
  times : out.Pairwise fun tick later => ∀ key key', tick.identityKey host = .ok key → later.identityKey host = .ok key' →
    key.1.stockCode = key'.1.stockCode → key.1.period = key'.1.period → ∃ t t', tick.time = some t ∧ later.time = some t' ∧ t < t'
  /-- A time tells the source millisecond and the ordinal. -/
  decodes : ∀ tick ∈ out, ∃ key time, ∃ ordinal : Nat, tick.identityKey host = .ok key ∧ tick.time = some time ∧
    tick.get "tick_ordinal" (.scalar .none) = .scalar (.int ordinal) ∧ time / 1000 = key.1.sourceTimeMs ∧ time % 1000 = ordinal
  /-- What came out is a clone of a tick of the sequences. -/
  clones : ∀ tick ∈ out, ∃ sequence ∈ sequences, ∃ original ∈ sequence, SamePayload tick original
  /-- It is merged to itself, alone and before any of the sequences. -/
  again : ∀ rest, (∀ sequence ∈ rest, sequence ∈ sequences) → mergeTicksLosslessly host (out :: rest) = .ok out

theorem merge_ok (h : mergeTicksLosslessly host sequences = .ok out) :
    ∃ keyed, sequences.mapM (·.mapM (Tick.keyed host)) = .ok keyed ∧ Fits host (Retained.retainAll keyed).items ∧
      out = (layout host (Retained.retainAll keyed).items).map Prod.snd := by
  obtain ⟨items, hretained, h⟩ := bind_eq_ok.mp h
  obtain ⟨keyed, hkeyed, hitems⟩ := bind_eq_ok.mp hretained
  cases hitems
  obtain ⟨blocks, hblocks, hout⟩ := bind_eq_ok.mp h
  cases hout
  have hkeys : Keyed host (Retained.retainAll keyed).items := by
    intro item hitem
    obtain ⟨sequence, hsequence, hmem⟩ := Retained.mem_retainAll hitem
    obtain ⟨ticks, -, hticks⟩ := (mapM_each hkeyed).2 sequence hsequence
    exact (keyed_mapM hticks).1 item hmem
  have hgroup : ∀ group, inGroup group (grouped (Retained.retainAll keyed).items) ≠ [] →
      ValidSourceTime group.sourceTimeMs ∧ (inGroup group (grouped (Retained.retainAll keyed).items)).length ≤
        HISTORICAL_TICK_ORDINALS_PER_MILLISECOND := by
    intro group hsome
    have hentry : (group, inGroup group (grouped (Retained.retainAll keyed).items)) ∈
        rankedEntries TickGroup.rank (groupAll (grouped (Retained.retainAll keyed).items)) := by
      rw [mem_rankedEntries, get?_groupAll, if_neg hsome]
    obtain ⟨block, -, hblock⟩ := (mapM_each hblocks).1 _ hentry
    obtain ⟨-, hlength, hvalid⟩ := normalizeGroup_ok hblock
    exact ⟨hvalid hsome, hlength⟩
  refine ⟨keyed, hkeyed, ⟨hkeys, fun item hitem => ?_, fun group => ?_⟩, ?_⟩
  · have hmem : item.2 ∈ inGroup item.1.1 (grouped (Retained.retainAll keyed).items) :=
      mem_inGroup.mpr (List.mem_map.mpr ⟨item, hitem, rfl⟩)
    exact (hgroup item.1.1 (List.ne_nil_of_mem hmem)).1
  · by_cases hempty : inGroup group (grouped (Retained.retainAll keyed).items) = []
    · rw [hempty]
      exact Nat.zero_le _
    · exact (hgroup group hempty).2
  · have hall := mapM_eq_ok.mp hblocks
    have hflat : ∀ (entries : List (TickGroup × List Tick)) (blocks : List (List Tick)),
        List.Forall₂ (fun entry block => normalizeGroup host entry.1 entry.2 = .ok block) entries blocks →
        blocks.flatten = (entries.flatMap fun entry =>
          (numbered host entry.1 entry.2).map fun tick => ((entry.1, tick.snapshotIdentity host), tick)).map Prod.snd := by
      intro entries blocks hentries
      induction hentries with
      | nil => rfl
      | cons hfirst _ ih =>
        rw [List.flatten_cons, List.flatMap_cons, List.map_append, ih, (normalizeGroup_ok hfirst).1, List.map_map]
        congr 1
        exact (List.map_id _).symm
    exact hflat _ _ hall

theorem merge_of_fits {keyed : List (List ((TickGroup × String) × Tick))} (hkeyed : sequences.mapM (·.mapM (Tick.keyed host)) = .ok keyed)
    (hfits : Fits host (Retained.retainAll keyed).items) :
    mergeTicksLosslessly host sequences = .ok ((layout host (Retained.retainAll keyed).items).map Prod.snd) := by
  have hretained : retainTicks host sequences = .ok (Retained.retainAll keyed).items := bind_eq_ok.mpr ⟨keyed, hkeyed, rfl⟩
  have hblocks : (rankedEntries TickGroup.rank (groupAll (grouped (Retained.retainAll keyed).items))).mapM
      (fun entry => normalizeGroup host entry.1 entry.2) =
        .ok ((rankedEntries TickGroup.rank (groupAll (grouped (Retained.retainAll keyed).items))).map fun entry => numbered host entry.1 entry.2) := by
    rw [mapM_eq_ok, List.forall₂_map_right_iff, List.forall₂_same]
    intro entry hentry
    obtain ⟨heq, hsome⟩ := mem_ranked hentry
    obtain ⟨tick, htick⟩ := List.exists_mem_of_ne_nil _ hsome
    rw [heq] at htick ⊢
    exact normalizeGroup_eq (hfits.group_valid htick) (hfits.room entry.1)
  have hmerge : mergeTicksLosslessly host sequences = .ok ((rankedEntries TickGroup.rank
      (groupAll (grouped (Retained.retainAll keyed).items))).map fun entry => numbered host entry.1 entry.2).flatten :=
    bind_eq_ok.mpr ⟨_, hretained, bind_eq_ok.mpr ⟨_, hblocks, rfl⟩⟩
  rw [hmerge, layout, List.map_flatMap, List.flatMap_def]
  simp only [List.map_map]
  congr 3
  funext entry
  exact (List.map_id _).symm

theorem keyed_occurrences (h : Keyed host items) (key : TickGroup × String) :
    (items.map Prod.snd).countP (hasKey host key) = occurrences key items := by
  rw [occurrences, List.countP_map]
  refine List.countP_congr fun item hitem => ?_
  simp [hasKey, h item hitem, Except.toOption]

theorem sequences_occurrences {keyed : List (List ((TickGroup × String) × Tick))} (h : sequences.mapM (·.mapM (Tick.keyed host)) = .ok keyed)
    (key : TickGroup × String) :
    (sequences.map fun sequence => sequence.countP (hasKey host key)) = keyed.map (occurrences key) := by
  have hall := mapM_eq_ok.mp h
  clear h
  induction hall with
  | nil => rfl
  | cons hfirst _ ih =>
    obtain ⟨hkeys, heq⟩ := keyed_mapM hfirst
    rw [List.map_cons, List.map_cons, ih, heq, keyed_occurrences hkeys]

theorem keyed_filter (h : Keyed host items) (group : TickGroup) :
    (items.map Prod.snd).filter (inTickGroup host group) = inGroup group (grouped items) := by
  rw [Lib.inGroup, grouped, List.filter_map, List.filter_map, List.map_map]
  have hsame : ∀ item ∈ items, (inTickGroup host group ∘ Prod.snd) item = (decide (item.1.1 = group)) := by
    intro item hitem
    simp [inTickGroup, h item hitem, Except.toOption]
  rw [List.filter_congr hsame]
  rfl

theorem numbered_ordinals (host : TickHost) (group : TickGroup) (ticks : List Tick) :
    (numbered host group ticks).map (·.get "tick_ordinal" (.scalar .none)) =
      (List.range (numbered host group ticks).length).map fun ordinal => .scalar (.int ordinal) := by
  rw [numbered_length, numbered, List.map_map]
  have hsnd : (sortBy (snapshotOrderKey host) ticks).zipIdx.map Prod.snd = List.range ticks.length := by
    rw [List.zipIdx_map_snd, sortBy_length, List.range_eq_range']
  rw [← hsnd, List.map_map]
  refine List.map_congr_left fun item _ => ?_
  exact stored_get_ordinal _ _ _ _ _

theorem numbered_times (host : TickHost) (group : TickGroup) (ticks : List Tick) :
    (numbered host group ticks).Pairwise fun tick later => ∃ t t', tick.time = some t ∧ later.time = some t' ∧ t < t' := by
  rw [numbered, List.pairwise_map, List.pairwise_iff_getElem]
  intro i j hi hj hij
  rw [List.getElem_zipIdx, List.getElem_zipIdx]
  refine ⟨_, _, rfl, rfl, ?_⟩
  have hless : (((0 + i : Nat)) : Int) < ((0 + j : Nat) : Int) := by exact_mod_cast Nat.add_lt_add_left hij 0
  omega

namespace Fits
variable {items : List ((TickGroup × String) × Tick)}

theorem mem_layout (h : Fits host items) {entry : TickGroup × List Tick} (hentry : entry ∈ rankedEntries TickGroup.rank (groupAll (grouped items)))
    {tick : Tick} (htick : tick ∈ numbered host entry.1 entry.2) :
    ∃ identity, ∃ original ∈ inGroup entry.1 (grouped items), ∃ ordinal < HISTORICAL_TICK_ORDINALS_PER_MILLISECOND,
      tick.identityKey host = .ok (entry.1, identity) ∧
        tick = original.stored entry.1.sourceTimeMs ordinal (entry.1.sourceTimeMs * 1000 + ordinal) := by
  obtain ⟨group, ticks⟩ := entry
  obtain ⟨heq, -⟩ := mem_ranked hentry
  simp only at heq htick ⊢
  subst heq
  obtain ⟨original, horiginal, ordinal, hless, heq⟩ := mem_numbered htick
  obtain ⟨identity, hkey⟩ := h.keyed.inGroup horiginal
  have hroom : ordinal < HISTORICAL_TICK_ORDINALS_PER_MILLISECOND := lt_of_lt_of_le hless (h.room group)
  refine ⟨identity, original, horiginal, ordinal, hroom, ?_, heq⟩
  rw [heq]
  exact stored_identityKey hkey (h.group_valid horiginal).1 hroom

theorem layout_ticks (host : TickHost) (items : List ((TickGroup × String) × Tick)) :
    (layout host items).map Prod.snd = (rankedEntries TickGroup.rank (groupAll (grouped items))).flatMap fun entry => numbered host entry.1 entry.2 := by
  rw [layout, List.map_flatMap]
  simp only [List.map_map]
  congr 1
  funext entry
  exact List.map_id _

theorem layout_times (h : Fits host items) : ((layout host items).map Prod.snd).Pairwise fun tick later => ∀ key key',
    tick.identityKey host = .ok key → later.identityKey host = .ok key' → key.1.stockCode = key'.1.stockCode →
      key.1.period = key'.1.period → ∃ t t', tick.time = some t ∧ later.time = some t' ∧ t < t' := by
  rw [layout_ticks, List.pairwise_flatMap]
  refine ⟨fun entry _ => (numbered_times host entry.1 entry.2).imp fun htimes _ _ _ _ _ _ => htimes, ?_⟩
  refine (rankedEntries_pairwise rank_injective).imp_of_mem fun {entry entry'} hentry hentry' hrank => ?_
  intro tick htick later hlater key key' hkey hkey' hstock hperiod
  obtain ⟨identity, original, -, ordinal, hordinal, hown, rfl⟩ := h.mem_layout hentry htick
  obtain ⟨identity', original', -, ordinal', -, hown', rfl⟩ := h.mem_layout hentry' hlater
  cases hkey.symm.trans hown
  cases hkey'.symm.trans hown'
  refine ⟨_, _, rfl, rfl, ?_⟩
  have hms : entry.1.sourceTimeMs < entry'.1.sourceTimeMs := by
    rcases Prod.Lex.toLex_lt_toLex.mp hrank with hless | ⟨-, hrest⟩
    · exact hless
    · simp only at hstock hperiod hrest
      rw [hstock, hperiod] at hrest
      exact absurd hrest (lt_irrefl _)
  simp only [HISTORICAL_TICK_ORDINALS_PER_MILLISECOND] at hordinal
  omega

end Fits

theorem merge_isLossless (h : mergeTicksLosslessly host sequences = .ok out) : LosslessMerge host sequences out := by
  obtain ⟨keyed, hkeyed, hfits, hout⟩ := merge_ok h
  have hlayout := hfits.layout_keyed
  have hoccurrences : ∀ key, occurrences key (layout host (Retained.retainAll keyed).items) = (keyed.map (occurrences key)).foldl max 0 := by
    intro key
    obtain ⟨hcounts, hitems⟩ := Retained.retainAll_counts keyed key
    rw [hfits.layout_occurrences, hitems, hcounts]
  have hmem : ∀ tick ∈ out, ∃ entry ∈ rankedEntries TickGroup.rank (groupAll (grouped (Retained.retainAll keyed).items)),
      tick ∈ numbered host entry.1 entry.2 := by
    intro tick htick
    rw [hout, Fits.layout_ticks] at htick
    exact List.mem_flatMap.mp htick
  refine ⟨fun key => ?_, fun group => ?_, ?_, fun tick htick => ?_, fun tick htick => ?_, fun rest hrest => ?_⟩
  · rw [hout, keyed_occurrences hlayout, hoccurrences, sequences_occurrences hkeyed]
  · rw [hout, keyed_filter hlayout, Fits.inGroup_layout]
    exact numbered_ordinals host group _
  · rw [hout]
    exact hfits.layout_times
  · obtain ⟨entry, hentry, hin⟩ := hmem tick htick
    obtain ⟨identity, original, -, ordinal, hordinal, hown, rfl⟩ := hfits.mem_layout hentry hin
    simp only [HISTORICAL_TICK_ORDINALS_PER_MILLISECOND] at hordinal
    exact ⟨_, _, ordinal, hown, rfl, stored_get_ordinal _ _ _ _ _, by simp only; omega, by omega⟩
  · obtain ⟨entry, hentry, hin⟩ := hmem tick htick
    obtain ⟨identity, original, horiginal, ordinal, -, -, rfl⟩ := hfits.mem_layout hentry hin
    obtain ⟨item, hitem, heq⟩ := List.mem_map.mp (mem_inGroup.mp horiginal)
    obtain ⟨items, hitems, hin⟩ := Retained.mem_retainAll hitem
    obtain ⟨sequence, hsequence, hkeys⟩ := (mapM_each hkeyed).2 items hitems
    refine ⟨sequence, hsequence, original, ?_, stored_payload _ _ _ _⟩
    rw [(keyed_mapM hkeys).2]
    exact List.mem_map.mpr ⟨item, hin, congrArg Prod.snd heq⟩
  · have hrests : ∃ keyedRest, rest.mapM (·.mapM (Tick.keyed host)) = .ok keyedRest ∧ ∀ items ∈ keyedRest, items ∈ keyed := by
      clear hmem
      induction rest with
      | nil => exact ⟨[], rfl, by simp⟩
      | cons sequence rest ih =>
        obtain ⟨keyedRest, hall, hin⟩ := ih fun other hother => hrest other (List.mem_cons_of_mem _ hother)
        obtain ⟨items, hitems, hfirst⟩ := (mapM_each hkeyed).1 sequence (hrest sequence (List.mem_cons_self ..))
        refine ⟨items :: keyedRest, ?_, ?_⟩
        · rw [List.mapM_cons]
          exact bind_eq_ok.mpr ⟨items, hfirst, bind_eq_ok.mpr ⟨keyedRest, hall, rfl⟩⟩
        · rintro other (_ | ⟨_, hother⟩)
          · exact hitems
          · exact hin other hother
    obtain ⟨keyedRest, hkeyedRest, hin⟩ := hrests
    have hall : (out :: rest).mapM (·.mapM (Tick.keyed host)) = .ok (layout host (Retained.retainAll keyed).items :: keyedRest) := by
      rw [List.mapM_cons, hout, mapM_keyed hlayout]
      exact bind_eq_ok.mpr ⟨_, rfl, bind_eq_ok.mpr ⟨keyedRest, hkeyedRest, rfl⟩⟩
    have hitems : (Retained.retainAll (layout host (Retained.retainAll keyed).items :: keyedRest)).items =
        layout host (Retained.retainAll keyed).items := by
      refine Retained.retainAll_covered fun items hitems key => ?_
      rw [hoccurrences]
      exact le_foldl_max _ 0 (.inl (List.mem_map.mpr ⟨items, hin items hitems, rfl⟩))
    have hmerge := merge_of_fits hall (by rw [hitems]; exact hfits.layout_fits)
    rw [hmerge, hitems, hfits.layout_layout, hout]

end QuantX
