import QuantX.Theorems.TickIdentity.Stored

namespace QuantX
open Lib Tick

variable {host : TickHost} {out ticks : List Tick} {group : TickGroup}
variable {items : List ((TickGroup × String) × Tick)}

def numbered (host : TickHost) (group : TickGroup) (ticks : List Tick) : List Tick :=
  (sortBy (snapshotOrderKey host) ticks).zipIdx.map fun item => item.1.stored group.sourceTimeMs item.2 (group.sourceTimeMs * 1000 + item.2)

def ValidSourceTime (sourceTimeMs : Int) : Prop := 0 ≤ sourceTimeMs ∧ sourceTimeMs * 1000 < SHANGHAI_END

theorem tickStorageTime_eq {ms : Int} {ordinal : Nat} (hms : ValidSourceTime ms) (hordinal : ordinal < HISTORICAL_TICK_ORDINALS_PER_MILLISECOND) :
    tickStorageTime ms ordinal = .ok (ms * 1000 + ordinal) := by
  obtain ⟨hnonneg, hend⟩ := hms
  simp only [HISTORICAL_TICK_ORDINALS_PER_MILLISECOND] at hordinal
  simp only [SHANGHAI_END, DATETIME_END] at hend
  refine require_bind.mpr ⟨⟨hnonneg, Int.natCast_nonneg _, ?_⟩, require_bind.mpr ⟨?_, require_bind.mpr ⟨?_, rfl⟩⟩⟩
  · simp only [HISTORICAL_TICK_ORDINALS_PER_MILLISECOND]
    omega
  · simp only [DATETIME_END]
    omega
  · simp only [SHANGHAI_END, DATETIME_END]
    omega

theorem tickStorageTime_valid {ms time : Int} {ordinal : Nat} (h : tickStorageTime ms ordinal = .ok time) :
    ValidSourceTime ms ∧ time = ms * 1000 + ordinal := by
  obtain ⟨⟨hnonneg, -, -⟩, h⟩ := require_bind.mp h
  obtain ⟨-, h⟩ := require_bind.mp h
  obtain ⟨hend, h⟩ := require_bind.mp h
  cases h
  exact ⟨⟨hnonneg, by omega⟩, rfl⟩

theorem normalizeGroup_eq (hms : ValidSourceTime group.sourceTimeMs) (hlength : ticks.length ≤ HISTORICAL_TICK_ORDINALS_PER_MILLISECOND) :
    normalizeGroup host group ticks = .ok (numbered host group ticks) := by
  rw [normalizeGroup]
  refine require_bind.mpr ⟨by rwa [sortBy_length], mapM_eq_ok.mpr ?_⟩
  rw [numbered, List.forall₂_map_right_iff, List.forall₂_same]
  rintro ⟨tick, ordinal⟩ hmem
  have hless : ordinal < HISTORICAL_TICK_ORDINALS_PER_MILLISECOND := by
    have hlt := List.snd_lt_of_mem_zipIdx hmem
    rw [sortBy_length] at hlt
    exact hlt.trans_le hlength
  rw [tickStorageTime_eq hms hless]
  rfl

theorem normalizeGroup_ok (h : normalizeGroup host group ticks = .ok out) :
    out = numbered host group ticks ∧ ticks.length ≤ HISTORICAL_TICK_ORDINALS_PER_MILLISECOND ∧
      (ticks ≠ [] → ValidSourceTime group.sourceTimeMs) := by
  obtain ⟨hlength, h⟩ := require_bind.mp h
  rw [sortBy_length] at hlength
  have hstored := mapM_eq_ok.mp h
  have hvalid : ticks ≠ [] → ValidSourceTime group.sourceTimeMs := by
    intro hsome
    have hordered : (sortBy (snapshotOrderKey host) ticks).zipIdx ≠ [] := by
      intro hnil
      have hzero := congrArg List.length hnil
      rw [List.length_zipIdx, sortBy_length] at hzero
      exact hsome (List.eq_nil_of_length_eq_zero hzero)
    obtain ⟨item, hitem⟩ := List.exists_mem_of_ne_nil _ hordered
    obtain ⟨tick, -, htick⟩ := (mapM_each h).1 item hitem
    obtain ⟨time, htime, -⟩ := bind_eq_ok.mp htick
    exact (tickStorageTime_valid htime).1
  refine ⟨?_, hlength, hvalid⟩
  by_cases hsome : ticks = []
  · subst hsome
    cases hstored
    rfl
  · have heq : normalizeGroup host group ticks = .ok (numbered host group ticks) := normalizeGroup_eq (hvalid hsome) hlength
    obtain ⟨-, heq⟩ := require_bind.mp heq
    exact Except.ok.inj (h.symm.trans heq)

theorem numbered_countP {p : Tick → Bool} (hp : ∀ tick ordinal time, p (tick.stored group.sourceTimeMs ordinal time) = p tick) :
    (numbered host group ticks).countP p = ticks.countP p := by
  rw [numbered, List.countP_map, ← (sortBy_perm (snapshotOrderKey host) ticks).countP_eq p]
  have hsnd : ((sortBy (snapshotOrderKey host) ticks).zipIdx.map Prod.fst) = sortBy (snapshotOrderKey host) ticks := List.zipIdx_map_fst ..
  conv_rhs => rw [← hsnd, List.countP_map]
  refine List.countP_congr fun item _ => ?_
  simp [hp]

theorem numbered_numbered (hms : 0 ≤ group.sourceTimeMs) (hsource : ∀ tick ∈ ticks, tick.sourceTimeMs host = .ok group.sourceTimeMs)
    (hlength : ticks.length ≤ HISTORICAL_TICK_ORDINALS_PER_MILLISECOND) :
    numbered host group (numbered host group ticks) = numbered host group ticks := by
  have hsorted : (numbered host group ticks).Pairwise fun a b => snapshotOrderKey host a ≤ snapshotOrderKey host b := by
    rw [numbered, List.pairwise_map]
    rw [List.pairwise_iff_getElem]
    intro i j hi hj hij
    rw [List.length_zipIdx] at hi hj
    rw [List.getElem_zipIdx, List.getElem_zipIdx]
    have hlt : 0 + j < HISTORICAL_TICK_ORDINALS_PER_MILLISECOND := by
      rw [sortBy_length] at hj
      omega
    have hmem : ∀ k (hk : k < (sortBy (snapshotOrderKey host) ticks).length),
        ((sortBy (snapshotOrderKey host) ticks)[k]).sourceTimeMs host = .ok group.sourceTimeMs :=
      fun k hk => hsource _ (mem_sortBy.mp (List.getElem_mem hk))
    exact stored_order hms (List.pairwise_iff_getElem.mp (sortBy_pairwise _ _) i j hi hj hij) (by omega) hlt (hmem i hi) (hmem j hj) _ _
  have hagain : numbered host group (numbered host group ticks) =
      (numbered host group ticks).zipIdx.map fun item =>
        item.1.stored group.sourceTimeMs item.2 (group.sourceTimeMs * 1000 + item.2) := by
    conv_lhs => rw [numbered, sortBy_of_pairwise hsorted]
  rw [hagain]
  refine List.ext_getElem (by simp) fun i hi hi' => ?_
  simp only [numbered, List.getElem_map, List.getElem_zipIdx, Nat.zero_add]
  exact stored_stored _ _ _ _

/-! ## Layouts -/

def grouped (items : List ((TickGroup × String) × Tick)) : List (TickGroup × Tick) := items.map fun item => (item.1.1, item.2)

def Keyed (host : TickHost) (items : List ((TickGroup × String) × Tick)) : Prop := ∀ item ∈ items, item.2.identityKey host = .ok item.1

theorem keyed_mapM (h : ticks.mapM (Tick.keyed host) = .ok items) :
    Keyed host items ∧ ticks = items.map Prod.snd := by
  have hall := mapM_eq_ok.mp h
  clear h
  induction hall with
  | nil => exact ⟨by simp [Keyed], rfl⟩
  | cons hfirst _ ih =>
    obtain ⟨key, hkey, hitem⟩ := bind_eq_ok.mp hfirst
    cases hitem
    refine ⟨?_, ?_⟩
    · rintro item (_ | ⟨_, hmem⟩)
      · exact hkey
      · exact ih.1 item hmem
    · rw [ih.2]
      rfl

theorem mapM_keyed (h : Keyed host items) :
    (items.map Prod.snd).mapM (Tick.keyed host) = .ok items := by
  rw [mapM_eq_ok, List.forall₂_map_left_iff, List.forall₂_same]
  intro item hmem
  rw [Tick.keyed, h item hmem]
  rfl

theorem Keyed.inGroup (h : Keyed host items) {tick : Tick}
    (hmem : tick ∈ inGroup group (grouped items)) : ∃ identity, tick.identityKey host = .ok (group, identity) := by
  obtain ⟨item, hitem, heq⟩ := List.mem_map.mp (mem_inGroup.mp hmem)
  obtain ⟨⟨itemGroup, identity⟩, itemTick⟩ := item
  cases heq
  exact ⟨identity, h _ hitem⟩

/-- What a merge lays out: the groups one after the other, with the keys of the ticks. -/
def layout (host : TickHost) (items : List ((TickGroup × String) × Tick)) : List ((TickGroup × String) × Tick) :=
  (rankedEntries TickGroup.rank (groupAll (grouped items))).flatMap fun entry =>
    (numbered host entry.1 entry.2).map fun tick => ((entry.1, tick.snapshotIdentity host), tick)

structure Fits (host : TickHost) (items : List ((TickGroup × String) × Tick)) : Prop where
  keyed : Keyed host items
  valid : ∀ item ∈ items, ValidSourceTime item.1.1.sourceTimeMs
  room : ∀ group, (inGroup group (grouped items)).length ≤ HISTORICAL_TICK_ORDINALS_PER_MILLISECOND

theorem rank_injective : Function.Injective TickGroup.rank := by
  rintro ⟨stockCode, period, ms⟩ ⟨stockCode', period', ms'⟩ h
  obtain ⟨rfl, rfl, rfl⟩ := h
  rfl

theorem mem_ranked {entry : TickGroup × List Tick}
    (h : entry ∈ rankedEntries TickGroup.rank (groupAll (grouped items))) :
    entry.2 = inGroup entry.1 (grouped items) ∧ entry.2 ≠ [] := by
  have hget := mem_rankedEntries.mp h
  rw [get?_groupAll] at hget
  split at hget
  next => cases hget
  next hsome =>
    have heq := Option.some.inj hget
    exact ⟨heq.symm, heq ▸ hsome⟩

theorem numbered_length (host : TickHost) (group : TickGroup) (ticks : List Tick) : (numbered host group ticks).length = ticks.length := by
  rw [numbered, List.length_map, List.length_zipIdx, sortBy_length]

theorem mem_numbered {tick : Tick} (h : tick ∈ numbered host group ticks) :
    ∃ original ∈ ticks, ∃ ordinal < ticks.length,
      tick = original.stored group.sourceTimeMs ordinal (group.sourceTimeMs * 1000 + ordinal) := by
  obtain ⟨⟨original, ordinal⟩, hmem, rfl⟩ := List.mem_map.mp h
  have hless := List.snd_lt_of_mem_zipIdx hmem
  rw [sortBy_length] at hless
  exact ⟨original, mem_sortBy.mp (List.fst_mem_of_mem_zipIdx hmem), ordinal, hless, rfl⟩

namespace Fits
variable {items : List ((TickGroup × String) × Tick)}

theorem group_valid (h : Fits host items) {tick : Tick} (hmem : tick ∈ inGroup group (grouped items)) : ValidSourceTime group.sourceTimeMs := by
  obtain ⟨item, hitem, heq⟩ := List.mem_map.mp (mem_inGroup.mp hmem)
  cases heq
  exact h.valid item hitem

theorem group_source (h : Fits host items) {tick : Tick} (hmem : tick ∈ inGroup group (grouped items)) :
    tick.sourceTimeMs host = .ok group.sourceTimeMs := by
  obtain ⟨identity, hkey⟩ := h.keyed.inGroup hmem
  obtain ⟨ms, hms, heq⟩ := bind_eq_ok.mp hkey
  cases heq
  exact hms

theorem inGroup_layout (items : List ((TickGroup × String) × Tick)) (group : TickGroup) :
    inGroup group (grouped (layout host items)) = numbered host group (inGroup group (grouped items)) := by
  have hgrouped : grouped (layout host items) = (rankedEntries TickGroup.rank (groupAll (grouped items))).flatMap fun entry =>
      (numbered host entry.1 entry.2).map (Prod.mk entry.1) := by
    simp only [grouped, layout, List.map_flatMap, List.map_map]
    rfl
  rw [hgrouped, inGroup_flatMap (rankedEntries_nodup _ _)]
  have hlookup : Dict.lookup group (rankedEntries TickGroup.rank (groupAll (grouped items))) = (groupAll (grouped items)).get? group := by
    refine Option.ext fun l => ?_
    rw [Dict.lookup_eq_some (rankedEntries_nodup _ _), mem_rankedEntries]
  rw [hlookup, get?_groupAll]
  split
  next hempty =>
    rw [hempty]
    rfl
  next => rfl

theorem layout_keyed (h : Fits host items) : Keyed host (layout host items) := by
  intro item hitem
  obtain ⟨entry, hentry, hmem⟩ := List.mem_flatMap.mp hitem
  obtain ⟨tick, htick, rfl⟩ := List.mem_map.mp hmem
  obtain ⟨heq, -⟩ := mem_ranked hentry
  rw [heq] at htick
  obtain ⟨original, horiginal, ordinal, hless, rfl⟩ := mem_numbered htick
  obtain ⟨identity, hkey⟩ := h.keyed.inGroup horiginal
  have hstored := stored_identityKey hkey (h.group_valid horiginal).1 (hless.trans_le (h.room entry.1))
  rw [hstored]
  obtain ⟨ms, -, hpair⟩ := bind_eq_ok.mp hkey
  have hidentity : original.snapshotIdentity host = identity := congrArg Prod.snd (Except.ok.inj hpair)
  rw [(stored_payload _ _ _ _).identity, hidentity]

theorem layout_layout (h : Fits host items) : layout host (layout host items) = layout host items := by
  have hgroups : ∀ group, (groupAll (grouped (layout host items))).get? group =
      ((groupAll (grouped items)).mapEntries fun entry => numbered host entry.1 entry.2).get? group := by
    intro group
    rw [Dict.get?_mapEntries, get?_groupAll, get?_groupAll, inGroup_layout]
    by_cases hempty : inGroup group (grouped items) = []
    · rw [if_pos hempty, hempty]
      rfl
    · have hsome : numbered host group (inGroup group (grouped items)) ≠ [] := by
        intro hnil
        have hzero := congrArg List.length hnil
        rw [numbered_length] at hzero
        exact hempty (List.eq_nil_of_length_eq_zero hzero)
      rw [if_neg hempty, if_neg hsome]
      rfl
  rw [layout, rankedEntries_congr rank_injective hgroups, rankedEntries_mapEntries rank_injective, List.flatMap_map]
  refine List.flatMap_congr fun entry hentry => ?_
  obtain ⟨heq, hsome⟩ := mem_ranked hentry
  obtain ⟨tick, htick⟩ := List.exists_mem_of_ne_nil _ hsome
  rw [heq] at htick
  have hagain : numbered host entry.1 (numbered host entry.1 entry.2) = numbered host entry.1 entry.2 := by
    rw [heq]
    exact numbered_numbered (h.group_valid htick).1 (fun tick hmem => h.group_source hmem) (h.room entry.1)
  simp only [hagain]

theorem layout_fits (h : Fits host items) : Fits host (layout host items) := by
  refine ⟨h.layout_keyed, fun item hitem => ?_, fun group => ?_⟩
  · obtain ⟨entry, hentry, hmem⟩ := List.mem_flatMap.mp hitem
    obtain ⟨tick, htick, rfl⟩ := List.mem_map.mp hmem
    obtain ⟨heq, hsome⟩ := mem_ranked hentry
    obtain ⟨original, horiginal⟩ := List.exists_mem_of_ne_nil _ hsome
    rw [heq] at horiginal
    exact h.group_valid horiginal
  · rw [inGroup_layout, numbered_length]
    exact h.room group

theorem layout_occurrences (h : Fits host items) (key : TickGroup × String) : occurrences key (layout host items) = occurrences key items := by
  have hcount : ∀ items : List ((TickGroup × String) × Tick), Keyed host items →
      occurrences key items = (inGroup key.1 (grouped items)).countP fun tick => tick.snapshotIdentity host = key.2 := by
    intro items hkeyed
    rw [occurrences, Lib.inGroup, grouped, List.countP_map, List.countP_filter, List.countP_map]
    refine List.countP_congr fun item hitem => ?_
    obtain ⟨ms, -, heq⟩ := bind_eq_ok.mp (hkeyed item hitem)
    have hidentity : item.2.snapshotIdentity host = item.1.2 := congrArg Prod.snd (Except.ok.inj heq)
    simp only [Function.comp, hidentity, Prod.ext_iff, decide_eq_true_eq, Bool.and_eq_true]
    exact and_comm
  rw [hcount _ h.layout_keyed, hcount _ h.keyed, inGroup_layout]
  exact numbered_countP fun tick ordinal time => by rw [(stored_payload tick _ ordinal time).identity]

end Fits
end QuantX
