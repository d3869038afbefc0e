import QuantX.Trading.SymbolMarketDeltaRing
import QuantX.Lib.Run
import Mathlib.Data.List.TakeWhile

/-! # The delta ring: what a consumer is given

The ring is a window over the ticks that its generation has accepted. -/

namespace QuantX
open Lib

namespace SymbolMarketDeltaRing
variable {self next : SymbolMarketDeltaRing} {tick : AcceptedTMarketTick} {captureTimeMs : Int}
  {result : TickAcceptanceResult} {accepted : Nat → List AcceptedTMarketTick} {through : Option Int}
variable {l : List AcceptedTMarketTick}

def Next (a b : AcceptedTMarketTick) : Prop :=
  b.acceptedSequence = a.acceptedSequence + 1 ∧ a.marketFenceSequence ≤ b.marketFenceSequence

def Ordered (l : List AcceptedTMarketTick) : Prop :=
  l.Pairwise fun a b => a.acceptedSequence < b.acceptedSequence ∧ a.marketFenceSequence ≤ b.marketFenceSequence

theorem ordered_of_chain (h : l.IsChain Next) : Ordered l := by
  have hweak : l.IsChain fun a b =>
      a.acceptedSequence < b.acceptedSequence ∧ a.marketFenceSequence ≤ b.marketFenceSequence :=
    h.imp fun a b (hab : Next a b) => ⟨hab.1 ▸ Nat.lt_succ_self _, hab.2⟩
  have : IsTrans AcceptedTMarketTick fun a b =>
      a.acceptedSequence < b.acceptedSequence ∧ a.marketFenceSequence ≤ b.marketFenceSequence :=
    ⟨fun a b c hab hbc => ⟨hab.1.trans hbc.1, hab.2.trans hbc.2⟩⟩
  exact List.isChain_iff_pairwise.mp hweak

theorem covers_of_le {a b : AcceptedTMarketTick} (h : a.marketFenceSequence ≤ b.marketFenceSequence)
    (hb : covers through b = true) : covers through a = true := by
  cases through with
  | none => rfl
  | some n =>
    simp only [covers, Option.all_some, decide_eq_true_eq] at hb ⊢
    exact (Int.ofNat_le.mpr h).trans hb

theorem eligible_append_hidden (through : Option Int) (h : Ordered l) :
    l.filter (covers through) ++ l.filter (fun a => !covers through a) = l :=
  filter_append_filter_not (h.imp fun hab => covers_of_le hab.2)

theorem pruned_suffix (l : List AcceptedTMarketTick) (time : Nat) : pruned l time <:+ l :=
  (List.dropWhile_suffix _).trans (recent_suffix _ _)

theorem pruned_ne_nil (l : List AcceptedTMarketTick) (tick : AcceptedTMarketTick) :
    pruned (l ++ [tick]) tick.sample.sourceTimeMs ≠ [] := by
  intro h
  rw [pruned, List.dropWhile_eq_nil_iff] at h
  have hmem : tick ∈ recent T_ASSISTANT_DELTA_RING_CAPACITY (l ++ [tick]) := by
    rw [T_ASSISTANT_DELTA_RING_CAPACITY, recent_concat]
    exact List.mem_append_right _ List.mem_cons_self
  have hold := h tick hmem
  rw [decide_eq_true_eq, T_ASSISTANT_DELTA_RING_WINDOW_MS] at hold
  omega

theorem push_ticks (self : SymbolMarketDeltaRing) (tick : AcceptedTMarketTick) :
    (self.push tick).ticks = pruned (self.ticks ++ [tick]) tick.sample.sourceTimeMs := by
  simp only [push]

theorem push_ringGeneration (self : SymbolMarketDeltaRing) (tick : AcceptedTMarketTick) :
    (self.push tick).ringGeneration = self.ringGeneration := by
  rw [push]

def bound (self : SymbolMarketDeltaRing) (tick : AcceptedTMarketTick) : SymbolMarketDeltaRing :=
  { self with streamId := tick.streamId, continuityGeneration := tick.sample.continuityGeneration }

theorem follow_cases (self : SymbolMarketDeltaRing) (tick : AcceptedTMarketTick) :
    ((self.streamId = "" ∨ (tick.streamId = self.streamId ∧
        tick.sample.continuityGeneration = self.continuityGeneration)) ∧ self.follow tick = self.bound tick) ∨
      ∃ reason, self.follow tick = (self.resetForDiscontinuity reason).bound tick := by
  unfold follow
  cases tick.discontinuityReason with
  | some reason => exact .inr ⟨reason, rfl⟩
  | none =>
    by_cases hbreak : self.streamId ≠ "" ∧
        (tick.streamId ≠ self.streamId ∨ tick.sample.continuityGeneration ≠ self.continuityGeneration)
    · simp only [if_pos hbreak]
      exact .inr ⟨_, rfl⟩
    · simp only [if_neg hbreak]
      refine .inl ⟨?_, rfl⟩
      by_cases hstream : self.streamId = ""
      · exact .inl hstream
      · refine .inr ⟨?_, ?_⟩
        · by_contra hne
          exact hbreak ⟨hstream, .inl hne⟩
        · by_contra hne
          exact hbreak ⟨hstream, .inr hne⟩

theorem accept_cases (h : self.accept tick captureTimeMs = .ok (result, next)) :
    (result.acceptance ≠ .accepted ∧
      (next = self ∨ (next = self.follow tick ∧ (self.follow tick).acceptance tick ≠ .accepted))) ∨
    (result.acceptance = .accepted ∧ result.ringGeneration = next.ringGeneration ∧
      next = (self.follow tick).push tick) := by
  unfold accept at h
  split at h
  · cases h
  · split at h
    · cases h
      exact .inl ⟨by simp, .inl rfl⟩
    · cases hacceptance : (self.follow tick).acceptance tick with
      | duplicate =>
        simp only [hacceptance] at h
        cases h
        exact .inl ⟨by simp, .inr ⟨rfl, by simp⟩⟩
      | accepted =>
        simp only [hacceptance] at h
        cases h
        exact .inr ⟨rfl, rfl, rfl⟩
      | outOfOrder =>
        simp only [hacceptance] at h
        cases h
        exact .inl ⟨by simp, .inr ⟨rfl, by simp⟩⟩
      | futureTimestamp =>
        simp only [hacceptance] at h
        cases h
        exact .inl ⟨by simp, .inr ⟨rfl, by simp⟩⟩

/-- The ring is a window over the ticks accepted in its generation, and empty only before the first. -/
structure Sound (accepted : Nat → List AcceptedTMarketTick) (ring : SymbolMarketDeltaRing) : Prop where
  window : ring.ticks <:+ accepted ring.ringGeneration
  later : ∀ g, ring.ringGeneration < g → accepted g = []
  chain : ∀ g, (accepted g).IsChain Next
  streaming : ring.streamId ≠ "" → ring.ticks ≠ [] ∧ ring.continuityGeneration ≠ ""
  unbound : ring.streamId = "" →
    ring.lastSequence = 0 ∧ ring.lastIdentity = none ∧ accepted ring.ringGeneration = []

namespace Sound

theorem ordered (h : self.Sound accepted) : Ordered self.ticks :=
  ordered_of_chain ((h.chain _).suffix h.window)

theorem unbound_of (h : self.Sound accepted) (hunbound : self.streamId = "" ∨ self.continuityGeneration = "") :
    self.streamId = "" := by
  by_contra hne
  exact hunbound.elim hne (h.streaming hne).2

theorem rejected (h : self.Sound accepted) (haccept : self.accept tick captureTimeMs = .ok (result, next))
    (hnot : result.acceptance ≠ .accepted) : next = self := by
  obtain ⟨-, rfl | ⟨rfl, hrejected⟩⟩ | ⟨hyes, -⟩ := accept_cases haccept
  · rfl
  · have hidentity : (self.follow tick).lastIdentity ≠ none := by
      intro hnone
      exact hrejected (by rw [acceptance, hnone])
    obtain ⟨hsame, hfollow⟩ | ⟨reason, hfollow⟩ := follow_cases self tick
    · rw [hfollow] at hidentity ⊢
      obtain hunbound | ⟨hstream, hgeneration⟩ := hsame
      · exact absurd (h.unbound hunbound).2.1 hidentity
      · rw [bound, hstream, hgeneration]
    · rw [hfollow] at hidentity
      exact absurd rfl hidentity
  · exact absurd hyes hnot

theorem push (h : self.Sound accepted) {accepted' : Nat → List AcceptedTMarketTick}
    (hnew : accepted' ((self.follow tick).push tick).ringGeneration =
      accepted ((self.follow tick).push tick).ringGeneration ++ [tick])
    (hold : ∀ g, g ≠ ((self.follow tick).push tick).ringGeneration → accepted' g = accepted g)
    (hpaced : ∀ last, (accepted ((self.follow tick).push tick).ringGeneration).getLast? = some last → Next last tick) :
    ((self.follow tick).push tick).Sound accepted' := by
  obtain ⟨hwindow, hlater, hchain, -, -⟩ := h
  have hfollow : self.ringGeneration ≤ (self.follow tick).ringGeneration ∧
      (self.follow tick).ticks <:+ accepted (self.follow tick).ringGeneration := by
    obtain ⟨-, hfollow⟩ | ⟨reason, hfollow⟩ := follow_cases self tick
    · rw [hfollow]
      exact ⟨le_rfl, hwindow⟩
    · rw [hfollow]
      exact ⟨Nat.le_succ _, List.nil_suffix⟩
  have hstream : (self.follow tick).streamId = tick.streamId ∧
      (self.follow tick).continuityGeneration = tick.sample.continuityGeneration := by
    obtain ⟨-, hfollow⟩ | ⟨reason, hfollow⟩ := follow_cases self tick
    · rw [hfollow]
      exact ⟨rfl, rfl⟩
    · rw [hfollow]
      exact ⟨rfl, rfl⟩
  have hticks := push_ticks (self.follow tick) tick
  refine ⟨?_, ?_, ?_, fun _ => ⟨?_, ?_⟩, fun hunbound => ?_⟩
  · rw [hnew, hticks]
    obtain ⟨front, hfront⟩ := hfollow.2
    refine (pruned_suffix _ _).trans ⟨front, ?_⟩
    rw [← List.append_assoc, hfront]
    rfl
  · intro g hg
    rw [hold g hg.ne']
    exact hlater g (hfollow.1.trans_lt hg)
  · intro g
    by_cases hsame : g = ((self.follow tick).push tick).ringGeneration
    · rw [hsame, hnew, List.isChain_append]
      refine ⟨hchain _, List.isChain_singleton _, ?_⟩
      intro last hlast first hfirst
      cases hfirst
      exact hpaced last hlast
    · rw [hold g hsame]
      exact hchain g
  · rw [hticks]
    exact pruned_ne_nil _ _
  · show (self.follow tick).continuityGeneration ≠ ""
    rw [hstream.2]
    exact tick.sample.generation_ne
  · exact absurd (hstream.1.symm.trans hunbound) tick.stream_ne

end Sound

/-! ## What a slice is -/

section Slices
variable {hash : DeltaSliceManifest → String} {cursor : Option SymbolMarketCursor} {decisionTimeMs : Int}
  {rewarmReplay : Bool}

def Foreign (ring : SymbolMarketDeltaRing) (cursor : SymbolMarketCursor) : Prop :=
  cursor.streamId ≠ ring.streamId ∨ cursor.continuityGeneration ≠ ring.continuityGeneration ∨
    cursor.ringGeneration ≠ ring.ringGeneration

def position (cursor : Option SymbolMarketCursor) : Nat := (cursor.map (·.acceptedSequence)).getD 0

/-- A READY slice: the eligible ticks behind the cursor, none of them missing in between. -/
structure IsReady (ring : SymbolMarketDeltaRing) (cursor : Option SymbolMarketCursor) (through : Option Int)
    (s : SymbolMarketDeltaSlice) : Prop where
  coverage : s.coverage = .ready
  ticks : s.ticks = (ring.eligible through).filter fun tick => position cursor < tick.acceptedSequence
  next : s.nextCursor = ring.nextCursor cursor (ring.eligible through)
  own : ∀ c, cursor = some c → ¬ring.Foreign c
  reaches : ∀ c, cursor = some c → ∀ oldest, (ring.eligible through).head? = some oldest →
    oldest.acceptedSequence ≤ c.acceptedSequence + 1

/-- A slice that starts a new account: its cursor stands before the oldest eligible tick, or where a foreign one stood
    when the fence hides every tick. -/
structure IsRestart (ring : SymbolMarketDeltaRing) (cursor : Option SymbolMarketCursor) (through : Option Int)
    (s : SymbolMarketDeltaSlice) : Prop where
  coverage : s.coverage ≠ .ready
  next : ∃ target, s.nextCursor = ring.rewarmCursor (ring.eligible through) target ∧
    (ring.eligible through = [] → ∃ c, cursor = some c ∧ ring.Foreign c ∧ target = c.acceptedSequence)

theorem lagging_nil (decisionTimeMs : Int) : lagging [] decisionTimeMs = false := rfl

theorem ownSlice_cases (hown : ∀ c, cursor = some c → ¬self.Foreign c) (target : Nat) :
    self.IsReady cursor through (self.ownSlice hash cursor decisionTimeMs (self.eligible through) target rewarmReplay) ∨
    self.IsRestart cursor through
      (self.ownSlice hash cursor decisionTimeMs (self.eligible through) target rewarmReplay) := by
  simp only [ownSlice]
  split
  · rename_i hoverflow
    refine .inr ⟨by simp [slice], target, rfl, fun hnone => ?_⟩
    rw [hnone] at hoverflow
    simp at hoverflow
  · rename_i hreach
    split
    · rename_i hlag
      refine .inr ⟨by simp [slice], target, rfl, fun hnone => ?_⟩
      rw [hnone] at hlag
      simp [lagging_nil] at hlag
    · refine .inl ⟨rfl, rfl, rfl, hown, ?_⟩
      intro c hc oldest holdest
      by_contra hgap
      rw [hc, holdest] at hreach
      simp only [Option.isSome_some, Option.map_some, Option.getD_some, Option.any_some, decide_eq_true_eq,
        true_and] at hreach
      omega

theorem discontinuitySlice_coverage (self : SymbolMarketDeltaRing) (hash : DeltaSliceManifest → String)
    (cursor : Option SymbolMarketCursor) : (self.discontinuitySlice hash cursor .streamNotReady).coverage ≠ .ready := by
  intro h
  cases h

theorem sliceAfter_cases (self : SymbolMarketDeltaRing) (hash : DeltaSliceManifest → String)
    (cursor : Option SymbolMarketCursor) (decisionTimeMs : Int) (through : Option Int) (rewarmReplay : Bool) :
    ((self.streamId = "" ∨ self.continuityGeneration = "") ∧
      self.sliceAfter hash cursor decisionTimeMs through rewarmReplay =
        self.discontinuitySlice hash cursor .streamNotReady) ∨
    (self.streamId ≠ "" ∧ self.continuityGeneration ≠ "" ∧
      (self.IsReady cursor through (self.sliceAfter hash cursor decisionTimeMs through rewarmReplay) ∨
        self.IsRestart cursor through (self.sliceAfter hash cursor decisionTimeMs through rewarmReplay))) := by
  unfold sliceAfter
  split
  · rename_i hunbound
    exact .inl ⟨hunbound, rfl⟩
  · rename_i hbound
    rw [not_or] at hbound
    refine .inr ⟨hbound.1, hbound.2, ?_⟩
    cases cursor with
    | none => exact ownSlice_cases (fun c hc => by cases hc) _
    | some c =>
      -- Where nothing is eligible, a foreign cursor keeps its number.
      have htarget : self.eligible through = [] →
          (((self.eligible through).getLast?.map (·.acceptedSequence)).getD
            (((some c).map (·.acceptedSequence)).getD self.lastSequence)) = c.acceptedSequence := by
        intro hnone
        rw [hnone]
        rfl
      simp only
      split
      · rename_i hforeign
        refine .inr ⟨by simp [slice], _, rfl, fun hnone => ⟨c, rfl, ?_, htarget hnone⟩⟩
        exact hforeign.imp_right .inl
      · rename_i hstream
        split
        · rename_i hring
          refine .inr ⟨?_, _, rfl, fun hnone => ⟨c, rfl, .inr (.inr hring), htarget hnone⟩⟩
          show (if self.discontinuityReason = some .sequenceGap then
            SymbolDeltaCoverage.sequenceGap else .generationChanged) ≠ .ready
          split <;> simp
        · rename_i hring
          refine ownSlice_cases ?_ _
          rintro c' hc'
          cases hc'
          rintro (hne | hne | hne)
          · exact hstream (.inl hne)
          · exact hstream (.inr hne)
          · exact hring hne

theorem replay_ready (hash : DeltaSliceManifest → String) (through : Option Int) (hstream : self.streamId ≠ "") (hgeneration : self.continuityGeneration ≠ "")
    (hordered : Ordered self.ticks) (target : Nat) (decisionTimeMs : Int) :
    (self.sliceAfter hash (some (self.rewarmCursor (self.eligible through) target)) decisionTimeMs through true).coverage =
      .ready ∧
    (self.sliceAfter hash (some (self.rewarmCursor (self.eligible through) target)) decisionTimeMs through true).ticks =
      self.eligible through := by
  have hplain : ¬(self.streamId = "" ∨ self.continuityGeneration = "") := by simp [hstream, hgeneration]
  have heligible : Ordered (self.eligible through) := hordered.sublist List.filter_sublist
  unfold sliceAfter
  rw [if_neg hplain]
  simp only [rewarmCursor, ne_eq, not_true_eq_false, or_self, ↓reduceIte, ownSlice, Option.map_some, Option.getD_some,
    Option.isSome_some, true_and]
  cases hcase : self.eligible through with
  | nil => simp [slice]
  | cons oldest rest =>
    rw [hcase] at heligible
    have hpos := oldest.sequence_pos
    have hreach : ¬(((oldest.acceptedSequence - 1 : Nat) : Int) < oldest.acceptedSequence - 1) := by omega
    have hall : (oldest :: rest).filter (fun tick => oldest.acceptedSequence - 1 < tick.acceptedSequence) =
        oldest :: rest := by
      rw [List.filter_eq_self]
      intro tick htick
      rw [decide_eq_true_eq]
      rcases List.mem_cons.mp htick with rfl | hmem
      · exact Nat.sub_lt hpos Nat.one_pos
      · have hlt := ((List.pairwise_cons.mp heligible).1 tick hmem).1
        exact (Nat.sub_le _ _).trans_lt hlt
    simp only [List.head?_cons, Option.map_some, Option.getD_some, Option.any_some, decide_eq_true_eq, hreach,
      Bool.true_eq_false, false_and, if_false]
    exact ⟨rfl, hall⟩

end Slices

section Reading
variable {taken kept left : List AcceptedTMarketTick} {number : Nat}

def advance (number : Nat) (eligibleTicks : List AcceptedTMarketTick) : Nat :=
  (eligibleTicks.getLast?.map (·.acceptedSequence)).getD number

theorem Ordered.le_last {l : List AcceptedTMarketTick} (h : Ordered l) {last tick : AcceptedTMarketTick}
    (hlast : l.getLast? = some last) (hmem : tick ∈ l) : tick.acceptedSequence ≤ last.acceptedSequence := by
  obtain ⟨front, rfl⟩ := List.getLast?_eq_some_iff.mp hlast
  rcases List.mem_append.mp hmem with hfront | hself
  · exact ((List.pairwise_append.mp h).2.2 tick hfront last (List.mem_singleton_self _)).1.le
  · rw [List.mem_singleton.mp hself]

theorem kept_behind (hkept : kept <:+ taken) (hbehind : ∀ last, taken.getLast? = some last → number = last.acceptedSequence)
    (hold : Ordered taken) : ∀ tick ∈ kept, tick.acceptedSequence ≤ number := by
  intro tick htick
  have hmem := hkept.subset htick
  cases hlast : taken.getLast? with
  | none =>
    rw [List.getLast?_eq_none_iff.mp hlast] at hmem
    cases hmem
  | some last =>
    rw [hbehind last hlast]
    exact hold.le_last hlast hmem

theorem advance_kept (hkept : kept <:+ taken) (hbehind : ∀ last, taken.getLast? = some last → number = last.acceptedSequence) :
    advance number kept = number := by
  obtain ⟨front, rfl⟩ := hkept
  unfold advance
  cases hlast : kept.getLast? with
  | none => rfl
  | some last => exact (hbehind last (by rw [List.getLast?_append, hlast, Option.some_or])).symm

/-- A reader whose window still joins what it took reads all that is covered: `kept` is what the window holds of the
    ticks taken. -/
theorem read_window (through : Option Int) (number : Nat) (hkept : kept <:+ taken) (hbehind : ∀ last, taken.getLast? = some last → number = last.acceptedSequence)
    (hold : Ordered taken) (hordered : Ordered left) (hleft : ∀ tick ∈ left, number < tick.acceptedSequence)
    (hcovered : ∀ tick ∈ taken, covers through tick = true) :
    ∃ read rest, left = read ++ rest ∧
      ((kept ++ left).filter (covers through)).filter (fun tick => number < tick.acceptedSequence) = read ∧
      (∀ tick ∈ rest, covers through tick = false) ∧ (∀ tick ∈ read, covers through tick = true) ∧
      (∀ tick ∈ rest, advance number ((kept ++ left).filter (covers through)) < tick.acceptedSequence) ∧
      ∀ last, (taken ++ read).getLast? = some last →
        advance number ((kept ++ left).filter (covers through)) = last.acceptedSequence := by
  have hall : (kept ++ left).filter (covers through) = kept ++ left.filter (covers through) := by
    rw [List.filter_append, List.filter_eq_self.mpr fun tick htick => hcovered tick (hkept.subset htick)]
  have hsplit := eligible_append_hidden through hordered
  have hbehindKept := kept_behind hkept hbehind hold
  rw [hall]
  refine ⟨left.filter (covers through), left.filter (fun tick => !covers through tick), hsplit.symm, ?_, ?_, ?_, ?_, ?_⟩
  · rw [List.filter_append, List.filter_eq_nil_iff.mpr, List.filter_eq_self.mpr, List.nil_append]
    · intro tick htick
      exact decide_eq_true (hleft tick (List.mem_of_mem_filter htick))
    · intro tick htick
      simpa using hbehindKept tick htick
  · intro tick htick
    simpa using (List.mem_filter.mp htick).2
  · intro tick htick
    exact (List.mem_filter.mp htick).2
  · intro tick htick
    cases hread : (left.filter (covers through)).getLast? with
    | none =>
      rw [List.getLast?_eq_none_iff.mp hread, List.append_nil, advance_kept hkept hbehind]
      exact hleft tick (List.mem_of_mem_filter htick)
    | some last =>
      rw [advance, List.getLast?_append, hread, Option.some_or, Option.map_some, Option.getD_some]
      rw [← hsplit] at hordered
      exact ((List.pairwise_append.mp hordered).2.2 last (List.mem_of_getLast? hread) tick htick).1
  · intro last hlast
    rw [List.getLast?_append] at hlast
    cases hread : (left.filter (covers through)).getLast? with
    | none =>
      rw [hread, Option.none_or] at hlast
      rw [List.getLast?_eq_none_iff.mp hread, List.append_nil, advance_kept hkept hbehind]
      exact hbehind last hlast
    | some newest =>
      rw [hread, Option.some_or] at hlast
      cases hlast
      rw [advance, List.getLast?_append, hread, Option.some_or, Option.map_some, Option.getD_some]

theorem lost_window {window lost : List AcceptedTMarketTick} (hlost : lost ≠ []) (hchain : (lost ++ window).IsChain Next)
    (hleft : ∀ tick ∈ lost ++ window, number < tick.acceptedSequence) {oldest : AcceptedTMarketTick}
    (holdest : window.head? = some oldest) : number + 1 < oldest.acceptedSequence := by
  obtain ⟨front, last, rfl⟩ := (List.eq_nil_or_concat lost).resolve_left hlost
  have hnext := (List.isChain_append.mp hchain).2.2 last (by simp) oldest holdest
  rw [hnext.1]
  exact Nat.succ_lt_succ (hleft last (by simp))

end Reading
end SymbolMarketDeltaRing

namespace DeltaWorld
open SymbolMarketDeltaRing
variable {hash : DeltaSliceManifest → String} {w : DeltaWorld} {log : List (Moment DeltaWorld DeltaOp)}

/-- The ring generation that an operation brings a tick into, with the tick. -/
def entered (w : DeltaWorld) : DeltaOp → Option (Nat × AcceptedTMarketTick)
  | .accept tick captureTimeMs =>
    match w.ring.accept tick captureTimeMs with
    | .ok (result, _) => if result.acceptance = .accepted then some (result.ringGeneration, tick) else none
    | .error _ => none
  | .slice .. => none

def enteredIn (w : DeltaWorld) (op : DeltaOp) (generation : Nat) : List AcceptedTMarketTick :=
  ((w.entered op).toList.filter (·.1 = generation)).map (·.2)

def acceptedIn (generation : Nat) : List (Moment DeltaWorld DeltaOp) → List AcceptedTMarketTick
  | [] => []
  | m :: log => acceptedIn generation log ++ m.before.enteredIn m.op generation

def answer (hash : DeltaSliceManifest → String) (w : DeltaWorld) (decisionTimeMs : Int) (through : Option Int)
    (rewarmReplay : Bool) : SymbolMarketDeltaSlice :=
  w.ring.sliceAfter hash w.cursor decisionTimeMs through rewarmReplay

/-- The ticks of the READY slices since the last slice that was not READY. -/
def delivered (hash : DeltaSliceManifest → String) : List (Moment DeltaWorld DeltaOp) → List AcceptedTMarketTick
  | [] => []
  | ⟨_, .accept _ _, _⟩ :: log => delivered hash log
  | ⟨before, .slice time through rewarm, _⟩ :: log =>
    if (before.answer hash time through rewarm).coverage = .ready then
      delivered hash log ++ (before.answer hash time through rewarm).ticks
    else []

/-- What the ring held at the last slice that was not READY, or at the first, and what the cursor's generation accepted
    since. -/
def owed (hash : DeltaSliceManifest → String) : List (Moment DeltaWorld DeltaOp) → List AcceptedTMarketTick
  | [] => []
  | ⟨before, .accept tick time, _⟩ :: log =>
    owed hash log ++ (before.cursor.map fun c => before.enteredIn (.accept tick time) c.ringGeneration).getD []
  | ⟨before, .slice time through rewarm, _⟩ :: log =>
    if (before.answer hash time through rewarm).coverage = .ready ∧ before.cursor.isSome then owed hash log
    else before.ring.ticks

def expected (hash : DeltaSliceManifest → String) (w : DeltaWorld) (log : List (Moment DeltaWorld DeltaOp)) :
    List AcceptedTMarketTick :=
  if w.cursor = none then w.ring.ticks else owed hash log

def requested : List (Moment DeltaWorld DeltaOp) → List (Option Int)
  | [] => []
  | ⟨_, .slice _ through _, _⟩ :: log => through :: requested log
  | ⟨_, .accept _ _, _⟩ :: log => requested log

/-- One fence after another: no fence at all is the latest. -/
def FenceLe : Option Int → Option Int → Prop
  | _, none => True
  | none, some _ => False
  | some a, some b => a ≤ b

theorem covers_mono {a b : Option Int} (h : FenceLe a b) {tick : AcceptedTMarketTick} (hcovers : covers a tick = true) :
    covers b tick = true := by
  cases b with
  | none => rfl
  | some n =>
    cases a with
    | none => exact h.elim
    | some m =>
      simp only [covers, Option.all_some, decide_eq_true_eq] at hcovers ⊢
      exact hcovers.trans h

/-- The numbers of a ring generation rise by one, its fences and the requested fences do not fall. -/
def Paced (log : List (Moment DeltaWorld DeltaOp)) (w : DeltaWorld) : DeltaOp → Prop
  | .accept tick time => ∀ generation, w.entered (.accept tick time) = some (generation, tick) →
      ∀ last, (acceptedIn generation log).getLast? = some last → Next last tick
  | .slice _ through _ => ∀ earlier ∈ requested log, FenceLe earlier through

/-- Where the fence hides the whole ring from a foreign cursor, the cursor stands before the ring. -/
def Visible (w : DeltaWorld) : DeltaOp → Prop
  | .accept _ _ => True
  | .slice _ through _ => ∀ cursor, w.cursor = some cursor → w.ring.Foreign cursor → w.ring.eligible through = [] →
      ∀ tick ∈ w.ring.ticks, cursor.acceptedSequence < tick.acceptedSequence

def Fresh (w : DeltaWorld) : Prop :=
  (∃ code generation, SymbolMarketDeltaRing.new code generation = .ok w.ring) ∧ w.cursor = none

/-- What the consumer was given is a run of one ring generation without a gap. A READY slice continues it in the
    generation of the cursor: it leaves out nothing up to its cursor and, unless nothing is eligible, nothing under its
    fence. After any other slice a replay hands out all the ring holds under the fence. -/
structure Served (hash : DeltaSliceManifest → String) (log : List (Moment DeltaWorld DeltaOp)) (w : DeltaWorld) :
    Prop where
  consecutive : ∃ generation, (acceptedIn generation log).IsChain Next ∧ delivered hash log <:+: acceptedIn generation log
  ready : ∀ time through rewarm, (∀ earlier ∈ requested log, FenceLe earlier through) →
    (w.answer hash time through rewarm).coverage = .ready →
    (∀ cursor, w.cursor = some cursor → cursor.ringGeneration = w.ring.ringGeneration) ∧
    ∃ rest, w.expected hash log = delivered hash log ++ (w.answer hash time through rewarm).ticks ++ rest ∧
      (∀ tick ∈ rest, (w.answer hash time through rewarm).nextCursor.acceptedSequence < tick.acceptedSequence) ∧
      (w.ring.eligible through ≠ [] → ∀ tick ∈ rest, covers through tick = false)
  replay : ∀ time through rewarm, (w.answer hash time through rewarm).coverage ≠ .ready → ∀ time',
    (w.ring.sliceAfter hash (some (w.answer hash time through rewarm).nextCursor) time' through true).ticks =
      w.ring.eligible through ∧
    (w.ring.streamId ≠ "" →
      (w.ring.sliceAfter hash (some (w.answer hash time through rewarm).nextCursor) time' through true).coverage = .ready)

/-! ## The invariant -/

/-- Where a cursor stands in the account: behind what was given, before the rest. -/
structure Tracked (hash : DeltaSliceManifest → String) (log : List (Moment DeltaWorld DeltaOp)) (w : DeltaWorld)
    (cursor : SymbolMarketCursor) : Prop where
  generation : cursor.ringGeneration ≤ w.ring.ringGeneration
  owed : owed hash log <:+ acceptedIn cursor.ringGeneration log
  window : cursor.ringGeneration = w.ring.ringGeneration → w.ring.ticks <:+ DeltaWorld.owed hash log
  rest : ∃ rest, DeltaWorld.owed hash log = delivered hash log ++ rest ∧
    ∀ tick ∈ rest, cursor.acceptedSequence < tick.acceptedSequence
  behind : ∀ last, (delivered hash log).getLast? = some last → cursor.acceptedSequence = last.acceptedSequence
  start : acceptedIn cursor.ringGeneration log = [] → cursor.acceptedSequence = 0
  covered : ∀ tick ∈ delivered hash log, ∃ earlier ∈ requested log, covers earlier tick = true

structure Sound (hash : DeltaSliceManifest → String) (log : List (Moment DeltaWorld DeltaOp)) (w : DeltaWorld) :
    Prop where
  ring : w.ring.Sound (acceptedIn · log)
  unread : w.cursor = none → delivered hash log = []
  cursor : ∀ cursor, w.cursor = some cursor → Tracked hash log w cursor

theorem enteredIn_of_none {op : DeltaOp} (h : w.entered op = none) (g : Nat) : w.enteredIn op g = [] := by
  rw [enteredIn, h]
  rfl

theorem enteredIn_of_some {op : DeltaOp} {generation : Nat} {tick : AcceptedTMarketTick}
    (h : w.entered op = some (generation, tick)) (g : Nat) :
    w.enteredIn op g = if generation = g then [tick] else [] := by
  rw [enteredIn, h]
  by_cases hg : generation = g <;> simp [hg]

theorem accept_step (hash : DeltaSliceManifest → String) (tick : AcceptedTMarketTick) (time : Int)
    (h : w.ring.Sound (acceptedIn · log)) :
    (w.entered (.accept tick time) = none ∧ w.step hash (.accept tick time) = w) ∨
    (w.entered (.accept tick time) = some (((w.ring.follow tick).push tick).ringGeneration, tick) ∧
      w.step hash (.accept tick time) = { w with ring := (w.ring.follow tick).push tick }) := by
  cases haccept : w.ring.accept tick time with
  | error text => simp [entered, step, haccept]
  | ok outcome =>
    obtain ⟨result, next⟩ := outcome
    by_cases hyes : result.acceptance = .accepted
    · obtain ⟨hnot, -⟩ | ⟨-, hgeneration, rfl⟩ := accept_cases haccept
      · exact absurd hyes hnot
      · simp [entered, step, haccept, hyes, hgeneration]
    · have hsame := h.rejected haccept hyes
      subst hsame
      simp [entered, step, haccept, hyes]

theorem push_generation (ring : SymbolMarketDeltaRing) (tick : AcceptedTMarketTick) :
    ring.ringGeneration ≤ ((ring.follow tick).push tick).ringGeneration ∧
    (ring.ringGeneration = ((ring.follow tick).push tick).ringGeneration →
      ((ring.follow tick).push tick).ticks = pruned (ring.ticks ++ [tick]) tick.sample.sourceTimeMs) := by
  rw [push_ticks, push_ringGeneration]
  obtain ⟨-, hfollow⟩ | ⟨reason, hfollow⟩ := follow_cases ring tick
  · have hticks : (ring.bound tick).ticks = ring.ticks := rfl
    rw [hfollow, hticks]
    exact ⟨le_rfl, fun _ => rfl⟩
  · rw [hfollow]
    exact ⟨Nat.le_succ _, fun h => absurd h (Nat.lt_succ_self _).ne⟩

/-- A tick that enters the generation of the cursor is owed; any other leaves the account as it is. -/
theorem Tracked.accept {cursor : SymbolMarketCursor} {tick : AcceptedTMarketTick} {time : Int}
    (h : Tracked hash log w cursor) (hcursor : w.cursor = some cursor) (hring : w.ring.Sound (acceptedIn · log))
    (hpaced : w.Paced log (.accept tick time)) :
    Tracked hash (⟨w, .accept tick time, w.step hash (.accept tick time)⟩ :: log) (w.step hash (.accept tick time))
      cursor := by
  obtain ⟨hgeneration, howed, hwindow, ⟨rest, hrest, hbefore⟩, hbehind, hstart, hcovered⟩ := h
  have howed' : DeltaWorld.owed hash (⟨w, .accept tick time, w.step hash (.accept tick time)⟩ :: log) =
      DeltaWorld.owed hash log ++ w.enteredIn (.accept tick time) cursor.ringGeneration := by
    rw [DeltaWorld.owed, hcursor]
    rfl
  obtain ⟨hentered, hstep⟩ | ⟨hentered, hstep⟩ := accept_step hash tick time hring
  · rw [enteredIn_of_none hentered, List.append_nil] at howed'
    have haccepted : ∀ g, acceptedIn g (⟨w, .accept tick time, w.step hash (.accept tick time)⟩ :: log) =
        acceptedIn g log := by
      intro g
      rw [acceptedIn, enteredIn_of_none hentered, List.append_nil]
    refine ⟨?_, ?_, ?_, ⟨rest, howed'.trans hrest, hbefore⟩, hbehind, ?_, hcovered⟩
    · rw [hstep]
      exact hgeneration
    · rw [howed', haccepted]
      exact howed
    · rw [howed', hstep]
      exact hwindow
    · rw [haccepted]
      exact hstart
  · have hnext := push_generation w.ring tick
    have haccepted : ∀ g, acceptedIn g (⟨w, .accept tick time, w.step hash (.accept tick time)⟩ :: log) =
        acceptedIn g log ++ if ((w.ring.follow tick).push tick).ringGeneration = g then [tick] else [] := by
      intro g
      rw [acceptedIn, enteredIn_of_some hentered]
    rw [enteredIn_of_some hentered] at howed'
    by_cases hsame : ((w.ring.follow tick).push tick).ringGeneration = cursor.ringGeneration
    · -- The ring was not reset, so the cursor's window only grows.
      have hold : cursor.ringGeneration = w.ring.ringGeneration := le_antisymm hgeneration (hsame ▸ hnext.1)
      rw [if_pos hsame] at howed'
      have hafter : cursor.acceptedSequence < tick.acceptedSequence := by
        cases hlast : (DeltaWorld.owed hash log).getLast? with
        | none =>
          have hempty := List.getLast?_eq_none_iff.mp hlast
          have hticks : w.ring.ticks = [] := List.suffix_nil.mp (hempty ▸ hwindow hold)
          have hunbound : w.ring.streamId = "" := by
            by_contra hne
            exact (hring.streaming hne).1 hticks
          rw [hstart (hold ▸ (hring.unbound hunbound).2.2)]
          exact tick.sequence_pos
        | some last =>
          have hpace := hpaced _ hentered last (by
            obtain ⟨front, hfront⟩ := howed
            rw [hsame, ← hfront, List.getLast?_append, hlast, Option.some_or])
          rw [hpace.1]
          refine Nat.lt_succ_of_le ?_
          rw [hrest, List.getLast?_append] at hlast
          cases hrestLast : rest.getLast? with
          | none =>
            rw [hrestLast, Option.none_or] at hlast
            exact (hbehind last hlast).le
          | some newest =>
            rw [hrestLast, Option.some_or] at hlast
            cases hlast
            exact (hbefore last (List.mem_of_getLast? hrestLast)).le
      refine ⟨?_, ?_, ?_, ⟨rest ++ [tick], ?_, ?_⟩, hbehind, ?_, hcovered⟩
      · rw [hstep]
        exact hsame.ge
      · rw [howed', haccepted, if_pos hsame]
        obtain ⟨front, hfront⟩ := howed
        exact ⟨front, by rw [← List.append_assoc, hfront]⟩
      · intro _
        rw [howed', hstep]
        rw [hnext.2 (hold.symm.trans hsame.symm)]
        obtain ⟨front, hfront⟩ := hwindow hold
        exact (pruned_suffix _ _).trans ⟨front, by rw [← List.append_assoc, hfront]⟩
      · rw [howed', hrest, List.append_assoc]
        rfl
      · intro t ht
        rcases List.mem_append.mp ht with hmem | hmem
        · exact hbefore t hmem
        · rw [List.mem_singleton.mp hmem]
          exact hafter
      · rw [haccepted, if_pos hsame]
        intro hnil
        exact absurd hnil (by simp)
    · rw [if_neg hsame, List.append_nil] at howed'
      refine ⟨?_, ?_, ?_, ⟨rest, howed'.trans hrest, hbefore⟩, hbehind, ?_, hcovered⟩
      · rw [hstep]
        exact hgeneration.trans hnext.1
      · rw [howed', haccepted, if_neg hsame, List.append_nil]
        exact howed
      · intro hnow
        rw [hstep] at hnow
        exact absurd hnow.symm hsame
      · rw [haccepted, if_neg hsame, List.append_nil]
        exact hstart

theorem Sound.accept {tick : AcceptedTMarketTick} {time : Int} (h : Sound hash log w)
    (hpaced : w.Paced log (.accept tick time)) :
    Sound hash (⟨w, .accept tick time, w.step hash (.accept tick time)⟩ :: log) (w.step hash (.accept tick time)) := by
  have hcursor : (w.step hash (.accept tick time)).cursor = w.cursor := by
    obtain ⟨-, hstep⟩ | ⟨-, hstep⟩ := accept_step hash tick time h.ring <;> rw [hstep]
  refine ⟨?_, ?_, ?_⟩
  · obtain ⟨hentered, hstep⟩ | ⟨hentered, hstep⟩ := accept_step hash tick time h.ring
    · have haccepted : (fun g => acceptedIn g (⟨w, .accept tick time, w.step hash (.accept tick time)⟩ :: log)) =
          fun g => acceptedIn g log := by
        funext g
        rw [acceptedIn, enteredIn_of_none hentered, List.append_nil]
      rw [haccepted, hstep]
      exact h.ring
    · rw [hstep]
      refine h.ring.push ?_ ?_ ?_
      · rw [acceptedIn, enteredIn_of_some hentered, if_pos rfl]
      · intro g hg
        rw [acceptedIn, enteredIn_of_some hentered, if_neg hg.symm, List.append_nil]
      · exact hpaced _ hentered
  · rw [hcursor]
    exact h.unread
  · rw [hcursor]
    intro cursor hc
    exact (h.cursor cursor hc).accept hc h.ring hpaced

section Slice
variable {time : Int} {through : Option Int} {rewarm : Bool} {s : SymbolMarketDeltaSlice}

theorem ring_nil (h : w.ring.Sound (acceptedIn · log)) (hunbound : w.ring.streamId = "") : w.ring.ticks = [] :=
  List.suffix_nil.mp ((h.unbound hunbound).2.2 ▸ h.window)

theorem Sound.reads (h : Sound hash log w) (hfence : ∀ earlier ∈ requested log, FenceLe earlier through)
    (hready : w.ring.IsReady w.cursor through s) :
    ∃ rest, w.expected hash log = delivered hash log ++ s.ticks ++ rest ∧
      (∀ tick ∈ rest, s.nextCursor.acceptedSequence < tick.acceptedSequence) ∧
      (w.ring.eligible through ≠ [] → ∀ tick ∈ rest, covers through tick = false) ∧
      (∀ last, (delivered hash log ++ s.ticks).getLast? = some last →
        s.nextCursor.acceptedSequence = last.acceptedSequence) ∧
      ∀ tick ∈ s.ticks, covers through tick = true := by
  obtain ⟨-, hticks, hnext, hown, hreaches⟩ := hready
  have hnumber : s.nextCursor.acceptedSequence = advance (position w.cursor) (w.ring.eligible through) := by
    rw [hnext]
    rfl
  rw [hnumber, hticks, expected]
  cases hcursor : w.cursor with
  | none =>
    rw [h.unread hcursor, if_pos rfl]
    have hnone : ∀ last, ([] : List AcceptedTMarketTick).getLast? = some last → 0 = last.acceptedSequence :=
      fun last hlast => by cases hlast
    obtain ⟨read, rest, hsplit, hread, hhidden, hcovered, hbefore, hbehind⟩ :=
      read_window through 0 List.nil_suffix hnone List.Pairwise.nil h.ring.ordered (fun tick _ => tick.sequence_pos)
        (fun tick htick => by cases htick)
    exact ⟨rest, hread ▸ hsplit, hbefore, fun _ => hhidden, hread ▸ hbehind, hread ▸ hcovered⟩
  | some c =>
    have hsame : c.ringGeneration = w.ring.ringGeneration := by
      by_contra hne
      exact hown c hcursor (.inr (.inr hne))
    obtain ⟨-, howed, hwindow, ⟨rest, hrest, hbefore⟩, hbehind, -, hcovered⟩ := h.cursor c hcursor
    have hchain : (delivered hash log ++ rest).IsChain Next := hrest ▸ (h.ring.chain _).suffix howed
    have hordered := List.pairwise_append.mp (ordered_of_chain hchain)
    have hcovered' : ∀ tick ∈ delivered hash log, covers through tick = true := by
      intro tick htick
      obtain ⟨earlier, hmem, hearlier⟩ := hcovered tick htick
      exact covers_mono (hfence earlier hmem) hearlier
    rw [if_neg (by simp), hrest]
    obtain ⟨kept, hkept, hring⟩ | ⟨lost, hlost, hring⟩ := suffix_append_cases (hrest ▸ hwindow hsame)
    · obtain ⟨read, left, rfl, hread, hhidden, hfresh, hafter, hlast⟩ :=
        read_window through c.acceptedSequence hkept hbehind hordered.1 hordered.2.1 hbefore hcovered'
      rw [← hring] at hread hafter hlast
      refine ⟨left, ?_, hafter, fun _ => hhidden, ?_, ?_⟩
      · rw [List.append_assoc]
        exact congrArg (fun l => _ ++ (l ++ left)) hread.symm
      · exact hread ▸ hlast
      · exact hread ▸ hfresh
    · -- The ring has lost ticks that are owed: the slice would not be READY if it saw a tick at all.
      have hnone : w.ring.eligible through = [] := by
        cases hhead : (w.ring.eligible through).head? with
        | none => exact List.head?_eq_none_iff.mp hhead
        | some oldest =>
          have hring' : w.ring.ticks.filter (covers through) ++ w.ring.ticks.filter (fun a => !covers through a) =
              w.ring.ticks := eligible_append_hidden through h.ring.ordered
          have holdest : w.ring.ticks.head? = some oldest := by
            rw [eligible] at hhead
            rw [← hring', List.head?_append, hhead, Option.some_or]
          rw [hring] at hbefore hchain
          have hgap := lost_window hlost (List.isChain_append.mp hchain).2.1 hbefore holdest
          exact absurd (hreaches c hcursor oldest hhead) (not_le.mpr hgap)
      rw [hnone]
      refine ⟨rest, ?_, hbefore, fun hne => absurd rfl hne, ?_, fun tick htick => by cases htick⟩
      · rw [List.filter_nil, List.append_nil]
      · rw [List.filter_nil, List.append_nil]
        exact hbehind

theorem Sound.restart (h : Sound hash log w) (hnot : (w.answer hash time through rewarm).coverage ≠ .ready)
    (hgeneration : (w.answer hash time through rewarm).nextCursor.ringGeneration = w.ring.ringGeneration)
    (hbefore : ∀ tick ∈ w.ring.ticks,
      (w.answer hash time through rewarm).nextCursor.acceptedSequence < tick.acceptedSequence)
    (hstart : acceptedIn w.ring.ringGeneration log = [] →
      (w.answer hash time through rewarm).nextCursor.acceptedSequence = 0) :
    Sound hash (⟨w, .slice time through rewarm, w.step hash (.slice time through rewarm)⟩ :: log)
      (w.step hash (.slice time through rewarm)) := by
  have hnotReady : ¬((w.answer hash time through rewarm).coverage = .ready ∧ w.cursor.isSome) := fun hboth => hnot hboth.1
  have haccepted : ∀ g, acceptedIn g (⟨w, .slice time through rewarm, w.step hash (.slice time through rewarm)⟩ :: log) =
      acceptedIn g log := fun g => List.append_nil _
  have hdelivered : delivered hash (⟨w, .slice time through rewarm, w.step hash (.slice time through rewarm)⟩ :: log) =
      [] := by rw [delivered, if_neg hnot]
  have howed : DeltaWorld.owed hash (⟨w, .slice time through rewarm, w.step hash (.slice time through rewarm)⟩ :: log) =
      w.ring.ticks := by rw [DeltaWorld.owed, if_neg hnotReady]
  refine ⟨?_, fun _ => hdelivered, ?_⟩
  · simp only [haccepted]
    exact h.ring
  · intro cursor hcursor
    cases hcursor
    refine ⟨hgeneration.le, ?_, ?_, ⟨w.ring.ticks, ?_, hbefore⟩, ?_, ?_, ?_⟩
    · rw [howed, haccepted]
      exact (congrArg (acceptedIn · log) hgeneration) ▸ h.ring.window
    · intro _
      rw [howed]
      exact List.suffix_refl _
    · rw [howed, hdelivered]
      rfl
    · rw [hdelivered]
      intro last hlast
      cases hlast
    · rw [haccepted]
      intro hnone
      exact hstart ((congrArg (acceptedIn · log) hgeneration) ▸ hnone)
    · rw [hdelivered]
      intro tick htick
      cases htick

theorem Sound.continue (h : Sound hash log w) (hfence : ∀ earlier ∈ requested log, FenceLe earlier through)
    (hready : w.ring.IsReady w.cursor through (w.answer hash time through rewarm)) :
    Sound hash (⟨w, .slice time through rewarm, w.step hash (.slice time through rewarm)⟩ :: log)
      (w.step hash (.slice time through rewarm)) := by
  obtain ⟨rest, hexpected, hbefore, -, hbehind, hfresh⟩ := h.reads hfence hready
  have hgeneration : (w.answer hash time through rewarm).nextCursor.ringGeneration = w.ring.ringGeneration := by
    rw [hready.next]
    rfl
  have haccepted : ∀ g, acceptedIn g (⟨w, .slice time through rewarm, w.step hash (.slice time through rewarm)⟩ :: log) =
      acceptedIn g log := fun g => List.append_nil _
  have hdelivered : delivered hash (⟨w, .slice time through rewarm, w.step hash (.slice time through rewarm)⟩ :: log) =
      delivered hash log ++ (w.answer hash time through rewarm).ticks := by
    rw [delivered, if_pos hready.coverage]
  have howed : DeltaWorld.owed hash (⟨w, .slice time through rewarm, w.step hash (.slice time through rewarm)⟩ :: log) =
      w.expected hash log := by
    rw [DeltaWorld.owed, expected, hready.coverage]
    cases w.cursor <;> simp
  have hwindow : w.ring.ticks <:+ w.expected hash log ∧ w.expected hash log <:+ acceptedIn w.ring.ringGeneration log := by
    unfold expected
    cases hcursor : w.cursor with
    | none => exact ⟨List.suffix_refl _, h.ring.window⟩
    | some c =>
      have hsame : c.ringGeneration = w.ring.ringGeneration := by
        by_contra hne
        exact hready.own c hcursor (.inr (.inr hne))
      have htracked := h.cursor c hcursor
      exact ⟨htracked.window hsame, hsame ▸ htracked.owed⟩
  refine ⟨?_, fun hnone => ?_, ?_⟩
  · simp only [haccepted]
    exact h.ring
  · cases hnone
  · intro cursor hcursor
    cases hcursor
    refine ⟨hgeneration.le, ?_, ?_, ⟨rest, ?_, hbefore⟩, ?_, ?_, ?_⟩
    · rw [howed, haccepted]
      exact (congrArg (acceptedIn · log) hgeneration) ▸ hwindow.2
    · intro _
      rw [howed]
      exact hwindow.1
    · rw [howed, hdelivered, hexpected]
    · rw [hdelivered]
      exact hbehind
    · rw [haccepted]
      intro hnone
      have hempty : acceptedIn w.ring.ringGeneration log = [] := (congrArg (acceptedIn · log) hgeneration) ▸ hnone
      have hticks : w.ring.ticks = [] := List.suffix_nil.mp (hempty ▸ h.ring.window)
      have hnext : (w.answer hash time through rewarm).nextCursor.acceptedSequence = position w.cursor := by
        rw [hready.next, nextCursor, eligible, hticks]
        rfl
      refine hnext.trans ?_
      cases hcursor : w.cursor with
      | none => rfl
      | some c =>
        have hsame : c.ringGeneration = w.ring.ringGeneration := by
          by_contra hne
          exact hready.own c hcursor (.inr (.inr hne))
        exact (h.cursor c hcursor).start (hsame ▸ hempty)
    · rw [hdelivered]
      intro tick htick
      rcases List.mem_append.mp htick with hold | hnew
      · cases hcursor : w.cursor with
        | none =>
          rw [h.unread hcursor] at hold
          cases hold
        | some c =>
          obtain ⟨earlier, hmem, hearlier⟩ := (h.cursor c hcursor).covered tick hold
          exact ⟨earlier, List.mem_cons_of_mem _ hmem, hearlier⟩
      · exact ⟨through, List.mem_cons_self, hfresh tick hnew⟩

theorem Sound.slice (h : Sound hash log w) (hfence : ∀ earlier ∈ requested log, FenceLe earlier through)
    (hvisible : w.Visible (.slice time through rewarm)) :
    Sound hash (⟨w, .slice time through rewarm, w.step hash (.slice time through rewarm)⟩ :: log)
      (w.step hash (.slice time through rewarm)) := by
  obtain ⟨hunbound, hslice⟩ | ⟨hstream, -, hready | hrestart⟩ :=
    sliceAfter_cases w.ring hash w.cursor time through rewarm
  · have hempty := h.ring.unbound_of hunbound
    have hanswer : w.answer hash time through rewarm = w.ring.discontinuitySlice hash w.cursor .streamNotReady := hslice
    refine h.restart ?_ ?_ ?_ ?_
    · rw [hanswer]
      exact discontinuitySlice_coverage _ _ _
    · rw [hanswer]
      rfl
    · rw [ring_nil h.ring hempty]
      intro tick htick
      cases htick
    · intro _
      rw [hanswer]
      exact (h.ring.unbound hempty).1
  · exact h.continue hfence hready
  · obtain ⟨target, hnext, htarget⟩ := hrestart.next
    have hnext : (w.answer hash time through rewarm).nextCursor = w.ring.rewarmCursor (w.ring.eligible through) target :=
      hnext
    have hbefore : ∀ tick ∈ w.ring.ticks,
        (w.answer hash time through rewarm).nextCursor.acceptedSequence < tick.acceptedSequence := by
      rw [hnext, rewarmCursor]
      cases hhead : (w.ring.eligible through).head? with
      | none =>
        obtain ⟨c, hc, hforeign, rfl⟩ := htarget (List.head?_eq_none_iff.mp hhead)
        exact hvisible c hc hforeign (List.head?_eq_none_iff.mp hhead)
      | some oldest =>
        -- The eligible ticks come first, so the oldest of them is the oldest of the ring.
        intro tick htick
        have hsplit := eligible_append_hidden through h.ring.ordered
        obtain ⟨rest, hrest⟩ := List.head?_eq_some_iff.mp hhead
        rw [eligible] at hrest
        rw [hrest, List.cons_append] at hsplit
        have hordered := h.ring.ordered
        rw [← hsplit] at htick hordered
        have hpos := oldest.sequence_pos
        rcases List.mem_cons.mp htick with rfl | hmem
        · exact Nat.sub_lt hpos Nat.one_pos
        · exact (Nat.sub_le _ _).trans_lt ((List.pairwise_cons.mp hordered).1 tick hmem).1
    refine h.restart hrestart.coverage ?_ hbefore ?_
    · rw [hnext]
      rfl
    · intro hnone
      have hticks : w.ring.ticks = [] := List.suffix_nil.mp (hnone ▸ h.ring.window)
      exact absurd hticks (h.ring.streaming hstream).1

end Slice

abbrev Runs (hash : DeltaSliceManifest → String) (legal : List (Moment DeltaWorld DeltaOp) → DeltaWorld → DeltaOp → Prop)
    (log : List (Moment DeltaWorld DeltaOp)) (w : DeltaWorld) : Prop :=
  Run Fresh (DeltaWorld.step hash) legal log w

theorem Sound.of_fresh (h : w.Fresh) : Sound hash [] w := by
  obtain ⟨⟨code, generation, hnew⟩, hcursor⟩ := h
  refine ⟨?_, fun _ => rfl, ?_⟩
  · unfold SymbolMarketDeltaRing.new at hnew
    simp only at hnew
    split at hnew
    · cases hnew
    · split at hnew
      · cases hnew
      · have hring := (Except.ok.inj hnew).symm
        rw [hring]
        exact ⟨List.suffix_refl _, fun _ _ => rfl, fun _ => List.isChain_nil, fun hne => absurd rfl hne, fun _ => ⟨rfl, rfl, rfl⟩⟩
  · intro cursor hc
    rw [hcursor] at hc
    cases hc

theorem Sound.step (h : Sound hash log w) {op : DeltaOp} (hpaced : w.Paced log op) (hvisible : w.Visible op) :
    Sound hash (⟨w, op, w.step hash op⟩ :: log) (w.step hash op) := by
  cases op with
  | accept tick time => exact h.accept hpaced
  | slice time through rewarm => exact h.slice hpaced hvisible

theorem Sound.of_run (h : Runs hash (fun log w op => w.Paced log op ∧ w.Visible op) log w) : Sound hash log w :=
  h.invariant (fun log w => Sound hash log w) (fun _ hfresh => .of_fresh hfresh)
    fun _ _ _ hsound hlegal => hsound.step hlegal.1 hlegal.2

theorem Sound.served (h : Sound hash log w) : Served hash log w := by
  refine ⟨?_, ?_, ?_⟩
  · cases hcursor : w.cursor with
    | none => exact ⟨0, h.ring.chain 0, h.unread hcursor ▸ List.nil_infix⟩
    | some c =>
      obtain ⟨-, howed, -, ⟨rest, hrest, -⟩, -⟩ := h.cursor c hcursor
      refine ⟨c.ringGeneration, h.ring.chain _, ?_⟩
      rw [hrest] at howed
      exact (List.prefix_append _ rest).isInfix.trans howed.isInfix
  · intro time through rewarm hfence hcoverage
    obtain ⟨-, hslice⟩ | ⟨-, -, hready | hrestart⟩ := sliceAfter_cases w.ring hash w.cursor time through rewarm
    · rw [answer, hslice] at hcoverage
      exact absurd hcoverage (discontinuitySlice_coverage _ _ _)
    · obtain ⟨rest, hexpected, hbefore, hhidden, -⟩ := h.reads hfence hready
      refine ⟨fun c hc => ?_, rest, hexpected, hbefore, hhidden⟩
      by_contra hne
      exact hready.own c hc (.inr (.inr hne))
    · exact absurd hcoverage hrestart.coverage
  · intro time through rewarm hcoverage time'
    obtain ⟨hunbound, hslice⟩ | ⟨hstream, hgeneration, hready | hrestart⟩ :=
      sliceAfter_cases w.ring hash w.cursor time through rewarm
    · have hempty := h.ring.unbound_of hunbound
      refine ⟨?_, fun hne => absurd hempty hne⟩
      rw [eligible, ring_nil h.ring hempty]
      unfold sliceAfter
      rw [if_pos hunbound]
      rfl
    · exact absurd hready.coverage hcoverage
    · obtain ⟨target, hnext, -⟩ := hrestart.next
      have hreplay := replay_ready hash through hstream hgeneration h.ring.ordered target time'
      rw [answer, hnext]
      exact ⟨hreplay.2, fun _ => hreplay.1⟩

structure Valid (w : DeltaWorld) : Prop where
  ring : 1 ≤ w.ring.ringGeneration
  cursor : ∀ cursor, w.cursor = some cursor → cursor.Valid

theorem Valid.of_fresh (h : w.Fresh) : w.Valid := by
  obtain ⟨⟨code, generation, hnew⟩, hcursor⟩ := h
  unfold SymbolMarketDeltaRing.new at hnew
  simp only at hnew
  split at hnew
  · cases hnew
  · split at hnew
    · cases hnew
    · rename_i hpos
      have hring := (Except.ok.inj hnew).symm
      refine ⟨?_, fun cursor hc => ?_⟩
      · rw [hring]
        exact Nat.not_lt.mp hpos
      · rw [hcursor] at hc
        cases hc

theorem Valid.step (h : w.Valid) (hsound : Sound hash log w) (op : DeltaOp) : (w.step hash op).Valid := by
  cases op with
  | accept tick time =>
    obtain ⟨-, hstep⟩ | ⟨-, hstep⟩ := accept_step hash tick time hsound.ring
    · rw [hstep]
      exact h
    · rw [hstep]
      exact ⟨h.ring.trans (push_generation w.ring tick).1, h.cursor⟩
  | slice time through rewarm =>
    refine ⟨h.ring, fun cursor hcursor => ?_⟩
    cases hcursor
    obtain ⟨-, hslice⟩ | ⟨hstream, hgeneration, hready | hrestart⟩ :=
      sliceAfter_cases w.ring hash w.cursor time through rewarm
    · rw [hslice]
      refine ⟨?_, ?_, h.ring⟩
      · show (if w.ring.streamId = "" then _ else _) ≠ ""
        split
        · cases hcursor : w.cursor with
          | none => simp
          | some c => exact (h.cursor c hcursor).stream
        · assumption
      · show (if w.ring.continuityGeneration = "" then _ else _) ≠ ""
        split
        · cases hcursor : w.cursor with
          | none => simp
          | some c => exact (h.cursor c hcursor).continuity
        · assumption
    · rw [hready.next]
      exact ⟨hstream, hgeneration, h.ring⟩
    · obtain ⟨target, hnext, -⟩ := hrestart.next
      rw [hnext]
      exact ⟨hstream, hgeneration, h.ring⟩

end DeltaWorld

/-- In every run whose slices never meet a ring that the fence hides and the cursor has passed, the consumer gets every
    accepted tick once or is told. -/
theorem symbolMarketDeltaRing_served {hash : DeltaSliceManifest → String} {log : List (Moment DeltaWorld DeltaOp)}
    {w : DeltaWorld} (h : DeltaWorld.Runs hash (fun log w op => w.Paced log op ∧ w.Visible op) log w) :
    DeltaWorld.Served hash log w :=
  (DeltaWorld.Sound.of_run h).served

section Hidden

theorem pudongBank_ne : "600000.SH" ≠ "" := by decide
theorem september_ne : "2026-09-03" ≠ "" := by decide
theorem stream_ne : "stream" ≠ "" := by decide
theorem firstGeneration_ne : "1" ≠ "" := by decide
theorem secondGeneration_ne : "2" ≠ "" := by decide

def generationTick (generation : String) (fence : Nat) (hgeneration : generation ≠ "") (hfence : 1 ≤ fence) :
    AcceptedTMarketTick where
  streamId := "stream"
  acceptedSequence := 1
  receivedAtMs := 1000
  sample := { instrumentCode := "600000.SH", tradeDate := "2026-09-03", sourceTimeMs := 1000, tickOrdinal := 0,
              price := 10, continuityGeneration := generation, instrument_ne := pudongBank_ne,
              tradeDate_ne := september_ne, generation_ne := hgeneration }
  marketFenceSequence := fence
  stream_ne := stream_ne
  sequence_pos := le_rfl
  fence_pos := hfence

def oldTick : AcceptedTMarketTick := generationTick "1" 1 firstGeneration_ne le_rfl
def restartedTick : AcceptedTMarketTick := generationTick "2" 2 secondGeneration_ne (Nat.le_succ 1)

def newDeltaWorld : DeltaWorld := { ring := { instrumentCode := "600000.SH" } }

def restartOps : List DeltaOp := [.accept oldTick 1000, .slice 1000 (some 1) false, .accept restartedTick 1000]

def deltaRun (ops : List DeltaOp) : List (Moment DeltaWorld DeltaOp) × DeltaWorld :=
  play (DeltaWorld.step fun _ => "") newDeltaWorld ops

def hiddenRun : List (Moment DeltaWorld DeltaOp) × DeltaWorld := deltaRun (restartOps ++ [.slice 1000 (some 1) false])

theorem newDeltaWorld_fresh : newDeltaWorld.Fresh := ⟨⟨"600000.SH", 1, rfl⟩, rfl⟩

theorem restartRun_legal : DeltaWorld.Runs (fun _ => "") (fun log w op => w.Paced log op ∧ w.Visible op)
    (deltaRun restartOps).1 (deltaRun restartOps).2 := by
  have hstart : DeltaWorld.Runs (fun _ => "") (fun log w op => w.Paced log op ∧ w.Visible op) [] newDeltaWorld :=
    .start newDeltaWorld_fresh
  refine Run.step (Run.step (Run.step hstart (DeltaOp.accept oldTick 1000) ⟨?_, trivial⟩)
    (DeltaOp.slice 1000 (some 1) false) ⟨?_, ?_⟩) (DeltaOp.accept restartedTick 1000) ⟨?_, trivial⟩
  · intro generation _ last hlast
    cases hlast
  · intro earlier hmem
    cases hmem
  · intro cursor hcursor
    cases hcursor
  · -- The first tick of a new ring generation has no predecessor in it.
    intro generation hentered last hlast
    have hgeneration : generation = 2 := by
      have hsecond : ((deltaRun (restartOps.take 2)).2.entered (.accept restartedTick 1000)).map Prod.fst = some 2 := by
        decide +kernel
      exact Option.some.inj ((congrArg (Option.map Prod.fst) hentered).symm.trans hsecond)
    subst hgeneration
    have hnone : (DeltaWorld.acceptedIn 2 (deltaRun (restartOps.take 2)).1).length = 0 := by decide +kernel
    have hempty := List.eq_nil_of_length_eq_zero hnone
    exact absurd (hlast.symm.trans (congrArg List.getLast? hempty)) (by simp)

theorem restartRun_fence {through : Int} (h : 1 ≤ through) :
    ∀ earlier ∈ DeltaWorld.requested (deltaRun restartOps).1, DeltaWorld.FenceLe earlier (some through) := by
  have hrequested : DeltaWorld.requested (deltaRun restartOps).1 = [some 1] := by decide +kernel
  rw [hrequested]
  intro earlier hmem
  rw [List.mem_singleton.mp hmem]
  exact h

theorem hiddenRun_paced : DeltaWorld.Runs (fun _ => "") (fun log w op => w.Paced log op) hiddenRun.1 hiddenRun.2 :=
  Run.step (restartRun_legal.mono fun _ _ _ hlegal => hlegal.1) (DeltaOp.slice 1000 (some 1) false)
    (restartRun_fence le_rfl)

/-- A consumer whose cursor outran the restarted numbers is passed over the tick that the fence had hidden. -/
theorem symbolMarketDeltaRing_skips :
    ¬∀ (log : List (Moment DeltaWorld DeltaOp)) (w : DeltaWorld),
      DeltaWorld.Runs (fun _ => "") (fun log w op => w.Paced log op) log w → DeltaWorld.Served (fun _ => "") log w := by
  intro hall
  have hserved := hall _ _ hiddenRun_paced
  have hready : (hiddenRun.2.answer (fun _ => "") 1000 (some 2) true).coverage = .ready := by decide +kernel
  have hfence : ∀ earlier ∈ DeltaWorld.requested hiddenRun.1, DeltaWorld.FenceLe earlier (some 2) := by
    have hrequested : DeltaWorld.requested hiddenRun.1 = [some 1, some 1] := by decide +kernel
    rw [hrequested]
    intro earlier hmem
    have hone : earlier = some 1 := by simpa using hmem
    rw [hone]
    exact (by decide : (1 : Int) ≤ 2)
  obtain ⟨-, rest, hexpected, hbefore, -⟩ := hserved.ready 1000 (some 2) true hfence hready
  have hlength := congrArg List.length hexpected
  have howed : (hiddenRun.2.expected (fun _ => "") hiddenRun.1).map (·.acceptedSequence) = [1] := by decide +kernel
  have hdelivered : (DeltaWorld.delivered (fun _ => "") hiddenRun.1).length = 0 := by decide +kernel
  have hticks : (hiddenRun.2.answer (fun _ => "") 1000 (some 2) true).ticks.length = 0 := by decide +kernel
  have hnext : (hiddenRun.2.answer (fun _ => "") 1000 (some 2) true).nextCursor.acceptedSequence = 1 := by decide +kernel
  rw [hexpected, List.eq_nil_of_length_eq_zero hdelivered, List.eq_nil_of_length_eq_zero hticks, List.nil_append,
    List.nil_append] at howed
  obtain ⟨tick, htick, hone⟩ : ∃ tick ∈ rest, tick.acceptedSequence = 1 := by
    have hmem : 1 ∈ rest.map (·.acceptedSequence) := howed ▸ List.mem_singleton_self 1
    exact List.mem_map.mp hmem
  have hlt := hbefore tick htick
  rw [hnext, hone] at hlt
  exact absurd hlt (lt_irrefl 1)

/-- With the fence past the new tick the restart is told and the account goes on. -/
theorem symbolMarketDeltaRing_served_restart :
    DeltaWorld.Served (fun _ => "") (deltaRun (restartOps ++ [.slice 1000 (some 2) false])).1
      (deltaRun (restartOps ++ [.slice 1000 (some 2) false])).2 := by
  refine symbolMarketDeltaRing_served (Run.step restartRun_legal (DeltaOp.slice 1000 (some 2) false)
    ⟨restartRun_fence (by decide), ?_⟩)
  intro cursor _ _ hhidden
  have hshown : ((deltaRun restartOps).2.ring.eligible (some 2)).length = 1 := by decide +kernel
  rw [hhidden] at hshown
  cases hshown

end Hidden
end QuantX
