import QuantX.Theorems.LiveBuckets.Reserve

/-! # The replay follows the book

One pass of the loop accepts a fill exactly where the book covers it, and leaves what the book's step leaves. -/

namespace QuantX
open Lib BucketLedger

variable {calendar : ExchangeCalendar} {host : ReplayHost} {seedAsOf asOf : Int} {codes : List String}
  {taken fills : List LiveAttributedFill} {fill f : LiveAttributedFill} {state : ReplayState} {book : Book}

structure WellFormed (seedAsOf asOf : Int) (fill : LiveAttributedFill) : Prop where
  id : fill.fillId ≠ ""
  order : fill.clientOrderId ≠ ""
  code : fill.instrumentCode ≠ ""
  bucket : fill.bucket ∈ knownBuckets.map Bucket.name
  side : fill.side = "BUY" ∨ fill.side = "SELL"
  volume : 0 < fill.volume
  price : fill.price.any (0 < ·) = true
  since : seedAsOf < fill.occurredAt
  past : fill.occurredAt ≤ asOf

/-- What is asked of two fills: they are not the same, those of one instrument and instant are of one side, those of one
    order of one material. -/
structure Agree (f fill : LiveAttributedFill) : Prop where
  id : f.fillId ≠ fill.fillId
  clock : f.instrumentCode = fill.instrumentCode → f.occurredAt = fill.occurredAt → f.side = fill.side
  material : f.clientOrderId = fill.clientOrderId → sameMaterial (material f) (material fill) = true

theorem sameMaterial_iff {m m' : String × String × String × PyVal} : sameMaterial m m' = true ↔
    (m.1, m.2.1, m.2.2.1, m.2.2.2.plain) = (m'.1, m'.2.1, m'.2.2.1, m'.2.2.2.plain) := by
  simp [sameMaterial, PyVal.same_iff, and_assoc]

theorem Agree.symm (h : Agree f fill) : Agree fill f where
  id := h.id.symm
  clock hcode hat := (h.clock hcode.symm hat.symm).symm
  material horder := sameMaterial_iff.mpr (sameMaterial_iff.mp (h.material horder.symm)).symm

structure Accepts (calendar : ExchangeCalendar) (seedAsOf asOf : Int) (taken : List LiveAttributedFill) (book : Book)
    (fill : LiveAttributedFill) : Prop where
  wellFormed : WellFormed seedAsOf asOf fill
  moves : (moveOf fill).isSome = true
  agree : ∀ f ∈ taken, Agree f fill
  admits : book.Admits calendar.date (entryOf fill)

/-- The state after some fills: the ledger mirrors the book, and the records tell which fills there were. -/
structure Tracks (calendar : ExchangeCalendar) (codes : List String) (taken : List LiveAttributedFill) (state : ReplayState)
    (book : Book) : Prop where
  mirrors : Mirrors calendar state.ledger book
  sound : book.Sound
  day : state.previousDay = book.day
  seen : ∀ id, id ∈ state.seen ↔ ∃ f ∈ taken, f.fillId = id
  filled : ∀ orderId, state.orderFilled.getD orderId 0 = book.filled orderId
  clock : ∀ f ∈ taken, state.sameClock.get? (f.instrumentCode, f.occurredAt) = some f.side
  clock_of : ∀ key side, state.sameClock.get? key = some side → ∃ f ∈ taken, (f.instrumentCode, f.occurredAt) = key ∧ f.side = side
  orders : ∀ f ∈ taken, ∃ m, state.orderMaterial.get? f.clientOrderId = some m ∧ sameMaterial m (material f) = true
  orders_of : ∀ orderId m, state.orderMaterial.get? orderId = some m → ∃ f ∈ taken, f.clientOrderId = orderId ∧ material f = m
  knows : ∀ code, state.ledger.knows code ↔ code ∈ codes ∨ ∃ f ∈ taken, f.instrumentCode = code

theorem checkFill_cases (seedAsOf asOf : Int) (seen : List String) (fill : LiveAttributedFill) :
    (¬ (WellFormed seedAsOf asOf fill ∧ fill.fillId ∉ seen) ∧ ∃ e, checkFill seedAsOf asOf seen fill = .error e) ∨
      ((WellFormed seedAsOf asOf fill ∧ fill.fillId ∉ seen) ∧ checkFill seedAsOf asOf seen fill = .ok ()) := by
  simp only [checkFill, bind, Except.bind, throw, throwThe, MonadExceptOf.throw, pure, Except.pure]
  split
  · rename_i hnamed
    refine .inl ⟨fun ⟨h, hfresh⟩ => ?_, _, rfl⟩
    rcases hnamed with hid | hseen | horder | hcode
    · exact h.id hid
    · exact hfresh hseen
    · exact h.order horder
    · exact h.code hcode
  · rename_i hnamed
    simp only [not_or] at hnamed
    obtain ⟨hid, hfresh, horder, hcode⟩ := hnamed
    split
    · rename_i hwhere
      refine .inl ⟨fun ⟨h, _⟩ => ?_, _, rfl⟩
      rcases hwhere with hbucket | hside
      · exact hbucket h.bucket
      · exact hside (by simpa using h.side)
    · rename_i hwhere
      simp only [not_or, not_not] at hwhere
      obtain ⟨hbucket, hside⟩ := hwhere
      simp only [qty]
      split
      · rename_i hquantity
        split at hquantity
        · cases hquantity
        · rename_i hneg
          exact .inl ⟨fun ⟨h, _⟩ => hneg h.volume.le, _, rfl⟩
      · rename_i volume hquantity
        split at hquantity
        · rename_i hnonneg
          obtain rfl := Except.ok.inj hquantity
          split
          · rename_i hworth
            refine .inl ⟨fun ⟨h, _⟩ => ?_, _, rfl⟩
            rcases hworth with hzero | hprice
            · have hpos := h.volume
              omega
            · exact hprice h.price
          · rename_i hworth
            simp only [not_or, not_not] at hworth
            obtain ⟨hvolume, hprice⟩ := hworth
            split
            · rename_i htime
              exact .inl ⟨fun ⟨h, _⟩ => htime ⟨h.since, h.past⟩, _, rfl⟩
            · rename_i htime
              obtain ⟨hsince, hpast⟩ := not_not.mp htime
              refine .inr ⟨⟨⟨hid, horder, hcode, hbucket, by simpa using hside, by omega, hprice, hsince, hpast⟩, hfresh⟩, rfl⟩
        · cases hquantity

theorem Tracks.fresh_iff (h : Tracks calendar codes taken state book) :
    fill.fillId ∉ state.seen ↔ ∀ f ∈ taken, f.fillId ≠ fill.fillId := by
  rw [h.seen]
  simp

theorem Tracks.checkClock_cases (h : Tracks calendar codes taken state book) (fill : LiveAttributedFill) :
    (¬ (∀ f ∈ taken, f.instrumentCode = fill.instrumentCode → f.occurredAt = fill.occurredAt → f.side = fill.side) ∧
        ∃ e, checkClock state.sameClock fill = .error e) ∨
      ((∀ f ∈ taken, f.instrumentCode = fill.instrumentCode → f.occurredAt = fill.occurredAt → f.side = fill.side) ∧
        checkClock state.sameClock fill = .ok ()) := by
  unfold checkClock
  split
  · rename_i hany
    obtain ⟨side, hget, hne⟩ := (Option.any_eq_true _ _).mp hany
    obtain ⟨f, hf, hkey, hside⟩ := h.clock_of _ side hget
    obtain ⟨hcode, hat⟩ := Prod.mk.inj hkey
    refine .inl ⟨fun hall => ?_, _, rfl⟩
    exact absurd (hside.symm.trans (hall f hf hcode hat)) (by simpa using hne)
  · rename_i hnone
    refine .inr ⟨fun f hf hcode hat => ?_, rfl⟩
    have hget := h.clock f hf
    rw [hcode, hat] at hget
    by_contra hne
    exact hnone ((Option.any_eq_true _ _).mpr ⟨f.side, hget, by simpa using hne⟩)

theorem Tracks.checkMaterial_cases (h : Tracks calendar codes taken state book) (fill : LiveAttributedFill) :
    (¬ (∀ f ∈ taken, f.clientOrderId = fill.clientOrderId → sameMaterial (material f) (material fill) = true) ∧
        ∃ e, checkMaterial state.orderMaterial fill = .error e) ∨
      ((∀ f ∈ taken, f.clientOrderId = fill.clientOrderId → sameMaterial (material f) (material fill) = true) ∧
        checkMaterial state.orderMaterial fill = .ok ()) := by
  unfold checkMaterial
  split
  · rename_i hany
    obtain ⟨m, hget, hne⟩ := (Option.any_eq_true _ _).mp hany
    obtain ⟨f, hf, horder, rfl⟩ := h.orders_of _ m hget
    refine .inl ⟨fun hall => ?_, _, rfl⟩
    rw [hall f hf horder] at hne
    cases hne
  · rename_i hnone
    refine .inr ⟨fun f hf horder => ?_, rfl⟩
    obtain ⟨m, hget, hsame⟩ := h.orders f hf
    rw [horder] at hget
    have hfits : sameMaterial m (material fill) = true := by
      by_contra hne
      exact hnone ((Option.any_eq_true _ _).mpr ⟨m, hget, by simpa using hne⟩)
    exact sameMaterial_iff.mpr ((sameMaterial_iff.mp hsame).symm.trans (sameMaterial_iff.mp hfits))

/-! ## One pass -/

theorem knows_settleTradingDay (ledger : BucketLedger) (date code : String) :
    (ledger.settleTradingDay date).knows code ↔ ledger.knows code := by
  unfold settleTradingDay
  split
  · rfl
  · simp [BucketLedger.knows, Dict.get?_map]

theorem settleTo_mirrors (state : ReplayState) (h : Mirrors calendar state.ledger book) (hsound : book.Sound)
    (hday : state.previousDay = book.day) (day : Int) : Mirrors calendar (settleTo calendar day state).ledger (book.advance day) ∧
      (settleTo calendar day state).previousDay = day ∧
      (∀ code, (settleTo calendar day state).ledger.knows code ↔ state.ledger.knows code) := by
  unfold settleTo
  split
  · rename_i hnew
    exact ⟨h.settle hsound (hday ▸ hnew), rfl, knows_settleTradingDay _ _⟩
  · rename_i hsame
    have hsame' : state.previousDay = day := (not_not.mp hsame).symm
    rw [Book.advance_self (hday ▸ hsame')]
    exact ⟨h, hsame', fun _ => Iff.rfl⟩

/-- What the loop writes down about a fill before it books it. -/
def noteFill (state : ReplayState) (fill : LiveAttributedFill) : ReplayState :=
  { state with
    sameClock := state.sameClock.set (fill.instrumentCode, fill.occurredAt) fill.side
    orderMaterial := state.orderMaterial.set fill.clientOrderId (material fill), seen := fill.fillId :: state.seen }

def fillBooked (state : ReplayState) (fill : LiveAttributedFill) (ledger : BucketLedger) : ReplayState :=
  { state with
    ledger := (ledger.applyTrade (tradeOf fill) (Dict.empty.set "bucket" (.str fill.bucket))).1
    orderFilled := state.orderFilled.set fill.clientOrderId (state.orderFilled.getD fill.clientOrderId 0 + fill.volume.toNat) }

theorem settleTo_records (calendar : ExchangeCalendar) (day : Int) (state : ReplayState) :
    (settleTo calendar day state).seen = state.seen ∧ (settleTo calendar day state).orderFilled = state.orderFilled ∧
      (settleTo calendar day state).orderMaterial = state.orderMaterial ∧ (settleTo calendar day state).sameClock = state.sameClock := by
  unfold settleTo
  split <;> exact ⟨rfl, rfl, rfl, rfl⟩

theorem replayFill_eq (hchecked : checkFill seedAsOf asOf state.seen fill = .ok ()) (hclock : checkClock state.sameClock fill = .ok ())
    (hmaterial : checkMaterial state.orderMaterial fill = .ok ()) :
    replayFill calendar host seedAsOf asOf state fill =
      (if fill.side = "SELL" then reserveSellOf host (settleTo calendar (calendar.date fill.occurredAt) (noteFill state fill)) fill
        else .ok (settleTo calendar (calendar.date fill.occurredAt) (noteFill state fill)).ledger).map
        (fillBooked (settleTo calendar (calendar.date fill.occurredAt) (noteFill state fill)) fill) := by
  rw [replayFill, hchecked, hclock, hmaterial]
  simp only [bind, Except.bind]
  have hnote : noteFill state fill = { state with
      sameClock := state.sameClock.set (fill.instrumentCode, fill.occurredAt) fill.side
      orderMaterial := state.orderMaterial.set fill.clientOrderId (material fill)
      seen := fill.fillId :: state.seen } := rfl
  rw [← hnote]
  by_cases hsell : fill.side = "SELL"
  · rw [if_pos hsell, if_pos hsell]
    cases reserveSellOf host (settleTo calendar (calendar.date fill.occurredAt) (noteFill state fill)) fill <;> rfl
  · rw [if_neg hsell, if_neg hsell]
    rfl

theorem Tracks.booked (h : Tracks calendar codes taken state book) (haccepts : Accepts calendar seedAsOf asOf taken book fill)
    {ledger : BucketLedger}
    (hmirrors : Mirrors calendar (ledger.applyTrade (tradeOf fill) (Dict.empty.set "bucket" (.str fill.bucket))).1
      (book.step calendar.date (entryOf fill)))
    (hknows : ∀ code, code ≠ fill.instrumentCode → (ledger.knows code ↔ state.ledger.knows code)) :
    Tracks calendar codes (taken ++ [fill])
      (fillBooked (settleTo calendar (calendar.date fill.occurredAt) (noteFill state fill)) fill ledger)
      (book.step calendar.date (entryOf fill)) := by
  obtain ⟨hseen, hfilled, hmaterial, hclock⟩ := settleTo_records calendar (calendar.date fill.occurredAt) (noteFill state fill)
  have hday := (settleTo_mirrors (noteFill state fill) h.mirrors h.sound h.day (calendar.date fill.occurredAt)).2.1
  have hmem : ∀ f, f ∈ taken ++ [fill] ↔ f ∈ taken ∨ f = fill := by simp
  generalize settleTo calendar (calendar.date fill.occurredAt) (noteFill state fill) = settled at hseen hfilled hmaterial hclock hday ⊢
  refine ⟨hmirrors, Book.step_sound h.sound haccepts.admits, ?_, fun id => ?_, fun orderId => ?_, fun f hf => ?_, fun key side hget => ?_,
    fun f hf => ?_, fun orderId m hget => ?_, fun code => ?_⟩
  · rw [Book.step_day]
    exact hday
  · simp only [fillBooked, hseen, noteFill, List.mem_cons, h.seen, hmem]
    constructor
    · rintro (rfl | ⟨f, hf, rfl⟩)
      · exact ⟨fill, .inr rfl, rfl⟩
      · exact ⟨f, .inl hf, rfl⟩
    · rintro ⟨f, hf | rfl, rfl⟩
      · exact .inr ⟨f, hf, rfl⟩
      · exact .inl rfl
  · have hown := h.filled fill.clientOrderId
    simp only [fillBooked, hfilled, noteFill, Dict.getD_set, Book.step, Book.apply, Book.advance_filled, entryOf, h.filled]
    by_cases horder : fill.clientOrderId = orderId
    · subst horder
      simp
    · simp [horder, Ne.symm horder]
  · simp only [fillBooked, hclock, noteFill, Dict.get?_set]
    rcases (hmem f).mp hf with hf | rfl
    · split
      · rename_i hkey
        obtain ⟨hcode, hat⟩ := Prod.mk.inj hkey
        rw [(haccepts.agree f hf).clock hcode.symm hat.symm]
      · exact h.clock f hf
    · rw [if_pos rfl]
  · simp only [fillBooked, hclock, noteFill, Dict.get?_set] at hget
    split at hget
    · rename_i hkey
      exact ⟨fill, (hmem fill).mpr (.inr rfl), hkey, Option.some.inj hget⟩
    · obtain ⟨f, hf, hkey, hside⟩ := h.clock_of key side hget
      exact ⟨f, (hmem f).mpr (.inl hf), hkey, hside⟩
  · simp only [fillBooked, hmaterial, noteFill, Dict.get?_set]
    rcases (hmem f).mp hf with hf | rfl
    · split
      · rename_i horder
        exact ⟨_, rfl, (haccepts.agree f hf).symm.material horder⟩
      · exact h.orders f hf
    · rw [if_pos rfl]
      exact ⟨_, rfl, sameMaterial_iff.mpr rfl⟩
  · simp only [fillBooked, hmaterial, noteFill, Dict.get?_set] at hget
    split at hget
    · rename_i horder
      exact ⟨fill, (hmem fill).mpr (.inr rfl), horder, Option.some.inj hget⟩
    · obtain ⟨f, hf, horder, hm⟩ := h.orders_of orderId m hget
      exact ⟨f, (hmem f).mpr (.inl hf), horder, hm⟩
  · have htouches := ledger.applyTrade_touches (tradeOf fill) (Dict.empty.set "bucket" (.str fill.bucket))
    have hown : (ledger.applyTrade (tradeOf fill) (Dict.empty.set "bucket" (.str fill.bucket))).1.knows fill.instrumentCode :=
      knows_applyTrade haccepts.wellFormed.code haccepts.wellFormed.volume
    show (ledger.applyTrade (tradeOf fill) (Dict.empty.set "bucket" (.str fill.bucket))).1.knows code ↔ _
    by_cases hcode : code = fill.instrumentCode
    · subst hcode
      exact iff_of_true hown (.inr ⟨fill, (hmem fill).mpr (.inr rfl), rfl⟩)
    · rw [BucketLedger.knows, htouches.others code hcode, ← BucketLedger.knows, hknows code hcode, h.knows]
      refine or_congr_right ⟨?_, ?_⟩
      · rintro ⟨f, hf, rfl⟩
        exact ⟨f, (hmem f).mpr (.inl hf), rfl⟩
      · rintro ⟨f, hf, rfl⟩
        rcases (hmem f).mp hf with hf | rfl
        · exact ⟨f, hf, rfl⟩
        · exact absurd rfl hcode

theorem replayFill_cases (host : ReplayHost) (seedAsOf asOf : Int) (h : Tracks calendar codes taken state book)
    (fill : LiveAttributedFill) :
    (¬ Accepts calendar seedAsOf asOf taken book fill ∧ ∃ e, replayFill calendar host seedAsOf asOf state fill = .error e) ∨
      (Accepts calendar seedAsOf asOf taken book fill ∧ ∃ next, replayFill calendar host seedAsOf asOf state fill = .ok next ∧
        Tracks calendar codes (taken ++ [fill]) next (book.step calendar.date (entryOf fill))) := by
  rcases checkFill_cases seedAsOf asOf state.seen fill with ⟨hno, e, he⟩ | ⟨⟨hformed, hfresh⟩, hchecked⟩
  · refine .inl ⟨fun haccepts => hno ⟨haccepts.wellFormed, h.fresh_iff.mpr fun f hf => (haccepts.agree f hf).id⟩, e, ?_⟩
    rw [replayFill, he]
    rfl
  rcases h.checkClock_cases fill with ⟨hno, e, he⟩ | ⟨hclock, hclocked⟩
  · refine .inl ⟨fun haccepts => hno fun f hf => (haccepts.agree f hf).clock, e, ?_⟩
    rw [replayFill, hchecked, he]
    rfl
  rcases h.checkMaterial_cases fill with ⟨hno, e, he⟩ | ⟨hmaterial, hordered⟩
  · refine .inl ⟨fun haccepts => hno fun f hf => (haccepts.agree f hf).material, e, ?_⟩
    rw [replayFill, hchecked, hclocked, he]
    rfl
  have hagree : ∀ f ∈ taken, Agree f fill := fun f hf => ⟨h.fresh_iff.mp hfresh f hf, hclock f hf, hmaterial f hf⟩
  have hmirrors := settleTo_mirrors (noteFill state fill) h.mirrors h.sound h.day (calendar.date fill.occurredAt)
  have hsound := Book.advance_sound h.sound (calendar.date fill.occurredAt)
  rw [replayFill_eq hchecked hclocked hordered]
  rcases hformed.side with hbuy | hsell
  · have hside : fill.side ≠ "SELL" := by rw [hbuy]; decide
    have hmove : moveOf fill = some (.buy (normalizeBucket fill.bucket)) := by simp [moveOf, hbuy]
    have hentry : (entryOf fill).move = .buy (normalizeBucket fill.bucket) := by simp [entryOf, hmove]
    have haccepts : Accepts calendar seedAsOf asOf taken book fill := by
      refine ⟨hformed, by simp [hmove], hagree, fun bucket => ?_, ?_, fun bucket hleaves => ?_⟩
      · rw [sold_buy (by rw [hentry]; rfl)]
        exact hsound.settled _ _
      · rw [hentry]
        trivial
      · rw [hentry] at hleaves
        cases hleaves
    rw [if_neg hside]
    refine .inr ⟨haccepts, _, rfl, h.booked haccepts ?_ fun code _ => hmirrors.2.2 code⟩
    exact hmirrors.1.buy hsound hbuy hformed.volume hformed.code (ne_empty_of_mem hformed.bucket)
  · have hfill : SellFill fill := ⟨hsell, hformed.order, hformed.code, hformed.volume, hformed.bucket⟩
    have hfilled : (settleTo calendar (calendar.date fill.occurredAt) (noteFill state fill)).orderFilled.getD fill.clientOrderId 0 =
        (book.advance (calendar.date fill.occurredAt)).filled fill.clientOrderId := by
      rw [(settleTo_records calendar _ _).2.1, Book.advance_filled]
      exact h.filled _
    rw [if_pos hsell]
    rcases reserveSellOf_cases host hfill hmirrors.1 hsound hfilled with ⟨hno, e, he⟩ | ⟨hsellable, ledger, hledger, hreserved⟩
    · refine .inl ⟨fun haccepts => hno ⟨haccepts.moves, haccepts.admits⟩, e, ?_⟩
      rw [he]
      rfl
    · have haccepts : Accepts calendar seedAsOf asOf taken book fill := ⟨hformed, hsellable.moves, hagree, hsellable.covers⟩
      rw [hledger]
      refine .inr ⟨haccepts, _, rfl, h.booked haccepts (hreserved.mirrors _) fun code hcode => ?_⟩
      exact (hreserved.knows code hcode).trans (hmirrors.2.2 code)

def AcceptsAll (calendar : ExchangeCalendar) (seedAsOf asOf : Int) :
    List LiveAttributedFill → Book → List LiveAttributedFill → Prop
  | _, _, [] => True
  | taken, book, fill :: fills => Accepts calendar seedAsOf asOf taken book fill ∧
    AcceptsAll calendar seedAsOf asOf (taken ++ [fill]) (book.step calendar.date (entryOf fill)) fills

theorem replayFills_cases (host : ReplayHost) (seedAsOf asOf : Int) (h : Tracks calendar codes taken state book)
    (fills : List LiveAttributedFill) :
    (¬ AcceptsAll calendar seedAsOf asOf taken book fills ∧
        ∃ e, fills.foldlM (replayFill calendar host seedAsOf asOf) state = .error e) ∨
      (AcceptsAll calendar seedAsOf asOf taken book fills ∧
        ∃ next, fills.foldlM (replayFill calendar host seedAsOf asOf) state = .ok next ∧
          Tracks calendar codes (taken ++ fills) next (book.after calendar.date (fills.map entryOf))) := by
  induction fills generalizing taken state book with
  | nil => exact .inr ⟨trivial, state, rfl, by simpa using h⟩
  | cons fill fills ih =>
    rw [List.foldlM_cons]
    rcases replayFill_cases host seedAsOf asOf h fill with ⟨hno, e, he⟩ | ⟨haccepts, next, hnext, hfollows⟩
    · rw [he]
      exact .inl ⟨fun hall => hno hall.1, e, rfl⟩
    · rw [hnext]
      rcases ih hfollows with ⟨hno, herror⟩ | ⟨hrest, last, hlast, hdone⟩
      · exact .inl ⟨fun hall => hno hall.2, herror⟩
      · refine .inr ⟨⟨haccepts, hrest⟩, last, hlast, ?_⟩
        rw [List.append_cons]
        exact hdone

structure Admissible (calendar : ExchangeCalendar) (seedAsOf asOf : Int) (taken : List LiveAttributedFill) (book : Book)
    (fills : List LiveAttributedFill) : Prop where
  each : ∀ fill ∈ fills, WellFormed seedAsOf asOf fill ∧ (moveOf fill).isSome = true
  earlier : ∀ f ∈ taken, ∀ fill ∈ fills, Agree f fill
  agree : fills.Pairwise Agree
  admits : book.AdmitsAll calendar.date (fills.map entryOf)

theorem acceptsAll_iff : AcceptsAll calendar seedAsOf asOf taken book fills ↔ Admissible calendar seedAsOf asOf taken book fills := by
  induction fills generalizing taken book with
  | nil => exact iff_of_true trivial ⟨by simp, by simp, List.Pairwise.nil, trivial⟩
  | cons fill fills ih =>
    rw [AcceptsAll, ih]
    constructor
    · rintro ⟨⟨hformed, hmoves, hagree, hadmits⟩, heach, hearlier, hpairs, hrest⟩
      refine ⟨fun f hf => ?_, fun f hf g hg => ?_, List.pairwise_cons.mpr ⟨fun g hg => ?_, hpairs⟩, hadmits, hrest⟩
      · rcases List.mem_cons.mp hf with rfl | hf
        · exact ⟨hformed, hmoves⟩
        · exact heach f hf
      · rcases List.mem_cons.mp hg with rfl | hg
        · exact hagree f hf
        · exact hearlier f (List.mem_append_left _ hf) g hg
      · exact hearlier fill (List.mem_append_right _ List.mem_cons_self) g hg
    · rintro ⟨heach, hearlier, hpairs, hadmits, hrest⟩
      obtain ⟨hhead, htail⟩ := List.pairwise_cons.mp hpairs
      obtain ⟨hformed, hmoves⟩ := heach fill List.mem_cons_self
      refine ⟨⟨hformed, hmoves, fun f hf => hearlier f hf fill List.mem_cons_self, hadmits⟩,
        fun f hf => heach f (List.mem_cons_of_mem _ hf), fun f hf g hg => ?_, htail, hrest⟩
      rcases List.mem_append.mp hf with hf | hf
      · exact hearlier f hf g (List.mem_cons_of_mem _ hg)
      · obtain rfl := List.mem_singleton.mp hf
        exact hhead g hg

/-! ## The seed -/

def seedTotal (seed : Dict String (Dict Bucket SeedBucket)) (code : String) (bucket : Bucket) : Nat :=
  ((seed.getD code Dict.empty).get? bucket).elim 0 (·.totalVolume)

def seedToday (seed : Dict String (Dict Bucket SeedBucket)) (code : String) (bucket : Bucket) : Nat :=
  ((seed.getD code Dict.empty).get? bucket).elim 0 (·.todayBuyVolume)

def bookOf (seed : Dict String (Dict Bucket SeedBucket)) (day : Int) : Book where
  settled code bucket := seedTotal seed code bucket - seedToday seed code bucket
  today code bucket := seedToday seed code bucket
  filled _ := 0
  day := day

variable {seed : Dict String (Dict Bucket SeedBucket)} {day : Int}

theorem bookOf_sound (seed : Dict String (Dict Bucket SeedBucket)) (day : Int) : (bookOf seed day).Sound where
  settled code bucket := by
    simp only [bookOf, seedTotal, seedToday]
    cases (seed.getD code Dict.empty).get? bucket with
    | none => simp
    | some values => simpa using values.today_le
  today _ _ := Int.natCast_nonneg _

theorem foldl_ensureInstrument (names : List String) (ledger : BucketLedger) (code : String) (bucket : Bucket) :
    (names.foldl ensureInstrument ledger).state code bucket = ledger.state code bucket := by
  induction names generalizing ledger with
  | nil => rfl
  | cons name names ih => rw [List.foldl_cons, ih, state_ensureInstrument]

theorem foldl_ensureInstrument_frame (names : List String) (ledger : BucketLedger) :
    (names.foldl ensureInstrument ledger).pendingOrders = ledger.pendingOrders ∧
      (names.foldl ensureInstrument ledger).pendingSubstitutions = ledger.pendingSubstitutions ∧
      (names.foldl ensureInstrument ledger).lastSettlementDate = ledger.lastSettlementDate := by
  induction names generalizing ledger with
  | nil => exact ⟨rfl, rfl, rfl⟩
  | cons name names ih => exact ih _

theorem foldl_ensureInstrument_knows (names : List String) (ledger : BucketLedger) (code : String) :
    (names.foldl ensureInstrument ledger).knows code ↔ code ∈ names ∨ ledger.knows code := by
  induction names generalizing ledger with
  | nil => simp
  | cons name names ih =>
    rw [List.foldl_cons, ih]
    have hensured : (ledger.ensureInstrument name).knows code ↔ code = name ∨ ledger.knows code := by
      simp only [BucketLedger.knows, ensureInstrument, Dict.get?_set]
      by_cases hcode : name = code
      · simp [hcode]
      · simp [hcode, Ne.symm hcode]
    rw [hensured, List.mem_cons]
    tauto

theorem knows_iff_mem (ledger : BucketLedger) (code : String) : ledger.knows code ↔ code ∈ ledger.buckets.keys := by
  rw [BucketLedger.knows, Dict.get?, Option.isSome_iff_ne_none, ne_eq, Dict.lookup_eq_none, not_not]
  rfl

theorem SeedBucket.state_volumes (values : SeedBucket) :
    values.state.volumes = ⟨values.totalVolume, values.totalVolume - values.todayBuyVolume, values.todayBuyVolume, 0⟩ := by
  have hle := values.today_le
  have hnormal : Volumes.Normal ⟨values.totalVolume, values.totalVolume - values.todayBuyVolume, values.todayBuyVolume, 0⟩ := by
    refine ⟨?_, ?_, ?_, le_rfl, ?_⟩ <;> dsimp only <;> omega
  exact BucketPositionState.normalize_volumes hnormal

theorem ofSeed_follows (calendar : ExchangeCalendar) (seed : Dict String (Dict Bucket SeedBucket)) (day : Int) :
    Tracks calendar seed.keys [] { ledger := .ofSeed seed (calendar.isoformat day), previousDay := day } (bookOf seed day) := by
  obtain ⟨horders, hplans, hdate⟩ := foldl_ensureInstrument_frame seed.keys
    { runId := "", buckets := seed.map fun buckets => buckets.map SeedBucket.state
      lastSettlementDate := some (calendar.isoformat day) }
  refine ⟨⟨fun code bucket => ?_, horders, hplans, hdate⟩, bookOf_sound seed day, rfl, by simp, fun _ => rfl, by simp, fun _ _ h => (by cases h),
    by simp, fun _ _ h => (by cases h), fun code => ?_⟩
  · rw [BucketLedger.volumes, ofSeed, foldl_ensureInstrument]
    simp only [state, Dict.getD, Dict.get?_map, Book.total, bookOf, seedTotal, seedToday]
    cases hcode : seed.get? code with
    | none => rfl
    | some buckets =>
      simp only [Option.map_some, Option.getD_some, Dict.get?_map]
      cases hbucket : buckets.get? bucket with
      | none => rfl
      | some values =>
        rw [Option.map_some, Option.getD_some, SeedBucket.state_volumes]
        simp
  · have hmap : ∀ ledger : BucketLedger, ledger.buckets = (seed.map fun buckets => buckets.map SeedBucket.state) →
        (ledger.knows code ↔ code ∈ seed.keys) := by
      intro ledger hbuckets
      rw [BucketLedger.knows, hbuckets, Dict.get?_map, Option.isSome_map, Dict.get?, Option.isSome_iff_ne_none, ne_eq, Dict.lookup_eq_none,
        not_not]
      rfl
    rw [ofSeed, foldl_ensureInstrument_knows, hmap _ rfl]
    simp

end QuantX
