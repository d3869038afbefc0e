import QuantX.Theorems.PaperMatching.Sound

/-! # The matcher between its calls

Between two calls every order is active and has its witness, and every quote has its event. -/

namespace QuantX
open Lib PaperBroker PaperBrokerMatching

variable {host : PaperHost} {scope key code : String} {matcher : PaperBrokerMatching} {broker : PaperBroker} {order : PaperOrder}
  {quote : PaperQuote} {now : Int}
variable {quotes : Dict String PaperQuote} {events : Dict String QuoteEvent}

structure QuoteKnown (host : PaperHost) (now : Int) (code : String) (quote : PaperQuote) (event : QuoteEvent) : Prop where
  identity : checkIdentity event.eventId = .ok ()
  code : code = quote.instrumentCode
  witness : event.quoteHash = host.manifestHash (.quote quote)
  reasons : event.reasonCodes = [] ∨ event.reasonCodes = [sameSourceNoNewLiquidity]
  source : quote.sourceTime ≤ event.acceptedAt
  accepted : event.acceptedAt ≤ now

theorem QuoteKnown.later {event : QuoteEvent} {later : Int} (h : QuoteKnown host now code quote event) (hlater : now ≤ later) :
    QuoteKnown host later code quote event :=
  ⟨h.identity, h.code, h.witness, h.reasons, h.source, h.accepted.trans hlater⟩

structure QuotesKnown (host : PaperHost) (now : Int) (quotes : Dict String PaperQuote) (events : Dict String QuoteEvent) : Prop where
  quoted : ∀ code event, events.get? code = some event → ∃ quote, quotes.get? code = some quote
  known : ∀ code quote, quotes.get? code = some quote → ∃ event, events.get? code = some event ∧ QuoteKnown host now code quote event

theorem QuotesKnown.later {later : Int}
    (h : QuotesKnown host now quotes events) (hlater : now ≤ later) : QuotesKnown host later quotes events where
  quoted := h.quoted
  known code quote hquote := by
    obtain ⟨event, hevent, hknown⟩ := h.known code quote hquote
    exact ⟨event, hevent, hknown.later hlater⟩

theorem QuotesKnown.set {event : QuoteEvent}
    (h : QuotesKnown host now quotes events) (hknown : QuoteKnown host now quote.instrumentCode quote event) :
    QuotesKnown host now (quotes.set quote.instrumentCode quote) (events.set quote.instrumentCode event) where
  quoted code other hother := by
    by_cases hsame : quote.instrumentCode = code
    · rw [← hsame]
      exact ⟨quote, Dict.get?_set_self _ _ _⟩
    · rw [Dict.get?_set_ne _ _ hsame] at hother ⊢
      exact h.quoted code other hother
  known code other hother := by
    by_cases hsame : quote.instrumentCode = code
    · subst hsame
      rw [Dict.get?_set_self] at hother ⊢
      obtain rfl := Option.some.inj hother
      exact ⟨event, rfl, hknown⟩
    · rw [Dict.get?_set_ne _ _ hsame] at hother ⊢
      exact h.known code other hother

structure Working (host : PaperHost) (matcher : PaperBrokerMatching) : Prop where
  scope : checkIdentity matcher.scopeExecutionId = .ok ()
  queue : QueueSound host matcher.scopeExecutionId matcher.broker
  witnesses : ∀ key, matcher.orderWitnesses.get? key = (matcher.broker.orders.get? key).map fun order => host.manifestHash order.submission
  quotes : QuotesKnown host matcher.broker.currentTime matcher.broker.marketSnapshots matcher.latestQuoteEvents
  frozen : 0 ≤ matcher.broker.frozenCash
  nonTrading : 0 ≤ matcher.broker.nonTradingAssetValue

structure Waiting (host : PaperHost) (matcher : PaperBrokerMatching) : Prop extends Working host matcher where
  active : ∀ key order, matcher.broker.orders.get? key = some order → order.isOpen = true
  trades : matcher.broker.trades = []

theorem result_witness (previous : Dict String PaperOrder) (tradeCount : Nat) (duplicate : Bool) (id : Option String) (reasonCodes : List String)
    (key : String) : (matcher.result previous tradeCount duplicate id reasonCodes).1.orderWitnesses.get? key =
      (matcher.orderWitnesses.get? key).filter fun _ => (matcher.broker.orders.get? key).any (·.isOpen) := by
  unfold result
  rw [Dict.get?_filter]
  simp only [Dict.contains, Dict.get?_filter]
  congr 1
  funext _
  cases matcher.broker.orders.get? key with
  | none => rfl
  | some order => cases horder : order.isOpen <;> simp [Option.filter, horder]

theorem Working.result (h : Working host matcher) (previous : Dict String PaperOrder) (tradeCount : Nat) (duplicate : Bool) (id : Option String)
    (reasonCodes : List String) : Waiting host (matcher.result previous tradeCount duplicate id reasonCodes).1 where
  scope := h.scope
  queue := by
    refine ⟨⟨fun key order horder => ?_, h.queue.unique, fun key order horder => ?_⟩, fun key hkey => ?_⟩
    · have hkept := (Dict.get?_filter _ _ _).symm.trans horder
      exact h.queue.sound key order (Option.filter_eq_some_iff.mp hkept).1
    · have hkept := (Dict.get?_filter _ _ _).symm.trans horder
      exact h.queue.waits key order (Option.filter_eq_some_iff.mp hkept).1
    · obtain ⟨order, horder, hopen⟩ := h.queue.pending key hkey
      refine ⟨order, (Dict.get?_filter _ _ _).trans ?_, hopen⟩
      rw [horder]
      exact Option.filter_eq_some_iff.mpr ⟨rfl, hopen⟩
  witnesses key := by
    rw [result_witness, h.witnesses]
    have hkept : (matcher.result previous tradeCount duplicate id reasonCodes).1.broker.orders.get? key =
        (matcher.broker.orders.get? key).filter (·.isOpen) := Dict.get?_filter _ _ _
    rw [hkept]
    cases matcher.broker.orders.get? key with
    | none => rfl
    | some order => cases horder : order.isOpen <;> simp [Option.filter, horder]
  quotes := h.quotes
  frozen := h.frozen
  nonTrading := h.nonTrading
  active key order horder := by
    have hkept := (Dict.get?_filter _ _ _).symm.trans horder
    exact (Option.filter_eq_some_iff.mp hkept).2
  trades := rfl

/-! ## Loading -/

theorem sameKeySets_iff {α β : Type} {d : Dict String α} {e : Dict String β} :
    sameKeySets d e = true ↔ ∀ key, (d.get? key).isSome = (e.get? key).isSome := by
  have hkeys : ∀ {γ : Type} (f : Dict String γ) (key : String), key ∈ f.keys ↔ (f.get? key).isSome = true := by
    intro γ f key
    cases hfound : f.get? key with
    | none => exact iff_of_false (Dict.lookup_eq_none.mp hfound) (by simp)
    | some value => exact iff_of_true (List.mem_map_of_mem (Dict.mem_entries.mpr hfound)) rfl
  simp only [sameKeySets, Bool.and_eq_true, List.all_eq_true, hkeys, Dict.contains]
  constructor
  · rintro ⟨hd, he⟩ key
    exact Bool.eq_iff_iff.mpr ⟨hd key, he key⟩
  · intro h
    exact ⟨fun key hkey => (h key).symm.trans hkey, fun key hkey => (h key).trans hkey⟩

theorem isClose_self (a : Rat) : isClose a a = true := by
  simp only [isClose, sub_self, abs_zero, max_self, decide_eq_true_eq]
  exact mul_nonneg (by norm_num) (abs_nonneg a)

theorem Working.loadQuote (h : Working host matcher) (hquote : matcher.broker.marketSnapshots.get? code = some quote) :
    loadQuote host matcher.material code quote = .ok () := by
  obtain ⟨event, hevent, hknown⟩ := h.quotes.known code quote hquote
  have hfound : matcher.material.latestQuoteEvents.get? code = some event := hevent
  unfold PaperBrokerMatching.loadQuote
  rw [hfound]
  exact check_bind.mpr ⟨hknown.identity, require_bind.mpr ⟨⟨hknown.code, hknown.witness⟩, require_bind.mpr ⟨hknown.reasons,
    require_eq_ok.mpr ⟨hknown.source, hknown.accepted⟩⟩⟩⟩

theorem Working.loadOrder (h : Working host matcher) (horder : matcher.broker.orders.get? key = some order) :
    loadOrder host matcher.material key order = .ok () := by
  have hsound := h.queue.sound key order horder
  have hwitness := h.witnesses key
  rw [horder] at hwitness
  exact check_bind.mpr ⟨hsound.valid, require_bind.mpr ⟨hsound.id.symm, require_eq_ok.mpr hwitness⟩⟩

theorem PaperOrderSound.loadFill (h : PaperOrderSound host scope key order) (hopen : order.isOpen = true) : loadFill host order = .ok () := by
  have hcommission : 0 ≤ order.commission := by
    rw [h.paid.commission]
    exact calculateCosts_nonneg (params_fair host)
  refine require_bind.mpr ⟨⟨hopen, h.filled, h.unfinished hopen⟩, check_bind.mpr ⟨require_eq_ok.mpr h.paid.amount,
    check_bind.mpr ⟨require_eq_ok.mpr hcommission, check_bind.mpr ⟨require_eq_ok.mpr h.mean, require_eq_ok.mpr ?_⟩⟩⟩⟩
  rw [h.paid.commission]
  exact isClose_self _

/-- A checkpoint is loaded where the cash is not negative, and then it is the matcher that it was taken of. -/
theorem Waiting.load (h : Waiting host matcher) {restored : PaperBrokerMatching} :
    load host matcher.scopeExecutionId (matcher.exportCheckpoint host) = .ok restored ↔ 0 ≤ matcher.broker.cash ∧ restored = matcher := by
  have hevents : sameKeySets matcher.latestQuoteEvents matcher.broker.marketSnapshots = true := by
    refine sameKeySets_iff.mpr fun code => Bool.eq_iff_iff.mpr ⟨fun hevent => ?_, fun hquote => ?_⟩
    · obtain ⟨event, hevent⟩ := Option.isSome_iff_exists.mp hevent
      obtain ⟨quote, hquote⟩ := h.quotes.quoted code event hevent
      exact Option.isSome_iff_exists.mpr ⟨quote, hquote⟩
    · obtain ⟨quote, hquote⟩ := Option.isSome_iff_exists.mp hquote
      obtain ⟨event, hevent, -⟩ := h.quotes.known code quote hquote
      exact Option.isSome_iff_exists.mpr ⟨event, hevent⟩
  have hwitnesses : sameKeySets matcher.orderWitnesses matcher.broker.orders = true :=
    sameKeySets_iff.mpr fun key => by rw [h.witnesses, Option.isSome_map]
  have hpending : ∀ key ∈ matcher.broker.pendingOrders ++ matcher.broker.orders.keys,
      key ∈ matcher.broker.pendingOrders ↔ (matcher.broker.orders.get? key).any (·.isOpen) = true := by
    intro key _
    constructor
    · intro hkey
      obtain ⟨order, horder, hopen⟩ := h.queue.pending key hkey
      rw [horder]
      exact hopen
    · intro hany
      obtain ⟨order, horder, hopen⟩ := (Option.any_eq_true _ _).mp hany
      exact h.queue.waits key order horder hopen
  have hquotes : matcher.broker.marketSnapshots.entries.forM (fun entry => PaperBrokerMatching.loadQuote host matcher.material entry.1 entry.2) =
      .ok () := forM_eq_ok.mpr fun entry hentry => h.toWorking.loadQuote (Dict.mem_entries.mp hentry)
  have horders : matcher.broker.orders.entries.forM (fun entry => PaperBrokerMatching.loadOrder host matcher.material entry.1 entry.2) =
      .ok () := forM_eq_ok.mpr fun entry hentry => h.toWorking.loadOrder (Dict.mem_entries.mp hentry)
  have hfills : matcher.broker.orders.values.forM (PaperBrokerMatching.loadFill host) = .ok () :=
    forM_eq_ok.mpr fun order horder => by
      obtain ⟨key, hkey⟩ := Dict.mem_values.mp horder
      exact (h.queue.sound key order hkey).loadFill (h.active key order hkey)
  have hsame : ({ scopeExecutionId := matcher.scopeExecutionId, broker := { matcher.broker with trades := [] }
                  orderWitnesses := matcher.orderWitnesses
                  latestQuoteEvents := matcher.latestQuoteEvents } : PaperBrokerMatching) = matcher := by
    rw [← h.trades]
  unfold PaperBrokerMatching.load
  simp only [check_bind, require_eq_ok, checkNumber]
  constructor
  · rintro ⟨-, -, -, -, -, -, -, hcash, -, -, hloaded⟩
    exact ⟨hcash, (Except.ok.inj hloaded).symm.trans hsame⟩
  · rintro ⟨hcash, rfl⟩
    exact ⟨⟨rfl, rfl, rfl, rfl⟩, hevents, hquotes, horders, ⟨h.queue.unique, hpending⟩, hwitnesses, hfills, hcash, h.frozen, h.nonTrading,
      congrArg Except.ok hsame⟩

theorem Waiting.reload (h : Waiting host matcher) (error : String) :
    ∃ error', matcher.reload host (matcher.exportCheckpoint host) error = (matcher, .error error') := by
  unfold PaperBrokerMatching.reload
  split
  · rename_i restored hrestored
    obtain ⟨-, rfl⟩ := h.load.mp hrestored
    exact ⟨_, rfl⟩
  · exact ⟨_, rfl⟩

end QuantX
