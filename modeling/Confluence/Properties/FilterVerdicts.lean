import Confluence.Properties.ValidationOverflow

/-!
# The verdict of the filters

An order is accepted when the filters that its type needs are present and the last filter of each
kind admits it. That is the verdict of all filters unless a filter is absent whose default refuses
the order, or an earlier filter is overruled by a later one of its kind.
-/

namespace Confluence

/-- The venue's name of an order type. -/
def OrderType.text : OrderType → String
  | limit => "LIMIT"
  | market => "MARKET"

/-- The price that an order is checked with: its own, or the estimate for a market order. -/
def OrderIntent.checkedPrice (intent : OrderIntent) (est : PriceEstimate) : Decimal :=
  match intent.orderType with
  | .limit => intent.price.getD 0
  | .market => est.price

/-- The filter admits the order at the price that it is checked with. -/
def Filter.AdmitsOrder (f : Filter) (intent : OrderIntent) (est : PriceEstimate) : Prop :=
  f.Admits intent (intent.checkedPrice est) est

/-- The lot filter of the order's type. -/
def OrderType.lotKind : OrderType → FilterKind
  | limit => .lotSize
  | market => .marketLotSize

/-- No default and no zero tick stands in the order's way: the lot filter of its type is present; for
a limit order so is the price filter, with a tick unless the price is nonzero anyway, and without a
percent-price filter the price is not negative and at most the estimate times the largest decimal. -/
def Covered (fs : List Filter) (intent : OrderIntent) (est : PriceEstimate) : Prop :=
  (∃ f ∈ fs, f.kind = intent.orderType.lotKind) ∧
  (intent.orderType = .limit →
    (∃ f ∈ fs, f.kind = .priceFilter) ∧
    (∀ f, lastOfKind .priceFilter fs = some (.priceFilter f) → intent.price = some 0 →
      f.tickSize ≠ 0) ∧
    ((∀ f ∈ fs, f.kind ≠ .percentPrice) →
      0 ≤ intent.checkedPrice est ∧ intent.checkedPrice est ≤ est.price * maxDecimal))

/-- The filters that stand admit the order. -/
def LastAdmit (fs : List Filter) (intent : OrderIntent) (est : PriceEstimate) : Prop :=
  ∀ k f, lastOfKind k fs = some f → f.AdmitsOrder intent est

section

variable {intent : OrderIntent} {est : PriceEstimate} {fs : List Filter} {s : SymbolFilters}
  {m : SymbolMeta}

/-! ### One slot -/

/-- The code's test of a lot filter, for a positive quantity. -/
lemma LotSizeFilter.admits_iff {f : LotSizeFilter} {quantity : Decimal} (h : 0 < quantity) :
    f.Admits quantity ↔
      (f.minQty ≤ quantity ∧ quantity ≤ f.maxQty) ∧ isAligned quantity f.stepSize = true := by
  rw [isAligned_iff, Admits, and_assoc]
  refine and_congr_right fun _ => and_congr_right fun _ => ⟨?_, fun hk => hk.2⟩
  rintro ⟨k, hk⟩
  refine ⟨fun hstep => ?_, k, hk⟩
  rw [hstep, mul_zero] at hk
  exact h.ne' hk

lemma PriceFilter.admits_iff {f : PriceFilter} {price : Decimal}
    (h : price = 0 → f.tickSize ≠ 0) :
    f.Admits price ↔
      (f.minPrice ≤ price ∧ price ≤ f.maxPrice) ∧ isAligned price f.tickSize = true := by
  rw [isAligned_iff, Admits, and_assoc]
  refine and_congr_right fun _ => and_congr_right fun _ => ⟨?_, fun hk => hk.2⟩
  rintro ⟨k, hk⟩
  refine ⟨fun htick => ?_, k, hk⟩
  rw [htick, mul_zero] at hk
  exact h hk htick

lemma rejectIf_eq_ok {bad : Prop} [Decidable bad] {msg : Message} :
    rejectIf bad msg = .ok () ↔ ¬ bad := by
  unfold rejectIf
  split_ifs with h <;> simp [h]

lemma validation_bind_eq_ok {x y : Validation} :
    (x >>= fun _ => y) = .ok () ↔ x = .ok () ∧ y = .ok () := by
  cases x with
  | error e => simp [bind, Except.bind]
  | ok u => simp [bind, Except.bind]

lemma checkNotional_eq_ok {quantity price : Decimal} {orderType : OrderType} {isMarket : Bool}
    {f : NotionalFilter} (h : isMarket = true ↔ orderType = .market) :
    checkNotional quantity price isMarket f = .ok () ↔
      f.Admits orderType (quantity * price) := by
  have happlies (flag : Bool) : (!isMarket || flag) = true ↔
      (orderType = .market → flag = true) := by
    rw [← h]
    cases isMarket <;> simp
  unfold checkNotional NotionalFilter.Admits
  cases f.minNotional <;> cases f.maxNotional <;>
    simp [validation_bind_eq_ok, rejectIf_eq_ok, happlies, pure, Except.pure]

lemma checkPercentPrice_eq_ok {side : OrderSide} {price : Decimal} {rule : PercentPriceRule} :
    checkPercentPrice side price rule (some est) = .ok () ↔ rule.Admits side price est.price := by
  unfold checkPercentPrice PercentPriceRule.Admits
  cases rule with
  | general up down => simp [rejectIf_eq_ok, and_comm]
  | bySide bidUp bidDown askUp askDown => cases side <;> simp [rejectIf_eq_ok, and_comm]

/-- A slot's test is that of the last filter of its kind, and that of the default without one. -/
lemma slot_iff {k : FilterKind} {test absent : Prop} {admits : Filter → Prop}
    (hlast : ∀ f, f.kind = k → (fs.foldl SymbolFilters.put {}).Holds f → (test ↔ admits f))
    (habsent : (fs.foldl SymbolFilters.put {}).Agree {} k → (test ↔ absent)) :
    test ↔ (∀ f, lastOfKind k fs = some f → admits f) ∧
      ((∀ f ∈ fs, f.kind ≠ k) → absent) := by
  rw [← lastOfKind_eq_none]
  cases hkind : lastOfKind k fs with
  | none => simpa using habsent (agree_foldl_put {} hkind)
  | some f => simpa using hlast f (kind_of_lastOfKind hkind) (holds_foldl_put {} hkind)

/-- A quantity is never aligned to the default's step of zero. -/
lemma lot_slot_iff (est : PriceEstimate) (hm : m.filters = fs.foldl SymbolFilters.put {})
    (hquantity : 0 < intent.quantity) :
    (((Checked.lotFor m intent.orderType).minQty ≤ intent.quantity ∧
        intent.quantity ≤ (Checked.lotFor m intent.orderType).maxQty) ∧
      isAligned intent.quantity (Checked.lotFor m intent.orderType).stepSize = true) ↔
      (∀ f, lastOfKind intent.orderType.lotKind fs = some f → f.AdmitsOrder intent est) ∧
        ((∀ f ∈ fs, f.kind ≠ intent.orderType.lotKind) → False) := by
  rw [← LotSizeFilter.admits_iff hquantity]
  refine slot_iff (fun f hkind hholds => ?_) fun hagree => ?_
  · rw [← hm] at hholds
    cases htype : intent.orderType <;> rw [htype] at hkind <;> cases f <;> cases hkind <;>
      · rw [← show _ = _ from hholds]
        simp [Filter.AdmitsOrder, Filter.Admits, htype, Checked.lotFor, SymbolMeta.filters]
  · rw [← hm] at hagree
    have hstep : (Checked.lotFor m intent.orderType).stepSize = 0 := by
      cases htype : intent.orderType <;> rw [htype] at hagree <;>
        exact congrArg LotSizeFilter.stepSize hagree
    rw [LotSizeFilter.admits_iff hquantity, isAligned_iff]
    simp [hstep]

lemma price_slot_iff (hm : m.filters = fs.foldl SymbolFilters.put {})
    (htype : intent.orderType = .limit) {price : Decimal} (hprice : intent.price = some price) :
    ((m.priceFilter.minPrice ≤ price ∧ price ≤ m.priceFilter.maxPrice) ∧
      isAligned price m.priceFilter.tickSize = true) ↔
      (∀ f, lastOfKind .priceFilter fs = some f → f.AdmitsOrder intent est ∧
        ∀ g, f = .priceFilter g → price = 0 → g.tickSize ≠ 0) ∧
        ((∀ f ∈ fs, f.kind ≠ .priceFilter) → False) := by
  refine slot_iff (fun f hkind hholds => ?_) fun hagree => ?_
  · rw [← hm] at hholds
    cases f with
    | priceFilter g =>
      obtain rfl : m.priceFilter = g := hholds
      simp only [Filter.AdmitsOrder, Filter.Admits, OrderIntent.checkedPrice, htype, hprice,
        Option.getD_some, true_imp_iff, Filter.priceFilter.injEq, forall_eq']
      constructor
      · intro h
        have htick : price = 0 → m.priceFilter.tickSize ≠ 0 := fun _ => (isAligned_iff.mp h.2).1
        exact ⟨(PriceFilter.admits_iff htick).mpr h, htick⟩
      · rintro ⟨h, htick⟩
        exact (PriceFilter.admits_iff htick).mp h
    | _ => cases hkind
  · rw [← hm] at hagree
    have htick : m.priceFilter.tickSize = 0 := congrArg PriceFilter.tickSize hagree
    rw [isAligned_iff]
    simp [htick]

lemma percent_slot_iff (hm : m.filters = fs.foldl SymbolFilters.put {})
    (htype : intent.orderType = .limit) {price : Decimal} (hprice : intent.price = some price) :
    checkPercentPrice intent.side price m.percentPrice (some est) = .ok () ↔
      (∀ f, lastOfKind .percentPrice fs = some f → f.AdmitsOrder intent est) ∧
        ((∀ f ∈ fs, f.kind ≠ .percentPrice) → 0 ≤ price ∧ price ≤ est.price * maxDecimal) := by
  rw [checkPercentPrice_eq_ok]
  refine slot_iff (fun f hkind hholds => ?_) fun hagree => ?_
  · rw [← hm] at hholds
    cases f with
    | percentPrice rule =>
      obtain rfl : m.percentPrice = rule := hholds
      simp [Filter.AdmitsOrder, Filter.Admits, OrderIntent.checkedPrice, htype, hprice]
    | _ => cases hkind
  · rw [← hm] at hagree
    have hrule : m.percentPrice = .general maxDecimal 0 := hagree
    simp [hrule, PercentPriceRule.Admits]

lemma notional_slot_iff (est : PriceEstimate) (hm : m.filters = fs.foldl SymbolFilters.put {})
    {isMarket : Bool} (hmarket : isMarket = true ↔ intent.orderType = .market) :
    checkNotional intent.quantity (intent.checkedPrice est) isMarket m.notional = .ok () ↔
      (∀ f, lastOfKind .notional fs = some f → f.AdmitsOrder intent est) ∧
        ((∀ f ∈ fs, f.kind ≠ .notional) → True) := by
  rw [checkNotional_eq_ok hmarket]
  refine slot_iff (fun f hkind hholds => ?_) fun hagree => ?_
  · rw [← hm] at hholds
    cases f with
    | notional g =>
      obtain rfl : m.notional = g := hholds
      simp [Filter.AdmitsOrder, Filter.Admits]
    | _ => cases hkind
  · rw [← hm] at hagree
    have hnotional : m.notional = ⟨none, none, false, false⟩ := hagree
    simp [hnotional, NotionalFilter.Admits]

/-! ### All slots -/

/-- The filters that stand admit the order when those of each kind do; the kinds that do not apply
to its type admit every order. -/
lemma lastAdmit_limit_iff (htype : intent.orderType = .limit) :
    LastAdmit fs intent est ↔
      (∀ f, lastOfKind .lotSize fs = some f → f.AdmitsOrder intent est) ∧
      (∀ f, lastOfKind .priceFilter fs = some f → f.AdmitsOrder intent est) ∧
      (∀ f, lastOfKind .percentPrice fs = some f → f.AdmitsOrder intent est) ∧
      ∀ f, lastOfKind .notional fs = some f → f.AdmitsOrder intent est := by
  refine ⟨fun h => ⟨h _, h _, h _, h _⟩, fun ⟨hlot, hprice, hpercent, hnotional⟩ k f hf => ?_⟩
  cases k with
  | lotSize => exact hlot f hf
  | priceFilter => exact hprice f hf
  | percentPrice => exact hpercent f hf
  | notional => exact hnotional f hf
  | marketLotSize | other =>
    have hkind := kind_of_lastOfKind hf
    cases f <;> cases hkind
    simp [Filter.AdmitsOrder, Filter.Admits, htype]

lemma lastAdmit_market_iff (htype : intent.orderType = .market) :
    LastAdmit fs intent est ↔
      (∀ f, lastOfKind .marketLotSize fs = some f → f.AdmitsOrder intent est) ∧
      ∀ f, lastOfKind .notional fs = some f → f.AdmitsOrder intent est := by
  refine ⟨fun h => ⟨h _, h _⟩, fun ⟨hlot, hnotional⟩ k f hf => ?_⟩
  cases k with
  | marketLotSize => exact hlot f hf
  | notional => exact hnotional f hf
  | lotSize | priceFilter | percentPrice | other =>
    have hkind := kind_of_lastOfKind hf
    cases f <;> cases hkind
    simp [Filter.AdmitsOrder, Filter.Admits, htype]

/-- The four tests of a limit order. -/
lemma validateLimit_eq_ok {price : Decimal} (hprice : intent.price = some price) :
    validateLimit intent m (some est) = .ok () ↔
      ((m.priceFilter.minPrice ≤ price ∧ price ≤ m.priceFilter.maxPrice) ∧
        isAligned price m.priceFilter.tickSize = true) ∧
      checkPercentPrice intent.side price m.percentPrice (some est) = .ok () ∧
      checkNotional intent.quantity price false m.notional = .ok () := by
  simp [validateLimit, hprice, validation_bind_eq_ok, rejectIf_eq_ok, and_assoc]

lemma validateMarket_eq_ok (hfresh : est.isFresh = true) :
    validateMarket intent m (some est) = .ok () ↔
      checkNotional intent.quantity est.price true m.notional = .ok () := by
  simp [validateMarket, hfresh, validation_bind_eq_ok, rejectIf_eq_ok]

/-- For a trading symbol and a listed type, the lot's test and those of the type. -/
lemma validateOrder_eq_ok (hstatus : m.status = .trading)
    (hallowed : intent.orderType ∈ m.allowedOrderTypes) :
    validateOrder intent m (some est) = .ok () ↔
      (((Checked.lotFor m intent.orderType).minQty ≤ intent.quantity ∧
          intent.quantity ≤ (Checked.lotFor m intent.orderType).maxQty) ∧
        isAligned intent.quantity (Checked.lotFor m intent.orderType).stepSize = true) ∧
      (intent.orderType = .limit → validateLimit intent m (some est) = .ok ()) ∧
      (intent.orderType = .market → validateMarket intent m (some est) = .ok ()) := by
  unfold validateOrder
  cases htype : intent.orderType with
  | limit =>
    rw [htype] at hallowed
    simp [validation_bind_eq_ok, rejectIf_eq_ok, hstatus, hallowed, Checked.lotFor, and_assoc]
  | market =>
    rw [htype] at hallowed
    simp [validation_bind_eq_ok, rejectIf_eq_ok, hstatus, hallowed, Checked.lotFor, and_assoc]

/-- An order is accepted when the filters that stand admit it and it is covered. -/
lemma accepted_iff (hm : m.filters = fs.foldl SymbolFilters.put {}) (hstatus : m.status = .trading)
    (hallowed : intent.orderType ∈ m.allowedOrderTypes) (hquantity : 0 < intent.quantity)
    (hprice : intent.orderType = .limit → intent.price.isSome = true)
    (hfresh : est.isFresh = true) :
    validateOrder intent m (some est) = .ok () ↔
      Covered fs intent est ∧ LastAdmit fs intent est := by
  have hpresent (k : FilterKind) :
      ((∀ f ∈ fs, f.kind ≠ k) → False) ↔ ∃ f ∈ fs, f.kind = k := by
    simp
  rw [validateOrder_eq_ok hstatus hallowed, lot_slot_iff est hm hquantity, hpresent]
  cases htype : intent.orderType with
  | market =>
    have hchecked : intent.checkedPrice est = est.price := by
      rw [OrderIntent.checkedPrice, htype]
    have hnotional := notional_slot_iff est hm
      (show true = true ↔ intent.orderType = .market by simp [htype])
    rw [hchecked] at hnotional
    rw [validateMarket_eq_ok hfresh, hnotional, lastAdmit_market_iff htype]
    simp only [Covered, htype, OrderType.lotKind, reduceCtorEq, false_imp_iff, true_imp_iff,
      implies_true, and_true, true_and]
    tauto
  | limit =>
    obtain ⟨price, hprice⟩ := Option.isSome_iff_exists.mp (hprice htype)
    have hchecked : intent.checkedPrice est = price := by
      rw [OrderIntent.checkedPrice, htype, hprice, Option.getD_some]
    have hnotional := notional_slot_iff est hm
      (show false = true ↔ intent.orderType = .market by simp [htype])
    rw [hchecked] at hnotional
    rw [validateLimit_eq_ok hprice, price_slot_iff hm htype hprice, percent_slot_iff hm htype hprice,
      hnotional, lastAdmit_limit_iff htype, hpresent]
    have htick : (∀ f, lastOfKind .priceFilter fs = some f → f.AdmitsOrder intent est ∧
        ∀ g, f = .priceFilter g → price = 0 → g.tickSize ≠ 0) ↔
      (∀ f, lastOfKind .priceFilter fs = some f → f.AdmitsOrder intent est) ∧
        ∀ g, lastOfKind .priceFilter fs = some (.priceFilter g) → price = 0 → g.tickSize ≠ 0 := by
      constructor
      · exact fun h => ⟨fun f hf => (h f hf).1, fun g hg => (h _ hg).2 g rfl⟩
      · rintro ⟨h, h'⟩ f hf
        refine ⟨h f hf, ?_⟩
        rintro g rfl
        exact h' g hf
    rw [htick]
    simp only [Covered, htype, hprice, hchecked, OrderType.lotKind, Option.some.injEq, reduceCtorEq,
      false_imp_iff, true_imp_iff, implies_true, and_true]
    tauto

end

/-- The verdict on the parsed metadata is that of all filter objects of the entry exactly when a
unanimous approval is not refused for an absent filter or a zero tick, and the approval of the
filters that stand is not an approval over an earlier filter of their kinds. -/
theorem validateOrder_parsed_iff (parse : DecimalParser) (entry : Json) (m : SymbolMeta)
    (intent : OrderIntent) (est : PriceEstimate) (hparse : parseSymbolMeta parse entry = .ok m)
    (hstatus : entry.getStr "status" = some "TRADING")
    (htype : ∃ types, entry.getArray "orderTypes" = some types ∧
      Json.str intent.orderType.text ∈ types)
    (hquantity : 0 < intent.quantity)
    (hprice : intent.orderType = .limit → intent.price.isSome = true)
    (hfresh : est.isFresh = true) :
    ∃ fs, (entryFilters entry).mapM (parseFilter parse) = .ok fs ∧
      ((validateOrder intent m (some est) = .ok () ↔ ∀ f ∈ fs, f.AdmitsOrder intent est) ↔
        ((∀ f ∈ fs, f.AdmitsOrder intent est) → Covered fs intent est) ∧
          (Covered fs intent est → LastAdmit fs intent est →
            ∀ f ∈ fs, f.AdmitsOrder intent est)) := by
  obtain ⟨hmstatus, hmtypes, fs, hfs, hfilters⟩ := of_parseSymbolMeta hparse
  refine ⟨fs, hfs, ?_⟩
  have hallowed : intent.orderType ∈ m.allowedOrderTypes := by
    obtain ⟨types, htypes, hmem⟩ := htype
    rw [hmtypes, htypes, Option.map_some, Option.getD_some, List.mem_filterMap]
    refine ⟨_, hmem, ?_⟩
    cases intent.orderType <;> rfl
  have hlast : (∀ f ∈ fs, f.AdmitsOrder intent est) → LastAdmit fs intent est :=
    fun h k f hf => h f (mem_of_lastOfKind hf)
  rw [accepted_iff hfilters (by rw [hmstatus, hstatus]; rfl) hallowed hquantity hprice hfresh]
  tauto

/-! ### Limit orders on an entry -/

/-- A limit purchase of one unit at 100. -/
def buyAtHundred : OrderIntent := ⟨"BTCUSDT", .buy, .limit, 1, some 100⟩

def freshEstimate : PriceEstimate := ⟨100, .bestAsk, true⟩

theorem validateOrder_parsed_iff_withoutPercentPrice :
    ∃ fs, (entryFilters entryWithoutPercentPrice).mapM (parseFilter parseBound) = .ok fs ∧
      ((validateOrder buyAtHundred metaWithoutPercentPrice (some freshEstimate) = .ok () ↔
          ∀ f ∈ fs, f.AdmitsOrder buyAtHundred freshEstimate) ↔
        ((∀ f ∈ fs, f.AdmitsOrder buyAtHundred freshEstimate) →
          Covered fs buyAtHundred freshEstimate) ∧
        (Covered fs buyAtHundred freshEstimate → LastAdmit fs buyAtHundred freshEstimate →
          ∀ f ∈ fs, f.AdmitsOrder buyAtHundred freshEstimate)) :=
  validateOrder_parsed_iff parseBound entryWithoutPercentPrice metaWithoutPercentPrice buyAtHundred
    freshEstimate parseSymbolMeta_withoutPercentPrice rfl ⟨_, rfl, List.mem_cons_self⟩
    (by norm_num [buyAtHundred]) (fun _ => rfl) rfl

/-- A trading symbol with a price filter only. -/
def entryWithoutLot : Json :=
  .obj [("symbol", .str "BTCUSDT"), ("status", .str "TRADING"),
    ("orderTypes", .arr [.str "LIMIT"]),
    ("filters", .arr [
      .obj [("filterType", .str "PRICE_FILTER"), ("minPrice", .str "1"), ("maxPrice", .str "1000"),
        ("tickSize", .str "1")]])]

/-- What the parser makes of it. -/
def metaWithoutLot : SymbolMeta where
  symbol := "BTCUSDT"
  status := .trading
  allowedOrderTypes := [.limit]
  lotSize := ⟨0, maxDecimal, 0⟩
  marketLotSize := ⟨0, maxDecimal, 0⟩
  priceFilter := ⟨1, 1000, 1⟩
  notional := ⟨none, none, false, false⟩
  percentPrice := .general maxDecimal 0

/-- The only filter admits the order, and the absent lot filter refuses it. -/
theorem absent_lot_refuses :
    ¬ ∀ (parse : DecimalParser) (entry : Json) (m : SymbolMeta) (intent : OrderIntent)
      (est : PriceEstimate), parseSymbolMeta parse entry = .ok m →
      entry.getStr "status" = some "TRADING" →
      (∃ types, entry.getArray "orderTypes" = some types ∧
        Json.str intent.orderType.text ∈ types) →
      0 < intent.quantity → (intent.orderType = .limit → intent.price.isSome = true) →
      est.isFresh = true →
      ∀ fs, (entryFilters entry).mapM (parseFilter parse) = .ok fs →
        (validateOrder intent m (some est) = .ok () ↔ ∀ f ∈ fs, f.AdmitsOrder intent est) := by
  intro h
  have hparse : parseSymbolMeta parseBound entryWithoutLot = .ok metaWithoutLot := rfl
  have hiff := h parseBound entryWithoutLot metaWithoutLot buyAtHundred freshEstimate hparse rfl
    ⟨_, rfl, List.mem_cons_self⟩ (by norm_num [buyAtHundred]) (fun _ => rfl) rfl
    [.priceFilter ⟨1, 1000, 1⟩] rfl
  have hadmits : Filter.AdmitsOrder (.priceFilter ⟨1, 1000, 1⟩) buyAtHundred freshEstimate := by
    intro _
    refine ⟨?_, ?_, 100, ?_⟩ <;>
      norm_num [buyAtHundred, OrderIntent.checkedPrice, freshEstimate]
  have haccepted := hiff.mpr (by simpa using hadmits)
  have hrefused : validateOrder buyAtHundred metaWithoutLot (some freshEstimate) ≠ .ok () := by
    decide +kernel
  exact hrefused haccepted

end Confluence
