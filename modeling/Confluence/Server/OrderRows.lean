import Confluence.Server.Routes

/-!
# Orders as rows of text

The table of the orders keeps its enumerations as texts, and its checks admit the texts that the code
writes. Statements on rows that pass the checks do what they do on the records that the rows are read
as. The parsers have a value for every other text, too, but no such text is ever read.
-/

namespace Confluence

/-! ### Enumerations as texts -/

/-- A column for the values of an enumeration, as texts, with the texts that its check admits. -/
structure TextColumn (α : Type) where
  values : List String
  str : α → String
  parse : String → α
  str_mem (a : α) : str a ∈ values
  parse_str (a : α) : parse (str a) = a
  str_parse (s : String) (h : s ∈ values) : str (parse s) = s

def sideStr : OrderSide → String
  | .buy => "buy"
  | .sell => "sell"

def parseSide (s : String) : OrderSide := if s = "sell" then .sell else .buy

def orderTypeStr : OrderType → String
  | .limit => "limit"
  | .market => "market"

def parseOrderType (s : String) : OrderType := if s = "market" then .market else .limit

def statusStr : OrderStatus → String
  | .pending => "pending"
  | .submitted => "submitted"
  | .partiallyFilled => "partially_filled"
  | .filled => "filled"
  | .cancelRequested => "cancel_requested"
  | .cancelled => "cancelled"
  | .rejected => "rejected"

def parseStatus (s : String) : OrderStatus :=
  match s with
  | "submitted" => .submitted
  | "partially_filled" => .partiallyFilled
  | "filled" => .filled
  | "cancel_requested" => .cancelRequested
  | "cancelled" => .cancelled
  | "rejected" => .rejected
  | _ => .pending

def sideColumn : TextColumn OrderSide where
  values := ["buy", "sell"]
  str := sideStr
  parse := parseSide
  str_mem := by rintro (_ | _) <;> decide
  parse_str := by rintro (_ | _) <;> decide
  str_parse := by decide

def orderTypeColumn : TextColumn OrderType where
  values := ["limit", "market"]
  str := orderTypeStr
  parse := parseOrderType
  str_mem := by rintro (_ | _) <;> decide
  parse_str := by rintro (_ | _) <;> decide
  str_parse := by decide

def statusColumn : TextColumn OrderStatus where
  values := ["pending", "submitted", "partially_filled", "filled", "cancel_requested", "cancelled",
    "rejected"]
  str := statusStr
  parse := parseStatus
  str_mem := by rintro (_ | _) <;> decide
  parse_str := by rintro (_ | _) <;> decide
  str_parse := by decide

def modeColumn : TextColumn ExchangeMode where
  values := ["paper", "live"]
  str := modeStr
  parse := parseMode
  str_mem := by rintro (_ | _) <;> decide
  parse_str := by rintro (_ | _) <;> decide
  str_parse := by decide

/-! ### The table and its statements -/

/-- A row of `orders`. -/
structure OrderPgRow where
  id : Uuid
  accountId : Uuid
  clientOrderId : String
  symbol : String
  side : String
  orderType : String
  quantity : Decimal
  price : Option Decimal
  status : String
  exchangeMode : String
  filledQuantity : Decimal

def rowToOrder (row : OrderPgRow) : OrderRecord where
  id := row.id
  accountId := row.accountId
  clientOrderId := row.clientOrderId
  symbol := row.symbol
  side := parseSide row.side
  orderType := parseOrderType row.orderType
  quantity := row.quantity
  price := row.price
  status := parseStatus row.status
  exchangeMode := parseMode row.exchangeMode
  filledQuantity := row.filledQuantity

/-- The checks of the table: those of the texts, and those of the numbers. -/
def OrderPgRow.Checked (row : OrderPgRow) : Prop :=
  (row.side ∈ sideColumn.values ∧ row.orderType ∈ orderTypeColumn.values ∧
    row.status ∈ statusColumn.values ∧ row.exchangeMode ∈ modeColumn.values) ∧
    row.quantity > 0 ∧ (∀ p ∈ row.price, p > 0) ∧ row.filledQuantity ≥ 0 ∧
    row.filledQuantity ≤ row.quantity

instance (row : OrderPgRow) : Decidable row.Checked :=
  inferInstanceAs (Decidable ((_ ∧ _ ∧ _ ∧ _) ∧ (rowToOrder row).Checked))

/-- The statements on `orders`. -/
inductive OrderStatement : Type → Type
  | insertOrder (id accountId : Uuid) (clientOrderId symbol : String) (side : OrderSide)
    (orderType : OrderType) (quantity : Decimal) (price : Option Decimal)
    (exchangeMode : ExchangeMode) : OrderStatement Unit
  | lockOrder (accountId orderId : Uuid) : OrderStatement (Option OrderRecord)
  | updateOrderStatus (accountId orderId : Uuid) (status : OrderStatus) (filledQuantity : Decimal) :
    OrderStatement Unit
  | countOpenOrders (accountId : Uuid) : OrderStatement ℕ

namespace OrderStatement

variable {β : Type}

/-- The answer and the table afterwards. -/
def exec : OrderStatement β → List OrderPgRow → Except SqlError (β × List OrderPgRow)
  | .insertOrder id accountId clientOrderId symbol side orderType quantity price exchangeMode,
    rows => do
    let quantity ← column 30 10 quantity
    let price ← optionalColumn 30 10 price
    let row : OrderPgRow :=
      { id, accountId, clientOrderId, symbol, side := sideStr side
        orderType := orderTypeStr orderType, quantity, price, status := "pending"
        exchangeMode := modeStr exchangeMode, filledQuantity := 0 }
    require row.Checked (.checkViolation "orders")
    require (∀ r ∈ rows, r.id ≠ id) (.uniqueViolation "orders_pkey")
    require (∀ r ∈ rows, r.accountId = accountId → r.clientOrderId ≠ clientOrderId)
      (.uniqueViolation "orders_account_client_order_id")
    return ((), rows ++ [row])
  | .lockOrder accountId orderId, rows =>
    .ok ((rows.find? fun r => decide (r.id = orderId) && decide (r.accountId = accountId)).map
      rowToOrder, rows)
  | .updateOrderStatus accountId orderId status filledQuantity, rows => do
    let filledQuantity ← column 30 10 filledQuantity
    let p (r : OrderPgRow) := decide (r.id = orderId) && decide (r.accountId = accountId)
    let f (r : OrderPgRow) : OrderPgRow := { r with status := statusStr status, filledQuantity }
    require (∀ r ∈ rows.filter p, (f r).Checked) (.checkViolation "orders")
    return ((), updateWhere p f rows)
  | .countOpenOrders accountId, rows =>
    .ok ((rows.filter fun r => decide (r.accountId = accountId) &&
      decide (r.status ∉ ["filled", "cancelled", "rejected"])).length, rows)

/-- The statement on records. -/
def statement : OrderStatement β → Statement β
  | .insertOrder id accountId clientOrderId symbol side orderType quantity price exchangeMode =>
    .insertOrder id accountId clientOrderId symbol side orderType quantity price exchangeMode
  | .lockOrder accountId orderId => .selectOrderForUpdate accountId orderId
  | .updateOrderStatus accountId orderId status filledQuantity =>
    .updateOrder accountId orderId status filledQuantity
  | .countOpenOrders accountId => .countOpenOrders accountId

end OrderStatement

/-! ### Rows and records -/

/-- The record with its enumerations as texts. -/
def OrderRecord.row (r : OrderRecord) : OrderPgRow where
  id := r.id
  accountId := r.accountId
  clientOrderId := r.clientOrderId
  symbol := r.symbol
  side := sideStr r.side
  orderType := orderTypeStr r.orderType
  quantity := r.quantity
  price := r.price
  status := statusStr r.status
  exchangeMode := modeStr r.exchangeMode
  filledQuantity := r.filledQuantity

@[simp] lemma rowToOrder_row (r : OrderRecord) : rowToOrder r.row = r := by
  obtain ⟨id, accountId, clientOrderId, symbol, side, orderType, quantity, price, status, mode,
    filled⟩ := r
  simp only [OrderRecord.row, rowToOrder, OrderRecord.mk.injEq, true_and, and_true]
  exact ⟨sideColumn.parse_str side, orderTypeColumn.parse_str orderType,
    statusColumn.parse_str status, modeColumn.parse_str mode⟩

lemma row_rowToOrder {row : OrderPgRow} (h : row.Checked) : (rowToOrder row).row = row := by
  obtain ⟨⟨hside, htype, hstatus, hmode⟩, -⟩ := h
  obtain ⟨id, accountId, clientOrderId, symbol, side, orderType, quantity, price, status, mode,
    filled⟩ := row
  simp only [OrderRecord.row, rowToOrder, OrderPgRow.mk.injEq, true_and, and_true]
  exact ⟨sideColumn.str_parse side hside, orderTypeColumn.str_parse orderType htype,
    statusColumn.str_parse status hstatus, modeColumn.str_parse mode hmode⟩

/-- The checks of the texts hold of whatever the code writes. -/
lemma OrderRecord.checked_row {r : OrderRecord} : r.row.Checked ↔ r.Checked :=
  ⟨fun h => h.2, fun h => ⟨⟨sideColumn.str_mem r.side, orderTypeColumn.str_mem r.orderType,
    statusColumn.str_mem r.status, modeColumn.str_mem r.exchangeMode⟩, h⟩⟩

/-! ### Statements on rows and on records -/

section

variable {β : Type} {c c' : Prop} [Decidable c] [Decidable c'] {e : SqlError}

lemma require_congr (h : c ↔ c') : require c e = require c' e := by
  unfold require
  simp only [h]

/-- What follows a requirement matters where it holds. -/
lemma require_bind_congr {α : Type} {k : Unit → Except SqlError β} {k' : Unit → Except SqlError α}
    {f : α → β} (h : c ↔ c') (hk : c → k () = (k' ()).map f) :
    (require c e >>= k) = (require c' e >>= k').map f := by
  rw [require_congr h]
  unfold require
  split_ifs with hc
  · exact hk (h.mpr hc)
  · rfl

lemma column_bind_congr {α : Type} {p s : ℕ} {x : Decimal} {k : Decimal → Except SqlError β}
    {k' : Decimal → Except SqlError α} {f : α → β} (hk : ∀ y, k y = (k' y).map f) :
    (column p s x >>= k) = (column p s x >>= k').map f := by
  unfold column
  cases Numeric.store p s x with
  | none => rfl
  | some y => exact hk y

lemma optionalColumn_bind_congr {α : Type} {p s : ℕ} {x : Option Decimal}
    {k : Option Decimal → Except SqlError β} {k' : Option Decimal → Except SqlError α} {f : α → β}
    (hk : ∀ y, k y = (k' y).map f) :
    (optionalColumn p s x >>= k) = (optionalColumn p s x >>= k').map f := by
  cases x with
  | none => exact hk none
  | some x =>
    simp only [optionalColumn, bind_assoc]
    exact column_bind_congr fun y => hk (some y)

end

/-- A statement on rows does what the statement on records does. -/
theorem OrderStatement.exec_map_row {β : Type} (q : OrderStatement β) (db : Db) :
    q.exec (db.orders.map OrderRecord.row) =
      (q.statement.exec db).map (Prod.map id fun change => (change db).orders.map OrderRecord.row) := by
  cases q with
  | insertOrder id accountId clientOrderId symbol side orderType quantity price exchangeMode =>
    refine column_bind_congr fun quantity => optionalColumn_bind_congr fun price => ?_
    refine require_bind_congr ?_ fun _ => require_bind_congr ?_ fun _ =>
      require_bind_congr ?_ fun _ => ?_
    · exact OrderRecord.checked_row (r := ⟨id, accountId, clientOrderId, symbol, side, orderType,
        quantity, price, .pending, exchangeMode, 0⟩)
    · exact List.forall_mem_map
    · exact List.forall_mem_map
    · simp [Except.map, OrderRecord.row, statusStr, pure, Except.pure]
  | lockOrder accountId orderId =>
    have hfind : ((db.orders.map OrderRecord.row).find? fun r =>
        decide (r.id = orderId) && decide (r.accountId = accountId)).map rowToOrder =
          db.order? accountId orderId := by
      have hread : rowToOrder ∘ OrderRecord.row = id := funext rowToOrder_row
      rw [List.find?_map, Option.map_map, hread, Option.map_id]
      rfl
    exact congrArg (fun found => Except.ok (found, db.orders.map OrderRecord.row)) hfind
  | updateOrderStatus accountId orderId status filledQuantity =>
    refine column_bind_congr fun filledQuantity => require_bind_congr ?_ fun _ => ?_
    · rw [List.filter_map]
      exact List.forall_mem_map.trans (forall₂_congr fun r _ =>
        OrderRecord.checked_row (r := { r with status, filledQuantity }))
    · simp only [updateWhere, List.map_map, Except.map, pure, Except.pure, Prod.map, id_eq]
      congr 2
      refine List.map_congr_left fun r _ => ?_
      simp only [Function.comp_apply, apply_ite OrderRecord.row]
      rfl
  | countOpenOrders accountId =>
    have hopen (status : OrderStatus) :
        decide (statusStr status ∉ ["filled", "cancelled", "rejected"]) = !status.isTerminal := by
      cases status <;> decide
    have hfilter : (db.orders.map OrderRecord.row).filter (fun r =>
        decide (r.accountId = accountId) &&
          decide (r.status ∉ ["filled", "cancelled", "rejected"])) =
          (db.openOrders accountId).map OrderRecord.row := by
      rw [List.filter_map]
      congr 1
      refine List.filter_congr fun r _ => ?_
      exact congrArg (decide (r.accountId = accountId) && ·) (hopen r.status)
    simp only [OrderStatement.exec, hfilter, List.length_map]
    rfl

end Confluence
