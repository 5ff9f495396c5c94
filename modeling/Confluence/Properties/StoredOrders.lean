import Confluence.Properties.SchemaConstraints
import Confluence.Server.OrderRows

/-!
# Orders as they are stored

The orders of every database that the service reaches are stored in exactly one table of rows with
texts, and the statements keep this table in step with the records.
-/

namespace Confluence

/-- The rows pass the checks of the table and are read as the orders. -/
structure Db.StoresOrders (db : Db) (rows : List OrderPgRow) : Prop where
  checked : ∀ row ∈ rows, row.Checked
  read : rows.map rowToOrder = db.orders

section

variable {db : Db} {rows : List OrderPgRow} {s : Server}

/-- The records determine the rows. -/
lemma Db.StoresOrders.eq (h : db.StoresOrders rows) : rows = db.orders.map OrderRecord.row := by
  rw [← h.read, List.map_map]
  refine (List.map_id rows).symm.trans (List.map_congr_left fun row hrow => ?_)
  exact (row_rowToOrder (h.checked row hrow)).symm

lemma storesOrders_row (hdb : db.Constrained) :
    db.StoresOrders (db.orders.map OrderRecord.row) := by
  constructor
  · intro row hrow
    obtain ⟨o, ho, rfl⟩ := List.mem_map.mp hrow
    exact OrderRecord.checked_row.mpr (hdb.orders o ho)
  · have hread : rowToOrder ∘ OrderRecord.row = id := funext rowToOrder_row
    rw [List.map_map, hread, List.map_id]

/-- A statement on the rows fails and succeeds with the statement on the records, and leaves the rows
of the records that this leaves. -/
lemma Db.StoresOrders.exec (h : db.StoresOrders rows) (hdb : db.Constrained) {β : Type}
    (q : OrderStatement β) :
    (∀ e, q.exec rows = .error e ↔ q.statement.exec db = .error e) ∧
      ∀ b rows', q.exec rows = .ok (b, rows') ↔
        ∃ change, q.statement.exec db = .ok (b, change) ∧ (change db).StoresOrders rows' := by
  have hexec := q.exec_map_row db
  rw [← h.eq] at hexec
  rw [hexec]
  cases hstatement : q.statement.exec db with
  | error e => exact ⟨by simp [Except.map], by simp [Except.map]⟩
  | ok result =>
    obtain ⟨b, change⟩ := result
    have hconstrained : (change db).Constrained :=
      (Statement.tableStep (q.statement.touches_all db) hstatement).constrained hdb
    refine ⟨by simp [Except.map], fun b' rows' => ?_⟩
    simp only [Except.map, Prod.map, id_eq, Except.ok.injEq, Prod.mk.injEq]
    constructor
    · rintro ⟨rfl, rfl⟩
      exact ⟨change, ⟨rfl, rfl⟩, storesOrders_row hconstrained⟩
    · rintro ⟨_, ⟨rfl, rfl⟩, hrows'⟩
      exact ⟨rfl, hrows'.eq.symm⟩

/-- The orders of every reachable database are stored in one table of rows that pass the checks, and
whatever statement on orders is executed next, on these rows it answers, fails and writes what it does
on the records. -/
theorem orders_stored (h : (service (· = .fresh)).Reachable (fun _ _ => True) s) :
    (∃! rows, s.db.StoresOrders rows) ∧
      ∀ rows, s.db.StoresOrders rows → ∀ (β : Type) (q : OrderStatement β),
        (∀ e, q.exec rows = .error e ↔ q.statement.exec s.db = .error e) ∧
          ∀ b rows', q.exec rows = .ok (b, rows') ↔
            ∃ change, q.statement.exec s.db = .ok (b, change) ∧ (change s.db).StoresOrders rows' := by
  have hdb := constrained_of_reachable h
  refine ⟨⟨_, storesOrders_row hdb, fun rows hrows => hrows.eq⟩, fun rows hrows β q => ?_⟩
  exact hrows.exec hdb q

end

/-- The row of an order that has been filled. -/
theorem orders_stored_openAndTrade :
    ∃ (s : Server) (rows : List OrderPgRow), (service (· = .fresh)).Reachable (fun _ _ => True) s ∧
      s.db.StoresOrders rows ∧ rows.map (fun row => (row.side, row.status)) = [("buy", "filled")] := by
  have hexec : ((service (· = .fresh)).exec (fun _ _ => True) .fresh openAndTrade).any
      (fun s => decide (s.db.orders.map (fun o => (sideStr o.side, statusStr o.status)) =
        [("buy", "filled")])) = true := by
    decide +kernel
  obtain ⟨s, hrun, hs⟩ := Machine.exists_run_of_exec hexec
  have hreach : (service (· = .fresh)).Reachable (fun _ _ => True) s := ⟨_, _, rfl, hrun⟩
  obtain ⟨rows, hrows, -⟩ := (orders_stored hreach).1
  refine ⟨s, rows, hreach, hrows, ?_⟩
  rw [hrows.eq, List.map_map]
  exact of_decide_eq_true hs

end Confluence
