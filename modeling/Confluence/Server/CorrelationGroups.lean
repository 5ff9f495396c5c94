import Confluence.Server.Constraints
import Confluence.Server.Routes

/-!
# Correlation groups in force

A request replaces all groups of its account. What the engine reads afterwards, through the rows of
the two tables, is the group that lists the symbol in the request; other accounts keep theirs.
-/

namespace Confluence

/-- The group of a symbol, as the rows of the account give it to the engine. -/
def Db.groupsOf (db : Db) (accountId : Uuid) : String → Option String :=
  groupOf ((db.correlationGroupAssets.filter fun a => a.accountId = accountId).filterMap fun a =>
    (db.correlationGroups.find? fun g => g.id = a.groupId).map fun g => (a.symbol, g.name))

/-- The name of the group that lists the symbol. -/
def groupListing (groups : List CorrelationGroupDef) (symbol : String) : Option String :=
  (groups.find? fun g => symbol ∈ g.symbols).map (·.name)

/-- The rows of the groups, with the identifiers that the handler has drawn. -/
def groupRecords (accountId : Uuid) (groups : List (Uuid × CorrelationGroupDef)) :
    List CorrelationGroupRecord :=
  groups.map fun g => { id := g.1, accountId, name := g.2.name }

def assetRecords (accountId : Uuid) (groups : List (Uuid × CorrelationGroupDef)) :
    List CorrelationGroupAssetRecord :=
  groups.flatMap fun g => g.2.symbols.map fun symbol => { groupId := g.1, accountId, symbol }

/-- What is left of the tables when the groups of the account are deleted, with the new rows behind. -/
def Db.withGroups (db : Db) (accountId : Uuid) (groups : List (Uuid × CorrelationGroupDef)) : Db :=
  { db with
    correlationGroups := (db.correlationGroups.filter fun g => decide (g.accountId ≠ accountId)) ++
      groupRecords accountId groups
    correlationGroupAssets := (db.correlationGroupAssets.filter fun a =>
      !db.correlationGroups.any fun g => decide (g.accountId = accountId) &&
        decide (g.id = a.groupId) && decide (g.accountId = a.accountId)) ++
      assetRecords accountId groups }

section

variable {db db' : Db} {accountId : Uuid} {groups : List (Uuid × CorrelationGroupDef)}
  {defs : List CorrelationGroupDef} {u : Unit}

@[simp] lemma snapshot_correlationGroups (db : Db) (accountId : Uuid) (account : AccountRow)
    (today : Date) :
    (db.snapshot accountId account today).correlationGroups = db.groupsOf accountId := rfl

/-! ### What the statements write -/

lemma eq_of_commits_insertGroupAssets {groupId : Uuid} {symbols : List String}
    (h : postgres.Commits (insertGroupAssets groupId accountId symbols) db u db') :
    db' = { db with
      correlationGroupAssets := db.correlationGroupAssets ++
        symbols.map fun symbol => { groupId, accountId, symbol } } := by
  induction symbols generalizing db with
  | nil =>
    obtain ⟨-, rfl⟩ := Engine.commits_pure.mp h
    simp
  | cons s symbols ih =>
    rw [insertGroupAssets, Engine.commits_bind] at h
    obtain ⟨_, db₁, hinsert, hrest⟩ := h
    simp only [commits_sql, Statement.exec, require_bind_eq_ok] at hinsert
    obtain ⟨change, ⟨-, -, -, hexec⟩, rfl⟩ := hinsert
    cases hexec
    rw [ih hrest]
    simp

lemma eq_of_commits_insertGroups
    (h : postgres.Commits (insertGroups accountId groups) db u db') :
    db' = { db with
      correlationGroups := db.correlationGroups ++ groupRecords accountId groups
      correlationGroupAssets := db.correlationGroupAssets ++ assetRecords accountId groups } := by
  induction groups generalizing db with
  | nil =>
    obtain ⟨-, rfl⟩ := Engine.commits_pure.mp h
    simp [groupRecords, assetRecords]
  | cons group groups ih =>
    obtain ⟨groupId, g⟩ := group
    simp only [insertGroups, Engine.commits_bind] at h
    obtain ⟨_, db₁, hinsert, _, db₂, hassets, hrest⟩ := h
    simp only [commits_sql, Statement.exec, require_bind_eq_ok] at hinsert
    obtain ⟨change, ⟨-, -, hexec⟩, rfl⟩ := hinsert
    cases hexec
    obtain rfl := eq_of_commits_insertGroupAssets hassets
    rw [ih hrest]
    simp [groupRecords, assetRecords]

/-- A committed request has replaced the groups, with an event. -/
lemma eq_of_commits_putCorrelationGroupsTx
    (h : postgres.Commits (putCorrelationGroupsTx accountId groups) db u db') :
    ∃ row riskEvents, db.accountRow accountId = some row ∧
      db' = { db.withGroups accountId groups with riskEvents } := by
  simp only [putCorrelationGroupsTx, Engine.commits_bind, commits_lockAccount,
    commits_insertRiskEvent] at h
  obtain ⟨row, _, ⟨hrow, rfl⟩, _, db₁, hdelete, _, db₂, hgroups, -, hdb⟩ := h
  obtain ⟨change, hexec, rfl⟩ := commits_sql.mp hdelete
  cases hexec
  obtain rfl := eq_of_commits_insertGroups hgroups
  exact ⟨row, _, hrow, hdb⟩

lemma strict_insertGroups (accountId : Uuid) (groups : List (Uuid × CorrelationGroupDef)) :
    postgres.Strict (insertGroups accountId groups) := by
  have hassets (groupId : Uuid) (symbols : List String) :
      postgres.Strict (insertGroupAssets groupId accountId symbols) := by
    induction symbols with
    | nil => exact Engine.strict_pure _
    | cons s symbols ih => exact .bind (strict_sql _) fun _ => ih
  induction groups with
  | nil => exact Engine.strict_pure _
  | cons group groups ih =>
    exact .bind (strict_sql _) fun _ => .bind (hassets _ _) fun _ => ih

lemma strict_putCorrelationGroupsTx (accountId : Uuid)
    (groups : List (Uuid × CorrelationGroupDef)) :
    postgres.Strict (putCorrelationGroupsTx accountId groups) :=
  .bind (strict_lockAccount _) fun _ => .bind (strict_sql _) fun _ =>
    .bind (strict_insertGroups _ _) fun _ => strict_sql _

/-! ### What the rows say -/

/-- The rows that the engine reads. -/
def listedRows (groups : List CorrelationGroupDef) : List (String × String) :=
  groups.flatMap fun g => g.symbols.map fun symbol => (symbol, g.name)

/-- The symbols of a checked request are new, and from there on seen. -/
lemma of_checkGroupSymbols {seen seen' symbols : List String}
    (h : checkGroupSymbols seen symbols = .ok seen') :
    (∀ s ∈ symbols, s ∉ seen) ∧ symbols ⊆ seen' ∧ seen ⊆ seen' := by
  induction symbols generalizing seen with
  | nil =>
    obtain rfl := Except.ok.inj h
    simp
  | cons s symbols ih =>
    simp only [checkGroupSymbols] at h
    split_ifs at h with hblank hseen
    obtain ⟨hnew, hsymbols, hkept⟩ := ih h
    refine ⟨?_, ?_, fun x hx => hkept (List.mem_cons_of_mem _ hx)⟩
    · rintro x hx
      rcases List.mem_cons.mp hx with rfl | hx
      · exact hseen
      · exact fun hmem => hnew x hx (List.mem_cons_of_mem _ hmem)
    · rintro x hx
      rcases List.mem_cons.mp hx with rfl | hx
      · exact hkept (List.mem_cons_self ..)
      · exact hsymbols hx

lemma not_mem_of_checkGroups {seen : List String} (h : checkGroups seen defs = .ok ()) :
    ∀ g ∈ defs, ∀ s ∈ g.symbols, s ∉ seen := by
  induction defs generalizing seen with
  | nil => simp
  | cons g defs ih =>
    simp only [checkGroups] at h
    split_ifs at h with hblank
    cases hseen : checkGroupSymbols seen g.symbols with
    | error e =>
      rw [hseen] at h
      cases h
    | ok seen' =>
      rw [hseen] at h
      obtain ⟨hnew, -, hkept⟩ := of_checkGroupSymbols hseen
      intro g' hg' s hs
      rcases List.mem_cons.mp hg' with rfl | hg'
      · exact hnew s hs
      · exact fun hmem => ih h g' hg' s hs (hkept hmem)

/-- In a checked request, the rows lead from a symbol to the group that lists it. -/
lemma groupOf_listedRows {seen : List String} (h : checkGroups seen defs = .ok ()) :
    groupOf (listedRows defs) = groupListing defs := by
  funext symbol
  induction defs generalizing seen with
  | nil => rfl
  | cons g defs ih =>
    simp only [checkGroups] at h
    split_ifs at h with hblank
    cases hseen : checkGroupSymbols seen g.symbols with
    | error e =>
      rw [hseen] at h
      cases h
    | ok seen' =>
      rw [hseen] at h
      have hrest := ih h
      simp only [groupOf, listedRows, List.flatMap_cons, List.filter_append] at hrest ⊢
      by_cases hmem : symbol ∈ g.symbols
      · -- no later group lists the symbol again
        have hlater : (List.flatMap (fun g => g.symbols.map fun symbol => (symbol, g.name)) defs).filter
            (fun r => decide (r.1 = symbol)) = [] := by
          refine List.filter_eq_nil_iff.mpr ?_
          rintro ⟨s, name⟩ hrow heq
          obtain ⟨g', hg', hs⟩ := List.mem_flatMap.mp hrow
          obtain ⟨s', hs', hpair⟩ := List.mem_map.mp hs
          obtain ⟨rfl, -⟩ := Prod.mk.inj hpair
          obtain rfl : s' = symbol := by simpa using heq
          obtain ⟨-, hsymbols, -⟩ := of_checkGroupSymbols hseen
          exact not_mem_of_checkGroups h g' hg' s' hs' (hsymbols hmem)
        have hsame : ∀ r ∈ (g.symbols.map fun symbol => (symbol, g.name)).filter
            (fun r => decide (r.1 = symbol)), r.2 = g.name := by
          rintro r hr
          obtain ⟨s, -, rfl⟩ := List.mem_map.mp (List.mem_of_mem_filter hr)
          rfl
        have hsome : (g.symbols.map fun symbol => (symbol, g.name)).filter
            (fun r => decide (r.1 = symbol)) ≠ [] := by
          refine List.ne_nil_of_mem (List.mem_filter.mpr ⟨List.mem_map.mpr ⟨symbol, hmem, rfl⟩, ?_⟩)
          simp
        rw [hlater, List.append_nil, List.getLast?_eq_some_getLast hsome, Option.map_some,
          hsame _ (List.getLast_mem hsome)]
        simp [groupListing, hmem]
      · have hnone : (g.symbols.map fun symbol => (symbol, g.name)).filter
            (fun r => decide (r.1 = symbol)) = [] := by
          refine List.filter_eq_nil_iff.mpr ?_
          rintro r hr heq
          obtain ⟨s, hs, rfl⟩ := List.mem_map.mp hr
          obtain rfl : s = symbol := by simpa using heq
          exact hmem hs
        rw [hnone, List.nil_append, hrest]
        simp [groupListing, hmem]

/-! ### Reading them back -/

/-- Identifiers lead to their groups. -/
lemma find?_group {rows : List CorrelationGroupRecord} (hids : (rows.map (·.id)).Nodup)
    {g : CorrelationGroupRecord} (hg : g ∈ rows) :
    rows.find? (fun r => decide (r.id = g.id)) = some g := by
  cases hfind : rows.find? fun r => decide (r.id = g.id) with
  | none => simpa using List.find?_eq_none.mp hfind g hg
  | some g' =>
    have hid : g'.id = g.id := by simpa using List.find?_some hfind
    rw [List.inj_on_of_nodup_map hids (List.mem_of_find?_eq_some hfind) hg hid]

/-- The engine reads the groups of the request. -/
lemma groupsOf_withGroups (hc : db.Constrained)
    (hids : ((db.withGroups accountId groups).correlationGroups.map (·.id)).Nodup)
    (hchecked : checkGroups [] (groups.map (·.2)) = .ok ()) :
    (db.withGroups accountId groups).groupsOf accountId = groupListing (groups.map (·.2)) := by
  have hassets : ((db.withGroups accountId groups).correlationGroupAssets.filter fun a =>
      a.accountId = accountId) = assetRecords accountId groups := by
    have hold : (db.correlationGroupAssets.filter fun a =>
        !db.correlationGroups.any fun g => decide (g.accountId = accountId) &&
          decide (g.id = a.groupId) && decide (g.accountId = a.accountId)).filter
            (fun a => a.accountId = accountId) = [] := by
      refine List.filter_eq_nil_iff.mpr fun a ha haccount => ?_
      obtain ⟨ha, hkept⟩ := List.mem_filter.mp ha
      obtain ⟨g, hg, hid, hacc⟩ := hc.assetGroups a ha
      rw [Bool.not_eq_true', List.any_eq_false] at hkept
      exact hkept g hg (by simp_all)
    have hnew : (assetRecords accountId groups).filter (fun a => a.accountId = accountId) =
        assetRecords accountId groups := by
      refine List.filter_eq_self.mpr fun a ha => ?_
      obtain ⟨g, -, ha⟩ := List.mem_flatMap.mp ha
      obtain ⟨s, -, rfl⟩ := List.mem_map.mp ha
      simp
    simp only [Db.withGroups, List.filter_append]
    rw [hold, hnew, List.nil_append]
  have hrows : (assetRecords accountId groups).filterMap (fun a =>
      ((db.withGroups accountId groups).correlationGroups.find? fun g => g.id = a.groupId).map
        fun g => (a.symbol, g.name)) = listedRows (groups.map (·.2)) := by
    have hgroup (g : Uuid × CorrelationGroupDef) (hg : g ∈ groups) :
        (db.withGroups accountId groups).correlationGroups.find? (fun r => r.id = g.1) =
          some { id := g.1, accountId, name := g.2.name } :=
      find?_group hids (List.mem_append_right _ (List.mem_map.mpr ⟨g, hg, rfl⟩))
    simp only [assetRecords, listedRows, List.filterMap_flatMap, List.flatMap_map]
    refine List.flatMap_congr fun g hg => ?_
    rw [List.filterMap_map, ← List.filterMap_eq_map]
    refine List.filterMap_congr fun s _ => ?_
    simp only [Function.comp_apply, hgroup g hg, Option.map_some]
  rw [Db.groupsOf, hassets, hrows, groupOf_listedRows hchecked]

/-- Other accounts keep their groups. -/
lemma groupsOf_withGroups_of_ne (hc : db.Constrained)
    (hids : ((db.withGroups accountId groups).correlationGroups.map (·.id)).Nodup)
    {a : Uuid} (hne : a ≠ accountId) :
    (db.withGroups accountId groups).groupsOf a = db.groupsOf a := by
  have hassets : ((db.withGroups accountId groups).correlationGroupAssets.filter fun r =>
      r.accountId = a) = db.correlationGroupAssets.filter fun r => r.accountId = a := by
    have hnew : (assetRecords accountId groups).filter (fun r => r.accountId = a) = [] := by
      refine List.filter_eq_nil_iff.mpr fun r hr hacc => ?_
      obtain ⟨g, -, hr⟩ := List.mem_flatMap.mp hr
      obtain ⟨s, -, rfl⟩ := List.mem_map.mp hr
      have hacc' : accountId = a := by simpa using hacc
      exact hne hacc'.symm
    simp only [Db.withGroups, List.filter_append]
    rw [hnew, List.append_nil, List.filter_filter]
    refine List.filter_congr fun r _ => ?_
    by_cases hr : r.accountId = a
    · have hkept : (!db.correlationGroups.any fun g => decide (g.accountId = accountId) &&
          decide (g.id = r.groupId) && decide (g.accountId = r.accountId)) = true := by
        rw [Bool.not_eq_true', List.any_eq_false]
        rintro g - hg
        simp only [Bool.and_eq_true, decide_eq_true_eq] at hg
        exact hne (hr.symm.trans (hg.2.symm.trans hg.1.1))
      rw [hkept, Bool.and_true]
    · simp [hr]
  rw [Db.groupsOf, Db.groupsOf, hassets]
  congr 1
  refine List.filterMap_congr fun r hr => ?_
  obtain ⟨hr, hacc⟩ := List.mem_filter.mp hr
  obtain ⟨g, hg, hid, hgacc⟩ := hc.assetGroups r hr
  have hacc : g.accountId = a := hgacc.trans (by simpa using hacc)
  have hkept : g ∈ (db.withGroups accountId groups).correlationGroups := by
    refine List.mem_append_left _ (List.mem_filter.mpr ⟨hg, ?_⟩)
    simpa [hacc] using hne
  rw [← hid, find?_group hids hkept, find?_group hc.groupIds hg]

end

end Confluence
