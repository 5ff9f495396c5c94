import Mathlib.Data.List.Sort
import Mathlib.Tactic

/-!
# Reading a table in pages

Rows are read by descending keys, a page at a time. A page holds the rows with the largest keys
below a cursor, which is the last key of the page before. When rows are added between the pages,
the reading still comes to an end, and then it has met every row of the first table.
-/

namespace Paging

variable {ρ κ : Type*} [LinearOrder κ] (key : ρ → κ)

/-- The row lies below the cursor; without a cursor, every row does. -/
def Below (cursor : Option κ) (r : ρ) : Prop := ∀ c ∈ cursor, key r < c

instance (cursor : Option κ) (r : ρ) : Decidable (Below key cursor r) :=
  match cursor with
  | none => .isTrue (by simp [Below])
  | some c => decidable_of_iff (key r < c) (by simp [Below])

/-- The rows below the cursor, by descending keys. -/
def sorted (cursor : Option κ) (rows : List ρ) : List ρ :=
  (rows.filter fun r => decide (Below key cursor r)).insertionSort fun a b => key b ≤ key a

def page (cursor : Option κ) (limit : ℕ) (rows : List ρ) : List ρ :=
  (sorted key cursor rows).take limit

/-- Rows by strictly descending keys. -/
def Descending (rows : List ρ) : Prop := rows.Pairwise fun a b => key b < key a

/-- What has been read, and the cursor of the next page. -/
structure Reader (ρ κ : Type*) where
  cursor : Option κ
  seen : List ρ

/-- An empty page leaves the cursor. -/
def Reader.read (s : Reader ρ κ) (rows : List ρ) : Reader ρ κ where
  cursor := (rows.getLast?.map key).or s.cursor
  seen := s.seen ++ rows

/-- The reader after `n` pages: page `i` is taken from table `i`. -/
def readers (tables : ℕ → List ρ) (limits : ℕ → ℕ) : ℕ → Reader ρ κ
  | 0 => ⟨none, []⟩
  | n + 1 =>
    let s := readers tables limits n
    s.read key (page key s.cursor (limits n) (tables n))

section

variable {key} {cursor : Option κ} {limit : ℕ} {rows rows' : List ρ} {r last : ρ}
  {s : Reader ρ κ}

/-! ### One page -/

@[simp] lemma mem_sorted : r ∈ sorted key cursor rows ↔ r ∈ rows ∧ Below key cursor r := by
  simp [sorted]

lemma descending_sorted (h : (rows.map key).Nodup) : Descending key (sorted key cursor rows) := by
  have htotal : Std.Total fun a b : ρ => key b ≤ key a := ⟨fun a b => le_total (key b) (key a)⟩
  have htrans : IsTrans ρ fun a b => key b ≤ key a := ⟨fun _ _ _ hab hbc => hbc.trans hab⟩
  have hsorted : (sorted key cursor rows).Pairwise fun a b => key b ≤ key a :=
    List.pairwise_insertionSort _ _
  have hperm : (sorted key cursor rows).Perm (rows.filter fun r => decide (Below key cursor r)) :=
    List.perm_insertionSort _ _
  have hnodup : ((sorted key cursor rows).map key).Nodup :=
    (hperm.map key).nodup_iff.mpr (h.sublist (List.filter_sublist.map key))
  have hdistinct : (sorted key cursor rows).Pairwise fun a b => key a ≠ key b :=
    List.pairwise_map.mp hnodup
  exact (hsorted.and hdistinct).imp fun h => h.1.lt_of_ne' h.2

lemma mem_of_mem_page (h : r ∈ page key cursor limit rows) : r ∈ rows ∧ Below key cursor r :=
  mem_sorted.mp (List.mem_of_mem_take h)

lemma descending_page (h : (rows.map key).Nodup) : Descending key (page key cursor limit rows) :=
  (descending_sorted h).sublist (List.take_sublist ..)

/-- The last row has the smallest key. -/
lemma Descending.last_le (h : Descending key rows) (hlast : rows.getLast? = some last)
    (hr : r ∈ rows) : key last ≤ key r := by
  obtain ⟨init, rfl⟩ := List.getLast?_eq_some_iff.mp hlast
  rcases List.mem_append.mp hr with hr | hr
  · exact (List.pairwise_append.mp h).2.2 r hr last (List.mem_singleton_self last) |>.le
  · rw [List.mem_singleton.mp hr]

/-- A row below the cursor is on the page or below its last row. -/
lemma mem_page_or (h : (rows.map key).Nodup) (hlimit : 0 < limit) (hr : r ∈ rows)
    (hbelow : Below key cursor r) :
    r ∈ page key cursor limit rows ∨
      ∃ last, (page key cursor limit rows).getLast? = some last ∧ key r < key last := by
  have hmem : r ∈ sorted key cursor rows := mem_sorted.mpr ⟨hr, hbelow⟩
  have hsorted : Descending key (sorted key cursor rows) := descending_sorted h
  rw [← List.take_append_drop limit (sorted key cursor rows)] at hmem hsorted
  rcases List.mem_append.mp hmem with hmem | hdrop
  · exact .inl hmem
  · right
    cases hlast : (page key cursor limit rows).getLast? with
    | none =>
      rw [List.getLast?_eq_none_iff, page, List.take_eq_nil_iff] at hlast
      rcases hlast with hzero | hnil
      · omega
      · rw [hnil] at hdrop
        simp at hdrop
    | some last =>
      have hin : last ∈ page key cursor limit rows := List.mem_of_getLast? hlast
      exact ⟨last, rfl, (List.pairwise_append.mp hsorted).2.2 last hin r hdrop⟩

/-! ### All pages -/

/-- The rows that have been read descend to the cursor, and those of the table that have not been
read lie below it. -/
structure Reader.Complete (key : ρ → κ) (s : Reader ρ κ) (rows : List ρ) : Prop where
  descending : Descending key s.seen
  cursor : s.cursor = s.seen.getLast?.map key
  rest : ∀ r ∈ rows, r ∈ s.seen ∨ Below key s.cursor r

lemma Reader.Complete.start (rows : List ρ) : (⟨none, []⟩ : Reader ρ κ).Complete key rows where
  descending := .nil
  cursor := rfl
  rest := by simp [Below]

lemma Reader.Complete.read (hs : s.Complete key rows) (hsub : rows ⊆ rows')
    (hkeys : (rows'.map key).Nodup) (hlimit : 0 < limit) :
    (s.read key (page key s.cursor limit rows')).Complete key rows := by
  have hpage (r : ρ) (hr : r ∈ page key s.cursor limit rows') : Below key s.cursor r :=
    (mem_of_mem_page hr).2
  refine ⟨?_, ?_, ?_⟩
  · refine List.pairwise_append.mpr ⟨hs.descending, descending_page hkeys, ?_⟩
    intro a ha b hb
    cases hlast : s.seen.getLast? with
    | none =>
      rw [List.getLast?_eq_none_iff.mp hlast] at ha
      cases ha
    | some last =>
      have hbelow := hpage b hb
      rw [hs.cursor, hlast] at hbelow
      exact (hbelow (key last) rfl).trans_le (hs.descending.last_le hlast ha)
  · rw [Reader.read, List.getLast?_append, Option.map_or, ← hs.cursor]
  · intro r hr
    rw [Reader.read]
    rcases hs.rest r hr with hseen | hbelow
    · exact .inl (List.mem_append_left _ hseen)
    · rcases mem_page_or hkeys hlimit (hsub hr) hbelow with hin | ⟨last, hlast, hlt⟩
      · exact .inl (List.mem_append_right _ hin)
      · right
        simpa [Below, hlast] using hlt

/-- Nothing is left when a page is empty. -/
lemma Reader.Complete.mem_of_empty (hs : s.Complete key rows) (hsub : rows ⊆ rows')
    (hkeys : (rows'.map key).Nodup) (hlimit : 0 < limit)
    (hempty : page key s.cursor limit rows' = []) (hr : r ∈ rows) : r ∈ s.seen := by
  rcases hs.rest r hr with hseen | hbelow
  · exact hseen
  · have hpage := mem_page_or hkeys hlimit (hsub hr) hbelow
    simp [hempty] at hpage

variable {tables : ℕ → List ρ} {limits : ℕ → ℕ}

/-- The page that is read with cursor and table `n`. -/
def pageAt (key : ρ → κ) (tables : ℕ → List ρ) (limits : ℕ → ℕ) (n : ℕ) : List ρ :=
  page key (readers key tables limits n).cursor (limits n) (tables n)

lemma complete_readers (hsub : ∀ n, tables 0 ⊆ tables n)
    (hkeys : ∀ n, ((tables n).map key).Nodup) (hlimit : ∀ n, 0 < limits n) (n : ℕ) :
    (readers key tables limits n).Complete key (tables 0) := by
  induction n with
  | zero => exact .start (tables 0)
  | succ n ih => exact ih.read (hsub n) (hkeys n) (hlimit n)

/-- The last keys of the pages descend, so that some page is empty. -/
lemma exists_empty_page [WellFoundedLT κ] : ∃ n, pageAt key tables limits n = [] := by
  by_contra hnone
  have hlast (n : ℕ) : ∃ last, (pageAt key tables limits n).getLast? = some last := by
    cases hlast : (pageAt key tables limits n).getLast? with
    | none => exact (hnone ⟨n, List.getLast?_eq_none_iff.mp hlast⟩).elim
    | some last => exact ⟨last, rfl⟩
  choose last hlast using hlast
  obtain ⟨n, hn⟩ := WellFounded.not_rel_apply_succ (r := (· < ·)) fun n => key (last n)
  have hmem : last (n + 1) ∈ pageAt key tables limits (n + 1) := List.mem_of_getLast? (hlast _)
  have hcursor : (readers key tables limits (n + 1)).cursor = some (key (last n)) := by
    have hpage := hlast n
    rw [pageAt] at hpage
    simp [readers, Reader.read, hpage]
  exact hn ((mem_of_mem_page hmem).2 _ hcursor)

/-- Reading until a page is empty comes to an end. What has been read then descends strictly, and
every row of the first table is among it. -/
theorem exists_all_read [WellFoundedLT κ] (hsub : ∀ n, tables 0 ⊆ tables n)
    (hkeys : ∀ n, ((tables n).map key).Nodup) (hlimit : ∀ n, 0 < limits n) :
    ∃ n, pageAt key tables limits n = [] ∧ (∀ i < n, pageAt key tables limits i ≠ []) ∧
      Descending key (readers key tables limits n).seen ∧
      ∀ r ∈ tables 0, r ∈ (readers key tables limits n).seen := by
  classical
  have hexists : ∃ n, pageAt key tables limits n = [] := exists_empty_page
  have hcomplete := complete_readers hsub hkeys hlimit (Nat.find hexists)
  refine ⟨Nat.find hexists, Nat.find_spec hexists, fun i hi => Nat.find_min hexists hi,
    hcomplete.descending, fun r hr => ?_⟩
  exact hcomplete.mem_of_empty (hsub _) (hkeys _) (hlimit _) (Nat.find_spec hexists) hr

/-- In a list that descends strictly, a row is the only one with its key. -/
lemma Descending.filter_eq (h : Descending key rows) (hr : r ∈ rows) :
    rows.filter (fun r' => decide (key r' = key r)) = [r] := by
  induction rows with
  | nil => cases hr
  | cons a rows ih =>
    obtain ⟨hfirst, hrest⟩ := List.pairwise_cons.mp h
    rcases List.mem_cons.mp hr with rfl | hr
    · have hnone : rows.filter (fun r' => decide (key r' = key r)) = [] := by
        rw [List.filter_eq_nil_iff]
        intro r' hr'
        simpa using (hfirst r' hr').ne
      rw [List.filter_cons_of_pos (by simp), hnone]
    · have hne : key a ≠ key r := (hfirst r hr).ne'
      rw [List.filter_cons_of_neg (by simpa using hne), ih hrest hr]

end

end Paging
