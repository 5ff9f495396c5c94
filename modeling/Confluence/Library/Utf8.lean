import Mathlib.Tactic

/-!
# Texts by byte offsets

A text is a list of characters, each of which takes one to four bytes. An offset in bytes is a
boundary when no character lies across it; slicing a text at any other offset fails.
-/

namespace Utf8

/-- The number of bytes of a text. -/
def size (cs : List Char) : ℕ := (cs.map Char.utf8Size).sum

/-- The text before and after an offset, if it is a boundary. -/
def splitAt : ℕ → List Char → Option (List Char × List Char)
  | 0, cs => some ([], cs)
  | _ + 1, [] => none
  | n + 1, c :: cs =>
    if c.utf8Size ≤ n + 1 then
      (splitAt (n + 1 - c.utf8Size) cs).map fun p => (c :: p.1, p.2)
    else none

/-- The text between two offsets, if both are boundaries. -/
def slice (start stop : ℕ) (cs : List Char) : Option (List Char) :=
  (splitAt start cs).bind fun p => (splitAt (stop - start) p.2).map (·.1)

variable {cs l r : List Char} {c : Char} {n start stop : ℕ}

@[simp] lemma size_nil : size [] = 0 := rfl

@[simp] lemma size_cons (c : Char) (cs : List Char) : size (c :: cs) = c.utf8Size + size cs := by
  simp [size]

@[simp] lemma size_append (l r : List Char) : size (l ++ r) = size l + size r := by
  simp [size]

lemma utf8ByteSize_ofList (cs : List Char) : (String.ofList cs).utf8ByteSize = size cs := by
  induction cs with
  | nil => rfl
  | cons c cs ih =>
    rw [show c :: cs = [c] ++ cs from rfl, String.ofList_append, String.utf8ByteSize_append, ih,
      size_append, size_cons, size_nil, ← String.utf8ByteSize_singleton]
    rfl

lemma size_toList (s : String) : size s.toList = s.utf8ByteSize := by
  rw [← utf8ByteSize_ofList, String.ofList_toList]

/-! ### Boundaries -/

/-- Offsets behind a text that is known. -/
lemma splitAt_size_add (l r : List Char) (n : ℕ) :
    splitAt (size l + n) (l ++ r) = (splitAt n r).map fun p => (l ++ p.1, p.2) := by
  induction l with
  | nil => simp
  | cons c l ih =>
    have hpos := c.utf8Size_pos
    obtain ⟨k, hk⟩ : ∃ k, size (c :: l) + n = k + 1 :=
      ⟨size (c :: l) + n - 1, by rw [size_cons]; omega⟩
    have hsize : k + 1 - c.utf8Size = size l + n := by
      rw [← hk, size_cons]
      omega
    have hfits : c.utf8Size ≤ k + 1 := by
      rw [← hk, size_cons]
      omega
    rw [hk, List.cons_append, splitAt, hsize, ih, if_pos hfits, Option.map_map]
    rfl

@[simp] lemma splitAt_size (l r : List Char) : splitAt (size l) (l ++ r) = some (l, r) := by
  simpa [splitAt] using splitAt_size_add l r 0

/-- A boundary splits the text into the characters before and after it. -/
lemma splitAt_eq_some : splitAt n cs = some (l, r) ↔ cs = l ++ r ∧ size l = n := by
  constructor
  · intro h
    induction cs generalizing n l with
    | nil =>
      cases n with
      | zero =>
        obtain ⟨rfl, rfl⟩ := Prod.mk.inj (Option.some.inj h)
        exact ⟨rfl, rfl⟩
      | succ n => cases h
    | cons c cs ih =>
      cases n with
      | zero =>
        obtain ⟨rfl, rfl⟩ := Prod.mk.inj (Option.some.inj h)
        exact ⟨rfl, rfl⟩
      | succ n =>
        rw [splitAt] at h
        split_ifs at h with hfits
        obtain ⟨⟨l', r'⟩, hsplit, heq⟩ := Option.map_eq_some_iff.mp h
        obtain ⟨rfl, rfl⟩ := Prod.mk.inj heq
        obtain ⟨rfl, hsize⟩ := ih hsplit
        refine ⟨rfl, ?_⟩
        rw [size_cons, hsize]
        omega
  · rintro ⟨rfl, rfl⟩
    exact splitAt_size l r

/-- Slices behind a text that is known. -/
lemma slice_append (l r : List Char) (start stop : ℕ) :
    slice (size l + start) (size l + stop) (l ++ r) = slice start stop r := by
  rw [slice, slice, splitAt_size_add, Nat.add_sub_add_left, Option.bind_map]
  rfl

/-- The slice that a text starts with. -/
lemma slice_zero_eq_some : slice 0 n cs = some l ↔ ∃ r, cs = l ++ r ∧ size l = n := by
  simp [slice, splitAt, splitAt_eq_some]

end Utf8
