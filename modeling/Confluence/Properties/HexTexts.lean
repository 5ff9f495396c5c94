import Confluence.Server.Hex

/-!
# Texts that the decoder accepts

The decoder returns what an even number of hexadecimal digits denotes, and nothing else, unless it
takes a plus sign for a digit or a slice ends inside a character.
-/

namespace Confluence

/-- `c` is the hexadecimal digit with the value `v`, in either case. -/
def IsHexDigit (c : Char) (v : ℕ) : Prop :=
  "0123456789abcdef".toList[v]? = some c ∨ "0123456789ABCDEF".toList[v]? = some c

/-- The text consists of pairs of digits, which denote the bytes. -/
inductive Denotes : List Char → List UInt8 → Prop
  | nil : Denotes [] []
  | pair {hi lo : Char} {a b : ℕ} {cs : List Char} {bs : List UInt8} (hhi : IsHexDigit hi a)
      (hlo : IsHexDigit lo b) (hrest : Denotes cs bs) :
      Denotes (hi :: lo :: cs) (UInt8.ofNat (a * 16 + b) :: bs)

/-- The decoder does not panic, and returns what the text denotes, if it denotes anything. -/
def DecodesHex (s : String) : Prop :=
  (hexDecode s).run.isSome = true ∧
    ∀ bytes, (hexDecode s).run = some (.ok bytes) ↔ Denotes s.toList bytes

/-- A digit, or a plus sign, and then a digit. -/
def PairAccepted (hi lo : Char) : Prop :=
  (hi = '+' ∨ ∃ v, IsHexDigit hi v) ∧ ∃ v, IsHexDigit lo v

/-- Behind accepted pairs stands a character of two bytes, or a pair of characters of one byte that
is not accepted. -/
inductive IsRefused : List Char → Prop
  | wide {c : Char} {cs : List Char} (hc : c.utf8Size = 2) : IsRefused (c :: cs)
  | pair {hi lo : Char} {cs : List Char} (hhi : hi.utf8Size = 1) (hlo : lo.utf8Size = 1)
      (hpair : ¬ PairAccepted hi lo) : IsRefused (hi :: lo :: cs)
  | later {hi lo : Char} {cs : List Char} (hpair : PairAccepted hi lo) (hrest : IsRefused cs) :
      IsRefused (hi :: lo :: cs)

instance (c : Char) (v : ℕ) : Decidable (IsHexDigit c v) := inferInstanceAs (Decidable (_ ∨ _))

section

variable {c hi lo : Char} {v n : ℕ} {cs : List Char} {bs : List UInt8} {b : UInt8}

/-! ### Digits -/

lemma IsHexDigit.lt (h : IsHexDigit c v) : v < 16 := by
  rcases h with h | h <;> exact (List.getElem?_eq_some_iff.mp h).1

lemma IsHexDigit.ascii (h : IsHexDigit c v) : c.toNat < 128 := by
  have hlower : ("0123456789abcdef".toList.all fun c => decide (c.toNat < 128)) = true := by decide
  have hupper : ("0123456789ABCDEF".toList.all fun c => decide (c.toNat < 128)) = true := by decide
  rcases h with h | h
  · exact of_decide_eq_true (List.all_eq_true.mp hlower c (List.mem_of_getElem? h))
  · exact of_decide_eq_true (List.all_eq_true.mp hupper c (List.mem_of_getElem? h))

lemma ascii_of_toDigit (h : toDigit c 16 = some v) : c.toNat < 128 := by
  by_contra hwide
  have hbeyond (d : Char) (hd : d.toNat < 128) : ¬ c ≤ d := by
    intro hle
    have hnat : c.toNat ≤ d.toNat := UInt32.le_iff_toNat_le.mp (Char.le_def.mp hle)
    omega
  simp [toDigit, hbeyond] at h

/-- The digits that the machine reads are the hexadecimal ones. -/
lemma toDigit_eq_some : toDigit c 16 = some v ↔ IsHexDigit c v := by
  have hall : ∀ n < 128, ∀ v < 16,
      (toDigit (Char.ofNat n) 16 = some v ↔ IsHexDigit (Char.ofNat n) v) := by
    decide +kernel
  have hiff (hc : c.toNat < 128) (hv : v < 16) : toDigit c 16 = some v ↔ IsHexDigit c v := by
    simpa using hall c.toNat hc v hv
  constructor
  · intro h
    have hlt : v < 16 := by
      obtain ⟨-, hlt⟩ := Option.filter_eq_some_iff.mp h
      exact of_decide_eq_true hlt
    exact (hiff (ascii_of_toDigit h) hlt).mp h
  · intro h
    exact (hiff h.ascii h.lt).mpr h

lemma toDigit_eq_none : toDigit c 16 = none ↔ ¬ ∃ v, IsHexDigit c v := by
  simp [Option.eq_none_iff_forall_ne_some, toDigit_eq_some]

lemma utf8Size_of_ascii (h : c.toNat < 128) : c.utf8Size = 1 :=
  Char.utf8Size_eq_one_iff.mpr (UInt32.le_iff_toNat_le.mpr (Nat.le_of_lt_succ h))

lemma not_isHexDigit_plus : ¬ ∃ v, IsHexDigit '+' v := by
  rw [← toDigit_eq_none]
  decide

lemma digitsFrom_cons {acc : ℕ} (h : IsHexDigit c v) (hfits : acc * 16 + v < 256) :
    digitsFrom 16 acc (c :: cs) = digitsFrom 16 (acc * 16 + v) cs := by
  rw [digitsFrom, toDigit_eq_some.mpr h]
  exact if_pos hfits

lemma digitsFrom_cons_error {acc : ℕ} (h : ¬ ∃ v, IsHexDigit c v) :
    digitsFrom 16 acc (c :: cs) = .error () := by
  rw [digitsFrom, toDigit_eq_none.mpr h]

/-! ### Pairs -/

lemma PairAccepted.utf8Size (h : PairAccepted hi lo) : hi.utf8Size = 1 ∧ lo.utf8Size = 1 := by
  obtain ⟨rfl | ⟨a, ha⟩, b, hb⟩ := h
  · exact ⟨by decide, utf8Size_of_ascii hb.ascii⟩
  · exact ⟨utf8Size_of_ascii ha.ascii, utf8Size_of_ascii hb.ascii⟩

lemma fromStrRadix_single (h : c.utf8Size = 2) : fromStrRadix [c] 16 = .error () := by
  have hnot : ¬ ∃ v, IsHexDigit c v := by
    rintro ⟨v, hv⟩
    have hone := utf8Size_of_ascii hv.ascii
    omega
  unfold fromStrRadix
  split <;> simp_all [digitsFrom_cons_error, Except.map]

lemma fromStrRadix_pair (h : hi ≠ '+') (radix : ℕ) :
    fromStrRadix [hi, lo] radix = (digitsFrom radix 0 [hi, lo]).map UInt8.ofNat := by
  unfold fromStrRadix
  split <;> simp_all

lemma fromStrRadix_plus (lo : Char) (radix : ℕ) :
    fromStrRadix ['+', lo] radix = (digitsFrom radix 0 [lo]).map UInt8.ofNat := rfl

/-- The byte of a pair of digits. -/
lemma fromStrRadix_digits {a b : ℕ} (hhi : IsHexDigit hi a) (hlo : IsHexDigit lo b) :
    fromStrRadix [hi, lo] 16 = .ok (UInt8.ofNat (a * 16 + b)) := by
  have hne : hi ≠ '+' := by
    rintro rfl
    exact not_isHexDigit_plus ⟨a, hhi⟩
  have ha := hhi.lt
  have hb := hlo.lt
  rw [fromStrRadix_pair hne, digitsFrom_cons hhi (by omega), digitsFrom_cons hlo (by omega),
    zero_mul, zero_add]
  rfl

/-- A plus sign counts as a zero. -/
lemma fromStrRadix_plus_digit (hlo : IsHexDigit lo v) :
    fromStrRadix ['+', lo] 16 = .ok (UInt8.ofNat v) := by
  have hv := hlo.lt
  rw [fromStrRadix_plus, digitsFrom_cons hlo (by omega), zero_mul, zero_add]
  rfl

lemma fromStrRadix_not_accepted (h : ¬ PairAccepted hi lo) :
    fromStrRadix [hi, lo] 16 = .error () := by
  by_cases hplus : hi = '+'
  · have hlo : ¬ ∃ v, IsHexDigit lo v := fun hlo => h ⟨.inl hplus, hlo⟩
    rw [hplus, fromStrRadix_plus, digitsFrom_cons_error hlo]
    rfl
  · rw [fromStrRadix_pair hplus]
    by_cases hhi : ∃ v, IsHexDigit hi v
    · have hlo : ¬ ∃ v, IsHexDigit lo v := fun hlo => h ⟨.inr hhi, hlo⟩
      obtain ⟨v, hv⟩ := hhi
      have hlt := hv.lt
      rw [digitsFrom_cons hv (by omega), digitsFrom_cons_error hlo]
      rfl
    · rw [digitsFrom_cons_error hhi]
      rfl

/-! ### Slices -/

/-- The decoder on what stands behind the pairs that it has read. -/
def decodePairs (n : ℕ) (cs : List Char) : ExceptT Unit Option (List UInt8) :=
  ((List.range n).map (2 * ·)).mapM fun i =>
    ExceptT.mk ((Utf8.slice i (i + 2) cs).map (fromStrRadix · 16))

/-- One pair is read, and then those behind it. -/
lemma decodePairs_succ (n : ℕ) (cs : List Char) :
    decodePairs (n + 1) cs =
      ExceptT.mk ((Utf8.slice 0 2 cs).map (fromStrRadix · 16)) >>= fun b =>
        (b :: ·) <$> (List.range n).mapM fun i =>
          ExceptT.mk ((Utf8.slice (2 + 2 * i) (2 + (2 * i + 2)) cs).map (fromStrRadix · 16)) := by
  have hstart (i : ℕ) : 2 * (i + 1) = 2 + 2 * i := by ring
  simp [decodePairs, List.range_succ_eq_map, Function.comp_def, hstart, add_assoc]

lemma run_decodePairs_of_slice {pair rest : List Char} (n : ℕ) (hpair : Utf8.size pair = 2) :
    (decodePairs (n + 1) (pair ++ rest)).run =
      (ExceptT.mk (some (fromStrRadix pair 16)) >>= fun b =>
        (b :: ·) <$> decodePairs n rest).run := by
  have hfirst : Utf8.slice 0 2 (pair ++ rest) = some pair :=
    Utf8.slice_zero_eq_some.mpr ⟨rest, rfl, hpair⟩
  have hlater (i : ℕ) : Utf8.slice (2 + 2 * i) (2 + (2 * i + 2)) (pair ++ rest) =
      Utf8.slice (2 * i) (2 * i + 2) rest := by
    simpa only [hpair] using Utf8.slice_append pair rest (2 * i) (2 * i + 2)
  rw [decodePairs_succ, hfirst]
  simp [decodePairs, hlater, Function.comp_def]

lemma decodePairs_of_error {pair rest : List Char} (n : ℕ) (hpair : Utf8.size pair = 2)
    (h : fromStrRadix pair 16 = .error ()) :
    (decodePairs (n + 1) (pair ++ rest)).run = some (.error ()) := by
  rw [run_decodePairs_of_slice n hpair, h]
  rfl

lemma decodePairs_of_byte {pair rest : List Char} (n : ℕ) (hpair : Utf8.size pair = 2)
    (h : fromStrRadix pair 16 = .ok b) :
    (decodePairs (n + 1) (pair ++ rest)).run =
      (decodePairs n rest).run.map (Except.map (b :: ·)) := by
  rw [run_decodePairs_of_slice n hpair, h, ExceptT.run_bind, ExceptT.run_mk]
  exact ExceptT.run_map (b :: ·) (decodePairs n rest)

lemma decodePairs_of_panic (n : ℕ) (h : Utf8.slice 0 2 cs = none) :
    (decodePairs (n + 1) cs).run = none := by
  rw [decodePairs_succ, h]
  rfl

/-! ### Texts -/

lemma PairAccepted.exists_byte (h : PairAccepted hi lo) :
    ∃ b, fromStrRadix [hi, lo] 16 = .ok b := by
  obtain ⟨rfl | ⟨a, ha⟩, b, hb⟩ := h
  · exact ⟨_, fromStrRadix_plus_digit hb⟩
  · exact ⟨_, fromStrRadix_digits ha hb⟩

lemma PairAccepted.size (h : PairAccepted hi lo) : Utf8.size [hi, lo] = 2 := by
  simp [h.utf8Size]

lemma IsHexDigit.pairAccepted {a b : ℕ} (hhi : IsHexDigit hi a) (hlo : IsHexDigit lo b) :
    PairAccepted hi lo :=
  ⟨.inr ⟨a, hhi⟩, b, hlo⟩

lemma Denotes.even_size (h : Denotes cs bs) : Even (Utf8.size cs) := by
  induction h with
  | nil => simp
  | pair hhi hlo _ ih =>
    obtain ⟨hone, hone'⟩ := (hhi.pairAccepted hlo).utf8Size
    rw [Utf8.size_cons, Utf8.size_cons, hone, hone', ← add_assoc]
    exact even_two.add ih

lemma Denotes.not_mem_plus (h : Denotes cs bs) : '+' ∉ cs := by
  induction h with
  | nil => simp
  | @pair hi lo a b cs bs hhi hlo _ ih =>
    have hne {c : Char} {v : ℕ} (hc : IsHexDigit c v) : '+' ≠ c := by
      rintro rfl
      exact not_isHexDigit_plus ⟨v, hc⟩
    simp [hne hhi, hne hlo, ih]

lemma decodePairs_of_denotes (h : Denotes cs bs) (hsize : Utf8.size cs = 2 * n) :
    (decodePairs n cs).run = some (.ok bs) := by
  induction h generalizing n with
  | nil =>
    obtain rfl : n = 0 := by simpa [eq_comm] using hsize
    rfl
  | @pair hi lo _ _ cs bs hhi hlo _ ih =>
    have hpair := (hhi.pairAccepted hlo).size
    rw [show hi :: lo :: cs = [hi, lo] ++ cs from rfl, Utf8.size_append, hpair] at hsize
    obtain ⟨n, rfl⟩ : ∃ m, n = m + 1 := ⟨n - 1, by omega⟩
    have hrest : (decodePairs n cs).run = some (.ok bs) := ih (by omega)
    rw [show hi :: lo :: cs = [hi, lo] ++ cs from rfl,
      decodePairs_of_byte n hpair (fromStrRadix_digits hhi hlo), hrest]
    rfl

lemma decodePairs_of_refused (h : IsRefused cs) (hsize : Utf8.size cs = 2 * n) :
    (decodePairs n cs).run = some (.error ()) := by
  induction h generalizing n with
  | @wide c cs hc =>
    obtain ⟨n, rfl⟩ : ∃ m, n = m + 1 := ⟨n - 1, by rw [Utf8.size_cons] at hsize; omega⟩
    have hpair : Utf8.size [c] = 2 := by simpa using hc
    exact decodePairs_of_error n hpair (fromStrRadix_single hc)
  | @pair hi lo cs hhi hlo hnot =>
    obtain ⟨n, rfl⟩ : ∃ m, n = m + 1 := ⟨n - 1, by rw [Utf8.size_cons] at hsize; omega⟩
    have hpair : Utf8.size [hi, lo] = 2 := by simp [hhi, hlo]
    exact decodePairs_of_error n hpair (fromStrRadix_not_accepted hnot)
  | @later hi lo cs haccepted _ ih =>
    obtain ⟨b, hb⟩ := haccepted.exists_byte
    rw [show hi :: lo :: cs = [hi, lo] ++ cs from rfl, Utf8.size_append, haccepted.size] at hsize
    obtain ⟨n, rfl⟩ : ∃ m, n = m + 1 := ⟨n - 1, by omega⟩
    have hrest : (decodePairs n cs).run = some (.error ()) := ih (by omega)
    rw [show hi :: lo :: cs = [hi, lo] ++ cs from rfl, decodePairs_of_byte n haccepted.size hb,
      hrest]
    rfl

/-- A slice of two bytes is a character of two bytes, or two characters of one. -/
lemma slice_two_cases {pair : List Char} (h : Utf8.slice 0 2 cs = some pair) :
    (∃ c rest, cs = c :: rest ∧ c.utf8Size = 2) ∨
    ∃ hi lo rest, cs = hi :: lo :: rest ∧ hi.utf8Size = 1 ∧ lo.utf8Size = 1 := by
  obtain ⟨rest, rfl, hsize⟩ := Utf8.slice_zero_eq_some.mp h
  match pair with
  | [] => simp at hsize
  | [c] => exact .inl ⟨c, rest, rfl, by simpa using hsize⟩
  | hi :: lo :: cs =>
    have hhi := hi.utf8Size_pos
    have hlo := lo.utf8Size_pos
    simp only [Utf8.size_cons] at hsize
    exact .inr ⟨hi, lo, cs ++ rest, rfl, by omega, by omega⟩

/-- The decoder panics, refuses the text or reads all of its pairs. -/
lemma decodePairs_cases (hsize : Utf8.size cs = 2 * n) :
    (decodePairs n cs).run = none ∨ IsRefused cs ∨
      ∃ bytes, (decodePairs n cs).run = some (.ok bytes) := by
  induction n generalizing cs with
  | zero => exact .inr (.inr ⟨[], rfl⟩)
  | succ n ih =>
    cases hslice : Utf8.slice 0 2 cs with
    | none => exact .inl (decodePairs_of_panic n hslice)
    | some pair =>
      obtain ⟨c, rest, rfl, hc⟩ | ⟨hi, lo, rest, rfl, hhi, hlo⟩ := slice_two_cases hslice
      · exact .inr (.inl (.wide hc))
      · by_cases haccepted : PairAccepted hi lo
        · obtain ⟨b, hb⟩ := haccepted.exists_byte
          have hrun := @decodePairs_of_byte b _ rest n haccepted.size hb
          simp only [Utf8.size_cons, hhi, hlo] at hsize
          obtain hnone | hrefused | ⟨bytes, hbytes⟩ := @ih rest (by omega)
          · exact .inl (hrun.trans (by rw [hnone]; rfl))
          · exact .inr (.inl (.later haccepted hrefused))
          · exact .inr (.inr ⟨b :: bytes, hrun.trans (by rw [hbytes]; rfl)⟩)
        · exact .inr (.inl (.pair hhi hlo haccepted))

lemma run_hexDecode_of_odd {s : String} (h : ¬ Even (Utf8.size s.toList)) :
    (hexDecode s).run = some (.error ()) := by
  rw [Utf8.size_toList, Nat.even_iff] at h
  rw [hexDecode, if_pos h]
  rfl

lemma hexDecode_of_even {s : String} {n : ℕ} (h : Utf8.size s.toList = 2 * n) :
    hexDecode s = decodePairs n s.toList := by
  rw [Utf8.size_toList] at h
  rw [hexDecode, h, if_neg (by simp), Nat.mul_div_cancel_left n (by norm_num)]
  rfl

/-- The decoder does what it should on hexadecimal texts, on texts of an odd number of bytes, and on
those that it refuses behind pairs that it accepts. -/
lemma decodesHex_iff (s : String) :
    DecodesHex s ↔ (∃ bytes, Denotes s.toList bytes) ∨ ¬ Even (Utf8.size s.toList) ∨
      IsRefused s.toList := by
  by_cases heven : Even (Utf8.size s.toList)
  · obtain ⟨n, hn⟩ := heven.two_dvd
    rw [DecodesHex, hexDecode_of_even hn]
    constructor
    · rintro ⟨hsome, hbytes⟩
      obtain hnone | hrefused | ⟨bytes, hok⟩ := decodePairs_cases hn
      · rw [hnone] at hsome
        cases hsome
      · exact .inr (.inr hrefused)
      · exact .inl ⟨bytes, (hbytes bytes).mp hok⟩
    · rintro (⟨bytes, hdenotes⟩ | hodd | hrefused)
      · have hrun := decodePairs_of_denotes hdenotes hn
        refine ⟨by rw [hrun]; rfl, fun bytes' => ⟨fun h => ?_, fun h => decodePairs_of_denotes h hn⟩⟩
        obtain rfl : bytes = bytes' := by simpa [hrun] using h
        exact hdenotes
      · exact (hodd heven).elim
      · have hrun := decodePairs_of_refused hrefused hn
        refine ⟨by rw [hrun]; rfl, fun bytes => ⟨fun h => ?_, fun h => decodePairs_of_denotes h hn⟩⟩
        rw [hrun] at h
        cases h
  · refine iff_of_true ?_ (.inr (.inl heven))
    have hrun := run_hexDecode_of_odd heven
    refine ⟨by rw [hrun]; rfl, fun bytes => ⟨fun h => ?_, fun h => (heven h.even_size).elim⟩⟩
    rw [hrun] at h
    cases h

/-! ### The encoder -/

/-- The lower-case digit with the value. -/
def lowerDigit (v : ℕ) : Char := "0123456789abcdef".toList.getD v '0'

lemma isHexDigit_lowerDigit (h : v < 16) : IsHexDigit (lowerDigit v) v := by
  have hall : ∀ v < 16, IsHexDigit (lowerDigit v) v := by decide
  exact hall v h

lemma formatByte_eq (b : UInt8) :
    formatByte b = [lowerDigit (b.toNat / 16), lowerDigit (b.toNat % 16)] := by
  have hall : ∀ n < 256, formatByte (UInt8.ofNat n) =
      [lowerDigit (n / 16), lowerDigit (n % 16)] := by
    decide +kernel
  simpa using hall b.toNat b.toNat_lt

lemma denotes_hexEncode (bytes : List UInt8) : Denotes (hexEncode bytes).toList bytes := by
  rw [hexEncode, String.toList_ofList]
  induction bytes with
  | nil => exact .nil
  | cons b bytes ih =>
    have hlt := b.toNat_lt
    have hhi := isHexDigit_lowerDigit (v := b.toNat / 16) (by omega)
    have hlo := isHexDigit_lowerDigit (v := b.toNat % 16) (by omega)
    have hbyte : UInt8.ofNat (b.toNat / 16 * 16 + b.toNat % 16) = b := by
      rw [Nat.div_add_mod', UInt8.ofNat_toNat]
    rw [List.flatMap_cons, formatByte_eq]
    have hdenotes := Denotes.pair hhi hlo ih
    rw [hbyte] at hdenotes
    exact hdenotes

/-- What the encoder writes is decoded to what it was written from; any other text is treated as it
should be if it is hexadecimal, has an odd number of bytes, or is refused behind accepted pairs. -/
theorem hexDecode_accepts_iff (s : String) (bytes : List UInt8) :
    (DecodesHex s ↔ (∃ bytes, Denotes s.toList bytes) ∨ ¬ Even s.utf8ByteSize ∨
      IsRefused s.toList) ∧
    (hexDecode (hexEncode bytes)).run = some (.ok bytes) := by
  constructor
  · rw [decodesHex_iff, Utf8.size_toList]
  · have hdenotes := denotes_hexEncode bytes
    have hdecodes := (decodesHex_iff (hexEncode bytes)).mpr (.inl ⟨bytes, hdenotes⟩)
    exact (hdecodes.2 bytes).mpr hdenotes

end

example : (hexDecode "0aFf").run = some (.ok [10, 255]) := by decide +kernel

/-! ### A sign and a wide character -/

/-- A plus sign is taken for a digit, and a pair that ends inside a character panics. -/
theorem hexDecode_not_decodesHex : ¬ DecodesHex "+f" ∧ ¬ DecodesHex "aéb" := by
  constructor
  · rintro ⟨-, h⟩
    have hdenotes := (h [15]).mp (by decide +kernel)
    exact hdenotes.not_mem_plus (by decide)
  · rintro ⟨hsome, -⟩
    exact absurd hsome (by decide +kernel)

end Confluence
