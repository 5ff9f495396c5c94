import Mathlib.Tactic

/-!
# Identifiers

Orders and accounts are named by 128-bit identifiers. They travel inside command payloads and
idempotency keys as text, in lower-case hexadecimal with hyphens.
-/

namespace Confluence

/-- A 128-bit identifier. -/
structure Uuid where
  bits : BitVec 128
deriving DecidableEq

namespace Uuid

/-! ### Hexadecimal digits -/

/-- The last `k` hexadecimal digits of `n`. -/
def hexDigits : ℕ → ℕ → List Char
  | 0, _ => []
  | k + 1, n => hexDigits k (n / 16) ++ [Nat.digitChar (n % 16)]

/-- The value of a hexadecimal digit of either case. -/
def hexValue (c : Char) : Option ℕ :=
  if '0' ≤ c ∧ c ≤ '9' then some (c.toNat - '0'.toNat)
  else if 'a' ≤ c ∧ c ≤ 'f' then some (c.toNat - 'a'.toNat + 10)
  else if 'A' ≤ c ∧ c ≤ 'F' then some (c.toNat - 'A'.toNat + 10)
  else none

/-- Read hexadecimal digits behind those already read. -/
def ofHex : List Char → ℕ → Option ℕ
  | [], n => some n
  | c :: cs, n => (hexValue c).bind fun d => ofHex cs (n * 16 + d)

@[simp] lemma length_hexDigits (k n : ℕ) : (hexDigits k n).length = k := by
  induction k generalizing n with
  | zero => rfl
  | succ k ih => simp [hexDigits, ih]

lemma hexValue_digitChar {d : ℕ} (h : d < 16) : hexValue (Nat.digitChar d) = some d := by
  revert d
  decide

lemma ofHex_append (cs ds : List Char) (n : ℕ) :
    ofHex (cs ++ ds) n = (ofHex cs n).bind (ofHex ds) := by
  induction cs generalizing n with
  | nil => rfl
  | cons c cs ih =>
    cases hc : hexValue c with
    | none => simp [ofHex, hc]
    | some d => simp [ofHex, hc, ih]

lemma ofHex_hexDigits (k n m : ℕ) : ofHex (hexDigits k n) m = some (m * 16 ^ k + n % 16 ^ k) := by
  induction k generalizing n with
  | zero => simp [hexDigits, ofHex, Nat.mod_one]
  | succ k ih =>
    have hlt : n % 16 < 16 := Nat.mod_lt _ (by norm_num)
    have hmod : n % 16 ^ (k + 1) = n / 16 % 16 ^ k * 16 + n % 16 := by
      rw [pow_succ', Nat.mod_mul]
      ring
    simp only [hexDigits, ofHex_append, ih, ofHex, hexValue_digitChar hlt, Option.bind_some, hmod]
    congr 1
    ring

/-! ### Textual form -/

/-- The characters of `Uuid::to_string`: groups of 8, 4, 4, 4 and 12 digits. -/
def hyphenated (id : Uuid) : List Char :=
  let n := id.bits.toNat
  hexDigits 8 (n / 16 ^ 24) ++ '-' :: (hexDigits 4 (n / 16 ^ 20) ++
    '-' :: (hexDigits 4 (n / 16 ^ 16) ++ '-' :: (hexDigits 4 (n / 16 ^ 12) ++
      '-' :: hexDigits 12 n)))

protected def toString (id : Uuid) : String := String.ofList id.hyphenated

instance : ToString Uuid := ⟨Uuid.toString⟩

/-- `to_string().replace('-', "")`. -/
def simple (id : Uuid) : String := String.ofList (id.hyphenated.filter (· ≠ '-'))

/-- 32 hexadecimal digits. -/
def parseSimple (cs : List Char) : Option Uuid :=
  if cs.length = 32 then (ofHex cs 0).map fun n => ⟨BitVec.ofNat 128 n⟩ else none

/-- 36 characters with hyphens behind the digits 8, 12, 16 and 20. -/
def parseHyphenated (cs : List Char) : Option Uuid :=
  if cs[8]? = some '-' ∧ cs[13]? = some '-' ∧ cs[18]? = some '-' ∧ cs[23]? = some '-' then
    parseSimple (cs.take 8 ++ ((cs.drop 9).take 4 ++ ((cs.drop 14).take 4 ++
      ((cs.drop 19).take 4 ++ cs.drop 24))))
  else none

/-- The text between braces. -/
def unbraced : List Char → Option (List Char)
  | '{' :: cs => if cs.getLast? = some '}' then some cs.dropLast else none
  | _ => none

/-- `Uuid::parse_str`: plain, hyphenated, braced and URN texts, told apart by their length. -/
def parseStr (s : String) : Option Uuid :=
  let cs := s.toList
  match cs.length with
  | 32 => parseSimple cs
  | 36 => parseHyphenated cs
  | 38 => (unbraced cs).bind parseHyphenated
  | 45 => if "urn:uuid:".toList <+: cs then parseHyphenated (cs.drop 9) else none
  | _ => none

lemma length_hyphenated (id : Uuid) : id.hyphenated.length = 36 := by
  simp [hyphenated]

lemma parseHyphenated_groups {a b c d e : List Char} (ha : a.length = 8) (hb : b.length = 4)
    (hc : c.length = 4) (hd : d.length = 4) :
    parseHyphenated (a ++ '-' :: (b ++ '-' :: (c ++ '-' :: (d ++ '-' :: e)))) =
      parseSimple (a ++ (b ++ (c ++ (d ++ e)))) := by
  match a, b, c, d, ha, hb, hc, hd with
  | [_, _, _, _, _, _, _, _], [_, _, _, _], [_, _, _, _], [_, _, _, _], _, _, _, _ => rfl

lemma parseHyphenated_hyphenated (id : Uuid) : parseHyphenated id.hyphenated = some id := by
  have hlt := id.bits.isLt
  have hread : ofHex (hexDigits 8 (id.bits.toNat / 16 ^ 24) ++
      (hexDigits 4 (id.bits.toNat / 16 ^ 20) ++ (hexDigits 4 (id.bits.toNat / 16 ^ 16) ++
        (hexDigits 4 (id.bits.toNat / 16 ^ 12) ++ hexDigits 12 id.bits.toNat)))) 0 =
      some id.bits.toNat := by
    simp only [ofHex_append, ofHex_hexDigits, Option.bind_some]
    congr 1
    omega
  unfold hyphenated
  rw [parseHyphenated_groups (by simp) (by simp) (by simp) (by simp), parseSimple,
    if_pos (by simp), hread]
  simp

/-- The text of an identifier reads back as that identifier. -/
theorem parseStr_toString (id : Uuid) : parseStr (toString id) = some id := by
  have h : (toString id).toList = id.hyphenated := String.toList_ofList
  simp only [parseStr, h, length_hyphenated]
  exact parseHyphenated_hyphenated id

lemma toString_injective : Function.Injective (toString : Uuid → String) := by
  intro a b h
  have := congrArg parseStr h
  rw [parseStr_toString, parseStr_toString] at this
  exact Option.some.inj this

end Uuid

end Confluence
