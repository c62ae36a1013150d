import Mathlib.Data.List.Basic
import Mathlib.Algebra.Group.Int.Defs
import Mathlib.Data.Int.Order.Basic

/-!
# Decimal numerals

`itoa` and `atoi` as the standard library of the source has them, at 64 bits: an
optional sign, then at least one decimal digit and nothing else, rejected when the
value does not fit. `atoi_itoa` is the round trip.
-/

namespace Strconv

/-- Decimal text of an integer, with a `-` in front of a negative one and no other sign. -/
def itoa (n : Int64) : String := toString n.toInt

/-- The value of a non-empty list of decimal digits. Leading zeros are allowed, and the value
is not bounded yet. -/
def digits? : List Char → Option ℕ
  | [] => none
  | ds => if ds.all Char.isDigit then some (Nat.ofDigitChars 10 ds 0) else none

/-- The 64-bit integer of a value, if it is in range. The source returns a range error
otherwise, together with the nearest bound, which no caller reads. -/
def int64? (n : ℤ) : Option Int64 :=
  if -2 ^ 63 ≤ n ∧ n < 2 ^ 63 then some (Int64.ofInt n) else none

/-- The signed value of a numeral. A sign has to be followed by a digit, and a sign in front
of zero changes nothing. -/
def numeral? : List Char → Option ℤ
  | '-' :: ds => (digits? ds).map fun n : ℕ => -(n : ℤ)
  | '+' :: ds => (digits? ds).map fun n : ℕ => (n : ℤ)
  | ds => (digits? ds).map fun n : ℕ => (n : ℤ)

/-- Parse a decimal numeral: `none` stands for either of the two errors, a syntax error and a
range error. -/
def atoi (s : String) : Option Int64 := (numeral? s.toList).bind int64?

/-! ## The round trip

The value of a numeral is taken as an integer without bounds first (`numeral?_toString`), and
only then cut to 64 bits (`int64?_toInt`). The first half is used on its own where texts of
wider integers are compared. -/

/-- The digits Lean prints for a natural number are read back. -/
theorem digits?_toDigits (n : ℕ) : digits? (Nat.toDigits 10 n) = some n := by
  have hall : (Nat.toDigits 10 n).all Char.isDigit = true := by
    rw [List.all_eq_true]
    exact fun c hc => Nat.isDigit_of_mem_toDigits (by decide) (by decide) hc
  unfold digits?
  split
  · rename_i h
    exact absurd h Nat.toDigits_ne_nil
  · rw [if_pos hall, Nat.ofDigitChars_ten_toDigits]

/-- A numeral that starts with a digit has no sign, so it falls into the last case of
`numeral?`. -/
theorem numeral?_of_isDigit {c : Char} {ds : List Char} (hc : c.isDigit = true) :
    numeral? (c :: ds) = (digits? (c :: ds)).map fun n : ℕ => (n : ℤ) := by
  unfold numeral?
  split
  · rename_i heq
    rw [(List.cons.inj heq).1] at hc
    exact absurd hc (by decide)
  · rename_i heq
    rw [(List.cons.inj heq).1] at hc
    exact absurd hc (by decide)
  · rfl

theorem numeral?_toDigits (n : ℕ) : numeral? (Nat.toDigits 10 n) = some (n : ℤ) := by
  rcases h : Nat.toDigits 10 n with _ | ⟨c, ds⟩
  · exact absurd h Nat.toDigits_ne_nil
  · have hc : c.isDigit = true :=
      Nat.isDigit_of_mem_toDigits (b := 10) (n := n) (by decide) (by decide) (by rw [h]; simp)
    rw [numeral?_of_isDigit hc, ← h, digits?_toDigits, Option.map_some]

/-- **Every integer is the value of its decimal text**, of whatever size. -/
theorem numeral?_toString (n : ℤ) : numeral? (toString n).toList = some n := by
  rw [Int.toString_eq_repr, Int.repr_eq_if]
  by_cases hn : 0 ≤ n
  · rw [if_pos hn, Nat.toList_repr, numeral?_toDigits, Int.toNat_of_nonneg hn]
  · rw [if_neg hn, String.toList_append, Nat.toList_repr]
    have hneg : numeral? ('-' :: Nat.toDigits 10 (-n).toNat) = some n := by
      rw [numeral?, digits?_toDigits, Option.map_some, Int.toNat_of_nonneg (by omega), Int.neg_neg]
    exact hneg

/-- The characters of a numeral are digits, or the sign. No separator that is put between
numerals can therefore be mistaken for a part of one. -/
theorem numeral?_chars {cs : List Char} {n : ℤ} (h : numeral? cs = some n) :
    ∀ c ∈ cs, c.isDigit = true ∨ c = '-' ∨ c = '+' := by
  have hdigits : ∀ {ds : List Char} {m : ℕ}, digits? ds = some m →
      ∀ c ∈ ds, c.isDigit = true := by
    intro ds m hd
    unfold digits? at hd
    split at hd
    · cases hd
    · split at hd
      · next hall => exact List.all_eq_true.mp hall
      · cases hd
  unfold numeral? at h
  split at h
  · obtain ⟨m, hd, -⟩ := Option.map_eq_some_iff.mp h
    refine List.forall_mem_cons.mpr ⟨Or.inr (Or.inl rfl), fun c hc => Or.inl (hdigits hd c hc)⟩
  · obtain ⟨m, hd, -⟩ := Option.map_eq_some_iff.mp h
    refine List.forall_mem_cons.mpr ⟨Or.inr (Or.inr rfl), fun c hc => Or.inl (hdigits hd c hc)⟩
  · obtain ⟨m, hd, -⟩ := Option.map_eq_some_iff.mp h
    exact fun c hc => Or.inl (hdigits hd c hc)

/-- Integers with the same text are the same, since the text determines the value. -/
theorem toString_inj {n m : ℤ} (h : toString n = toString m) : n = m := by
  have hn := numeral?_toString n
  rw [h, numeral?_toString] at hn
  exact (Option.some.inj hn).symm

theorem int64?_toInt (n : Int64) : int64? n.toInt = some n := by
  have hlo := n.le_toInt
  have hhi := n.toInt_lt
  rw [int64?, if_pos ⟨by omega, by omega⟩, Int64.ofInt_toInt]

/-- What is parsed is the value of the numeral, unchanged: parsing never wraps around, it
refuses. A number can only be altered by a later conversion to a narrower type. -/
theorem atoi_eq_some {s : String} {n : Int64} :
    atoi s = some n ↔ numeral? s.toList = some n.toInt := by
  rw [atoi, Option.bind_eq_some_iff]
  refine ⟨?_, ?_⟩
  · rintro ⟨v, hv, hn⟩
    rw [int64?] at hn
    split at hn
    · rename_i hrange
      obtain rfl := Option.some.inj hn
      rw [hv, Int64.toInt_ofInt_of_le hrange.1 hrange.2]
    · cases hn
  · intro hn
    exact ⟨n.toInt, hn, int64?_toInt n⟩

/-- **Round trip**: every integer is read back from its decimal text. -/
theorem atoi_itoa (n : Int64) : atoi (itoa n) = some n := by
  rw [atoi_eq_some, itoa, numeral?_toString]

example : atoi "-9223372036854775808" = some Int64.minValue := by decide

example : atoi "9223372036854775808" = none := by decide

end Strconv
