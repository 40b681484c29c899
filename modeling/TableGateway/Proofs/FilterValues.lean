/-
Filter values: through JSON and back, from either side.

The JSON form of a filter value does not tell its kind.  It is read as the first
kind that fits: null, a truth value, an integer with a sign, one without, a
floating-point number, a text, and last a list of these.  Whatever reads as a
value is written as it was (`ConditionValue.toJson_of_decode`), so reading picks
one value for each JSON value.  Other values have the JSON form of one that is
picked; what a conversion makes of a value of a Lean type always is one of those
(`Converted.faithful`).
-/
import Mathlib.Data.List.Forall2
import TableGateway.Proofs.RoundTrip

namespace TableGateway

/-! ## What reads as a value -/

/-- Neither an array nor an object. -/
def Json.Single : Json → Prop
  | .array _ => False
  | .object _ => False
  | _ => True

namespace Decode

variable {α : Type} {d : Decoder α}

theorem items_eq_ok_iff {vs : List Json} {as : List α} :
    items d vs = .ok as ↔ List.Forall₂ (fun v a => d v = .ok a) vs as := by
  induction vs generalizing as with
  | nil =>
      rw [List.forall₂_nil_left_iff, items, Except.ok.injEq]
      exact eq_comm
  | cons v vs ih =>
      rw [List.forall₂_cons_left_iff]
      unfold items
      cases d v with
      | error e =>
          constructor
          · intro h
            cases h
          · rintro ⟨a, rest, ha, -⟩
            cases ha
      | ok a =>
          dsimp only
          constructor
          · intro h
            cases hrest : items d vs with
            | error e => rw [hrest] at h; cases h
            | ok rest =>
                rw [hrest] at h
                exact ⟨a, rest, rfl, ih.mp hrest, (Except.ok.inj h).symm⟩
          · rintro ⟨_, rest, ha, hrest, rfl⟩
            cases ha
            rw [ih.mpr hrest]

/-- Items are read if each of them is. -/
theorem exists_items_iff {vs : List Json} :
    (∃ as, items d vs = .ok as) ↔ ∀ v ∈ vs, ∃ a, d v = .ok a := by
  simp only [items_eq_ok_iff]
  induction vs with
  | nil => exact iff_of_true ⟨[], .nil⟩ nofun
  | cons v vs ih =>
      rw [List.forall_mem_cons, ← ih]
      constructor
      · rintro ⟨_, _ | ⟨ha, hrest⟩⟩
        exact ⟨⟨_, ha⟩, _, hrest⟩
      · rintro ⟨⟨a, ha⟩, rest, hrest⟩
        exact ⟨a :: rest, .cons ha hrest⟩

end Decode

namespace Scalar

/-- A single value reads as a scalar, which is written as that value. -/
theorem exists_decode {v : Json} (h : v.Single) : ∃ s, decode v = .ok s ∧ s.toJson = v := by
  cases v with
  | array items | object fields => exact h.elim
  | null | bool b | string s => exact ⟨_, rfl, rfl⟩
  | float x =>
      refine ⟨float x.val, rfl, ?_⟩
      simp only [toJson, Json.ofBinary64, FiniteFloat.ofBinary64?, dif_pos x.finite]
  | integer n =>
      obtain ⟨n, hlower, hupper⟩ := n
      by_cases hn : n < 0x8000000000000000
      · have hvalue : (Int64.ofInt n).toInt = n := Int64.toInt_ofInt_of_le (by omega) (by omega)
        refine ⟨_, decode_integer_of_lt hn, ?_⟩
        simp only [toJson, Json.ofInt64, WideInt.ofInt64, hvalue]
      · have hvalue : ((UInt64.ofNat n.toNat).toNat : Int) = n := by
          rw [UInt64.toNat_ofNat']
          omega
        refine ⟨_, decode_integer_of_le (Int.not_lt.mp hn), ?_⟩
        simp only [toJson, Json.ofUInt64, WideInt.ofUInt64, hvalue]

theorem exists_decode_iff {v : Json} : (∃ s, decode v = .ok s) ↔ v.Single := by
  constructor
  · rintro ⟨s, h⟩
    cases v with
    | array items | object fields => cases h
    | _ => trivial
  · intro h
    obtain ⟨s, hs, -⟩ := exists_decode h
    exact ⟨s, hs⟩

theorem toJson_of_decode {v : Json} {s : Scalar} (h : decode v = .ok s) : s.toJson = v := by
  obtain ⟨s', hs', hwritten⟩ := exists_decode (exists_decode_iff.mp ⟨s, h⟩)
  cases hs'.symm.trans h
  exact hwritten

end Scalar

namespace ConditionValue

theorem decode_single_iff {v : Json} {c : ConditionValue} (h : v.Single) :
    decode v = .ok c ↔ ∃ s, Scalar.decode v = .ok s ∧ c = scalar s := by
  obtain ⟨s, hs, -⟩ := Scalar.exists_decode h
  rw [decode_of_scalar hs, hs]
  constructor
  · rintro ⟨⟩
    exact ⟨s, rfl, rfl⟩
  · rintro ⟨_, ⟨⟩, rfl⟩
    rfl

/-- An array is never an expression, even if not all of its items are scalars. -/
theorem decode_array_iff {items : List Json} {c : ConditionValue} :
    decode (.array items) = .ok c ↔ ∃ ss, Decode.items Scalar.decode items = .ok ss ∧ c = list ss := by
  cases hitems : Decode.items Scalar.decode items with
  | error e =>
      have hrefused : decode (.array items) = .error (.noAlternative "ConditionValue") := by
        show Decode.firstOf _ (Decode.made list (Decode.list Scalar.decode) :: _) _ = _
        rw [Decode.firstOf_of_error (by rw [Decode.made, Decode.list, hitems]; rfl)]
        rfl
      rw [hrefused]
      constructor
      · intro h
        cases h
      · rintro ⟨ss, hss, -⟩
        cases hss
  | ok ss =>
      rw [decode_array hitems]
      constructor
      · rintro ⟨⟩
        exact ⟨ss, rfl, rfl⟩
      · rintro ⟨_, ⟨⟩, rfl⟩
        rfl

theorem exists_decode_iff {v : Json} :
    (∃ c, decode v = .ok c) ↔ v.Single ∨ ∃ items, v = .array items ∧ ∀ i ∈ items, i.Single := by
  constructor
  · rintro ⟨c, h⟩
    cases v with
    | array items =>
        obtain ⟨ss, hss, -⟩ := decode_array_iff.mp h
        refine Or.inr ⟨items, rfl, ?_⟩
        intro i hi
        exact Scalar.exists_decode_iff.mp (Decode.exists_items_iff.mp ⟨ss, hss⟩ i hi)
    | object fields => cases h
    | _ => exact Or.inl trivial
  · rintro (h | ⟨items, rfl, h⟩)
    · obtain ⟨s, hs, -⟩ := Scalar.exists_decode h
      exact ⟨scalar s, decode_of_scalar hs⟩
    · have hread : ∀ i ∈ items, ∃ s, Scalar.decode i = .ok s :=
        fun i hi => Scalar.exists_decode_iff.mpr (h i hi)
      obtain ⟨ss, hss⟩ := Decode.exists_items_iff.mpr hread
      exact ⟨list ss, decode_array hss⟩

/-- What reads as a value is a scalar or a list, and is written as it was. -/
theorem toJson_of_decode {v : Json} {c : ConditionValue} (h : decode v = .ok c) :
    (∀ e, c ≠ .expr e) ∧ c.toJson = v := by
  rcases exists_decode_iff.mp ⟨c, h⟩ with hv | ⟨items, rfl, -⟩
  · obtain ⟨s, hs, rfl⟩ := (decode_single_iff hv).mp h
    exact ⟨nofun, Scalar.toJson_of_decode hs⟩
  · obtain ⟨ss, hss, rfl⟩ := decode_array_iff.mp h
    have hwritten : ∀ {items ss}, List.Forall₂ (fun v s => Scalar.decode v = .ok s) items ss →
        ss.map Scalar.toJson = items := by
      intro items ss hss
      induction hss with
      | nil => rfl
      | cons hs _ ih => rw [List.map_cons, Scalar.toJson_of_decode hs, ih]
    exact ⟨nofun, congrArg Json.array (hwritten (Decode.items_eq_ok_iff.mp hss))⟩

end ConditionValue

theorem Condition.decode_toJson (c : Condition) : decode c.toJson = .ok c.canonical :=
  Codec.condition.decode_encode c

/-! ## Widened numbers -/

namespace Binary64

theorem hiddenBit_eq : hiddenBit = 0x10000000000000 := rfl

/-- A magnitude of double precision is that of a finite double. -/
theorem isFinite_ofMagnitude {m : Nat} {q : Int} (hm : m < 2 * hiddenBit) (hq : q ≤ 971)
    (negative : Bool) : (ofMagnitude negative (.finite m q)).isFinite = true := by
  have hsign : (if negative then 1 <<< 63 else 0 : Nat) = 0 ∨
      (if negative then 1 <<< 63 else 0 : Nat) = 0x8000000000000000 := by
    cases negative
    · exact Or.inl rfl
    · exact Or.inr rfl
  have hplace := hiddenBit_eq
  simp only [isFinite, exponentField, ofMagnitude, bne_iff_ne]
  generalize (if negative then 1 <<< 63 else 0 : Nat) = sign at hsign
  by_cases hsmall : m < hiddenBit
  · rw [if_pos hsmall, UInt64.toNat_ofNat', hplace]
    omega
  · rw [if_neg hsmall, UInt64.toNat_ofNat', hplace]
    omega

/-- The leading bit of a widened magnitude fits where it is moved. -/
theorem isFinite_widen {m : Nat} {q : Int} (hm : m < 2 * hiddenBit) (hq : q ≤ 971)
    (negative : Bool) : (widen negative (.finite m q)).isFinite = true := by
  by_cases hzero : m = 0
  · simp only [widen, if_pos hzero]
    exact isFinite_ofMagnitude (by decide) (by decide) negative
  · have hleading : m.log2 < 53 := (Nat.log2_lt hzero).mpr hm
    have hshift : m <<< (52 - m.log2) < 2 * hiddenBit := by
      rw [Nat.shiftLeft_eq]
      calc m * 2 ^ (52 - m.log2)
        _ < 2 ^ (m.log2 + 1) * 2 ^ (52 - m.log2) :=
            Nat.mul_lt_mul_of_pos_right Nat.lt_log2_self (Nat.two_pow_pos _)
        _ = 2 ^ 53 := by rw [← Nat.pow_add]; congr 1; omega
        _ = 2 * hiddenBit := rfl
    simp only [widen, if_neg hzero]
    exact isFinite_ofMagnitude hshift (by omega) negative

end Binary64

/-- A finite single stays finite. -/
theorem Binary32.isFinite_toBinary64 {x : Binary32} (h : x.isFinite = true) :
    x.toBinary64.isFinite = true := by
  have hexponent : x.exponentField ≠ 255 := bne_iff_ne.mp h
  have hbelow : x.exponentField < 256 := Nat.mod_lt _ (by decide)
  have hfraction : x.fractionField < hiddenBit := Nat.mod_lt _ (by decide)
  have hplace : hiddenBit = 0x800000 := rfl
  have hnan : x.isNaN = false := by
    rw [isNaN, beq_eq_false_iff_ne.mpr hexponent, Bool.false_and]
  simp only [toBinary64, hnan, Bool.false_eq_true, if_false, magnitude, if_neg hexponent]
  split
  · exact Binary64.isFinite_widen (by rw [Binary64.hiddenBit_eq]; omega) (by decide) _
  · exact Binary64.isFinite_widen (by rw [Binary64.hiddenBit_eq]; omega) (by omega) _

/-! ## Conversions -/

/-- The integer that a scalar is. -/
def Scalar.integer? : Scalar → Option Int
  | int n => some n.toInt
  | uint n => some n.toNat
  | _ => none

/-- A scalar that comes of a value of one of the types that can be given for one,
with the integer that this value is, if it is an integer.  Floating-point numbers
are finite. -/
inductive Converted : Option Int → Scalar → Prop
  | bool (b : Bool) : Converted none (toScalar b)
  | int8 (n : Int8) : Converted (some n.toInt) (toScalar n)
  | int16 (n : Int16) : Converted (some n.toInt) (toScalar n)
  | int32 (n : Int32) : Converted (some n.toInt) (toScalar n)
  | int64 (n : Int64) : Converted (some n.toInt) (toScalar n)
  | isize (n : ISize) : Converted (some n.toInt) (toScalar n)
  | uint8 (n : UInt8) : Converted (some n.toNat) (toScalar n)
  | uint16 (n : UInt16) : Converted (some n.toNat) (toScalar n)
  | uint32 (n : UInt32) : Converted (some n.toNat) (toScalar n)
  | uint64 (n : UInt64) : Converted (some n.toNat) (toScalar n)
  | usize (n : USize) : Converted (some n.toNat) (toScalar n)
  | float32 (x : Binary32) (h : x.isFinite = true) : Converted none (toScalar x)
  | float64 (x : Binary64) (h : x.isFinite = true) : Converted none (toScalar x)
  | string (s : String) : Converted none (toScalar s)
  | absent (α : Type) [ToScalar α] : Converted none (toScalar (none : Option α))
  | present {α : Type} [ToScalar α] {n : Option Int} (a : α) (h : Converted n (toScalar a)) :
      Converted n (toScalar (some a))

namespace Scalar

/-- The scalar reads back as itself, is the integer `n`, and unsigned just when
that is too large for a sign. -/
structure Faithful (n : Option Int) (s : Scalar) : Prop where
  canonical : s.canonical = s
  integer : s.integer? = n
  unsigned : (∃ u, s = .uint u) ↔ ∃ m, n = some m ∧ 0x8000000000000000 ≤ m

theorem faithful_int (i : Int64) : (int i).Faithful (some i.toInt) where
  canonical := rfl
  integer := rfl
  unsigned := by
    have hbound := i.toInt_lt
    refine iff_of_false nofun ?_
    rintro ⟨m, h, hm⟩
    cases h
    omega

/-- An unsigned integer below the bound is a signed one. -/
theorem faithful_ofNat {n : Nat} (h : n < 0x8000000000000000) :
    (int (Int64.ofNat n)).Faithful (some n) := by
  have hvalue : (Int64.ofNat n).toInt = n := Int64.toInt_ofNat_of_lt h
  exact hvalue ▸ faithful_int (Int64.ofNat n)

theorem faithful_ofUnsigned (n : UInt64) : (ofUnsigned n).Faithful (some n.toNat) := by
  by_cases h : n.toNat < 0x8000000000000000
  · have hsigned : ofUnsigned n = int (Int64.ofNat n.toNat) := by
      rw [ofUnsigned, if_pos h]
      show int n.toInt64 = int (UInt64.ofNat n.toNat).toInt64
      rw [UInt64.ofNat_toNat]
    exact hsigned ▸ faithful_ofNat h
  · have hunsigned : ofUnsigned n = uint n := by rw [ofUnsigned, if_neg h]
    rw [hunsigned]
    exact
      { canonical := hunsigned
        integer := rfl
        unsigned := iff_of_true ⟨n, rfl⟩ ⟨n.toNat, rfl, by omega⟩ }

theorem faithful_float {x : Binary64} (h : x.isFinite = true) : (float x).Faithful none where
  canonical := if_pos h
  integer := rfl
  unsigned := iff_of_false nofun nofun

end Scalar

theorem Converted.faithful {n : Option Int} {s : Scalar} (h : Converted n s) : s.Faithful n := by
  induction h with
  | bool b | string s | absent α => exact ⟨rfl, rfl, iff_of_false nofun nofun⟩
  | int8 n => exact n.toInt_toInt64 ▸ Scalar.faithful_int n.toInt64
  | int16 n => exact n.toInt_toInt64 ▸ Scalar.faithful_int n.toInt64
  | int32 n => exact n.toInt_toInt64 ▸ Scalar.faithful_int n.toInt64
  | int64 n => exact Scalar.faithful_int n
  | isize n => exact n.toInt_toInt64 ▸ Scalar.faithful_int n.toInt64
  | uint8 n => exact Scalar.faithful_ofNat (Nat.lt_trans n.toNat_lt (by decide))
  | uint16 n => exact Scalar.faithful_ofNat (Nat.lt_trans n.toNat_lt (by decide))
  | uint32 n => exact Scalar.faithful_ofNat (Nat.lt_trans n.toNat_lt (by decide))
  | uint64 n => exact Scalar.faithful_ofUnsigned n
  | usize n => exact n.toNat_toUInt64 ▸ Scalar.faithful_ofUnsigned n.toUInt64
  | float32 x h => exact Scalar.faithful_float (Binary32.isFinite_toBinary64 h)
  | float64 x h => exact Scalar.faithful_float h
  | present a _ ih => exact ih

/-- A JSON value reads as a filter value if it is neither array nor object, or an
array of such values; what it reads as is no expression and is written as that
value again.  A condition reads as its canonical form.  The scalar of a converted
value reads as itself, and it is unsigned just for integers that do not fit with a
sign. -/
theorem filter_value_round_trip :
    (∀ v : Json,
      ((∃ c, ConditionValue.decode v = .ok c) ↔
        v.Single ∨ ∃ items, v = .array items ∧ ∀ i ∈ items, i.Single) ∧
      ∀ c, ConditionValue.decode v = .ok c → (∀ e, c ≠ .expr e) ∧ c.toJson = v) ∧
    (∀ c : Condition, Condition.decode c.toJson = .ok c.canonical) ∧
    ∀ n s, Converted n s →
      Scalar.decode s.toJson = .ok s ∧ s.integer? = n ∧
        ((∃ u, s = .uint u) ↔ ∃ m, n = some m ∧ 0x8000000000000000 ≤ m) := by
  refine ⟨?_, Condition.decode_toJson, ?_⟩
  · intro v
    exact ⟨ConditionValue.exists_decode_iff, fun c => ConditionValue.toJson_of_decode⟩
  · intro n s h
    have hfaithful := h.faithful
    refine ⟨?_, hfaithful.integer, hfaithful.unsigned⟩
    rw [s.decode_toJson, hfaithful.canonical]

/-- The least integer that has no sign, given for an optional value: it is read as
it was, and so is an array of it. -/
theorem filter_value_round_trip_least_unsigned :
    let s := toScalar (some (0x8000000000000000 : UInt64))
    Scalar.decode s.toJson = .ok s ∧ (∃ u, s = .uint u) ∧
      ∃ c, ConditionValue.decode (.array [s.toJson]) = .ok c ∧ c.toJson = .array [s.toJson] := by
  intro s
  obtain ⟨hvalues, -, hconverted⟩ := filter_value_round_trip
  obtain ⟨hread, -, hunsigned⟩ :=
    hconverted _ s (.present 0x8000000000000000 (.uint64 0x8000000000000000))
  obtain ⟨hreads, hwritten⟩ := hvalues (.array [s.toJson])
  obtain ⟨c, hc⟩ := hreads.mpr (Or.inr ⟨_, rfl, fun i hi => List.mem_singleton.mp hi ▸ trivial⟩)
  exact ⟨hread, hunsigned.mpr ⟨_, rfl, by decide⟩, c, hc, (hwritten c hc).2⟩

end TableGateway
