import Mathlib
import GoMetrics.Metrics.Halstead

/-!
Doubles that are above zero. A product of two doubles that are not below one is rounded to a double
above zero, and so is a positive whole number. Everything is shown on the sign, the mantissa and the
exponent that a double is unpacked to.
-/

namespace GoMetrics.Double

open Float.Model Float.Model.UnpackedFloat

/-- What a double says, as an unpacked one. -/
def value (x : Float) : UnpackedFloat :=
  x.toModel.unpack

theorem le_iff {x y : Float} : x ≤ y ↔ (value x).le (value y) = true :=
  decide_eq_true_iff

/-- A double by the fields of its bits. -/
def ofFields (s : Sign) (e : BitVec 11) (m : BitVec 52) : UnpackedFloat :=
  UnpackedFloat.unpack Format.binary64 (packComponents Format.binary64 s e m)

theorem sign_packComponents (s : Sign) (e : BitVec 11) (m : BitVec 52) :
    Sign.ofBitVec (unpackSign (packComponents Format.binary64 s e m)) = s := by
  simp only [unpackSign, packComponents, BitVec.extractLsb]
  rw [BitVec.extractLsb'_append_eq_of_le (by omega),
    BitVec.extractLsb'_append_eq_of_le (by omega)]
  cases s <;> rfl

theorem toNat_implicit (m : BitVec 52) : (1#1 ++ m).toNat = 2 ^ 52 + m.toNat := by
  rw [BitVec.toNat_append, ← Nat.shiftLeft_add_eq_or_of_lt m.isLt]
  rfl

/-- A number whose exponent is neither the least nor the greatest has an implicit bit. -/
theorem ofFields_normal {s : Sign} {e : BitVec 11} {m : BitVec 52} (h0 : 0 < e.toNat)
    (h1 : e.toNat < 2047) :
    ∃ pos, ofFields s e m = .finite s (2 ^ 52 + m.toNat) (e.toNat - 1075) pos := by
  have ne0 : e ≠ 0#11 := by rintro rfl; cases h0
  have ne1 : e ≠ -1#11 := by rintro rfl; exact absurd h1 (by decide)
  refine ⟨by omega, ?_⟩
  unfold ofFields UnpackedFloat.unpack
  simp only [unpackMantissa_packComponents, unpackExponent_packComponents, sign_packComponents,
    if_neg ne0, if_neg ne1, toNat_implicit]
  rfl

theorem ofFields_subnormal {s : Sign} {m : BitVec 52} (h : 0 < m.toNat) :
    ofFields s 0 m = .finite s m.toNat (-1074) h := by
  have ne0 : m ≠ 0#52 := by rintro rfl; cases h
  unfold ofFields UnpackedFloat.unpack
  simp only [unpackMantissa_packComponents, unpackExponent_packComponents, sign_packComponents]
  rw [if_neg (by decide), if_pos (by rfl), dif_neg ne0]
  rfl

/-- Above zero, as the format holds it. -/
inductive IsPositive : UnpackedFloat → Prop
  | infinity : IsPositive (.infinity .positive)
  | finite {m : Nat} {e : Int} (pos : 0 < m) (fits : m < 2 ^ 53) (least : -1074 ≤ e) :
      IsPositive (.finite .positive m e pos)

theorem finite_not_le_zero {m : Nat} {e : Int} {pos : 0 < m} :
    ¬ (UnpackedFloat.finite .positive m e pos).le (.zero .positive) = true :=
  Bool.false_ne_true

/-- Packing keeps a positive double above zero. -/
theorem not_le_zero_of_pack {f : UnpackedFloat} (h : IsPositive f) :
    ¬ Float.ofModel (.pack f) ≤ 0 := by
  rw [le_iff]
  change ¬ (UnpackedFloat.unpack Format.binary64 (UnpackedFloat.pack Format.binary64 f)).le
    (.zero .positive) = true
  cases h with
  | infinity => decide
  | @finite m e pos fits least =>
      have bias : e + (Format.binary64.exponentBias : Int) + (52 : Nat) = e + 1075 := by
        change e + 1023 + 52 = _
        omega
      rw [UnpackedFloat.pack]
      simp only [bias]
      split
      · decide
      · split
        · obtain ⟨_, normal⟩ := ofFields_normal (s := .positive)
            (e := BitVec.ofNat 11 (e + 1075).toNat) (m := BitVec.ofNat 52 m)
            (by rw [BitVec.toNat_ofNat]; omega) (by rw [BitVec.toNat_ofNat]; omega)
          change ¬ (ofFields .positive _ _).le _ = true
          exact normal ▸ finite_not_le_zero
        · rename_i short
          have log : m.log2 < 53 := (Nat.log2_lt pos.ne').2 fits
          have hm : m < 2 ^ 52 := (Nat.log2_lt pos.ne').1 (by change ¬ _ = 53 at short; omega)
          have hp : 0 < (BitVec.ofNat 52 m).toNat := by
            rw [BitVec.toNat_ofNat, Nat.mod_eq_of_lt hm]
            exact pos
          change ¬ (ofFields .positive 0 _).le _ = true
          exact ofFields_subnormal (s := .positive) hp ▸ finite_not_le_zero

/-! Products -/

theorem mantissa_shift (k : Nat) (em : ExtendedMantissa) :
    (em >>> k).mantissa = em.mantissa / 2 ^ k := by
  induction k with
  | zero => exact (Nat.div_one _).symm
  | succ k ih =>
      calc (em >>> (k + 1)).mantissa = (em >>> k).mantissa / 2 := rfl
        _ = em.mantissa / 2 ^ (k + 1) := by rw [ih, Nat.div_div_eq_div_mul, Nat.pow_succ]

theorem mantissa_ofMantissa (m : Nat) (a : Accuracy) :
    (ExtendedMantissa.ofMantissaAndAccuracy m a).mantissa = m := by
  cases a with
  | exact => rfl
  | inexact o => cases o <;> rfl

theorem mantissa_le_rounded (em : ExtendedMantissa) : em.mantissa ≤ em.roundedMantissa := by
  obtain ⟨m, round, sticky⟩ := em
  cases round <;> cases sticky <;>
    simp [ExtendedMantissa.roundedMantissa, ExtendedMantissa.accuracy, Accuracy.roundToNearestEven]

theorem targetExponent_eq (t : Int) :
    Format.binary64.targetExponent t = max (t - 53) (-1074) :=
  rfl

/-- Shifted to its exponent, a positive mantissa keeps its leading bit and fits. -/
theorem shift_fits {m : Nat} {e : Int} (pos : 0 < m) (least : -1074 ≤ e) (a : Accuracy) :
    let shifted := shiftToTargetExponent Format.binary64 m e a
    0 < shifted.1.mantissa ∧ shifted.1.mantissa < 2 ^ 53 ∧ -1074 ≤ shifted.2 := by
  simp only [shiftToTargetExponent, shiftToExponent, targetExponent_eq, totalExponent,
    mantissa_shift, mantissa_ofMantissa]
  have low := Nat.log2_self_le pos.ne'
  have high := Nat.lt_log2_self (n := m)
  generalize m.log2 = l at *
  generalize hk : (max ((l : Int) + 1 + e - 53) (-1074) - e).toNat = k
  have shift : k ≤ l ∧ l < k + 53 := by omega
  refine ⟨Nat.div_pos ((Nat.pow_le_pow_right (by decide) shift.1).trans low) (Nat.two_pow_pos k),
    ?_, by omega⟩
  rw [Nat.div_lt_iff_lt_mul (Nat.two_pow_pos k), ← Nat.pow_add]
  exact high.trans_le (Nat.pow_le_pow_right (by decide) (by omega))

theorem isPositive_round {m : Nat} {e : Int} (pos : 0 < m) (least : -1074 ≤ e) (a : Accuracy) :
    IsPositive (roundWithAccuracy Format.binary64 .positive m e a) := by
  obtain ⟨pos₁, -, least₁⟩ := shift_fits pos least a
  obtain ⟨pos₂, fits₂, least₂⟩ := shift_fits (pos₁.trans_le (mantissa_le_rounded _)) least₁ .exact
  rw [roundWithAccuracy]
  simp only
  rw [dif_neg pos₂.ne']
  exact .finite pos₂ fits₂ least₂

theorem value_zero : value 0 = .zero .positive := by
  rfl

theorem value_one : value 1 = .finite .positive (2 ^ 52) (-52) (by decide) := by
  rfl

theorem value_of_one_le {x : Float} (h : 1 ≤ x) :
    value x = .infinity .positive ∨
      ∃ m e pos, -52 ≤ e ∧ value x = .finite .positive m e pos := by
  rw [le_iff, value_one] at h
  generalize value x = f at h
  cases f with
  | notANumber => cases h
  | infinity s | zero s => cases s <;> first | exact .inl rfl | cases h
  | finite s m e pos =>
      cases s with
      | negative => cases h
      | positive =>
          have h : ((compare (-52) e).then (compare (2 ^ 52) m)).isLE = true := h
          refine .inr ⟨m, e, pos, ?_, rfl⟩
          by_contra small
          rw [Int.compare_eq_gt.2 (by omega)] at h
          cases h

theorem not_mul_le_zero {x y : Float} (hx : 1 ≤ x) (hy : 1 ≤ y) : ¬ x * y ≤ 0 := by
  refine not_le_zero_of_pack (f := UnpackedFloat.mul Format.binary64 (value x) (value y)) ?_
  obtain h | ⟨m, e, pos, he, h⟩ := value_of_one_le hx <;>
    obtain h' | ⟨m', e', pos', he', h'⟩ := value_of_one_le hy <;> rw [h, h']
  · exact .infinity
  · exact .infinity
  · exact .infinity
  · exact isPositive_round (Nat.mul_pos pos pos') (by omega) .exact

/-! Whole numbers -/

theorem toNat_packComponents (e : BitVec 11) (m : BitVec 52) :
    (packComponents Format.binary64 .positive e m).toNat = e.toNat * 2 ^ 52 + m.toNat := by
  have zero : (Sign.positive.toBitVec ++ e).toNat = e.toNat := by
    rw [BitVec.toNat_append]
    exact Nat.zero_or _
  change ((Sign.positive.toBitVec ++ e) ++ m).toNat = _
  rw [BitVec.toNat_append, ← Nat.shiftLeft_add_eq_or_of_lt m.isLt, zero, Nat.shiftLeft_eq]

theorem pack_normal {s : Sign} {e m : Nat} (pos : 0 < m) (lead : 2 ^ 52 ≤ m) (fits : m < 2 ^ 53)
    (high : e < 2047) :
    UnpackedFloat.pack Format.binary64 (.finite s m (e - 1075) pos) =
      packComponents Format.binary64 s (BitVec.ofNat 11 e) (BitVec.ofNat 52 m) := by
  have bias : ((e : Int) - 1075 + (Format.binary64.exponentBias : Int) + (52 : Nat)).toNat = e := by
    change ((e : Int) - 1075 + 1023 + 52).toNat = _
    omega
  have log : m.log2 = 52 := (Nat.log2_eq_iff pos.ne').2 ⟨lead, fits⟩
  rw [UnpackedFloat.pack]
  simp only [bias, log]
  rw [if_neg (by omega)]
  exact if_pos rfl

/-- The double whose bits are those of a positive number with an implicit bit. -/
theorem value_ofBits {bits : Nat} (low : 2 ^ 52 ≤ bits) (high : bits < 2047 * 2 ^ 52) :
    ∃ m pos, 2 ^ 52 ≤ m ∧
      value (Float.ofBits bits.toUInt64) =
        .finite .positive m ((bits / 2 ^ 52 : Nat) - 1075) pos := by
  have he : (BitVec.ofNat 11 (bits / 2 ^ 52)).toNat = bits / 2 ^ 52 := by
    rw [BitVec.toNat_ofNat]
    omega
  have fields : bits.toUInt64.toBitVec = packComponents Format.binary64 .positive
      (BitVec.ofNat 11 (bits / 2 ^ 52)) (BitVec.ofNat 52 (bits % 2 ^ 52)) := by
    apply BitVec.eq_of_toNat_eq
    rw [toNat_packComponents, he, BitVec.toNat_ofNat]
    change bits % 2 ^ 64 = _
    omega
  have normal : ∀ m : BitVec 52, ∃ pos, ofFields .positive (BitVec.ofNat 11 (bits / 2 ^ 52)) m =
      .finite .positive (2 ^ 52 + m.toNat) ((bits / 2 ^ 52 : Nat) - 1075) pos := by
    intro m
    obtain ⟨pos, h⟩ := ofFields_normal (s := .positive) (m := m)
      (e := BitVec.ofNat 11 (bits / 2 ^ 52)) (by omega) (by omega)
    rw [he] at h
    exact ⟨pos, h⟩
  obtain ⟨pos, first⟩ := normal (BitVec.ofNat 52 (bits % 2 ^ 52))
  obtain ⟨pos', again⟩ := normal
    (BitVec.ofNat 52 (2 ^ 52 + (BitVec.ofNat 52 (bits % 2 ^ 52)).toNat))
  refine ⟨_, pos', Nat.le_add_right _ _, ?_⟩
  rw [← again, ofFields, ← pack_normal pos (Nat.le_add_right _ _) (by omega) (by omega), ← first,
    ofFields, ← fields]
  rfl

theorem le_of_value {x y : Float} {m : Nat} {k e : Int} {pos pos'}
    (hx : value x = .finite .positive (2 ^ 52) k pos) (hy : value y = .finite .positive m e pos')
    (le : k ≤ e) (lead : 2 ^ 52 ≤ m) : x ≤ y := by
  rw [le_iff, hx, hy]
  change ((compare k e).then (compare (2 ^ 52) m)).isLE = true
  obtain lt | rfl := Int.lt_or_eq_of_le le
  · rw [Int.compare_eq_lt.2 lt]
    rfl
  · rw [Int.compare_eq_eq.2 rfl]
    exact Nat.isLE_compare.2 lead

theorem div_le_roundDiv (num den : Nat) : num / den ≤ Decimal.roundDiv num den := by
  simp only [Decimal.roundDiv]
  split
  · exact Nat.le_refl _
  · split <;> omega

theorem pow2_eq (n : Nat) : Decimal.pow2 n = 2 ^ n :=
  rfl

/-- The double nearest to a positive whole number has at least the exponent of its leading bit. -/
theorem log2_le_nearestBits {n bits : Nat} (pos : 0 < n)
    (h : Decimal.nearestBits? n 1 = some bits) :
    n.log2 + 1023 ≤ bits / 2 ^ 52 ∧ bits < 2047 * 2 ^ 52 := by
  have lead := Nat.log2_self_le pos.ne'
  have one : (n.log2 : Int) - (Nat.log2 1 : Nat) = .ofNat n.log2 := Int.sub_zero _
  simp only [Decimal.nearestBits?, if_neg pos.ne', one, Nat.one_mul, pow2_eq,
    decide_eq_true lead, if_true, Option.ite_none_right_eq_some, Option.some.injEq] at h
  generalize n.log2 = l at *
  obtain ⟨range, rfl⟩ := h
  refine ⟨?_, range⟩
  have enough : ∀ {m : Nat}, 2 ^ 52 ≤ m → l + 1023 ≤ ((l + 1022) * 2 ^ 52 + m) / 2 ^ 52 := by
    intro m hm
    rw [Nat.le_div_iff_mul_le (Nat.two_pow_pos _), Nat.succ_mul]
    exact Nat.add_le_add_left hm _
  obtain wide | narrow := Nat.lt_or_ge 51 l
  · have e : max (Int.ofNat l - 52) (-1074) = .ofNat (l - 52) := by simp; omega
    have mantissa : 2 ^ 52 ≤ n / 2 ^ (l - 52) := by
      rw [Nat.le_div_iff_mul_le (Nat.two_pow_pos _), ← Nat.pow_add]
      exact (Nat.pow_le_pow_right (by decide) (by omega)).trans lead
    have rounded := mantissa.trans (div_le_roundDiv _ _)
    have exponent : (Int.ofNat (l - 52) + 1074).toNat = l + 1022 := by simp; omega
    rw [e, exponent]
    exact enough rounded
  · have e : max (Int.ofNat l - 52) (-1074) = .negSucc (51 - l) := by simp; omega
    have mantissa : 2 ^ 52 ≤ n * 2 ^ (51 - l + 1) / 1 := by
      rw [Nat.div_one]
      calc 2 ^ 52 = 2 ^ l * 2 ^ (51 - l + 1) := by rw [← Nat.pow_add]; congr 1; omega
        _ ≤ n * 2 ^ (51 - l + 1) := Nat.mul_le_mul_right _ lead
    have rounded := mantissa.trans (div_le_roundDiv _ _)
    have exponent : (Int.negSucc (51 - l) + 1074).toNat = l + 1022 := by omega
    rw [e, exponent]
    exact enough rounded

/-- The double of a positive whole number is not below the power of two of its leading bit. -/
theorem value_of_toFloat {n : Nat} {x : Float} (pos : 0 < n) (h : toFloat n = .ok x) :
    ∃ m e p, (n.log2 : Int) - 52 ≤ e ∧ 2 ^ 52 ≤ m ∧ value x = .finite .positive m e p := by
  have nearest : (Decimal.nearestBits? n 1).map (fun bits => Float.ofBits bits.toUInt64) = some x := by
    unfold toFloat at h
    split at h
    · cases h
      exact ‹_›
    · cases h
  obtain ⟨bits, hb, rfl⟩ := Option.map_eq_some_iff.1 nearest
  obtain ⟨low, high⟩ := log2_le_nearestBits pos hb
  obtain ⟨m, p, lead, hv⟩ := value_ofBits (by omega) high
  exact ⟨m, _, p, by omega, lead, hv⟩

theorem one_le_toFloat {n : Nat} {x : Float} (le : 1 ≤ n) (h : toFloat n = .ok x) : 1 ≤ x := by
  obtain ⟨m, e, p, he, lead, hv⟩ := value_of_toFloat le h
  have one : value 1 = .finite .positive (2 ^ 52) (-52) (by decide) := value_one
  exact le_of_value one hv (by omega) lead

theorem two_le_toFloat {n : Nat} {x : Float} (le : 2 ≤ n) (h : toFloat n = .ok x) : 2 ≤ x := by
  have two : value 2 = .finite .positive (2 ^ 52) (-51) (by decide) := rfl
  obtain ⟨m, e, p, he, lead, hv⟩ := value_of_toFloat (by omega) h
  have : 1 ≤ n.log2 := (Nat.le_log2 (by omega)).2 le
  exact le_of_value two hv (by omega) lead

theorem not_le_zero {x : Float} (h : 1 ≤ x) : ¬ x ≤ 0 := by
  rw [le_iff, value_zero]
  obtain h | ⟨m, e, pos, -, h⟩ := value_of_one_le h <;> rw [h]
  · decide
  · exact finite_not_le_zero

end GoMetrics.Double
