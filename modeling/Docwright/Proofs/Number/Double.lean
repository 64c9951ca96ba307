import Docwright.Proofs.Number.Fraction
import Docwright.Proofs.Number.Rounding

/-!
How doubles are stored. Taken apart by their bits and unpacked, they are the same (`ofFloat_eq`). What
is unpacked is in the one form that magnitudes are held in (`canonical_of_unpack`), and what is in that
form is packed as it is, unless it is too great (`parts_pack`).
-/

namespace Docwright.Double

open Float.Model Float.Model.UnpackedFloat

def isNegative : Sign → Bool
  | .negative => true
  | .positive => false

/-- The parts of an unpacked double. -/
def parts : UnpackedFloat → Decimal.Parts
  | .notANumber => .nan
  | .infinity s => .infinite (isNegative s)
  | .zero s => .finite (isNegative s) ⟨0, -1074, false⟩
  | .finite s m e _ => .finite (isNegative s) ⟨m, e, m == 2 ^ 52 && e > -1074⟩

/-- The exponent field of a double, and the fraction behind it. -/
def field (bits : Nat) : Nat :=
  bits / 2 ^ 52 % 2048

def fraction (bits : Nat) : Nat :=
  bits % 2 ^ 52

section

variable (b : BitVec 64)

theorem toNat_unpackMantissa :
    (@unpackMantissa Format.binary64 b).toNat = fraction b.toNat := by
  simp [unpackMantissa, BitVec.extractLsb_toNat, fraction]

theorem toNat_unpackExponent :
    (@unpackExponent Format.binary64 b).toNat = field b.toNat := by
  simp [unpackExponent, BitVec.extractLsb_toNat, Nat.shiftRight_eq_div_pow, field]

theorem isNegative_unpackSign :
    isNegative (Sign.ofBitVec (@unpackSign Format.binary64 b)) = (b.toNat / 2 ^ 63 == 1) := by
  have bound : b.toNat < 2 ^ 64 := b.isLt
  have sign : (@unpackSign Format.binary64 b).toNat = b.toNat / 2 ^ 63 := by
    simp [unpackSign, BitVec.extractLsb_toNat, Nat.shiftRight_eq_div_pow]
    omega
  rw [← sign]
  generalize @unpackSign Format.binary64 b = s
  revert s
  decide

theorem unpackMantissa_eq_zero_iff :
    @unpackMantissa Format.binary64 b = 0#52 ↔ fraction b.toNat = 0 := by
  rw [← BitVec.toNat_inj, toNat_unpackMantissa]
  rfl

theorem unpackExponent_eq_iff {n : Nat} (small : n < 2 ^ 11) :
    @unpackExponent Format.binary64 b = BitVec.ofNat 11 n ↔ field b.toNat = n := by
  have same : (BitVec.ofNat 11 n).toNat = n := BitVec.toNat_ofNat n 11 ▸ Nat.mod_eq_of_lt small
  rw [← BitVec.toNat_inj, toNat_unpackExponent, same]

/-- A mantissa with its hidden bit. -/
theorem toNat_hidden_append (m : BitVec 52) : (1#1 ++ m).toNat = 2 ^ 52 + m.toNat := by
  rw [BitVec.toNat_append, ← Nat.shiftLeft_add_eq_or_of_lt m.isLt]
  rfl

end

theorem parts_unpack (b : BitVec 64) : parts (UnpackedFloat.unpack Format.binary64 b) =
    if field b.toNat = 2047 then
      if fraction b.toNat = 0 then .infinite (b.toNat / 2 ^ 63 == 1) else .nan
    else if field b.toNat = 0 then .finite (b.toNat / 2 ^ 63 == 1) ⟨fraction b.toNat, -1074, false⟩
    else .finite (b.toNat / 2 ^ 63 == 1) ⟨2 ^ 52 + fraction b.toNat, field b.toNat - 1075,
      fraction b.toNat == 0 && field b.toNat > 1⟩ := by
  have bias : (Format.binary64.exponentBias : Int) + (52 : Nat) = 1075 := by decide
  rw [← isNegative_unpackSign]
  unfold UnpackedFloat.unpack
  dsimp only
  rw [toNat_unpackExponent, bias]
  split
  · next top =>
    rw [if_pos ((unpackExponent_eq_iff b (n := 2047) (by decide)).mp top)]
    split
    · next none => rw [if_pos ((unpackMantissa_eq_zero_iff b).mp none), parts]
    · next some => rw [if_neg (mt (unpackMantissa_eq_zero_iff b).mpr some), parts]
  · next top =>
    rw [if_neg (mt (unpackExponent_eq_iff b (n := 2047) (by decide)).mpr top)]
    split
    · next bottom =>
      have bottom : field b.toNat = 0 := (unpackExponent_eq_iff b (n := 0) (by decide)).mp bottom
      rw [if_pos bottom]
      split
      · next none => rw [(unpackMantissa_eq_zero_iff b).mp none, parts]
      · simp [parts, toNat_unpackMantissa, bottom]
    · next bottom =>
      rw [if_neg (mt (unpackExponent_eq_iff b (n := 0) (by decide)).mpr bottom), parts]
      simp only [toNat_hidden_append, toNat_unpackMantissa]
      congr 2
      rw [Bool.eq_iff_iff]
      simp only [Bool.and_eq_true, beq_iff_eq, decide_eq_true_eq]
      omega

theorem ofFloat_eq (x : Float) : Decimal.Parts.ofFloat x = parts x.toModel.unpack := by
  change _ = parts (UnpackedFloat.unpack Format.binary64 x.toBits.toBitVec)
  rw [parts_unpack]
  simp only [Decimal.Parts.ofFloat, beq_iff_eq]
  rfl

/-- What a double holds is in the one form that magnitudes are held in. -/
theorem canonical_of_unpack {x : Float} {s : Sign} {m : Nat} {e : Int} {positive : 0 < m}
    (h : x.toModel.unpack = .finite s m e positive) : Canonical m e ∧ e ≤ 971 := by
  have stored := parts_unpack x.toBits.toBitVec
  change parts x.toModel.unpack = _ at stored
  have short : fraction x.toBits.toBitVec.toNat < 2 ^ 52 := Nat.mod_lt _ (Nat.two_pow_pos 52)
  have small : field x.toBits.toBitVec.toNat < 2048 := Nat.mod_lt _ (by decide)
  rw [h, parts] at stored
  split at stored
  · split at stored <;> cases stored
  · split at stored
    · simp only [Decimal.Parts.finite.injEq, Decimal.Binary.mk.injEq] at stored
      exact ⟨⟨positive, by omega, by omega, by omega⟩, by omega⟩
    · simp only [Decimal.Parts.finite.injEq, Decimal.Binary.mk.injEq] at stored
      exact ⟨⟨positive, by omega, by omega, by omega⟩, by omega⟩

section

variable (s : Sign) (exponent : BitVec 11) (mantissa : BitVec 52)

theorem isNegative_packComponents :
    isNegative (Sign.ofBitVec (unpackSign (packComponents Format.binary64 s exponent mantissa))) =
      isNegative s := by
  have sign : unpackSign (packComponents Format.binary64 s exponent mantissa) = s.toBitVec := by
    ext i hi
    have here : i = 0 := by omega
    subst here
    simp [unpackSign, packComponents]
    rw [BitVec.getLsbD_append, BitVec.getLsbD_append]
    rfl
  rw [sign]
  cases s <;> rfl

theorem parts_packComponents :
    parts (UnpackedFloat.unpack Format.binary64 (packComponents Format.binary64 s exponent mantissa)) =
      if exponent.toNat = 2047 then
        if mantissa.toNat = 0 then .infinite (isNegative s) else .nan
      else if exponent.toNat = 0 then .finite (isNegative s) ⟨mantissa.toNat, -1074, false⟩
      else .finite (isNegative s) ⟨2 ^ 52 + mantissa.toNat, exponent.toNat - 1075,
        mantissa.toNat == 0 && exponent.toNat > 1⟩ := by
  have stored := parts_unpack (packComponents Format.binary64 s exponent mantissa)
  rwa [← isNegative_unpackSign, isNegative_packComponents, ← toNat_unpackExponent, ← toNat_unpackMantissa,
    unpackExponent_packComponents, unpackMantissa_packComponents] at stored

end

/-- A magnitude that is not too great for a double is packed as it is. -/
theorem parts_pack (s : Sign) {m : Nat} {e : Int} (h : Canonical m e) (small : e ≤ 971) :
    parts (Float.Model.pack (.finite s m e h.positive)).unpack =
      parts (.finite s m e h.positive) := by
  have bias : (e + Format.binary64.exponentBias + (52 : Nat)).toNat = (e + 1075).toNat := by
    have : (Format.binary64.exponentBias : Int) = 1023 := by decide
    omega
  have bits : m.log2 + 1 = 53 ↔ 2 ^ 52 ≤ m := by
    rw [← Nat.le_log2 h.positive.ne']
    have := (Nat.log2_lt h.positive.ne').mpr h.short
    omega
  change parts (UnpackedFloat.unpack Format.binary64 (UnpackedFloat.pack Format.binary64 _)) = _
  have least := h.least
  simp only [UnpackedFloat.pack, bias]
  rw [if_neg (by omega)]
  split
  · next normal =>
    have normal : 2 ^ 52 ≤ m := bits.mp normal
    rw [parts_packComponents]
    have kept : m % 2 ^ 52 = m - 2 ^ 52 := by
      have := h.short
      omega
    simp only [BitVec.toNat_ofNat, kept]
    rw [if_neg (by omega), if_neg (by omega), parts]
    simp only [Decimal.Parts.finite.injEq, Decimal.Binary.mk.injEq, true_and]
    refine ⟨by omega, by omega, ?_⟩
    rw [Bool.eq_iff_iff]
    simp only [Bool.and_eq_true, beq_iff_eq, decide_eq_true_eq]
    omega
  · next subnormal =>
    have subnormal : m < 2 ^ 52 := not_le.mp (mt bits.mpr subnormal)
    have least : e = -1074 := h.full.resolve_left (by omega)
    rw [parts_packComponents]
    simp [parts, least]
    omega

end Docwright.Double
