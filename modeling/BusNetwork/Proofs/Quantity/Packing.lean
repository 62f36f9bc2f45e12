import BusNetwork.Proofs.Quantity.Rounding
import Mathlib

/-!
# Packing

The arithmetic of 64-bit floating point unpacks its arguments into sign, mantissa and exponent, and
packs its results again. What was unpacked is canonical (`fits_unpack`), and **packing a canonical
result loses nothing** (`unpack_pack`) but what is too large, which becomes infinite
(`unpack_pack_large`).
-/

namespace BusNetwork.Binary64

open Float.Model (Format UnpackedFloat)
open Float.Model.UnpackedFloat

variable {s : Sign} {m : Nat} {e : Int}

/-! ## Unpacking -/

/-- An unpacked quantity is canonical and not too large. -/
def Fits : UnpackedFloat → Prop
  | .finite _ m e _ => Canonical m e ∧ e ≤ 971
  | _ => True

/-- The bit that goes without saying stands above the 52 written ones. -/
theorem toNat_implicit {m : BitVec 52} : (1#1 ++ m).toNat = 2 ^ 52 + m.toNat := by
  rw [BitVec.toNat_append, ← Nat.shiftLeft_add_eq_or_of_lt m.isLt]
  rfl

/-- Whatever bits are unpacked, the mantissa is canonical. -/
theorem fits_unpack (b : BitVec Format.binary64.numBits) :
    Fits (UnpackedFloat.unpack Format.binary64 b) := by
  have hm : (unpackMantissa b).toNat < 2 ^ 52 := (unpackMantissa b).isLt
  have he : (unpackExponent b).toNat < 2 ^ 11 := (unpackExponent b).isLt
  have hbias : Format.binary64.exponentBias = 1023 := rfl
  unfold unpack
  simp only [hbias]
  split_ifs with hones hnone hzero hnone
  · trivial
  · trivial
  · trivial
  · -- Subnormal: the exponent is the least one.
    have hexponent : (unpackExponent b).toNat = 0 := by rw [hzero]; rfl
    exact ⟨⟨by omega, by omega, .inr (by omega)⟩, by omega⟩
  · have hpos : (unpackExponent b).toNat ≠ 0 := fun h => hzero (BitVec.eq_of_toNat_eq h)
    have hless : (unpackExponent b).toNat ≠ 2047 := fun h => hones (BitVec.eq_of_toNat_eq h)
    have himplicit : (1#1 ++ unpackMantissa b).toNat = 2 ^ 52 + (unpackMantissa b).toNat :=
      toNat_implicit
    exact ⟨⟨by omega, by omega, .inl (by omega)⟩, by omega⟩

/-! ## Packing -/

/-- An exponent above 971 is packed as infinity. -/
theorem pack_large {hm : 0 < m} (he : 971 < e) :
    UnpackedFloat.pack Format.binary64 (.finite s m e hm) = packedInfinity Format.binary64 s := by
  have hbias : Format.binary64.exponentBias = 1023 := rfl
  simp only [pack, hbias]
  rw [if_pos (by omega)]

/-- A mantissa of 53 bits is packed without its first bit. -/
theorem pack_normal {hm : 0 < m} (hlt : m < 2 ^ 53) (hfull : 2 ^ 52 ≤ m) (he : e ≤ 971) :
    UnpackedFloat.pack Format.binary64 (.finite s m e hm) =
      packComponents Format.binary64 s (BitVec.ofNat 11 (e + 1075).toNat) (BitVec.ofNat 52 m) := by
  have hbias : Format.binary64.exponentBias = 1023 := rfl
  have hlog : m.log2 = 52 := (Nat.log2_eq_iff hm.ne').2 ⟨hfull, hlt⟩
  simp only [pack, hbias]
  rw [if_neg (by omega), if_pos (by rw [hlog]; rfl)]
  congr 3
  omega

/-- A shorter mantissa is packed at the least exponent, with all its bits. -/
theorem pack_subnormal {hm : 0 < m} (hlt : m < 2 ^ 52) (he : e = -1074) :
    UnpackedFloat.pack Format.binary64 (.finite s m e hm) =
      packComponents Format.binary64 s 0#11 (BitVec.ofNat 52 m) := by
  have hbias : Format.binary64.exponentBias = 1023 := rfl
  have hlog : m.log2 < 52 := (Nat.log2_lt hm.ne').2 hlt
  have hbits : Format.binary64.mantissaBits = 53 := rfl
  simp only [pack, hbias, hbits]
  rw [if_neg (by omega), if_neg (by omega)]

/-- Bits with exponent zero stand for their mantissa at the least exponent. -/
theorem unpack_packComponents_zero {m : BitVec 52} (hpos : 0 < m.toNat) :
    UnpackedFloat.unpack Format.binary64 (packComponents Format.binary64 s 0#11 m) =
      .finite s m.toNat (-1074) hpos := by
  have hm : m ≠ 0#52 := by
    rintro rfl
    simp at hpos
  have hones : 0#11 ≠ -1#11 := by decide
  unfold unpack
  simp only [unpackMantissa_packComponents, unpackExponent_packComponents,
    unpackSign_packComponents, Sign.ofBitVec_toBitVec]
  rw [if_neg hones, if_pos trivial, dif_neg hm]
  rfl

/-- Bits with an exponent of neither zeros nor ones stand for a mantissa of 53 bits. -/
theorem unpack_packComponents {e : BitVec 11} {m : BitVec 52} (hones : e ≠ -1#11)
    (hzero : e ≠ 0#11) :
    UnpackedFloat.unpack Format.binary64 (packComponents Format.binary64 s e m) =
      .finite s (2 ^ 52 + m.toNat) ((e.toNat : Int) - 1075) (by omega) := by
  unfold unpack
  simp only [unpackMantissa_packComponents, unpackExponent_packComponents,
    unpackSign_packComponents, Sign.ofBitVec_toBitVec]
  rw [if_neg hones, if_neg hzero]
  simp only [toNat_implicit]
  rfl

/-- The bits of an infinity stand for it. -/
@[simp]
theorem unpack_packedInfinity :
    UnpackedFloat.unpack Format.binary64 (packedInfinity Format.binary64 s) = .infinity s := by
  cases s <;> rfl

/-- What is too large is unpacked as infinity. -/
theorem unpack_pack_large {hm : 0 < m} (he : 971 < e) :
    UnpackedFloat.unpack Format.binary64
      (UnpackedFloat.pack Format.binary64 (.finite s m e hm)) = .infinity s := by
  rw [pack_large he, unpack_packedInfinity]

/-- **Packing loses nothing** of a quantity that fits. -/
theorem unpack_pack {u : UnpackedFloat} (h : Fits u) :
    UnpackedFloat.unpack Format.binary64 (UnpackedFloat.pack Format.binary64 u) = u := by
  cases u with
  | infinity s => exact unpack_packedInfinity
  | notANumber => exact unpack_packedNaN
  | zero s => exact unpack_packedZero
  | finite s m e hm =>
      obtain ⟨⟨hlt, hleast, hfull⟩, hle⟩ := h
      by_cases hnormal : 2 ^ 52 ≤ m
      · have hexponent : (BitVec.ofNat 11 (e + 1075).toNat).toNat = (e + 1075).toNat := by
          rw [BitVec.toNat_ofNat]
          omega
        have hmantissa : (BitVec.ofNat 52 m).toNat = m - 2 ^ 52 := by
          rw [BitVec.toNat_ofNat]
          omega
        have hones : BitVec.ofNat 11 (e + 1075).toNat ≠ -1#11 := by
          intro h
          have : (e + 1075).toNat = 2047 := hexponent.symm.trans (congrArg BitVec.toNat h)
          omega
        have hzero : BitVec.ofNat 11 (e + 1075).toNat ≠ 0#11 := by
          intro h
          have : (e + 1075).toNat = 0 := hexponent.symm.trans (congrArg BitVec.toNat h)
          omega
        rw [pack_normal hlt hnormal hle, unpack_packComponents hones hzero]
        congr 1 <;> omega
      · have hmantissa : (BitVec.ofNat 52 m).toNat = m := by
          rw [BitVec.toNat_ofNat]
          omega
        have he : e = -1074 := hfull.resolve_left hnormal
        rw [pack_subnormal (by omega) he, unpack_packComponents_zero (by omega)]
        congr 1
        exact he.symm

end BusNetwork.Binary64
