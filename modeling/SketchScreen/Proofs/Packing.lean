import SketchScreen.Proofs.Boxes

/-!
# Sixteen Bits and Back

A colour of sixteen bits is expanded to eight bits per channel, and packing the channels gives
the sixteen bits again.  So expansion keeps apart what sixteen bits can tell apart, and
integers have the same colour exactly if they agree in their low sixteen bits.

## Design Notes

Each of the three fields is scaled on its own, and a field comes back from its channel since
eight bits are finer than five or six (`roundQuotient_expandField`).  Packing puts the fields
side by side; none of them reaches into its neighbour, so what is put together bit by bit is
their sum (`orBits_fields`), and the sum is how the low sixteen bits fall into fields.
-/

namespace SketchScreen.Color

/-! ## Fields -/

/-- **A field comes back from its channel.** -/
theorem roundQuotient_expandField : ∀ top ∈ [31, 63], ∀ field ≤ top,
    Number.roundQuotient (expandField top field * (top : Nat)) 255 = .ok (field : Nat) := by
  decide +kernel

/-- Fields side by side do not overlap, so their disjunction is their sum. -/
theorem orBits_fields {r g b : Nat} (hg : g < 0x40) (hb : b < 0x20) :
    orBits (orBits (r * 0x800) (g * 0x20)) b = (r * 0x800 + g * 0x20 + b : Nat) := by
  have high : r * 0x800 ||| g * 0x20 = r * 0x800 + g * 0x20 := by
    rw [Nat.mul_comm r]
    exact (Nat.two_pow_add_eq_or_of_lt (i := 11) (by omega) r).symm
  have low : (r * 0x40 + g) * 0x20 ||| b = (r * 0x40 + g) * 0x20 + b := by
    rw [Nat.mul_comm (r * 0x40 + g)]
    exact (Nat.two_pow_add_eq_or_of_lt (i := 5) hb (r * 0x40 + g)).symm
  have split : r * 0x800 + g * 0x20 = (r * 0x40 + g) * 0x20 := by omega
  calc orBits (orBits (r * 0x800) (g * 0x20)) b
      = ((r * 0x800 ||| g * 0x20 ||| b : Nat) : Int) := rfl
    _ = (r * 0x800 + g * 0x20 + b : Nat) := by rw [high, split, low]

/-! ## Colours -/

/-- **Packing gives the low sixteen bits again.** -/
theorem toRgb565_ofRgb565 (v : Int) : (ofRgb565 v).toRgb565 = .ok (v % 0x10000) := by
  obtain ⟨low, value⟩ :=
    Int.eq_ofNat_of_zero_le (Int.emod_nonneg v (by decide : (0x10000 : Int) ≠ 0))
  have bits : (v % 0x10000).toNat = low := by omega
  have red : Number.roundQuotient (expandField 31 (low / 0x800 % 0x20) * 31) 255 = .ok _ :=
    roundQuotient_expandField 31 (by decide) _ (by omega)
  have green : Number.roundQuotient (expandField 63 (low / 0x20 % 0x40) * 63) 255 = .ok _ :=
    roundQuotient_expandField 63 (by decide) _ (by omega)
  have blue : Number.roundQuotient (expandField 31 (low % 0x20) * 31) 255 = .ok _ :=
    roundQuotient_expandField 31 (by decide) _ (by omega)
  have sum : low / 0x800 % 0x20 * 0x800 + low / 0x20 % 0x40 * 0x20 + low % 0x20 = low := by
    omega
  rw [ofRgb565, bits, toRgb565]
  simp only [red, green, blue]
  show Except.ok (orBits (orBits _ _) _) = _
  rw [orBits_fields (by omega) (by omega), sum, value]

/-- **Expansion and packing are inverse on sixteen bits.**  Packing the colour of any integer
gives the low sixteen bits of the integer.  Integers have the same colour exactly if they
agree in these bits, and the channels of a colour are within eight bits. -/
theorem packing_inverts_expansion (u v : Int) :
    (ofRgb565 v).toRgb565 = .ok (v % 65536) ∧
      (ofRgb565 u = ofRgb565 v ↔ u ≡ v [ZMOD 65536]) ∧
      ∀ channel ∈ [(ofRgb565 v).r, (ofRgb565 v).g, (ofRgb565 v).b], 0 ≤ channel ∧
        channel ≤ 255 := by
  refine ⟨toRgb565_ofRgb565 v, ⟨fun same => ?_, fun congruent => ?_⟩, isShown_ofRgb565 v⟩
  · have packed := toRgb565_ofRgb565 u
    rw [same, toRgb565_ofRgb565] at packed
    exact (Except.ok.inj packed).symm
  · have bits : u % 0x10000 = v % 0x10000 := congruent
    rw [ofRgb565, ofRgb565, bits]

/-- The integer below zero that agrees with an orange in its low sixteen bits. -/
example : (ofRgb565 (-0x2E0)).toRgb565 = .ok 0xFD20 := by decide +kernel

end SketchScreen.Color
