import Mathlib.Algebra.Order.Ring.Nat
import Mathlib.Data.List.Pairwise
import RegisterMap.Cell.Types

/-!
# Fields and bits

What a field reads and writes is seen bit by bit (`testBit_read`,
`testBit_write`): writing puts the low bits of the value into the field and
leaves every other bit as it was. The fields of a cell `Tile` its bits when they
follow on each other from the top down; they are then apart, and the byte is the
sum of what they hold (`Tiles.sum`).
-/

namespace RegisterMap

namespace Field

variable {f g : Field} {raw : UInt8} {i v w : Nat}

def Has (f : Field) (i : Nat) : Prop := f.lsb ≤ i ∧ i ≤ f.msb

instance (f : Field) (i : Nat) : Decidable (f.Has i) := inferInstanceAs (Decidable (_ ∧ _))

/-- A field of the bits of a byte. -/
structure Fits (f : Field) : Prop where
  ordered : f.lsb ≤ f.msb
  top : f.msb ≤ 7

/-- The fields share no bit. -/
def Apart (f g : Field) : Prop := f.msb < g.lsb ∨ g.msb < f.lsb

instance : Std.Symm Apart := ⟨fun _ _ h => Or.symm h⟩

/-! ## Reading -/

theorem testBit_read (f : Field) (raw : UInt8) (i : Nat) :
    (f.read raw).testBit i = (decide (i < f.width) && raw.toNat.testBit (i + f.lsb)) := by
  show (raw.toNat / 2 ^ f.lsb % 2 ^ f.width).testBit i = _
  rw [Nat.testBit_mod_two_pow, Nat.testBit_div_two_pow]

/-! ## Writing -/

/-- A number less its part above `p` and below `p * q`, and a value there instead. -/
theorem replace_part (x v p q : Nat) :
    x - x / p % q * p + v % q * p = p * (q * (x / (p * q)) + v % q) + x % p := by
  have hlow := Nat.div_add_mod x p
  have hhigh := Nat.div_add_mod (x / p) q
  rw [Nat.div_div_eq_div_mul] at hhigh
  rw [← hhigh, Nat.mul_add] at hlow
  rw [Nat.mul_add, Nat.mul_comm (x / p % q), Nat.mul_comm (v % q)]
  omega

theorem replace_part_lt {x v p q k : Nat} (hp : 0 < p) (hq : 0 < q) (hx : x < p * q * k) :
    p * (q * (x / (p * q)) + v % q) + x % p < p * q * k := by
  have hhigh : x / (p * q) + 1 ≤ k := Nat.div_lt_of_lt_mul hx
  calc p * (q * (x / (p * q)) + v % q) + x % p
      < p * (q * (x / (p * q)) + v % q) + p := Nat.add_lt_add_left (Nat.mod_lt x hp) _
    _ = p * (q * (x / (p * q)) + v % q + 1) := (Nat.mul_succ _ _).symm
    _ ≤ p * (q * (x / (p * q)) + q) :=
        Nat.mul_le_mul_left p (Nat.add_lt_add_left (Nat.mod_lt v hq) _)
    _ = p * q * (x / (p * q) + 1) := by rw [← Nat.mul_succ, Nat.mul_assoc]
    _ ≤ p * q * k := Nat.mul_le_mul_left _ hhigh

/-- What is above the field, the value in it, and what is below. -/
theorem toNat_write (h : f.Fits) (raw : UInt8) (v : Nat) : (f.write raw v).toNat =
    2 ^ f.lsb * (2 ^ f.width * (raw.toNat / (2 ^ f.lsb * 2 ^ f.width)) + v % 2 ^ f.width) +
      raw.toNat % 2 ^ f.lsb := by
  have hfits : f.lsb + f.width ≤ 8 := by
    have := h.ordered
    have := h.top
    unfold width
    omega
  have hsplit : 2 ^ f.lsb * 2 ^ f.width * 2 ^ (8 - (f.lsb + f.width)) = 256 := by
    rw [← Nat.pow_add, ← Nat.pow_add, Nat.add_sub_cancel' hfits]
  have hbyte : raw.toNat < 2 ^ f.lsb * 2 ^ f.width * 2 ^ (8 - (f.lsb + f.width)) := by
    rw [hsplit]
    exact raw.toNat_lt
  have hlt := replace_part_lt (v := v) (Nat.two_pow_pos f.lsb) (Nat.two_pow_pos f.width) hbyte
  show (raw.toNat - raw.toNat / 2 ^ f.lsb % 2 ^ f.width * 2 ^ f.lsb +
    v % 2 ^ f.width * 2 ^ f.lsb) % 256 = _
  rw [replace_part, Nat.mod_eq_of_lt (hsplit ▸ hlt)]

/-- Writing puts the bits of the value into the field, and leaves all others. -/
theorem testBit_write (h : f.Fits) (raw : UInt8) (v i : Nat) : (f.write raw v).toNat.testBit i =
    if f.Has i then v.testBit (i - f.lsb) else raw.toNat.testBit i := by
  have hwidth : f.lsb + f.width = f.msb + 1 := by
    have := h.ordered
    unfold width
    omega
  rw [toNat_write h, Nat.testBit_two_pow_mul_add _ (Nat.mod_lt _ (Nat.two_pow_pos _)),
    Nat.testBit_two_pow_mul_add _ (Nat.mod_lt _ (Nat.two_pow_pos _))]
  rcases Nat.lt_or_ge i f.lsb with hlow | hlow
  · have hn : ¬ f.Has i := fun hi => absurd hi.1 (Nat.not_le.mpr hlow)
    rw [if_pos hlow, if_neg hn, Nat.testBit_mod_two_pow, decide_eq_true hlow, Bool.true_and]
  · rw [if_neg (Nat.not_lt.mpr hlow)]
    rcases Nat.lt_or_ge (i - f.lsb) f.width with hin | hhigh
    · have hi : f.Has i := ⟨hlow, by omega⟩
      rw [if_pos hin, if_pos hi, Nat.testBit_mod_two_pow, decide_eq_true hin, Bool.true_and]
    · have hn : ¬ f.Has i := fun hi => absurd hi.2 (by omega)
      rw [if_neg (Nat.not_lt.mpr hhigh), if_neg hn, ← Nat.pow_add, Nat.testBit_div_two_pow]
      congr 1
      omega

theorem read_write (h : f.Fits) (raw : UInt8) (v : Nat) :
    f.read (f.write raw v) = v % 2 ^ f.width := by
  refine Nat.eq_of_testBit_eq fun i => ?_
  rw [testBit_read, testBit_write h, Nat.testBit_mod_two_pow]
  by_cases hi : i < f.width
  · have hhas : f.Has (i + f.lsb) := by
      unfold width at hi
      unfold Has
      omega
    rw [if_pos hhas, Nat.add_sub_cancel]
  · rw [decide_eq_false hi, Bool.false_and, Bool.false_and]

theorem read_write_apart (h : f.Fits) (hg : g.Fits) (ha : f.Apart g) (raw : UInt8) (v : Nat) :
    g.read (f.write raw v) = g.read raw := by
  refine Nat.eq_of_testBit_eq fun i => ?_
  rw [testBit_read, testBit_read, testBit_write h]
  by_cases hi : i < g.width
  · have hhas : ¬ f.Has (i + g.lsb) := by
      have := hg.ordered
      unfold width at hi
      unfold Apart at ha
      unfold Has
      omega
    rw [if_neg hhas]
  · rw [decide_eq_false hi, Bool.false_and, Bool.false_and]

theorem write_comm (h : f.Fits) (hg : g.Fits) (ha : f.Apart g) (raw : UInt8) (v w : Nat) :
    g.write (f.write raw v) w = f.write (g.write raw w) v := by
  refine UInt8.toNat_inj.mp (Nat.eq_of_testBit_eq fun i => ?_)
  rw [testBit_write hg, testBit_write h, testBit_write h, testBit_write hg]
  by_cases hf : f.Has i
  · have hn : ¬ g.Has i := by
      unfold Apart at ha
      unfold Has at hf ⊢
      omega
    rw [if_pos hf, if_pos hf, if_neg hn]
  · rw [if_neg hf, if_neg hf]

/-! ## The fields of a cell -/

/-- The fields are the bits below `top`, from the top down and without gap or overlap. -/
def Tiles (top : Nat) : List Field → Prop
  | [] => top = 0
  | f :: fs => f.msb + 1 = top ∧ f.lsb ≤ f.msb ∧ Tiles f.lsb fs

def Tiles.decide (top : Nat) : (fs : List Field) → Decidable (Tiles top fs)
  | [] => inferInstanceAs (Decidable (top = 0))
  | f :: fs =>
    have := Tiles.decide f.lsb fs
    inferInstanceAs (Decidable (_ ∧ _ ∧ _))

instance (top : Nat) (fs : List Field) : Decidable (Tiles top fs) := Tiles.decide top fs

namespace Tiles

variable {top : Nat} {fs : List Field}

theorem ordered_lt (h : Tiles top fs) (hf : f ∈ fs) : f.lsb ≤ f.msb ∧ f.msb < top := by
  induction fs generalizing top with
  | nil => cases hf
  | cons g fs ih =>
    obtain ⟨htop, hg, hrest⟩ := h
    rcases List.mem_cons.mp hf with rfl | hf
    · omega
    · have := ih hrest hf
      omega

theorem fits (h : Tiles 8 fs) (hf : f ∈ fs) : f.Fits := by
  obtain ⟨ho, ht⟩ := h.ordered_lt hf
  exact ⟨ho, Nat.le_of_lt_succ ht⟩

theorem pairwise_apart (h : Tiles top fs) : fs.Pairwise Apart := by
  induction fs generalizing top with
  | nil => exact .nil
  | cons f fs ih =>
    obtain ⟨-, -, hrest⟩ := h
    exact .cons (fun g hg => .inr (hrest.ordered_lt hg).2) (ih hrest)

theorem apart (h : Tiles top fs) (hf : f ∈ fs) (hg : g ∈ fs) (hne : f ≠ g) : f.Apart g :=
  h.pairwise_apart.forall hf hg hne

/-- The bits below the top are the sum of the fields, each at its place. -/
theorem sum (h : Tiles top fs) (raw : UInt8) :
    raw.toNat % 2 ^ top = (fs.map fun f => f.read raw * 2 ^ f.lsb).sum := by
  induction fs generalizing top with
  | nil =>
    cases h
    exact Nat.mod_one _
  | cons f fs ih =>
    obtain ⟨rfl, ho, hrest⟩ := h
    have hpow : 2 ^ (f.msb + 1) = 2 ^ f.lsb * 2 ^ f.width := by
      rw [← Nat.pow_add]
      congr 1
      unfold width
      omega
    rw [List.map_cons, List.sum_cons, ← ih hrest, hpow, Nat.mod_mul, Nat.add_comm, Nat.mul_comm]
    rfl

end Tiles

end Field

end RegisterMap
