import Mathlib.Data.Nat.Find
import Mathlib.Logic.Function.Iterate
import Mathlib.Order.Basic
import UsbIp.Basic

/-
`verify_descriptor` of util.rs walks a descriptor chain by its length bytes
and asserts that the walk ends exactly at the end of the slice.  The `while`
loop runs under explicit fuel; its offsets are the iterates of one pass, and
every result below is stated over them.  The offset is a `usize` that stays
below `desc.len() + 256`, so it is a `Nat` here.
-/

namespace UsbIp

/-- How a call of `verify_descriptor` ends: it returns, or `assert_eq!` panics. -/
inductive VerifyOutcome
  | returns
  | panics
deriving DecidableEq, Repr

/-- One pass of the loop body, `offset += desc[offset] as usize`. -/
def verifyStep (desc : List UInt8) (offset : Nat) : Nat :=
  offset + (desc.getD offset 0).toNat

/-- The `while offset < desc.len()` loop from `offset`, allowed `fuel` tests
of its condition; `none` while it has not left the loop. -/
def verifyLoop (desc : List UInt8) : Nat → Nat → Option Nat
  | 0, _ => none
  | fuel + 1, offset =>
      if h : offset < desc.length then verifyLoop desc fuel (offset + desc[offset].toNat)
      else some offset

/-- `verify_descriptor`, with `fuel` loop tests. -/
def verifyDescriptor (desc : List UInt8) (fuel : Nat) : Option VerifyOutcome :=
  (verifyLoop desc fuel 0).map fun offset =>
    if offset = desc.length then .returns else .panics

/-- The offset after `k` passes: `offset₀ = 0`, `offsetₖ₊₁ = offsetₖ + desc[offsetₖ]`. -/
def verifyOffset (desc : List UInt8) (k : Nat) : Nat :=
  (verifyStep desc)^[k] 0

theorem verifyOffset_succ (desc : List UInt8) (k : Nat) :
    verifyOffset desc (k + 1) = verifyStep desc (verifyOffset desc k) :=
  Function.iterate_succ_apply' _ _ _

theorem verifyOffset_mono (desc : List UInt8) {j k : Nat} (h : j ≤ k) :
    verifyOffset desc j ≤ verifyOffset desc k := by
  induction k, h using Nat.le_induction with
  | base => exact le_rfl
  | succ k _ ih => exact ih.trans (by rw [verifyOffset_succ, verifyStep]; omega)

theorem verifyLoop_succ_of_lt {desc : List UInt8} {fuel offset : Nat}
    (h : offset < desc.length) :
    verifyLoop desc (fuel + 1) offset = verifyLoop desc fuel (verifyStep desc offset) := by
  simp [verifyLoop, h, verifyStep]

/-- The loop leaves at the first iterate of `verifyStep` at or past the end,
once the fuel covers the passes before it. -/
theorem verifyLoop_eq_some_iff (desc : List UInt8) (fuel offset result : Nat) :
    verifyLoop desc fuel offset = some result ↔
      ∃ k < fuel, (∀ j < k, (verifyStep desc)^[j] offset < desc.length) ∧
        desc.length ≤ (verifyStep desc)^[k] offset ∧ result = (verifyStep desc)^[k] offset := by
  induction fuel generalizing offset with
  | zero => simp [verifyLoop]
  | succ fuel ih =>
      by_cases h : offset < desc.length
      · rw [verifyLoop_succ_of_lt h, ih]
        constructor
        · rintro ⟨k, hk, hinside, hend, rfl⟩
          refine ⟨k + 1, by omega, fun j hj => ?_, hend, rfl⟩
          cases j with
          | zero => exact h
          | succ j => exact hinside j (by omega)
        · rintro ⟨_ | k, hk, hinside, hend, rfl⟩
          · exact absurd hend (by simpa using h)
          · exact ⟨k, by omega, fun j hj => hinside (j + 1) (by omega), hend, rfl⟩
      · simp only [verifyLoop, h, dite_false, Option.some.injEq]
        constructor
        · rintro rfl
          exact ⟨0, by omega, fun j hj => absurd hj (Nat.not_lt_zero j), by simpa using h, rfl⟩
        · rintro ⟨_ | k, -, hinside, -, rfl⟩
          · rfl
          · exact absurd (hinside 0 (by omega)) h

/-- The loop runs forever exactly when every offset stays inside the slice. -/
theorem verifyLoop_diverges_iff (desc : List UInt8) :
    (∀ fuel, verifyLoop desc fuel 0 = none) ↔ ∀ k, verifyOffset desc k < desc.length := by
  constructor
  · intro hnone k
    induction k using Nat.strong_induction_on with
    | _ k ih =>
        by_contra hout
        have hsome := (verifyLoop_eq_some_iff desc (k + 1) 0 _).mpr
          ⟨k, by omega, ih, by simpa [verifyOffset] using hout, rfl⟩
        simp [hnone] at hsome
  · intro hinside fuel
    cases hloop : verifyLoop desc fuel 0 with
    | none => rfl
    | some result =>
        obtain ⟨k, -, -, hend, -⟩ := (verifyLoop_eq_some_iff desc fuel 0 result).mp hloop
        exact absurd (hinside k) (by simpa [verifyOffset] using hend)

/-- `verify_descriptor` returns exactly when the offsets reach the end of the
slice exactly. -/
theorem verifyDescriptor_returns_iff (desc : List UInt8) :
    (∃ fuel, verifyDescriptor desc fuel = some .returns) ↔
      ∃ k, (∀ j < k, verifyOffset desc j < desc.length) ∧ verifyOffset desc k = desc.length := by
  simp only [verifyDescriptor, Option.map_eq_some', verifyLoop_eq_some_iff, verifyOffset]
  constructor
  · rintro ⟨fuel, _, ⟨k, -, hinside, -, rfl⟩, hret⟩
    exact ⟨k, hinside, by simpa using hret⟩
  · rintro ⟨k, hinside, hend⟩
    exact ⟨k + 1, _, ⟨k, by omega, hinside, hend.ge, rfl⟩, by simp [hend]⟩

/-- `verify_descriptor` panics exactly when the offsets jump past the end. -/
theorem verifyDescriptor_panics_iff (desc : List UInt8) :
    (∃ fuel, verifyDescriptor desc fuel = some .panics) ↔
      ∃ k, (∀ j < k, verifyOffset desc j < desc.length) ∧ desc.length < verifyOffset desc k := by
  simp only [verifyDescriptor, Option.map_eq_some', verifyLoop_eq_some_iff, verifyOffset]
  constructor
  · rintro ⟨fuel, _, ⟨k, -, hinside, hend, rfl⟩, hpanic⟩
    refine ⟨k, hinside, lt_of_le_of_ne hend fun heq => ?_⟩
    simp [← heq] at hpanic
  · rintro ⟨k, hinside, hend⟩
    exact ⟨k + 1, _, ⟨k, by omega, hinside, hend.le, rfl⟩, by simp [hend.ne']⟩

/-- A length byte of zero on the chain stops the offset, and the loop never
ends. -/
theorem verifyDescriptor_diverges_of_zero_length {desc : List UInt8} {k : Nat}
    (hinside : verifyOffset desc k < desc.length) (hzero : desc.getD (verifyOffset desc k) 0 = 0)
    (fuel : Nat) : verifyDescriptor desc fuel = none := by
  have hfix : ∀ m, verifyOffset desc (k + m) = verifyOffset desc k := fun m => by
    induction m with
    | zero => rfl
    | succ m ih => rw [← Nat.add_assoc, verifyOffset_succ, ih, verifyStep, hzero]; rfl
  have hstays : ∀ j, verifyOffset desc j < desc.length := fun j => by
    by_cases hj : j ≤ k
    · exact (verifyOffset_mono desc hj).trans_lt hinside
    · obtain ⟨m, rfl⟩ := Nat.exists_eq_add_of_le (le_of_not_le hj)
      rw [hfix]
      exact hinside
  simp [verifyDescriptor, (verifyLoop_diverges_iff desc).mpr hstays fuel]

/-- While every length byte on the chain is nonzero, the offset after `k`
inside passes is at least `k`. -/
theorem le_verifyOffset {desc : List UInt8}
    (hpos : ∀ k, verifyOffset desc k < desc.length → desc.getD (verifyOffset desc k) 0 ≠ 0)
    {k : Nat} (hinside : ∀ j < k, verifyOffset desc j < desc.length) : k ≤ verifyOffset desc k := by
  induction k with
  | zero => exact Nat.zero_le _
  | succ k ih =>
      have hbyte := hpos k (hinside k (by omega))
      have hk := ih fun j hj => hinside j (by omega)
      rw [verifyOffset_succ, verifyStep]
      have : 0 < (desc.getD (verifyOffset desc k) 0).toNat := by
        rw [Nat.pos_iff_ne_zero]
        exact fun h => hbyte (UInt8.toNat.inj (h.trans UInt8.toNat_zero.symm))
      omega

/-- Without a zero length byte on the chain, `verify_descriptor` ends, returning
or panicking, within `desc.len() + 1` loop tests. -/
theorem verifyDescriptor_terminates {desc : List UInt8}
    (hpos : ∀ k, verifyOffset desc k < desc.length → desc.getD (verifyOffset desc k) 0 ≠ 0) :
    (verifyDescriptor desc (desc.length + 1)).isSome := by
  have hexists : ∃ k, desc.length ≤ verifyOffset desc k := by
    by_cases hall : ∀ j < desc.length, verifyOffset desc j < desc.length
    · exact ⟨_, le_verifyOffset hpos hall⟩
    · push_neg at hall
      obtain ⟨j, -, hj⟩ := hall
      exact ⟨j, hj⟩
  have hfirst : ∀ {j}, desc.length ≤ verifyOffset desc j → Nat.find hexists ≤ j :=
    fun hj => Nat.find_min' hexists hj
  have hinside : ∀ j < Nat.find hexists, verifyOffset desc j < desc.length := fun j hj =>
    lt_of_not_le fun hle => absurd (hfirst hle) (by omega)
  have hbound : Nat.find hexists ≤ desc.length := by
    by_contra hgt
    exact hgt (hfirst (le_verifyOffset hpos fun j hj => hinside j (by omega)))
  have hsome := (verifyLoop_eq_some_iff desc (desc.length + 1) 0 _).mpr
    ⟨Nat.find hexists, by omega, hinside, Nat.find_spec hexists, rfl⟩
  simp [verifyDescriptor, hsome]

/-- A 2-byte descriptor followed by a 3-byte one. -/
theorem verifyDescriptor_terminates_two_descriptors :
    (verifyDescriptor [2, 1, 3, 0, 0] 6).isSome :=
  verifyDescriptor_terminates fun k hk => by
    match k with
    | 0 => decide
    | 1 => decide
    | k + 2 =>
        have hend : 5 ≤ verifyOffset [2, 1, 3, 0, 0] (k + 2) :=
          (verifyOffset_mono _ (Nat.le_add_left 2 k)).trans' (by decide)
        exact absurd hk (not_lt.mpr hend)

/-- The one-byte slice `[0]`: the loop adds its zero length byte forever, so
`verify_descriptor` neither returns nor reaches its `assert_eq!`. -/
theorem verifyDescriptor_zero_length_never_ends (fuel : Nat) :
    verifyDescriptor [0] fuel = none :=
  @verifyDescriptor_diverges_of_zero_length [0] 0 (by decide) rfl fuel

end UsbIp
