import Mathlib
import BerOid.DecodeError

/-!
# Numbers that can be shown

An integer has a text if its magnitude is below 10 to the number of digits that are allowed (`isShowable_iff`). A refusal is raised
for what caused it as long as its wording shows only such integers, and tells the bytes that were taken; otherwise the complaint about
the digits takes its place and tells nothing (`DecodeFault.raised_of_isShowable`, `DecodeFault.raised_of_not_isShowable`,
`DecodeError.told?_eq_some_iff`).
-/

namespace BerOid

/-- The least number without a text. -/
def leastUnshowable : Nat := 10 ^ maxIntegerDigits

/-- The integers that have a text, by their magnitude. -/
theorem isShowable_iff {n : Int} : isShowable n ↔ n.natAbs < leastUnshowable := by
  rw [isShowable, decide_eq_true_eq, leastUnshowable, Nat.length_toDigits_le_iff (by decide) (by decide)]

theorem not_isShowable_iff {n : Int} : ¬isShowable n ↔ leastUnshowable ≤ n.natAbs := by
  rw [isShowable_iff, Nat.not_lt]

/-- Numbers of up to as many digits as are allowed have a text. -/
theorem pow_le_leastUnshowable {k : Nat} (h : k ≤ maxIntegerDigits) : 10 ^ k ≤ leastUnshowable :=
  Nat.pow_le_pow_right (by decide) h

/-- Every number of bytes that can be an index has a text. -/
theorem isShowable_of_lt_index {n : Nat} (h : n < 2 ^ 63) : isShowable n := by
  have := pow_le_leastUnshowable (k := 19) (by decide)
  rw [isShowable_iff, Int.natAbs_natCast]
  omega

namespace DecodeFault

variable {fault : DecodeFault}

/-- The wording of a cause can be made exactly when all integers it is to show have a text. -/
theorem isShowable_eq_true_iff : fault.isShowable ↔ ∀ n ∈ fault.shownIntegers, BerOid.isShowable n := List.all_eq_true

@[simp]
theorem isShowable_arcAboveLimit {value : Nat} {limit : Int} :
    (arcAboveLimit value limit).isShowable ↔ BerOid.isShowable value ∧ BerOid.isShowable limit := by
  simp [isShowable, shownIntegers]

/-- No cause is of the kind of what cannot be shown. -/
theorem kind_ne_unshowable (fault : DecodeFault) : fault.kind ≠ .unshowable := by cases fault <;> simp [kind]

/-- A cause that can be shown is raised as what it is. -/
theorem raised_of_isShowable (h : fault.isShowable) : fault.raised = fault.kind := if_pos h

/-- A cause that cannot be shown is raised as that. -/
theorem raised_of_not_isShowable (h : ¬fault.isShowable) : fault.raised = .unshowable := if_neg h

end DecodeFault

namespace DecodeError

variable {e : DecodeError}

/-- A refusal that tells its bytes is one of encoded bytes whose wording can be made. -/
theorem told?_eq_some_iff {n : Nat} :
    e.told? = some n ↔ e.bytesRead = n ∧ e.fault.isShowable ∧ e.fault.kind ≠ .oversized := by
  unfold told?
  by_cases h : e.fault.isShowable
  · rw [DecodeFault.raised_of_isShowable h]
    have hshown := DecodeFault.kind_ne_unshowable e.fault
    cases hkind : e.fault.kind <;> simp_all [DecodeKind.isCounted]
  · rw [DecodeFault.raised_of_not_isShowable h]
    simp [DecodeKind.isCounted, h]

/-- Bytes that were taken before are told with the others. -/
theorem told?_after (n : Nat) : (e.after n).told? = e.told?.map (n + ·) := by
  unfold told? after
  split <;> simp_all

@[simp]
theorem fault_after (n : Nat) : (e.after n).fault = e.fault := rfl

end DecodeError

end BerOid
