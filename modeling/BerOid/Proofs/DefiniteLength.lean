import Mathlib
import BerOid.Frame

/-!
# Definite lengths

`Denotes` says which octets are read as a length: the short form, and the long forms with one to four octets, leading zeros
included. No form is the beginning of another (`Denotes.append_inj`). The writer gives one of these forms for every length below
2 to the 32nd (`encode_denotes`), the only one that is shortest (`isShortest_iff_encode`), and for all lengths whose digits can be
counted in seven bits it gives the minimal form (`isMinimal_iff_encode`). `Header.readLength_spec` says once how reading goes on
behind the first octet.
-/

namespace BerOid.Length

/-- The octets are a definite length that is read: one byte below 128, or a byte that counts one to four octets, and these. -/
def Denotes (written : List UInt8) (n : Nat) : Prop :=
  (n < 128 ∧ written = [UInt8.ofNat n]) ∨
    ∃ digits : List UInt8, 1 ≤ digits.length ∧ digits.length ≤ maxLengthOctets ∧
      written = UInt8.ofNat (128 + digits.length) :: digits ∧ ofOctets digits = n

/-- An octet behind others in base 256. -/
theorem ofOctets_append_singleton (digits : List UInt8) (b : UInt8) :
    ofOctets (digits ++ [b]) = 256 * ofOctets digits + b.toNat := by
  simp [ofOctets]

/-- The octets of a number write it. -/
@[simp]
theorem ofOctets_octets (n : Nat) : ofOctets (octets n) = n := by
  induction n using Nat.strongRecOn with
  | ind n ih =>
    rw [octets]
    split
    · rename_i h
      exact h.symm
    · rw [ofOctets_append_singleton, ih (n / 256) (by omega), UInt8.toNat_ofNat']
      omega

/-- A number below a power of 256 has no more octets than the exponent. -/
theorem length_octets_le {n k : Nat} (h : n < 256 ^ k) : (octets n).length ≤ k := by
  induction k generalizing n with
  | zero =>
    rw [octets, if_pos (by omega)]
    exact Nat.le_refl _
  | succ k ih =>
    rw [octets]
    split
    · exact Nat.zero_le _
    · have hk := ih (n := n / 256) (by omega)
      rw [List.length_append, List.length_singleton]
      omega

/-- A number other than zero has an octet. -/
theorem length_octets_pos {n : Nat} (h : n ≠ 0) : 1 ≤ (octets n).length := by
  rw [octets, if_neg h, List.length_append, List.length_singleton]
  omega

/-- What the writer gives for a length whose digits can be counted in seven bits. -/
theorem encode_eq {n : Nat} (h : n < 256 ^ 127) :
    encode n = .ok (if n < 128 then [UInt8.ofNat n] else UInt8.ofNat (128 + (octets n).length) :: octets n) := by
  have hcount : (octets n).length < 128 := Nat.lt_succ_of_le (length_octets_le h)
  simp only [encode, countOctet?, if_pos hcount]
  split <;> rfl

/-- The writer gives a length that is read as what it was, for every length below 2 to the 32nd. -/
theorem encode_denotes {n : Nat} (h : n < 2 ^ 32) : ∃ written, encode n = .ok written ∧ Denotes written n := by
  refine ⟨_, encode_eq (Nat.lt_trans h (by decide)), ?_⟩
  by_cases hn : n < 128
  · rw [if_pos hn]
    exact .inl ⟨hn, rfl⟩
  · rw [if_neg hn]
    exact .inr ⟨octets n, length_octets_pos (by omega), length_octets_le h, rfl, ofOctets_octets n⟩

/-! ## Telling forms apart -/

/-- Octets write less than the power of 256 that has their number as its exponent. -/
theorem ofOctets_lt (digits : List UInt8) : ofOctets digits < 256 ^ digits.length := by
  induction digits using List.reverseRecOn with
  | nil => decide
  | append_singleton digits b ih =>
    have hb := b.toNat_lt
    rw [ofOctets_append_singleton, List.length_append, List.length_singleton, Nat.pow_succ]
    omega

/-- As many octets that write the same number are the same. -/
theorem ofOctets_inj {digits digits' : List UInt8} (hlen : digits.length = digits'.length)
    (h : ofOctets digits = ofOctets digits') : digits = digits' := by
  induction digits using List.reverseRecOn generalizing digits' with
  | nil => exact (List.eq_nil_of_length_eq_zero hlen.symm).symm
  | append_singleton digits b ih =>
    rcases List.eq_nil_or_concat' digits' with rfl | ⟨front, c, rfl⟩
    · simp at hlen
    · have hb := b.toNat_lt
      have hc := c.toNat_lt
      rw [ofOctets_append_singleton, ofOctets_append_singleton] at h
      have hlast : b = c := UInt8.toNat_inj.1 (by omega)
      have hfront : digits = front := ih (by simpa using hlen) (by omega)
      rw [hlast, hfront]

/-- A length that is read is below 2 to the 32nd. -/
theorem Denotes.lt {written : List UInt8} {n : Nat} (h : Denotes written n) : n < 2 ^ 32 := by
  rcases h with ⟨hn, -⟩ | ⟨digits, -, hmax, -, rfl⟩
  · omega
  · exact Nat.lt_of_lt_of_le (ofOctets_lt digits) (Nat.pow_le_pow_right (by decide) hmax)

/-- The first octet of a length in short form. -/
theorem toNat_shortOctet {n : Nat} (h : n < 128) : (UInt8.ofNat n).toNat = n := by
  rw [UInt8.toNat_ofNat']
  omega

/-- The first octet of a length in long form. -/
theorem toNat_countOctet {count : Nat} (h : count ≤ maxLengthOctets) : (UInt8.ofNat (128 + count)).toNat = 128 + count := by
  unfold maxLengthOctets at h
  rw [UInt8.toNat_ofNat']
  omega

/-- A length is told by its octets, whatever is behind them. -/
theorem Denotes.append_inj {written written' rest rest' : List UInt8} {n n' : Nat} (h : Denotes written n)
    (h' : Denotes written' n') (heq : written ++ rest = written' ++ rest') : written = written' ∧ n = n' ∧ rest = rest' := by
  rcases h with ⟨hn, rfl⟩ | ⟨digits, hpos, hmax, rfl, rfl⟩ <;>
    rcases h' with ⟨hn', rfl⟩ | ⟨digits', hpos', hmax', rfl, rfl⟩ <;>
    rw [List.cons_append, List.cons_append, List.cons.injEq] at heq <;>
    obtain ⟨hhead, heq⟩ := heq <;>
    have hbyte := congrArg UInt8.toNat hhead
  · rw [toNat_shortOctet hn, toNat_shortOctet hn'] at hbyte
    exact ⟨by rw [hbyte], hbyte, heq⟩
  · rw [toNat_shortOctet hn, toNat_countOctet hmax'] at hbyte
    omega
  · rw [toNat_countOctet hmax, toNat_shortOctet hn'] at hbyte
    omega
  · rw [toNat_countOctet hmax, toNat_countOctet hmax'] at hbyte
    obtain ⟨rfl, rfl⟩ := List.append_inj heq (by omega)
    exact ⟨rfl, rfl, rfl⟩

/-! ## Shortest forms -/

/-- The octets are a form of the length than which none is shorter. -/
def IsShortest (written : List UInt8) (n : Nat) : Prop :=
  Denotes written n ∧ ∀ other, Denotes other n → written.length ≤ other.length

/-- Of one length there are no two forms of the same size. -/
theorem Denotes.eq_of_length_eq {written other : List UInt8} {n : Nat} (h : Denotes written n) (h' : Denotes other n)
    (hlen : written.length = other.length) : written = other := by
  rcases h with ⟨hn, rfl⟩ | ⟨digits, hpos, -, rfl, rfl⟩
  · rcases h' with ⟨-, rfl⟩ | ⟨digits', hpos', -, rfl, -⟩
    · rfl
    · simp only [List.length_cons, List.length_nil] at hlen
      omega
  · rcases h' with ⟨-, rfl⟩ | ⟨digits', -, -, rfl, hvalue⟩
    · simp only [List.length_cons, List.length_nil] at hlen
      omega
    · obtain rfl := ofOctets_inj (by simpa using hlen.symm) hvalue
      rfl

/-- What the writer gives for a length is no longer than any form of that length or of a greater one. -/
theorem length_encode_le {m n : Nat} {written other : List UInt8} (hle : m ≤ n) (h : encode m = .ok written)
    (ho : Denotes other n) : written.length ≤ other.length := by
  simp only [encode] at h
  split at h
  · cases h
    rcases ho with ⟨-, rfl⟩ | ⟨digits, -, -, rfl, -⟩
    · exact Nat.le_refl _
    · exact Nat.succ_le_succ (Nat.zero_le _)
  · split at h
    · cases h
      rcases ho with ⟨hn, -⟩ | ⟨digits, -, -, rfl, rfl⟩
      · omega
      · exact Nat.succ_le_succ (length_octets_le (Nat.lt_of_le_of_lt hle (ofOctets_lt digits)))
    · cases h

/-- The writer gives the shortest form, and there is only one. -/
theorem isShortest_iff_encode {written : List UInt8} {n : Nat} (hn : n < 2 ^ 32) :
    IsShortest written n ↔ encode n = .ok written := by
  obtain ⟨given, hgiven, hdenotes⟩ := encode_denotes hn
  constructor
  · rintro ⟨hwritten, hshortest⟩
    have hlen := Nat.le_antisymm (hshortest given hdenotes) (length_encode_le (Nat.le_refl n) hgiven hwritten)
    rw [hwritten.eq_of_length_eq hdenotes hlen, hgiven]
  · intro h
    rw [hgiven] at h
    cases h
    exact ⟨hdenotes, fun other hother => length_encode_le (Nat.le_refl n) hgiven hother⟩

/-! ## Minimal forms -/

/-- The octets are the minimal definite form of a length of any size: the length below 128, and else a byte with its top bit set that
counts the digits of the length in base 256, and these digits, the first of which is not zero. -/
def IsMinimal (written : List UInt8) (n : Nat) : Prop :=
  (n < 128 ∧ written = [UInt8.ofNat n]) ∨
    128 ≤ n ∧ ∃ digits : List UInt8, digits.length < 128 ∧ digits.head? ≠ some 0 ∧ ofOctets digits = n ∧
      written = UInt8.ofNat (128 + digits.length) :: digits

/-- The digits of a number do not begin with a zero. -/
theorem head?_octets_ne (n : Nat) : (octets n).head? ≠ some 0 := by
  induction n using Nat.strongRecOn with
  | ind n ih =>
    rw [octets]
    split
    · simp
    · rename_i hn
      by_cases hlt : n < 256
      · have hbyte : UInt8.ofNat (n % 256) ≠ 0 := by
          intro h
          have htoNat := congrArg UInt8.toNat h
          rw [UInt8.toNat_ofNat', UInt8.toNat_zero] at htoNat
          omega
        rw [octets, if_pos (by omega), List.nil_append, List.head?_cons]
        exact fun h => hbyte (Option.some.inj h)
      · have hne : octets (n / 256) ≠ [] := List.ne_nil_of_length_pos (length_octets_pos (by omega))
        rw [List.head?_append_of_ne_nil _ hne]
        exact ih (n / 256) (by omega)

/-- Digits that do not begin with a zero are those of the number they write. -/
theorem octets_ofOctets {digits : List UInt8} (h : digits.head? ≠ some 0) : octets (ofOctets digits) = digits := by
  induction digits using List.reverseRecOn with
  | nil =>
    rw [octets]
    rfl
  | append_singleton digits b ih =>
    have hfront : octets (ofOctets digits) = digits := by
      refine ih fun hzero => h ?_
      rw [List.head?_append, hzero]
      rfl
    have hb := b.toNat_lt
    -- the number is zero only if nothing stands before the last digit, and then this would be a zero in front
    have hne : 256 * ofOctets digits + b.toNat ≠ 0 := by
      intro hzero
      have hnil : ofOctets digits = 0 := by omega
      rw [hnil, octets, if_pos rfl] at hfront
      have hbyte : b = 0 := UInt8.toNat_inj.1 (by rw [UInt8.toNat_zero]; omega)
      exact h (by rw [← hfront, hbyte]; rfl)
    have hdiv : (256 * ofOctets digits + b.toNat) / 256 = ofOctets digits := by omega
    have hmod : (256 * ofOctets digits + b.toNat) % 256 = b.toNat := by omega
    rw [ofOctets_append_singleton, octets, if_neg hne, hdiv, hfront, hmod, UInt8.ofNat_toNat]

/-- The writer gives the minimal form of every length whose digits can be counted in seven bits. -/
theorem isMinimal_iff_encode {written : List UInt8} {n : Nat} (hn : n < 256 ^ 127) :
    IsMinimal written n ↔ encode n = .ok written := by
  rw [encode_eq hn, Except.ok.injEq]
  by_cases hshort : n < 128
  · rw [if_pos hshort]
    constructor
    · rintro (⟨-, rfl⟩ | ⟨hlong, -⟩)
      · rfl
      · omega
    · rintro rfl
      exact .inl ⟨hshort, rfl⟩
  · rw [if_neg hshort]
    constructor
    · rintro (⟨hlt, -⟩ | ⟨-, digits, -, hhead, rfl, rfl⟩)
      · omega
      · rw [octets_ofOctets hhead]
    · rintro rfl
      have hcount : (octets n).length < 128 := Nat.lt_succ_of_le (length_octets_le hn)
      exact .inr ⟨by omega, octets n, hcount, head?_octets_ne n, ofOctets_octets n, rfl⟩

end BerOid.Length

/-! ## Reading -/

namespace BerOid.Header

/-- How reading goes on behind the first octet of a length: not at all in the short form, the indefinite form and one of too many
octets, the latter two being refused, and else with as many octets as the first counts. -/
theorem readLength_spec (tag : UInt8) : ∃ behind : UInt8 → Source → Reading Header,
    (∀ s, readLength tag s = ((readByte s).after 1).andThen behind) ∧ ∀ first : UInt8,
      (first.toNat < 128 ∧ behind first = .done ⟨tag, first.toNat, 2⟩) ∨
      (first.toNat = 128 ∧ behind first = .fail ⟨.indefiniteLength, 2⟩) ∨
      (128 + maxLengthOctets < first.toNat ∧ behind first = .fail ⟨.lengthTooWide (first.toNat - 128), 2⟩) ∨
      ∃ count : Nat, 1 ≤ count ∧ count ≤ maxLengthOctets ∧ first.toNat = 128 + count ∧
        behind first = fun s => ((s.gather count).after 2).map fun octets => ⟨tag, Length.ofOctets octets, 2 + count⟩ := by
  refine ⟨_, fun s => rfl, fun first => ?_⟩
  by_cases hshort : first.toNat < 128
  · exact .inl ⟨hshort, by simp only [if_pos hshort]⟩
  · by_cases hzero : first.toNat - 128 = 0
    · exact .inr (.inl ⟨by omega, by simp only [if_neg hshort, if_pos hzero]⟩)
    · by_cases hwide : maxLengthOctets < first.toNat - 128
      · exact .inr (.inr (.inl ⟨by omega, by simp only [if_neg hshort, if_neg hzero, if_pos hwide]⟩))
      · refine .inr (.inr (.inr ⟨first.toNat - 128, by omega, by omega, by omega, ?_⟩))
        simp only [if_neg hshort, if_neg hzero, if_neg hwide]

end BerOid.Header
