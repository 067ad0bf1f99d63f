import BerOid.Proofs.RoundTrip

/-!
# Canonical payloads

Groups of zero in front of a subidentifier add nothing to its value. Without them a complete subidentifier is just what the writer
gives for its value (`encode_value`), so it has one shortest form. A payload that is decoded under a limit no greater than the
greatest arc can be written again, and the writer gives the payload without this padding (`reencode_decoded`).
-/

namespace BerOid

/-! ## Padding of subidentifiers -/

namespace Base128

/-- The byte that continues a subidentifier and has no bit of its value: a group of zero. -/
def padding : UInt8 := 0x80

/-- A subidentifier without the groups of zero it begins with. -/
def unpadded (g : List UInt8) : List UInt8 := g.dropWhile (· = padding)

@[simp]
theorem unpadded_padding_cons (g : List UInt8) : unpadded (padding :: g) = unpadded g :=
  List.dropWhile_cons_of_pos (by simp)

/-- There is nothing to take away exactly when the first byte is no group of zero. -/
theorem unpadded_eq_self_iff {g : List UInt8} : unpadded g = g ↔ g.head? ≠ some padding := by
  cases g with
  | nil => simp [unpadded]
  | cons b rest =>
    rw [unpadded, List.dropWhile_eq_self_iff]
    simp

theorem length_unpadded_le (g : List UInt8) : (unpadded g).length ≤ g.length := (List.dropWhile_suffix _).length_le

/-- Padding does not change the value. -/
@[simp]
theorem value_unpadded (g : List UInt8) : value (unpadded g) = value g := by
  induction g with
  | nil => rfl
  | cons b rest ih =>
    by_cases hb : b = padding
    · subst hb
      rw [unpadded_padding_cons, ih]
      rfl
    · rw [unpadded_eq_self_iff.2 (by simpa using hb)]

/-- The byte that ends a subidentifier is no padding, so a complete subidentifier stays complete. -/
theorem IsComplete.unpadded {g : List UInt8} (h : IsComplete g) : IsComplete (unpadded g) := by
  obtain ⟨run, last, rfl, hrun, hlast⟩ := h
  induction run with
  | nil =>
    have hne : last ≠ padding := by
      rintro rfl
      exact absurd hlast (by decide)
    rw [List.nil_append, unpadded_eq_self_iff.2 (by simpa using hne)]
    exact isComplete_singleton hlast
  | cons b run ih =>
    by_cases hpad : b = padding
    · rw [hpad, List.cons_append, unpadded_padding_cons]
      exact ih (isOpen_cons.1 hrun).2
    · rw [unpadded_eq_self_iff.2 (by simpa using hpad)]
      exact ⟨b :: run, last, rfl, hrun, hlast⟩

/-- A byte behind others in base 128. -/
theorem value_append_singleton (run : List UInt8) (b : UInt8) :
    value (run ++ [b]) = 128 * value run + b.toNat % 128 := by
  simp [value]

/-- What stands before the last byte begins with no padding if the whole does not. -/
theorem head?_ne_of_append {run : List UInt8} {b : UInt8} (h : (run ++ [b]).head? ≠ some padding) :
    run.head? ≠ some padding := by
  cases run with
  | nil => simp
  | cons c run => simpa using h

/-- The writer gives back every run of continuing bytes that begins with no padding. -/
theorem continued_value {run : List UInt8} (hrun : IsOpen run) (h : run.head? ≠ some padding) :
    continued (value run) = run := by
  induction run using List.reverseRecOn with
  | nil =>
    rw [continued]
    rfl
  | append_singleton run b ih =>
    have hopen : IsOpen run := fun x hx => hrun x (List.mem_append_left _ hx)
    have hb : 128 ≤ b.toNat := hrun b (by simp)
    have hlt := b.toNat_lt
    have hfront : continued (value run) = run := ih hopen (head?_ne_of_append h)
    -- the value is zero only if nothing stands before the byte, and then the byte would be padding
    have hne : 128 * value run + b.toNat % 128 ≠ 0 := by
      intro hzero
      have hvalue : value run = 0 := by omega
      rw [hvalue, continued, if_pos rfl] at hfront
      subst hfront
      have hbyte : b = padding := by
        have hpadding : padding.toNat = 128 := rfl
        rw [← UInt8.toNat_inj]
        omega
      exact h (by rw [hbyte]; rfl)
    have hdiv : (128 * value run + b.toNat % 128) / 128 = value run := by omega
    have hmod : (128 * value run + b.toNat % 128) % 128 + 128 = b.toNat := by omega
    rw [value_append_singleton, continued, if_neg hne, hdiv, hfront, hmod, UInt8.ofNat_toNat]

/-- The writer gives back every complete subidentifier that begins with no padding. -/
theorem encode_value {g : List UInt8} (hg : IsComplete g) (h : g.head? ≠ some padding) : encode (value g) = g := by
  obtain ⟨run, last, rfl, hrun, hlast⟩ := hg
  have hdiv : (128 * value run + last.toNat % 128) / 128 = value run := by omega
  have hmod : (128 * value run + last.toNat % 128) % 128 = last.toNat := by omega
  rw [value_append_singleton, encode, hdiv, hmod, continued_value hrun (head?_ne_of_append h), UInt8.ofNat_toNat]

/-- The writer takes away the padding of a complete subidentifier. -/
theorem encode_value_eq_unpadded {g : List UInt8} (hg : IsComplete g) : encode (value g) = unpadded g := by
  have hhead : (unpadded g).head? ≠ some padding := by
    intro h
    have hnot := List.head?_dropWhile_not (fun b => decide (b = padding)) g
    rw [← unpadded, h] at hnot
    simp at hnot
  rw [← value_unpadded, encode_value hg.unpadded hhead]

/-- The bytes are the minimal subidentifier of a number: complete, with its value, and without padding. -/
def IsMinimal (g : List UInt8) (n : Nat) : Prop := IsComplete g ∧ value g = n ∧ g.head? ≠ some padding

/-- What the writer gives has no padding. -/
theorem head?_encode_ne (n : Nat) : (encode n).head? ≠ some padding := by
  rw [← unpadded_eq_self_iff, ← encode_value_eq_unpadded (isComplete_encode n), value_encode]

/-- The writer gives the minimal subidentifier of a number, and there is only one. -/
theorem isMinimal_iff_encode {g : List UInt8} {n : Nat} : IsMinimal g n ↔ encode n = g := by
  constructor
  · rintro ⟨hcomplete, rfl, hhead⟩
    exact encode_value hcomplete hhead
  · rintro rfl
    exact ⟨isComplete_encode n, value_encode n, head?_encode_ne n⟩

end Base128

/-! ## Payloads written again -/

namespace Payload

open Base128

/-- The complete subidentifiers of a payload without their padding. -/
def unpadded (payload : List UInt8) : List UInt8 := ((cut payload).1.map Base128.unpadded).flatten

/-- Without padding a payload is no longer. -/
theorem length_unpadded_le (payload : List UInt8) : (unpadded payload).length ≤ payload.length := by
  have hall := congrArg List.length (cut_spec payload).1
  have hgroups : ∀ groups : List (List UInt8), (groups.map Base128.unpadded).flatten.length ≤ groups.flatten.length := by
    intro groups
    induction groups with
    | nil => exact Nat.le_refl _
    | cons g groups ih =>
      have hg := Base128.length_unpadded_le g
      simp only [List.map_cons, List.flatten_cons, List.length_append]
      omega
  have hle := hgroups (cut payload).1
  rw [List.length_append] at hall
  rw [unpadded]
  omega

/-- A payload of complete subidentifiers has no padding exactly when none of them begins with it. -/
theorem unpadded_eq_self_iff {payload : List UInt8} (h : (cut payload).2 = []) :
    unpadded payload = payload ↔ ∀ g ∈ (cut payload).1, g.head? ≠ some padding := by
  obtain ⟨hall, hcomplete, -⟩ := cut_spec payload
  rw [h, List.append_nil] at hall
  have hunpadded : ∀ g ∈ (cut payload).1.map Base128.unpadded, IsComplete g := by
    intro g hg
    obtain ⟨x, hx, rfl⟩ := List.mem_map.1 hg
    exact (hcomplete x hx).unpadded
  have hmap : (cut payload).1.map Base128.unpadded = (cut payload).1 ↔ ∀ g ∈ (cut payload).1, g.head? ≠ some padding := by
    have h := List.map_inj_left (l := (cut payload).1) (f := Base128.unpadded) (g := id)
    simpa only [List.map_id, id, Base128.unpadded_eq_self_iff] using h
  rw [← hmap]
  constructor
  · intro heq
    -- a sequence of complete subidentifiers is cut in only one way
    have hcut := cut_flatten hunpadded
    rw [← unpadded, heq] at hcut
    exact (congrArg Prod.fst hcut).symm
  · intro heq
    rw [unpadded, heq, ← hall]

/-- Every number stands for a root and is the number that is written for it. -/
theorem rootArcs_spec (v : Nat) : Oid.IsRoot (rootArcs v).1 (rootArcs v).2 ∧ 40 * (rootArcs v).1 + (rootArcs v).2 = v := by
  unfold rootArcs Oid.IsRoot
  by_cases h40 : v < 40
  · rw [if_pos h40]
    omega
  · by_cases h80 : v < 80
    · rw [if_neg h40, if_pos h80]
      omega
    · rw [if_neg h40, if_neg h80]
      omega

/-- The arcs of complete subidentifiers are written as these without padding. -/
theorem subidentifiers_arcsOf {groups : List (List UInt8)} (hne : groups ≠ []) (hg : ∀ g ∈ groups, IsComplete g) :
    Oid.subidentifiers (arcsOf groups) = groups.map Base128.unpadded := by
  cases groups with
  | nil => exact absurd rfl hne
  | cons root others =>
    have hothers : (others.map value).map Base128.encode = others.map Base128.unpadded := by
      rw [List.map_map]
      exact List.map_congr_left fun g hmem => encode_value_eq_unpadded (hg g (List.mem_cons_of_mem _ hmem))
    rw [arcsOf, Oid.subidentifiers, (rootArcs_spec (value root)).2, encode_value_eq_unpadded (hg root List.mem_cons_self),
      hothers, List.map_cons]

/-- An accepted payload has no unfinished run. Its object identifier begins with a root, has all arcs but the first within the
limit, and is written as the subidentifiers without their padding. -/
theorem spec_of_decode {limit : Int} {payload : List UInt8} {oid : Oid} (h : decode limit payload = .ok oid) :
    (cut payload).2 = [] ∧ oid.IsRooted ∧ (∀ arc ∈ oid.tail, (arc : Int) ≤ limit) ∧
      oid.subidentifiers = (cut payload).1.map Base128.unpadded := by
  obtain ⟨hoffence, rfl⟩ := decode_eq_ok_iff.1 h
  obtain ⟨root, others, hgroups, hrun, -, hsecond, hothers⟩ := firstOffence?_eq_none_iff.1 hoffence
  have hcomplete := (cut_spec payload).2.1
  refine ⟨hrun, ?_, ?_, subidentifiers_arcsOf (by rw [hgroups]; exact List.cons_ne_nil _ _) hcomplete⟩
  · rw [hgroups]
    exact ⟨_, _, _, rfl, (rootArcs_spec (value root)).1⟩
  · rw [hgroups, arcsOf, List.tail_cons, List.forall_mem_cons]
    refine ⟨hsecond, fun arc harc => ?_⟩
    obtain ⟨g, hg, rfl⟩ := List.mem_map.1 harc
    exact hothers g hg

/-- What is decoded under a limit no greater than the greatest arc can be written. -/
theorem encodable_of_decode {limit : Int} {payload : List UInt8} {oid : Oid} (hlimit : limit ≤ Oid.maxArc)
    (h : decode limit payload = .ok oid) : oid.Encodable := by
  obtain ⟨-, hrooted, hwithin, -⟩ := spec_of_decode h
  refine ⟨hrooted, fun arc harc => ?_⟩
  obtain ⟨first, second, rest, rfl, hroot⟩ := hrooted
  rcases List.mem_cons.1 harc with rfl | harc
  · have hfirst : arc ≤ 2 := by
      rcases hroot with rfl | ⟨hlt, -⟩ <;> omega
    exact Nat.le_trans hfirst (by decide)
  · have := hwithin arc harc
    omega

/-- The arcs of an accepted payload are written as the payload without its padding. -/
theorem encode_of_decode {limit : Int} {payload : List UInt8} {oid : Oid} (h : decode limit payload = .ok oid) :
    encode false oid = .ok (unpadded payload) := by
  obtain ⟨-, hrooted, -, hwritten⟩ := spec_of_decode h
  exact encode_eq_ok_iff.2 ⟨hrooted, nofun, by rw [hwritten, unpadded]⟩

/-- What is decoded under a limit no greater than the greatest arc is admitted, and written again without padding. -/
theorem ofValue_of_decode {limit : Int} {payload : List UInt8} {oid : Oid} (hlimit : limit ≤ Oid.maxArc)
    (h : decode limit payload = .ok oid) : ofValue false (.list (oid.toInts.map .integer)) = .ok (unpadded payload) :=
  ofValue_integers_eq_ok_iff.2 ⟨oid, rfl, encodable_of_decode hlimit h, nofun, encode_of_decode h⟩

/-- Writing again makes a payload canonical. What is decoded under a limit no greater than the greatest arc can be written; the
payload written is the one decoded without the groups of zero in front of its subidentifiers, hence the same exactly when there are
none; and it is decoded to the same object identifier under the same limit. -/
theorem reencode_decoded {limit : Int} {payload : List UInt8} {oid : Oid} (hlimit : limit ≤ Oid.maxArc)
    (h : decode limit payload = .ok oid) :
    ofValue false (.list (oid.toInts.map .integer)) = .ok (unpadded payload) ∧
      (unpadded payload = payload ↔ ∀ g ∈ (cut payload).1, g.head? ≠ some padding) ∧
      decode limit (unpadded payload) = .ok oid := by
  obtain ⟨hrun, -, hwithin, -⟩ := spec_of_decode h
  refine ⟨ofValue_of_decode hlimit h, unpadded_eq_self_iff hrun, ?_⟩
  have hread := decode_encode limit (encodable_of_decode hlimit h) (encode_of_decode h)
  rw [if_pos hwithin] at hread
  exact mapError_eq_ok_iff.1 hread

/-- A payload with padding before its root and before its last arc is written again without it. -/
theorem reencode_decoded_padded :
    decode Oid.maxArc [0x80, 0x2b, 6, 0x80, 0x80, 0x82, 0x2c] = .ok [1, 3, 6, 300] ∧
      ofValue false (.list [.integer 1, .integer 3, .integer 6, .integer 300]) = .ok [0x2b, 6, 0x82, 0x2c] ∧
      decode Oid.maxArc [0x2b, 6, 0x82, 0x2c] = .ok [1, 3, 6, 300] := by
  have hpadded : decode Oid.maxArc [0x80, 0x2b, 6, 0x80, 0x80, 0x82, 0x2c] = .ok [1, 3, 6, 300] := by cbv
  obtain ⟨hwritten, -, hread⟩ := reencode_decoded (Int.le_refl _) hpadded
  exact ⟨hpadded, hwritten, hread⟩

end Payload

end BerOid
