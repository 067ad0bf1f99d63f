import BerOid.Proofs.RoundTrip

/-!
# Containment on the wire

An object identifier lies in the subtree of another when its arcs begin with the other's. No complete subidentifier is the beginning
of another, so this can be seen on payloads: the one begins with the bytes of the other. Frames begin with their size and are never
the beginning of each other (`prefix_on_the_wire`).
-/

namespace BerOid

/-- A sequence of complete subidentifiers begins with another, as bytes, exactly when it does as subidentifiers. -/
theorem Base128.flatten_prefix_iff {groups groups' : List (List UInt8)} (hg : ∀ g ∈ groups, IsComplete g)
    (hg' : ∀ g ∈ groups', IsComplete g) : groups.flatten <+: groups'.flatten ↔ groups <+: groups' := by
  constructor
  · rintro ⟨rest, hrest⟩
    -- the rest is cut too, and then both sides are cut in the same way
    obtain ⟨hall, hcomplete, hopen⟩ := cut_spec rest
    have hboth : ∀ g ∈ groups ++ (cut rest).1, IsComplete g := by
      intro g hmem
      exact (List.mem_append.1 hmem).elim (hg g) (hcomplete g)
    have hcut := cut_flatten_append hboth hopen
    rw [List.flatten_append, List.append_assoc, ← hall, hrest] at hcut
    have hsame := hcut.symm.trans (cut_flatten hg')
    exact ⟨(cut rest).1, congrArg Prod.fst hsame⟩
  · exact List.IsPrefix.flatten

/-- The writer gives different bytes for different numbers. -/
theorem Base128.encode_injective : Function.Injective encode := by
  intro m n h
  rw [← value_encode m, h, value_encode]

namespace Oid

/-- Different roots are merged into different numbers. -/
theorem IsRoot.merged_inj {first second first' second' : Nat} (h : IsRoot first second) (h' : IsRoot first' second')
    (heq : 40 * first + second = 40 * first' + second') : first = first' ∧ second = second' := by
  have hroot := Payload.rootArcs_merged h
  rw [heq, Payload.rootArcs_merged h', Prod.mk.injEq] at hroot
  exact ⟨hroot.1.symm, hroot.2.symm⟩

/-- One object identifier begins with another exactly when its subidentifiers begin with the other's. -/
theorem IsRooted.subidentifiers_prefix_iff {a b : Oid} (ha : a.IsRooted) (hb : b.IsRooted) :
    a.subidentifiers <+: b.subidentifiers ↔ a <+: b := by
  obtain ⟨first, second, rest, rfl, hroot⟩ := ha
  obtain ⟨first', second', rest', rfl, hroot'⟩ := hb
  have hmerged : 40 * first + second = 40 * first' + second' ↔ first = first' ∧ second = second' :=
    ⟨hroot.merged_inj hroot', by rintro ⟨rfl, rfl⟩; rfl⟩
  rw [subidentifiers, subidentifiers, List.cons_prefix_cons, List.cons_prefix_cons, List.cons_prefix_cons,
    Base128.encode_injective.eq_iff, hmerged, List.prefix_map_iff_of_injective Base128.encode_injective, and_assoc]

/-- One object identifier begins with another exactly when its subidentifiers, put end to end, begin with the other's. -/
theorem IsRooted.flatten_prefix_iff {a b : Oid} (ha : a.IsRooted) (hb : b.IsRooted) :
    a.subidentifiers.flatten <+: b.subidentifiers.flatten ↔ a <+: b :=
  (Base128.flatten_prefix_iff (fun _ => isComplete_of_mem_subidentifiers) fun _ => isComplete_of_mem_subidentifiers).trans
    (ha.subidentifiers_prefix_iff hb)

/-- Different object identifiers are written differently. -/
theorem IsRooted.flatten_inj {a b : Oid} (ha : a.IsRooted) (hb : b.IsRooted)
    (h : a.subidentifiers.flatten = b.subidentifiers.flatten) : a = b := by
  have hab : a <+: b := (ha.flatten_prefix_iff hb).1 (h ▸ List.prefix_refl _)
  have hba : b <+: a := (hb.flatten_prefix_iff ha).1 (h ▸ List.prefix_refl _)
  exact hab.eq_of_length (Nat.le_antisymm hab.length_le hba.length_le)

end Oid

/-- Containment can be seen on the wire. For any two values that have frames, the payload of the one is the beginning of the payload
of the other exactly when its arcs are the beginning of the other's. No frame is the beginning of another: with payloads below 2 to
the 32nd bytes, the frame of the one is the beginning of the frame of the other exactly when they stand for the same arcs. -/
theorem prefix_on_the_wire {v w : Value} {data data' : List UInt8} (h : Frame.ofValue false v = .ok data)
    (h' : Frame.ofValue false w = .ok data') :
    ∃ a b payload payload', Oid.ofValue v = .ok a ∧ Oid.ofValue w = .ok b ∧ Payload.ofValue false v = .ok payload ∧
      Payload.ofValue false w = .ok payload' ∧ (payload <+: payload' ↔ a <+: b) ∧
      (payload.length < 2 ^ 32 → payload'.length < 2 ^ 32 → (data <+: data' ↔ a = b)) := by
  obtain ⟨payload, hpayload⟩ := Frame.exists_payload_of_ofValue h
  obtain ⟨payload', hpayload'⟩ := Frame.exists_payload_of_ofValue h'
  obtain ⟨a, hadmitted, hencode⟩ := Payload.ofValue_eq_ok_iff.1 hpayload
  obtain ⟨b, hadmitted', hencode'⟩ := Payload.ofValue_eq_ok_iff.1 hpayload'
  obtain ⟨ha, -, rfl⟩ := Payload.encode_eq_ok_iff.1 hencode
  obtain ⟨hb, -, rfl⟩ := Payload.encode_eq_ok_iff.1 hencode'
  refine ⟨a, b, _, _, hadmitted, hadmitted', hpayload, hpayload', ha.flatten_prefix_iff hb, fun hsize hsize' => ?_⟩
  obtain ⟨f, hf, hframe⟩ := Frame.ofValue_of_ok hpayload hsize
  obtain ⟨g, hg, hframe'⟩ := Frame.ofValue_of_ok hpayload' hsize'
  rw [h, Except.ok.injEq] at hframe
  rw [h', Except.ok.injEq] at hframe'
  constructor
  · rintro ⟨rest, hrest⟩
    rw [hframe, hframe', ← List.append_nil g.bytes] at hrest
    obtain ⟨rfl, -⟩ := WireFrame.append_inj hrest
    exact ha.flatten_inj hb (hf.symm.trans hg)
  · rintro rfl
    have hsame := Frame.ofValue_congr (hpayload.trans hpayload'.symm)
    rw [h, h', Except.ok.injEq] at hsame
    rw [hsame]

/-- An identifier whose root is merged into two groups. -/
def parent : Value := .list [.integer 2, .integer 100]

/-- An identifier in its subtree. -/
def child : Value := .list [.integer 2, .integer 100, .integer 7]

/-- The payload of the child begins with the payload of the parent, but its frame does not begin with the frame of the parent. -/
theorem prefix_on_the_wire_child :
    Frame.ofValue false parent = .ok [6, 2, 0x81, 0x34] ∧ Frame.ofValue false child = .ok [6, 3, 0x81, 0x34, 7] ∧
      [0x81, 0x34] <+: ([0x81, 0x34, 7] : List UInt8) ∧ ¬[6, 2, 0x81, 0x34] <+: ([6, 3, 0x81, 0x34, 7] : List UInt8) := by
  have h : Frame.ofValue false parent = .ok [6, 2, 0x81, 0x34] := by cbv
  have h' : Frame.ofValue false child = .ok [6, 3, 0x81, 0x34, 7] := by cbv
  have hp : Payload.ofValue false parent = .ok [0x81, 0x34] := by cbv
  have hp' : Payload.ofValue false child = .ok [0x81, 0x34, 7] := by cbv
  obtain ⟨a, b, payload, payload', ha, hb, hpayload, hpayload', hpayloads, hframes⟩ := prefix_on_the_wire h h'
  rw [hp] at hpayload
  rw [hp'] at hpayload'
  cases ha
  cases hb
  cases hpayload
  cases hpayload'
  exact ⟨h, h', hpayloads.2 (by decide), fun hprefix => absurd ((hframes (by decide) (by decide)).1 hprefix) (by decide)⟩

end BerOid
