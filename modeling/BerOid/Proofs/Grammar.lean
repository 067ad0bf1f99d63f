import BerOid.Payload
import BerOid.Proofs.Results
import BerOid.Proofs.Showable
import BerOid.Proofs.Subidentifier

/-!
# The grammar of payloads

A payload is cut into items: complete subidentifiers, and an unfinished run if there is one at the end. An item may offend against
the limit or by being unfinished, and the first item has bounds of its own. The decoder accepts a payload exactly when it has an
item and none of its items offends, and otherwise refuses it for its first offence (`decode_grammar`): the value of an item only
grows while it is read, so a limit that is passed halfway through an item is passed by the whole item, and what lies behind the
first offence has no say. What is reported of a value out of range is the one at which the limit was passed (`Item.fault?`); the
refusal is raised as one out of range if that and the limit can be shown.
-/

namespace BerOid

namespace Payload

open Base128

/-! ## Items and their offences -/

/-- An item of a payload. -/
inductive Item where
  | complete (bytes : List UInt8)
  | unfinished (bytes : List UInt8)

/-- The bytes of an item. -/
def Item.bytes : Item → List UInt8
  | complete bytes => bytes
  | unfinished bytes => bytes

/-- The items that complete subidentifiers and a run behind them make; an empty run is no item. -/
def itemsOf (groups : List (List UInt8)) (run : List UInt8) : List Item :=
  groups.map .complete ++ if run = [] then [] else [.unfinished run]

/-- The items of a payload. -/
def items (payload : List UInt8) : List Item := itemsOf (cut payload).1 (cut payload).2

/-- The first two arcs that a number stands for: below 40 and below 80 the root is 0 and 1, from there on it is 2. -/
def rootArcs (v : Nat) : Nat × Nat := if v < 40 then (0, v) else if v < 80 then (1, v - 40) else (2, v - 80)

/-- The offence of an item whose value may reach a cap. An unfinished run always offends; above the cap it is its value that does. -/
def Item.offence? (cap : Int) : Item → Option DecodeKind
  | complete bytes => if (value bytes : Int) ≤ cap then none else some .outOfRange
  | unfinished bytes => if (value bytes : Int) ≤ cap then some .malformed else some .outOfRange

/-- The offence of the second arc that the first item holds. -/
def Item.secondArcOffence? (limit : Int) : Item → Option DecodeKind
  | complete bytes => if ((rootArcs (value bytes)).2 : Int) ≤ limit then none else some .outOfRange
  | unfinished _ => none

/-- The first offence of a sequence of items. To have no item is an offence too. The first item may reach 80 above the limit, and
the second arc it holds may reach the limit, as may every further item. -/
def firstOffence? (limit : Int) : List Item → Option DecodeKind
  | [] => some .malformed
  | root :: others =>
    ((root.offence? (80 + limit)).or (root.secondArcOffence? limit)).or (others.findSome? (Item.offence? limit))

/-- What is reported of an item in a payload of `size` bytes, whose value may reach a cap: the value at which that is passed, and
otherwise where an unfinished run begins, which is the last item. -/
def Item.fault? (cap : Int) (size : Nat) : Item → Option DecodeFault
  | complete bytes => (firstAbove? cap bytes).map fun v => .arcAboveLimit v cap
  | unfinished bytes =>
    some ((firstAbove? cap bytes).elim (.unfinished (size - bytes.length : Nat) size) fun v => .arcAboveLimit v cap)

/-- What is reported of the second arc that the first item holds. -/
def Item.secondArcFault? (limit : Int) : Item → Option DecodeFault
  | complete bytes => if ((rootArcs (value bytes)).2 : Int) ≤ limit then none else some (.arcAboveLimit (rootArcs (value bytes)).2 limit)
  | unfinished _ => none

/-- What is reported of the first offence of a sequence of items in a payload of `size` bytes. -/
def firstFault? (limit : Int) (size : Nat) : List Item → Option DecodeFault
  | [] => some .emptyPayload
  | root :: others =>
    ((root.fault? (80 + limit) size).or (root.secondArcFault? limit)).or (others.findSome? (Item.fault? limit size))

/-- The arcs that complete subidentifiers stand for. -/
def arcsOf : List (List UInt8) → Oid
  | [] => []
  | root :: others => (rootArcs (value root)).1 :: (rootArcs (value root)).2 :: others.map value

/-- The two ways to tell the first two arcs agree. -/
theorem splitRoot_eq (v : Nat) : splitRoot v = rootArcs v := by
  unfold splitRoot rootArcs
  by_cases h40 : v < 40
  · have h : min (v / 40) 2 = 0 := by omega
    simp [h, h40]
  · by_cases h80 : v < 80
    · have h : min (v / 40) 2 = 1 := by omega
      simp [h, h40, h80]
    · have h : min (v / 40) 2 = 2 := by omega
      simp [h, h40, h80]

/-! ## The faults of the decoder -/

/-- A fault in a buffer counts the whole buffer. -/
@[simp]
theorem bytesRead_inBuffer (offset : Int) (size : Nat) (fault : Fault) : (fault.inBuffer offset size).bytesRead = size := by
  cases fault <;> rfl

/-- The remaining arcs when the first of them can be read. -/
theorem decodeArcs_of_ok {limit : Int} {size : Nat} {bytes rest : List UInt8} {arc : Nat}
    (h : Base128.decode (some limit) bytes = .ok (arc, rest)) :
    decodeArcs limit size bytes = (decodeArcs limit size rest).map (arc :: ·) := by
  cases bytes with
  | nil => cases h
  | cons b tail =>
    rw [decodeArcs]
    split
    · rename_i fault hfault
      rw [h] at hfault
      cases hfault
    · rename_i arc' rest' hok
      rw [h] at hok
      cases hok
      rfl

/-- The remaining arcs when the first of them is refused. -/
theorem decodeArcs_of_error {limit : Int} (size : Nat) {bytes : List UInt8} {fault : Fault} (hne : bytes ≠ [])
    (h : Base128.decode (some limit) bytes = .error fault) :
    decodeArcs limit size bytes = .error (fault.inBuffer (size - bytes.length : Nat) size) := by
  cases bytes with
  | nil => exact absurd rfl hne
  | cons b tail =>
    rw [decodeArcs]
    split
    · rename_i fault' hfault
      rw [h] at hfault
      cases hfault
      rfl
    · rename_i arc rest hok
      rw [h] at hok
      cases hok

/-- Every refusal of remaining arcs counts the whole payload. -/
theorem bytesRead_of_decodeArcs {limit : Int} {size : Nat} {bytes : List UInt8} {e : DecodeError}
    (h : decodeArcs limit size bytes = .error e) : e.bytesRead = size := by
  induction hn : bytes.length using Nat.strongRecOn generalizing bytes with
  | ind n ih =>
    by_cases hne : bytes = []
    · subst hne
      rw [decodeArcs] at h
      cases h
    · cases hd : Base128.decode (some limit) bytes with
      | error fault =>
        rw [decodeArcs_of_error _ hne hd] at h
        cases h
        exact bytesRead_inBuffer _ _ _
      | ok r =>
        rw [decodeArcs_of_ok hd, map_eq_error_iff] at h
        exact ih _ (hn ▸ length_lt_of_decodeFrom hd) h rfl

/-- A payload whose first subidentifier is refused. -/
theorem decode_of_error {limit : Int} {payload : List UInt8} {fault : Fault} (hne : payload ≠ [])
    (h : Base128.decode (some (80 + limit)) payload = .error fault) :
    decode limit payload = .error (fault.inBuffer 0 payload.length) := by
  rw [decode, if_neg (by simpa using hne), h]

/-- A payload whose first subidentifier can be read. -/
theorem decode_of_ok {limit : Int} {payload rest : List UInt8} {merged : Nat}
    (h : Base128.decode (some (80 + limit)) payload = .ok (merged, rest)) :
    decode limit payload =
      if ((rootArcs merged).2 : Int) ≤ limit then
        (decodeArcs limit payload.length rest).map ((rootArcs merged).1 :: (rootArcs merged).2 :: ·)
      else .error ⟨.arcAboveLimit (rootArcs merged).2 limit, payload.length⟩ := by
  have hne : ¬payload.isEmpty := by
    intro hempty
    rw [List.isEmpty_iff.1 hempty] at h
    cases h
  rw [decode, if_neg hne, h]
  simp only [splitRoot_eq]
  by_cases hs : ((rootArcs merged).2 : Int) ≤ limit
  · rw [if_pos hs, if_neg (by omega)]
  · rw [if_neg hs, if_pos (by omega)]

/-- Every refusal of a payload counts the whole payload. -/
theorem bytesRead_of_decode {limit : Int} {payload : List UInt8} {e : DecodeError} (h : decode limit payload = .error e) :
    e.bytesRead = payload.length := by
  by_cases hne : payload = []
  · subst hne
    cases h
    rfl
  · cases hd : Base128.decode (some (80 + limit)) payload with
    | error fault =>
      rw [decode_of_error hne hd] at h
      cases h
      exact bytesRead_inBuffer _ _ _
    | ok r =>
      rw [decode_of_ok hd] at h
      split at h
      · exact bytesRead_of_decodeArcs (map_eq_error_iff.1 h)
      · cases h
        rfl

/-! ## The decoder on items -/

/-- The verdict on items of `size` bytes: the arcs if there is nothing to report, else a refusal that counts all the bytes. -/
def verdict (size : Nat) (fault? : Option DecodeFault) (arcs : List Nat) : Except DecodeError (List Nat) :=
  match fault? with
  | none => .ok arcs
  | some fault => .error ⟨fault, size⟩

/-- Changing the arcs of a verdict changes no refusal. -/
theorem verdict_map (size : Nat) (fault? : Option DecodeFault) (arcs : List Nat) (f : List Nat → List Nat) :
    (verdict size fault? arcs).map f = verdict size fault? (f arcs) := by
  cases fault? <;> rfl

/-- The verdict gives arcs exactly when there is nothing to report. -/
theorem verdict_eq_ok_iff {size : Nat} {fault? : Option DecodeFault} {arcs result : List Nat} :
    verdict size fault? arcs = .ok result ↔ fault? = none ∧ arcs = result := by
  cases fault? <;> simp [verdict]

/-- The verdict refuses for what there is to report, and counts the bytes. -/
theorem verdict_eq_error_iff {size : Nat} {fault? : Option DecodeFault} {arcs : List Nat} {e : DecodeError} :
    verdict size fault? arcs = .error e ↔ fault? = some e.fault ∧ e.bytesRead = size := by
  cases fault? with
  | none => simp [verdict]
  | some fault =>
    obtain ⟨fault', n⟩ := e
    simp [verdict, eq_comm]

/-- An unfinished run is refused for what is reported of it. -/
theorem decode_run (cap : Int) {run : List UInt8} (hr : IsOpen run) (hne : run ≠ []) :
    ∃ fault, Base128.decode (some cap) run = .error fault ∧ ∀ size,
      (Item.unfinished run).fault? cap size = some (fault.inBuffer (size - run.length : Nat) size).fault := by
  cases hv : firstAbove? cap run with
  | none =>
    refine ⟨.unfinished, (decode_open hr hne).2 ((firstAbove?_eq_none_iff hne).1 hv), fun size => ?_⟩
    simp [Item.fault?, hv, Fault.inBuffer]
  | some v =>
    refine ⟨.aboveLimit v cap, ?_, fun size => by simp [Item.fault?, hv, Fault.inBuffer]⟩
    have hread := decodeFrom_append_of_firstAbove (fun b hb => hr b (List.mem_of_mem_dropLast hb)) hv []
    rwa [List.append_nil] at hread

/-- A run that is not empty is the only item without complete subidentifiers. -/
theorem itemsOf_nil {run : List UInt8} (hne : run ≠ []) : itemsOf [] run = [.unfinished run] := by
  simp [itemsOf, hne]

/-- The items begin with the first complete subidentifier. -/
theorem itemsOf_cons (g : List UInt8) (groups : List (List UInt8)) (run : List UInt8) :
    itemsOf (g :: groups) run = .complete g :: itemsOf groups run := rfl

/-- A fault in a buffer is its cause, and counts the buffer. -/
theorem inBuffer_eq (fault : Fault) (offset : Int) (size : Nat) :
    fault.inBuffer offset size = ⟨(fault.inBuffer offset size).fault, size⟩ := by
  cases fault <;> rfl

/-- The remaining arcs are those of the items, unless there is something to report of one of these. -/
theorem decodeArcs_items {limit : Int} {size : Nat} {groups : List (List UInt8)} {run : List UInt8}
    (hg : ∀ g ∈ groups, IsComplete g) (hr : IsOpen run) :
    decodeArcs limit size (groups.flatten ++ run) =
      verdict size ((itemsOf groups run).findSome? (Item.fault? limit size)) (groups.map value) := by
  induction groups with
  | nil =>
    rw [List.flatten_nil, List.nil_append]
    by_cases hne : run = []
    · subst hne
      rw [decodeArcs]
      rfl
    · obtain ⟨fault, hd, hfault⟩ := decode_run limit hr hne
      rw [decodeArcs_of_error _ hne hd, itemsOf_nil hne, List.findSome?_cons, hfault size, inBuffer_eq]
      rfl
  | cons g groups ih =>
    have hcomplete := hg g List.mem_cons_self
    have ih := ih fun x hx => hg x (List.mem_cons_of_mem _ hx)
    rw [List.flatten_cons, List.append_assoc, itemsOf_cons, List.findSome?_cons, Item.fault?]
    cases hv : firstAbove? limit g with
    | none =>
      have hwithin := (firstAbove?_eq_none_iff hcomplete.ne_nil).1 hv
      rw [decodeArcs_of_ok (decode_complete hcomplete (allows_some.2 hwithin) _), ih, verdict_map]
      rfl
    | some v =>
      have hd := decodeFrom_append_of_firstAbove hcomplete.isOpen_dropLast hv (groups.flatten ++ run)
      rw [decodeArcs_of_error _ (by simp [hcomplete.ne_nil]) hd]
      rfl

/-- The decoder gives the arcs of the items, unless there is something to report of them. -/
theorem decode_items (limit : Int) {groups : List (List UInt8)} {run : List UInt8} (hg : ∀ g ∈ groups, IsComplete g)
    (hr : IsOpen run) :
    decode limit (groups.flatten ++ run) =
      verdict (groups.flatten ++ run).length (firstFault? limit (groups.flatten ++ run).length (itemsOf groups run))
        (arcsOf groups) := by
  generalize hsize : (groups.flatten ++ run).length = size
  cases groups with
  | nil =>
    rw [List.flatten_nil, List.nil_append] at hsize ⊢
    by_cases hne : run = []
    · subst hne
      subst hsize
      rfl
    · obtain ⟨fault, hd, hfault⟩ := decode_run (80 + limit) hr hne
      have hstart : ((size - run.length : Nat) : Int) = 0 := by omega
      rw [decode_of_error hne hd, itemsOf_nil hne, firstFault?, hfault size, hstart, hsize, inBuffer_eq]
      rfl
  | cons root others =>
    have hroot := hg root List.mem_cons_self
    have hothers : ∀ g ∈ others, IsComplete g := fun g hg' => hg g (List.mem_cons_of_mem _ hg')
    have hbytes : (root :: others).flatten ++ run = root ++ (others.flatten ++ run) := by
      rw [List.flatten_cons, List.append_assoc]
    rw [hbytes] at hsize ⊢
    rw [itemsOf_cons, firstFault?, Item.fault?, Item.secondArcFault?]
    cases hv : firstAbove? (80 + limit) root with
    | none =>
      have hwithin := (firstAbove?_eq_none_iff hroot.ne_nil).1 hv
      rw [decode_of_ok (decode_complete hroot (allows_some.2 hwithin) _), hsize]
      by_cases hs : ((rootArcs (value root)).2 : Int) ≤ limit
      · rw [if_pos hs, if_pos hs, decodeArcs_items hothers hr, verdict_map]
        rfl
      · rw [if_neg hs, if_neg hs]
        rfl
    | some v =>
      have hd := decodeFrom_append_of_firstAbove hroot.isOpen_dropLast hv (others.flatten ++ run)
      rw [decode_of_error (by simp [hroot.ne_nil]) hd, hsize]
      rfl

/-! ## Offences and what is reported of them -/

/-- What is reported of a complete item is of the kind of its offence. -/
theorem Item.kind_fault?_complete {cap : Int} {size : Nat} {g : List UInt8} (hne : g ≠ []) :
    ((complete g).fault? cap size).map DecodeFault.kind = (complete g).offence? cap := by
  rw [fault?, offence?]
  by_cases h : (value g : Int) ≤ cap
  · rw [if_pos h, (firstAbove?_eq_none_iff hne).2 h]
    rfl
  · obtain ⟨v, hv⟩ := exists_firstAbove? hne (Int.not_le.1 h)
    rw [if_neg h, hv]
    rfl

/-- What is reported of an unfinished item is of the kind of its offence. -/
theorem Item.kind_fault?_unfinished {cap : Int} {size : Nat} {run : List UInt8} (hne : run ≠ []) :
    ((unfinished run).fault? cap size).map DecodeFault.kind = (unfinished run).offence? cap := by
  rw [fault?, offence?]
  by_cases h : (value run : Int) ≤ cap
  · rw [if_pos h, (firstAbove?_eq_none_iff hne).2 h]
    rfl
  · obtain ⟨v, hv⟩ := exists_firstAbove? hne (Int.not_le.1 h)
    rw [if_neg h, hv]
    rfl

/-- What is reported of the second arc is of the kind of its offence. -/
theorem Item.kind_secondArcFault? (limit : Int) (item : Item) :
    (item.secondArcFault? limit).map DecodeFault.kind = item.secondArcOffence? limit := by
  cases item with
  | complete bytes =>
    rw [secondArcFault?, secondArcOffence?]
    split <;> rfl
  | unfinished bytes => rfl

/-- The items of complete subidentifiers and a run have bytes. -/
theorem kind_fault?_of_mem {cap : Int} (size : Nat) {groups : List (List UInt8)} {run : List UInt8}
    (hg : ∀ g ∈ groups, IsComplete g) {item : Item} (h : item ∈ itemsOf groups run) :
    (item.fault? cap size).map DecodeFault.kind = item.offence? cap := by
  rw [itemsOf, List.mem_append, List.mem_map] at h
  rcases h with ⟨g, hmem, rfl⟩ | h
  · exact Item.kind_fault?_complete (hg g hmem).ne_nil
  · by_cases hne : run = []
    · simp [hne] at h
    · rw [if_neg hne, List.mem_singleton] at h
      subst h
      exact Item.kind_fault?_unfinished hne

/-- What is reported of later items is of the kind of the first offence among them. -/
theorem kind_findSome?_fault? {cap : Int} {size : Nat} {its : List Item}
    (h : ∀ item ∈ its, (item.fault? cap size).map DecodeFault.kind = item.offence? cap) :
    (its.findSome? (Item.fault? cap size)).map DecodeFault.kind = its.findSome? (Item.offence? cap) := by
  induction its with
  | nil => rfl
  | cons item others ih =>
    have ih := ih fun item' h' => h item' (List.mem_cons_of_mem _ h')
    rw [List.findSome?_cons, List.findSome?_cons, ← h item List.mem_cons_self]
    cases item.fault? cap size with
    | none => exact ih
    | some fault => rfl

/-- What is reported of items is of the kind of their first offence. -/
theorem kind_firstFault? {limit : Int} (size : Nat) {groups : List (List UInt8)} {run : List UInt8}
    (hg : ∀ g ∈ groups, IsComplete g) :
    (firstFault? limit size (itemsOf groups run)).map DecodeFault.kind = firstOffence? limit (itemsOf groups run) := by
  have hitem : ∀ cap : Int, ∀ item ∈ itemsOf groups run, (item.fault? cap size).map DecodeFault.kind = item.offence? cap :=
    fun _ _ h => kind_fault?_of_mem size hg h
  cases hits : itemsOf groups run with
  | nil => rfl
  | cons root others =>
    rw [hits] at hitem
    rw [firstFault?, firstOffence?, Option.map_or, Option.map_or, hitem _ _ List.mem_cons_self, Item.kind_secondArcFault?,
      kind_findSome?_fault? fun item h => hitem _ _ (List.mem_cons_of_mem _ h)]

/-! ## Acceptance and refusal -/

/-- An item of whichever kind does not offend exactly when it is complete and its value is within the cap. -/
theorem Item.offence?_eq_none_iff {cap : Int} {item : Item} :
    item.offence? cap = none ↔ ∃ bytes, item = .complete bytes ∧ (value bytes : Int) ≤ cap := by
  cases item with
  | complete bytes => by_cases h : (value bytes : Int) ≤ cap <;> simp [Item.offence?, h]
  | unfinished bytes => by_cases h : (value bytes : Int) ≤ cap <;> simp [Item.offence?, h]

/-- Of items that are all under one limit none offends exactly when each is within the limit and none is unfinished. -/
theorem findSome?_offence?_eq_none_iff {limit : Int} {groups : List (List UInt8)} {run : List UInt8} :
    (itemsOf groups run).findSome? (Item.offence? limit) = none ↔ run = [] ∧ ∀ g ∈ groups, (value g : Int) ≤ limit := by
  simp only [List.findSome?_eq_none_iff, Item.offence?_eq_none_iff, itemsOf, List.mem_append, List.mem_map]
  constructor
  · intro h
    refine ⟨?_, fun g hg => ?_⟩
    · by_cases hne : run = []
      · exact hne
      · obtain ⟨bytes, hbytes, -⟩ := h (.unfinished run) (.inr (by simp [hne]))
        cases hbytes
    · obtain ⟨bytes, hbytes, hv⟩ := h (.complete g) (.inl ⟨g, hg, rfl⟩)
      cases hbytes
      exact hv
  · rintro ⟨rfl, h⟩ item (⟨g, hg, rfl⟩ | hitem)
    · exact ⟨g, rfl, h g hg⟩
    · simp at hitem

/-- Items do not offend exactly when there is a first one within its two bounds, all others are within the limit, and none is
unfinished. -/
theorem firstOffence?_eq_none_iff {limit : Int} {groups : List (List UInt8)} {run : List UInt8} :
    firstOffence? limit (itemsOf groups run) = none ↔
      ∃ root others, groups = root :: others ∧ run = [] ∧ (value root : Int) ≤ 80 + limit ∧
        ((rootArcs (value root)).2 : Int) ≤ limit ∧ ∀ g ∈ others, (value g : Int) ≤ limit := by
  cases groups with
  | nil =>
    by_cases hne : run = []
    · subst hne
      simp [itemsOf, firstOffence?]
    · rw [itemsOf_nil hne, firstOffence?, Option.or_eq_none_iff, Option.or_eq_none_iff, Item.offence?_eq_none_iff]
      simp
  | cons root others =>
    have hroot : (Item.complete root).secondArcOffence? limit = none ↔ ((rootArcs (value root)).2 : Int) ≤ limit := by
      by_cases h : ((rootArcs (value root)).2 : Int) ≤ limit <;> simp [Item.secondArcOffence?, h]
    rw [itemsOf_cons, firstOffence?, Option.or_eq_none_iff, Option.or_eq_none_iff, Item.offence?_eq_none_iff, hroot,
      findSome?_offence?_eq_none_iff]
    constructor
    · rintro ⟨⟨⟨bytes, hbytes, hv⟩, hs⟩, hrun, h⟩
      cases hbytes
      exact ⟨root, others, rfl, hrun, hv, hs, h⟩
    · rintro ⟨root', others', hcons, hrun, hv, hs, h⟩
      cases hcons
      exact ⟨⟨⟨root, rfl, hv⟩, hs⟩, hrun, h⟩

/-- The second arc is no greater than the number that stands for the first two. -/
theorem rootArcs_snd_le (merged : Nat) : (rootArcs merged).2 ≤ merged := by
  unfold rootArcs
  split
  · exact Nat.le_refl _
  · split <;> exact Nat.sub_le _ _

/-- What can be reported of items in a payload of `size` bytes: that there are none, that an unfinished one begins within the payload,
or that the value of one is above a limit. That is the given one only if the first item is within 80 above it. -/
inductive Reports (limit : Int) (size : Nat) (its : List Item) : DecodeFault → Prop where
  | empty (h : its = []) : Reports limit size its .emptyPayload
  | unfinished {bytes : List UInt8} {offset : Nat} (hmem : .unfinished bytes ∈ its) (h : offset ≤ size) :
      Reports limit size its (.unfinished offset size)
  | above {item : Item} {v : Nat} {cap : Int} (hmem : item ∈ its) (hle : v ≤ value item.bytes) (habove : cap < v)
      (hcap : cap = 80 + limit ∨ cap = limit ∧ 0 ≤ 80 + limit) : Reports limit size its (.arcAboveLimit v cap)

/-- What is reported of an item under a cap. -/
theorem Item.fault?_cases {cap : Int} {size : Nat} {item : Item} {fault : DecodeFault} (h : item.fault? cap size = some fault) :
    (∃ v, fault = .arcAboveLimit v cap ∧ cap < v ∧ v ≤ value item.bytes) ∨
      ∃ bytes, item = .unfinished bytes ∧ ∃ offset : Nat, offset ≤ size ∧ fault = .unfinished offset size := by
  cases item with
  | complete g =>
    obtain ⟨v, hv, rfl⟩ := Option.map_eq_some_iff.1 h
    exact .inl ⟨v, rfl, firstAboveFrom?_eq_some hv⟩
  | unfinished run =>
    rw [fault?, Option.some.injEq] at h
    cases hv : firstAbove? cap run with
    | none =>
      rw [hv] at h
      exact .inr ⟨run, rfl, size - run.length, Nat.sub_le _ _, h.symm⟩
    | some v =>
      rw [hv] at h
      exact .inl ⟨v, h.symm, firstAboveFrom?_eq_some hv⟩

/-- The first offence is reported. -/
theorem firstFault?_reports {limit : Int} {size : Nat} {its : List Item} {fault : DecodeFault}
    (hits : ∀ g, .complete g ∈ its → g ≠ []) (h : firstFault? limit size its = some fault) : Reports limit size its fault := by
  cases its with
  | nil =>
    cases h
    exact .empty rfl
  | cons root others =>
    have hreports {cap : Int} {item : Item} (hmem : item ∈ root :: others) (hitem : item.fault? cap size = some fault)
        (hcap : cap = 80 + limit ∨ cap = limit ∧ 0 ≤ 80 + limit) : Reports limit size (root :: others) fault := by
      rcases Item.fault?_cases hitem with ⟨v, rfl, habove, hle⟩ | ⟨bytes, rfl, offset, hle, rfl⟩
      · exact .above hmem hle habove hcap
      · exact .unfinished hmem hle
    rw [firstFault?, Option.or_eq_some_iff, Option.or_eq_some_iff, Option.or_eq_none_iff] at h
    rcases h with (h | ⟨hnone, h⟩) | ⟨⟨hnone, -⟩, h⟩
    · exact hreports List.mem_cons_self h (.inl rfl)
    all_goals
      -- the first item is complete and within its cap, which is thus not negative
      obtain ⟨g, rfl⟩ : ∃ g, root = .complete g := by
        cases root with
        | complete g => exact ⟨g, rfl⟩
        | unfinished run => cases hnone
      rw [Item.fault?, Option.map_eq_none_iff, firstAbove?_eq_none_iff (hits g List.mem_cons_self)] at hnone
    · rw [Item.secondArcFault?] at h
      split at h
      · cases h
      · cases h
        exact .above List.mem_cons_self (rootArcs_snd_le _) (by omega) (.inr ⟨rfl, by omega⟩)
    · obtain ⟨item, hmem, hitem⟩ := List.exists_of_findSome?_eq_some h
      exact hreports (List.mem_cons_of_mem _ hmem) hitem (.inr ⟨rfl, by omega⟩)

/-- The decoder gives the arcs of a payload's items, unless there is something to report of them. -/
theorem decode_eq_verdict (limit : Int) (payload : List UInt8) :
    decode limit payload = verdict payload.length (firstFault? limit payload.length (items payload)) (arcsOf (cut payload).1) := by
  obtain ⟨hall, hcomplete, hopen⟩ := cut_spec payload
  have h := decode_items limit hcomplete hopen
  rwa [← hall] at h

/-- A payload is refused for what is reported of its first offence, and counted in full. -/
theorem decode_eq_error_iff_fault {limit : Int} {payload : List UInt8} {e : DecodeError} :
    decode limit payload = .error e ↔
      firstFault? limit payload.length (items payload) = some e.fault ∧ e.bytesRead = payload.length := by
  rw [decode_eq_verdict, verdict_eq_error_iff]

/-- A payload is refused for its first offence. -/
theorem decode_eq_error_iff {limit : Int} {payload : List UInt8} {kind : DecodeKind} :
    (∃ e, decode limit payload = .error e ∧ e.fault.kind = kind) ↔ firstOffence? limit (items payload) = some kind := by
  rw [items, ← kind_firstFault? payload.length (cut_spec payload).2.1, Option.map_eq_some_iff]
  constructor
  · rintro ⟨e, he, rfl⟩
    exact ⟨e.fault, (decode_eq_error_iff_fault.1 he).1, rfl⟩
  · rintro ⟨fault, hfault, rfl⟩
    exact ⟨⟨fault, payload.length⟩, decode_eq_error_iff_fault.2 ⟨hfault, rfl⟩, rfl⟩

/-- A payload is accepted, and gives its arcs, when it has no offence. -/
theorem decode_eq_ok_iff {limit : Int} {payload : List UInt8} {oid : Oid} :
    decode limit payload = .ok oid ↔
      firstOffence? limit (items payload) = none ∧ arcsOf (cut payload).1 = oid := by
  rw [decode_eq_verdict, verdict_eq_ok_iff, items, ← kind_firstFault? payload.length (cut_spec payload).2.1,
    Option.map_eq_none_iff]

/-- A payload is refused only for what can be reported of its items. -/
theorem reports_of_decode {limit : Int} {payload : List UInt8} {e : DecodeError} (h : decode limit payload = .error e) :
    Reports limit payload.length (items payload) e.fault := by
  refine firstFault?_reports (fun g hg => ?_) (decode_eq_error_iff_fault.1 h).1
  rw [items, itemsOf, List.mem_append, List.mem_map] at hg
  rcases hg with ⟨g', hmem, hg⟩ | hg
  · cases hg
    exact ((cut_spec payload).2.1 _ hmem).ne_nil
  · split at hg <;> simp at hg

/-! ## How the refusals are raised -/

/-- A value out of range is raised as such if it and the limit that it passed can be shown. -/
theorem raised_arcAboveLimit (v : Nat) (cap : Int) :
    (DecodeFault.arcAboveLimit v cap).raised = if isShowable v ∧ isShowable cap then .outOfRange else .unshowable := by
  by_cases h : isShowable v ∧ isShowable cap
  · rw [if_pos h, DecodeFault.raised_of_isShowable (DecodeFault.isShowable_arcAboveLimit.2 h)]
    rfl
  · rw [if_neg h, DecodeFault.raised_of_not_isShowable (mt DecodeFault.isShowable_arcAboveLimit.1 h)]

/-- An unfinished run is raised as such wherever it begins in the payload. -/
theorem raised_unfinished {offset size : Nat} (h : offset ≤ size) : (DecodeFault.unfinished offset size).raised = .malformed := by
  rw [DecodeFault.raised_of_isShowable]
  · rfl
  · simp [DecodeFault.isShowable, DecodeFault.shownIntegers, h]

/-- What is reported is raised as malformed, or is a value out of range. -/
theorem Reports.raised {limit : Int} {size : Nat} {its : List Item} {fault : DecodeFault} (h : Reports limit size its fault) :
    fault.kind = .malformed ∧ fault.raised = .malformed ∨
      fault.kind = .outOfRange ∧ ∃ v cap, fault = .arcAboveLimit v cap ∧ cap < v ∧ (cap = 80 + limit ∨ cap = limit) ∧
        fault.raised = if isShowable v ∧ isShowable cap then .outOfRange else .unshowable := by
  cases h with
  | empty => exact .inl ⟨rfl, rfl⟩
  | unfinished _ h => exact .inl ⟨rfl, raised_unfinished h⟩
  | above _ _ habove hcap => exact .inr ⟨rfl, _, _, rfl, habove, hcap.imp_right And.left, raised_arcAboveLimit _ _⟩

/-- The decoder accepts exactly its grammar: a first complete subidentifier whose value is at most 80 above the limit and whose
second arc is within the limit, then complete subidentifiers within the limit, then nothing. Everything else it refuses for the
first item that offends, as a value out of range or as malformed, and with the value at which the limit was passed. As malformed the
refusal is raised in any case, as out of range if the value and the limit passed have a text; else the complaint about the digits of
these takes its place. -/
theorem decode_grammar (limit : Int) (payload : List UInt8) :
    (∀ oid, decode limit payload = .ok oid ↔
      ∃ root others, cut payload = (root :: others, []) ∧ (value root : Int) ≤ 80 + limit ∧
        ((rootArcs (value root)).2 : Int) ≤ limit ∧ (∀ g ∈ others, (value g : Int) ≤ limit) ∧
        oid = (rootArcs (value root)).1 :: (rootArcs (value root)).2 :: others.map value) ∧
    (∀ kind, (∃ e, decode limit payload = .error e ∧ e.fault.kind = kind) ↔
      firstOffence? limit (items payload) = some kind) ∧
    (∀ e, decode limit payload = .error e ↔
      firstFault? limit payload.length (items payload) = some e.fault ∧ e.bytesRead = payload.length) ∧
    ∀ e, decode limit payload = .error e →
      e.fault.kind = .malformed ∧ e.fault.raised = .malformed ∨
      e.fault.kind = .outOfRange ∧ ∃ v cap, e.fault = .arcAboveLimit v cap ∧ cap < v ∧ (cap = 80 + limit ∨ cap = limit) ∧
        e.fault.raised = if isShowable v ∧ isShowable cap then .outOfRange else .unshowable := by
  refine ⟨fun oid => ?_, fun kind => decode_eq_error_iff, fun e => decode_eq_error_iff_fault, fun e he => (reports_of_decode he).raised⟩
  rw [decode_eq_ok_iff, items, firstOffence?_eq_none_iff]
  constructor
  · rintro ⟨⟨root, others, hgroups, hrun, hv, hs, h⟩, rfl⟩
    exact ⟨root, others, Prod.ext hgroups hrun, hv, hs, h, by rw [hgroups]; rfl⟩
  · rintro ⟨root, others, hcut, hv, hs, h, rfl⟩
    rw [hcut]
    exact ⟨⟨root, others, rfl, rfl, hv, hs, h⟩, rfl⟩

/-- Behind the root 1.3 a number that is one above the limit is reported itself. -/
theorem decode_of_oneAbove {n : Nat} (hn : 4 ≤ n) :
    ∃ e, decode (n - 1 : Int) (0x2b :: Base128.encode n) = .error e ∧ e.fault = .arcAboveLimit n (n - 1) := by
  have hroot : Base128.decode (some (80 + ((n : Int) - 1))) ([0x2b] ++ Base128.encode n) = .ok (43, Base128.encode n) :=
    decode_complete (isComplete_singleton (by decide)) (allows_some.2 (by simp [value]; omega)) _
  obtain ⟨v, hv⟩ := exists_firstAbove? (l := (n : Int) - 1) (isComplete_encode n).ne_nil (by rw [value_encode]; omega)
  obtain ⟨habove, hle⟩ := firstAboveFrom?_eq_some hv
  rw [← value, value_encode] at hle
  obtain rfl : v = n := by omega
  have hread := decodeFrom_append_of_firstAbove (isComplete_encode v).isOpen_dropLast hv []
  rw [List.append_nil] at hread
  have hrest := decodeArcs_of_error (0x2b :: Base128.encode v).length (isComplete_encode v).ne_nil hread
  refine ⟨⟨.arcAboveLimit v (v - 1), (0x2b :: Base128.encode v).length⟩, ?_, rfl⟩
  rw [List.singleton_append] at hroot
  rw [decode_of_ok hroot, if_pos (by simp [rootArcs]; omega), hrest]
  rfl

/-- The least number without a text, behind a root. -/
def unshowablePayload : List UInt8 := 0x2b :: Base128.encode leastUnshowable

theorem unshowablePayload_ne_nil : unshowablePayload ≠ [] := List.cons_ne_nil _ _

/-- Under a limit that is one below it is refused neither as out of range nor as malformed. -/
theorem decode_unshowablePayload : ∃ e, decode (leastUnshowable - 1) unshowablePayload = .error e ∧ e.fault.raised = .unshowable := by
  have hlarge := pow_le_leastUnshowable (k := 1) (by decide)
  obtain ⟨e, he, hfault⟩ := decode_of_oneAbove (n := leastUnshowable) (by omega)
  have hnumber : ¬isShowable leastUnshowable := not_isShowable_iff.2 (by omega)
  exact ⟨e, he, by rw [hfault, raised_arcAboveLimit, if_neg (mt And.left hnumber)]⟩

/-- Under itself as the limit it is accepted. -/
theorem decode_unshowablePayload_self : decode leastUnshowable unshowablePayload = .ok [1, 3, leastUnshowable] := by
  have hlarge := pow_le_leastUnshowable (k := 1) (by decide)
  have hcut : cut unshowablePayload = ([[0x2b], Base128.encode leastUnshowable], []) := by
    have hgroups : ∀ g ∈ [[0x2b], Base128.encode leastUnshowable], Base128.IsComplete g :=
      List.forall_mem_cons.2 ⟨isComplete_singleton (by decide), List.forall_mem_singleton.2 (isComplete_encode _)⟩
    have h := cut_flatten hgroups
    rwa [List.flatten_cons, List.flatten_singleton, List.singleton_append] at h
  have hroot : value [0x2b] = 43 := by decide
  rw [decode_eq_ok_iff, items, hcut, firstOffence?_eq_none_iff]
  refine ⟨⟨_, _, rfl, rfl, ?_, ?_, List.forall_mem_singleton.2 ?_⟩, ?_⟩
  · rw [hroot]
    omega
  · rw [hroot, show (rootArcs 43).2 = 3 by decide]
    omega
  · rw [value_encode]
  · rw [arcsOf, hroot, List.map_singleton, value_encode]
    rfl

/-- Not every refusal of a payload is one out of range or for malformed bytes. -/
theorem refused_without_wording : ¬∀ (limit : Int) payload e, decode limit payload = .error e →
    e.fault.raised = .outOfRange ∨ e.fault.raised = .malformed := by
  intro hkinds
  obtain ⟨e, he, hraised⟩ := decode_unshowablePayload
  have hkind := hkinds _ _ e he
  rw [hraised] at hkind
  exact absurd hkind (by decide)

end Payload

end BerOid
