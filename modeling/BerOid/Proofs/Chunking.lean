import BerOid.Proofs.Framing

/-!
# Chunks do not matter

How many bytes an operation needs can be told from the bytes it reads, without running it: `Header.needed` and `Frame.needed`, and
the size asked for where that is given. `Needs` says of an operation that, whatever source delivers the bytes and in whatever
pieces, it has one and the same outcome once as many bytes are there, and otherwise takes all there are and is refused for want of
more. It is proved for gathering and kept when steps are put together, so every operation reads from a source as it reads from
memory, and learns how the source ends only when it needs more than there is (`reads_as_from_memory`). Sizes are an exception from
2 to the 63rd on: memory takes only indices.
-/

namespace BerOid

/-! ## How a source goes on behind its bytes -/

namespace DecodeFault

/-- The failure of the source from which a refusal was raised, if there was one. -/
def cause? : DecodeFault → Option String
  | sourceFailed _ _ reason => some reason
  | _ => none

/-- The refusal for want of bytes, by the way the source goes on: it is at its end, or fails for a reason. -/
def shortfall (received : Nat) (wanted : Int) : Option String → DecodeFault
  | none => .sourceEnded received wanted
  | some reason => .sourceFailed received wanted reason

@[simp]
theorem kind_shortfall (received : Nat) (wanted : Int) (ending : Option String) :
    (shortfall received wanted ending).kind = .shortRead := by
  cases ending <;> rfl

/-- The want of a number of bytes that has a text is raised as such. -/
theorem raised_shortfall {received : Nat} {wanted : Int} {ending : Option String} (h : BerOid.isShowable wanted) :
    (shortfall received wanted ending).raised = .shortRead := by
  rw [raised_of_isShowable, kind_shortfall]
  cases ending <;> simpa [isShowable, shortfall, shownIntegers] using h

@[simp]
theorem cause?_shortfall (received : Nat) (wanted : Int) (ending : Option String) :
    (shortfall received wanted ending).cause? = ending := by
  cases ending <;> rfl

end DecodeFault

namespace Source

/-- The pieces have no byte for the next request: there are none, the next is empty, or it is a failure. -/
inductive Stops : List Piece → Option String → Prop
  | ended : Stops [] none
  | empty (more : List Piece) : Stops (.bytes [] :: more) none
  | failed (reason : String) (more : List Piece) : Stops (.failure reason :: more) (some reason)

/-- The source answers each of the requests with bytes, and is then the other source. -/
inductive Serves : Source → List Int → Source → Prop
  | nil (s : Source) : Serves s [] s
  | cons {s t u : Source} {size : Int} {got : List UInt8} {more : List Int} (hread : s.read size = (.ok got, t))
      (hgot : got ≠ []) (hmore : Serves t more u) : Serves s (size :: more) u

/-- Requests that are all answered with bytes can be put together. -/
theorem Serves.append {s t u : Source} {sizes more : List Int} (h : s.Serves sizes t) (h' : t.Serves more u) :
    s.Serves (sizes ++ more) u := by
  induction h with
  | nil => exact h'
  | cons hread hgot _ ih => exact .cons hread hgot (ih h')

/-- The answer of a source that has no byte for the request. -/
theorem Stops.read {s : Source} {last : List Piece} {ending : Option String} (h : Stops last ending) (hs : s.pieces = last)
    {size : Int} (htakes : s.takes size) :
    s.read size = (ending.elim (.ok []) fun reason => .error (.failed reason), { s with pieces := last.tail }) := by
  rw [read_of_takes htakes]
  obtain ⟨pieces, chunk, overDelivers, takesIndices⟩ := s
  subst hs
  cases h <;> simp [answer]

/-- The first piece behind the bytes has none itself. -/
theorem Stops.flatMap_tail {last : List Piece} {ending : Option String} (h : Stops last ending) :
    last.flatMap Piece.content = last.tail.flatMap Piece.content := by
  cases h <;> rfl

/-- Without bytes to deliver a source is what is behind them. -/
theorem Delivers.pieces_eq {s : Source} {last : List Piece} (h : s.Delivers [] last) : s.pieces = last := by
  obtain ⟨parts, hparts, hdata, hpieces⟩ := h.cuts
  cases parts with
  | nil => exact hpieces
  | cons part parts =>
    have hpart := hparts part List.mem_cons_self
    rw [List.flatten_cons, List.append_eq_nil_iff] at hdata
    exact absurd hdata.1 hpart

/-- How a source answers that delivers bytes: with some of them, or with what is behind if it delivers none. -/
inductive Replies (data : List UInt8) (last : List Piece) : Option String → Except ReadFault (List UInt8) × Source → Prop where
  | failed {reason : String} {t : Source} (hdata : data = []) (ht : t.pieces = last.tail) :
      Replies data last (some reason) (.error (.failed reason), t)
  | ended {t : Source} (hdata : data = []) (ht : t.pieces = last.tail) : Replies data last none (.ok [], t)
  | given {ending : Option String} {got rest : List UInt8} {t : Source} (hgot : got ≠ []) (hdata : data = got ++ rest)
      (ht : t.Delivers rest last) : Replies data last ending (.ok got, t)

/-- A source that delivers bytes answers every positive size that it takes. -/
theorem Delivers.replies {s : Source} {data : List UInt8} {last : List Piece} {ending : Option String}
    (hs : s.Delivers data last) (hl : Stops last ending) {size : Int} (hsize : 0 < size) (htakes : s.takes size) :
    Replies data last ending (s.read size) := by
  by_cases hdata : data = []
  · subst hdata
    rw [hl.read hs.pieces_eq htakes]
    cases ending with
    | none => exact .ended rfl rfl
    | some reason => exact .failed rfl rfl
  · obtain ⟨got, rest, t, hread, hgot, hdata, ht⟩ := hs.read hsize htakes hdata
    rw [hread]
    exact .given hgot hdata ht

end Source

/-! ## Needs of operations -/

open Source Reading

/-- The operation needs `n` of the bytes that a source delivers. If they are there it has the outcome, the requests are all
answered with bytes, and the source still delivers what is behind. If not, it takes all there are and is refused for want of more,
of a number of bytes that has a text. Both hold for every source that delivers the bytes, whatever its pieces and its chunks; `before`
bytes were taken earlier. -/
structure Needs {α : Type} (before : Nat) (op : Source → Reading α) (data : List UInt8) (n : Nat)
    (outcome : Except DecodeError α) : Prop where
  enough : n ≤ data.length → ∀ {s : Source} {last : List Piece}, s.Delivers data last →
    (op s).outcome = outcome ∧ s.Serves (op s).requests (op s).rest ∧ (op s).rest.Delivers (data.drop n) last
  short : data.length < n → ∃ (received : Nat) (wanted : Int), isShowable wanted ∧
    ∀ {s : Source} {last : List Piece} {ending : Option String}, s.Delivers data last → Stops last ending →
      (op s).outcome = .error ⟨.shortfall received wanted ending, before + data.length⟩ ∧ (op s).rest.pieces = last.tail

namespace Needs

variable {α β : Type} {before n : Nat} {op : Source → Reading α} {data : List UInt8} {outcome : Except DecodeError α}

/-- What makes no request needs no bytes. -/
theorem idle (h : ∀ s, (op s).outcome = outcome ∧ (op s).requests = [] ∧ (op s).rest = s) : Needs before op data 0 outcome := by
  refine ⟨fun _ s last hs => ?_, fun hshort => absurd hshort (Nat.not_lt_zero _)⟩
  obtain ⟨ho, hrequests, hrest⟩ := h s
  rw [hrequests, hrest]
  exact ⟨ho, .nil s, hs⟩

theorem done (before : Nat) (data : List UInt8) (a : α) : Needs before (Reading.done a) data 0 (.ok a) :=
  .idle fun _ => ⟨rfl, rfl, rfl⟩

theorem fail (before : Nat) (data : List UInt8) (e : DecodeError) : Needs before (Reading.fail (α := α) e) data 0 (.error e) :=
  .idle fun _ => ⟨rfl, rfl, rfl⟩

/-- Changing the result does not change what is needed for it. -/
theorem map (h : Needs before op data n outcome) (f : α → β) :
    Needs before (fun s => (op s).map f) data n (outcome.map f) := by
  refine ⟨fun hn s last hs => ?_, fun hn => ?_⟩
  · obtain ⟨ho, hserves, hrest⟩ := h.enough hn hs
    exact ⟨by rw [Reading.map, ho], hserves, hrest⟩
  · obtain ⟨received, wanted, hshown, hshort⟩ := h.short hn
    refine ⟨received, wanted, hshown, fun hs hl => ?_⟩
    obtain ⟨ho, hrest⟩ := hshort hs hl
    exact ⟨by rw [Reading.map, ho]; rfl, hrest⟩

/-- Bytes taken before are counted in the outcome and in the refusal for want of bytes alike. -/
theorem after (h : Needs before op data n outcome) (m : Nat) :
    Needs (m + before) (fun s => (op s).after m) data n (outcome.mapError (·.after m)) := by
  refine ⟨fun hn s last hs => ?_, fun hn => ?_⟩
  · obtain ⟨ho, hserves, hrest⟩ := h.enough hn hs
    exact ⟨by rw [Reading.after, ho], hserves, hrest⟩
  · obtain ⟨received, wanted, hshown, hshort⟩ := h.short hn
    refine ⟨received, wanted, hshown, fun hs hl => ?_⟩
    obtain ⟨ho, hrest⟩ := hshort hs hl
    exact ⟨by rw [Reading.after, ho, Nat.add_assoc]; rfl, hrest⟩

/-- The needs of two steps add up, if the second is taken at all. -/
theorem andThen {a : α} {next : α → Source → Reading β} {m : Nat} {outcome : Except DecodeError β}
    (h : Needs before op data n (.ok a))
    (hnext : n ≤ data.length → Needs (before + n) (next a) (data.drop n) m outcome) :
    Needs before (fun s => (op s).andThen next) data (n + m) outcome := by
  refine ⟨fun hn s last hs => ?_, fun hn => ?_⟩
  · obtain ⟨ho, hserves, hrest⟩ := h.enough (by omega) hs
    obtain ⟨ho', hserves', hrest'⟩ := (hnext (by omega)).enough (by rw [List.length_drop]; omega) hrest
    simp only [Reading.andThen, ho]
    rw [List.drop_drop] at hrest'
    exact ⟨ho', hserves.append hserves', hrest'⟩
  · by_cases hfirst : data.length < n
    · obtain ⟨received, wanted, hshown, hshort⟩ := h.short hfirst
      refine ⟨received, wanted, hshown, fun hs hl => ?_⟩
      obtain ⟨ho, hrest⟩ := hshort hs hl
      simp only [Reading.andThen, ho]
      exact ⟨trivial, hrest⟩
    · have hle : n ≤ data.length := by omega
      obtain ⟨received, wanted, hshown, hshort⟩ := (hnext hle).short (by rw [List.length_drop]; omega)
      refine ⟨received, wanted, hshown, fun hs hl => ?_⟩
      obtain ⟨ho, -, hrest⟩ := h.enough hle hs
      obtain ⟨ho', hrest'⟩ := hshort hrest hl
      have hall : before + n + (data.drop n).length = before + data.length := by
        rw [List.length_drop]
        omega
      rw [hall] at ho'
      simp only [Reading.andThen, ho]
      exact ⟨ho', hrest'⟩

/-- A refusal ends the operation. -/
theorem andThen_of_error {e : DecodeError} {next : α → Source → Reading β} (h : Needs before op data n (.error e)) :
    Needs before (fun s => (op s).andThen next) data n (.error e) := by
  refine ⟨fun hn s last hs => ?_, fun hn => ?_⟩
  · obtain ⟨ho, hserves, hrest⟩ := h.enough hn hs
    simp only [Reading.andThen, ho]
    exact ⟨trivial, hserves, hrest⟩
  · obtain ⟨received, wanted, hshown, hshort⟩ := h.short hn
    refine ⟨received, wanted, hshown, fun hs hl => ?_⟩
    obtain ⟨ho, hrest⟩ := hshort hs hl
    simp only [Reading.andThen, ho]
    exact ⟨trivial, hrest⟩

end Needs

/-! ## Gathering -/

namespace Source

/-- When gathering has a result, every request was answered with bytes. -/
theorem serves_gather {wanted : Int} {s : Source} {bytes : List UInt8} (h : (s.gather wanted).outcome = .ok bytes) :
    s.Serves (s.gather wanted).requests (s.gather wanted).rest := by
  have hrun := gatherFrom_run wanted (motive := fun _ s r => ∀ bytes, r.outcome = .ok bytes → s.Serves r.requests r.rest)
  refine hrun ?done ?failed ?ended ?more 0 s bytes h
  case done => exact fun _ s _ _ _ => .nil s
  case failed => exact fun _ _ _ _ _ _ _ hbytes => nomatch hbytes
  case ended => exact fun _ _ _ _ _ _ hbytes => nomatch hbytes
  case more =>
    intro received s t got r _ hread hgot ih bytes hbytes
    obtain ⟨others, hothers, -⟩ := map_eq_ok_iff.1 hbytes
    exact .cons hread hgot (ih others hothers)

/-- A source that takes a number of bytes for a size takes what is missing of it. -/
theorem takes_missing {s : Source} {wanted : Int} (hsize : s.takesIndices → wanted < leastOversized) (received : Nat) :
    s.takes (wanted - received) := by
  by_cases hindices : s.takesIndices
  · exact takes_of_lt (by have := hsize hindices; omega)
  · simp [takes, hindices]

/-- Gathering more than a source delivers takes all of that, and is then refused for what is behind. -/
theorem gather_short {wanted : Int} {s : Source} {data : List UInt8} {last : List Piece} {ending : Option String}
    (hs : s.Delivers data last) (hl : Stops last ending) (hshort : (data.length : Int) < wanted)
    (hsize : s.takesIndices → wanted < leastOversized) :
    (s.gather wanted).outcome = .error ⟨.shortfall data.length wanted ending, data.length⟩ ∧
      (s.gather wanted).rest.pieces = last.tail := by
  -- at every point of the run the source delivers what has not come yet, and more than that is missing
  have hrun := gatherFrom_run wanted (motive := fun received s r => ∀ coming, s.Delivers coming last →
    (s.takesIndices → wanted < leastOversized) → received + coming.length = data.length →
      r.outcome = .error ⟨.shortfall data.length wanted ending, data.length⟩ ∧ r.rest.pieces = last.tail)
  refine hrun ?done ?failed ?ended ?more 0 s data hs hsize (Nat.zero_add _)
  case done =>
    intro received s hle coming _ _ hlen
    omega
  case failed =>
    intro received s t fault hlt hread coming hs hsize hlen
    have hreply := hs.replies hl (Int.sub_pos.2 hlt) (takes_missing hsize received)
    rw [hread] at hreply
    cases hreply with
    | failed hdata ht =>
      subst hdata
      rw [← hlen]
      exact ⟨rfl, ht⟩
  case ended =>
    intro received s t hlt hread coming hs hsize hlen
    have hreply := hs.replies hl (Int.sub_pos.2 hlt) (takes_missing hsize received)
    rw [hread] at hreply
    cases hreply with
    | ended hdata ht =>
      subst hdata
      rw [← hlen]
      exact ⟨rfl, ht⟩
    | given hgot => exact absurd rfl hgot
  case more =>
    intro received s t got r hlt hread hgot ih coming hs hsize hlen
    obtain ⟨-, -, hindices, -⟩ := read_ok hread
    have hreply := hs.replies hl (Int.sub_pos.2 hlt) (takes_missing hsize received)
    rw [hread] at hreply
    cases hreply with
    | ended => exact absurd rfl hgot
    | given _ hdata ht =>
      subst hdata
      obtain ⟨ho, hrest⟩ := ih _ ht (by rwa [hindices]) (by rw [← hlen, List.length_append]; omega)
      exact ⟨by rw [proceed, ho]; rfl, hrest⟩

/-- Gathering needs the bytes wanted, if these are a size for every source. -/
theorem gather_needs {wanted : Int} (hsize : wanted < leastOversized) (data : List UInt8) :
    Needs 0 (gather wanted) data wanted.toNat (.ok (data.take wanted.toNat)) := by
  refine ⟨fun hn s last hs => ?_, fun hn => ⟨data.length, wanted, ?_, fun {s last ending} hs hl => ?_⟩⟩
  · by_cases hw : 0 ≤ wanted
    · have hfront : ((data.take wanted.toNat).length : Int) = wanted := by
        rw [List.length_take]
        omega
      have hs' : s.Delivers (data.take wanted.toNat ++ data.drop wanted.toNat) last := by
        rw [List.take_append_drop]
        exact hs
      have hyields := gather_yields hs'
      rw [hfront] at hyields
      exact ⟨hyields.outcome_eq, serves_gather hyields.outcome_eq, hyields.delivers⟩
    · have hnone : s.gather wanted = .done [] s := by
        rw [gather, gatherFrom, if_neg (by omega)]
      have hzero : wanted.toNat = 0 := by omega
      rw [hnone, hzero]
      exact ⟨rfl, .nil s, hs⟩
  · obtain ⟨n, rfl⟩ := Int.eq_ofNat_of_zero_le (show 0 ≤ wanted by omega)
    rw [leastOversized] at hsize
    exact isShowable_of_lt_index (by omega)
  · rw [Nat.zero_add]
    exact gather_short hs hl (by omega) fun _ => hsize

/-- Gathering more than an index from memory is refused for the size, and takes nothing. -/
theorem gather_ofBytes_of_oversized {wanted : Int} {data : List UInt8} (hsize : leastOversized ≤ wanted)
    (hdata : (data.length : Int) < leastOversized) :
    (ofBytes data).gather wanted = ⟨.error ⟨.oversized wanted, 0⟩, [wanted], [], ofBytes data⟩ := by
  have hpos : (0 : Int) < wanted := Int.lt_of_lt_of_le (by decide) hsize
  have htakes : ¬(ofBytes data).takes wanted := by
    simp only [takes, pending_ofBytes, Bool.or_eq_true, Bool.not_eq_true', decide_eq_true_eq, not_or]
    exact ⟨⟨by simp [ofBytes], by omega⟩, by omega⟩
  rw [gather, gatherFrom]
  simp only [Int.natCast_zero, if_pos hpos, Int.sub_zero, read_of_not_takes htakes, ReadFault.cause, ReadFault.notes]

end Source

/-! ## Headers, payloads and frames -/

namespace Length

/-- The bytes that a length needs: its first, and as many more as a long form that is read calls for. -/
def needed : List UInt8 → Nat
  | [] => 1
  | first :: _ => if 128 < first.toNat ∧ first.toNat ≤ 128 + maxLengthOctets then 1 + (first.toNat - 128) else 1

/-- The length at the front of the bytes behind a tag, zero if it is not of a form that is read. -/
def atFront : List UInt8 → Nat
  | [] => 0
  | first :: rest =>
    if first.toNat < 128 then first.toNat
    else if first.toNat ≤ 128 + maxLengthOctets then ofOctets (rest.take (first.toNat - 128))
    else 0

/-- A length that is read has at most four octets. -/
theorem atFront_lt (data : List UInt8) : atFront data < 2 ^ 32 := by
  unfold atFront
  split
  · decide
  · rename_i first rest
    split
    · omega
    · split
      · rename_i hmax
        have hlt := ofOctets_lt (rest.take (first.toNat - 128))
        have hlength : (rest.take (first.toNat - 128)).length ≤ maxLengthOctets := by
          rw [List.length_take]
          omega
        exact Nat.lt_of_lt_of_le hlt (Nat.pow_le_pow_right (by decide) hlength)
      · decide

end Length

namespace Header

/-- The bytes that a header needs: one if the tag continues, else the tag and its length. -/
def needed : List UInt8 → Nat
  | [] => 1
  | tag :: rest => if tag.toNat % 32 = 31 then 1 else 1 + Length.needed rest

theorem readByte_needs (data : List UInt8) : Needs 0 readByte data 1 (.ok (data.headD 0)) := by
  have h := (Source.gather_needs (show (1 : Int) < Source.leastOversized by decide) data).map (·.headD 0)
  have hhead : (data.take 1).headD 0 = data.headD 0 := by cases data <;> rfl
  rw [← hhead]
  exact h

/-- A length needs its bytes. With them it completes the header, or is refused and then not counted. -/
theorem readLength_needs (tag : UInt8) (data : List UInt8) :
    Needs 1 (readLength tag) data (Length.needed data) (.ok ⟨tag, Length.atFront data, 1 + Length.needed data⟩) ∨
      ∃ e, Needs 1 (readLength tag) data (Length.needed data) (.error e) ∧ Length.atFront data = 0 := by
  obtain ⟨behind, hread, hbehind⟩ := readLength_spec tag
  rw [funext hread]
  cases data with
  | nil =>
    have hfirst : Needs 1 (fun s => (readByte s).after 1) [] 1 (.ok 0) := (readByte_needs []).after 1
    exact .inl (hfirst.andThen (m := 0) fun h => absurd h (by decide))
  | cons first rest =>
    have hfirst : Needs 1 (fun s => (readByte s).after 1) (first :: rest) 1 (.ok first) := (readByte_needs _).after 1
    have hnext {m outcome} (h : Needs 2 (behind first) rest m outcome) :
        Needs 1 (fun s => ((readByte s).after 1).andThen behind) (first :: rest) (1 + m) outcome := hfirst.andThen fun _ => h
    rw [Length.needed, Length.atFront]
    rcases hbehind first with ⟨hshort, heq⟩ | ⟨hzero, heq⟩ | ⟨hwide, heq⟩ | ⟨count, hpos, hmax, hcount, heq⟩ <;>
      rw [heq] at hnext
    · rw [if_neg (by omega), if_pos hshort]
      exact .inl (hnext (.done _ _ _))
    · rw [if_neg (by omega), if_neg (by omega), if_pos (by omega), hzero]
      exact .inr ⟨_, hnext (.fail _ _ _), rfl⟩
    · rw [if_neg (by omega), if_neg (by omega), if_neg (by omega)]
      exact .inr ⟨_, hnext (.fail _ _ _), rfl⟩
    · have hsize : first.toNat - 128 = count := by omega
      rw [if_pos (by omega), if_neg (by omega), if_pos (by omega), hsize, ← Nat.add_assoc]
      simp only [maxLengthOctets] at hmax
      have hindex : (count : Int) < Source.leastOversized := by rw [Source.leastOversized]; omega
      exact .inl (hnext (((Source.gather_needs hindex rest).after 2).map _))

/-- A header needs its tag and its length. With them it is read, or is refused, and then its length is not counted behind the tag of
object identifiers. -/
theorem read_needs (data : List UInt8) :
    Needs 0 read data (needed data) (.ok ⟨data.headD 0, Length.atFront data.tail, needed data⟩) ∨
      ∃ e, Needs 0 read data (needed data) (.error e) ∧ ((data.headD 0).toNat = oidTag → Length.atFront data.tail = 0) := by
  cases data with
  | nil =>
    have htag : Needs 0 readByte [] 1 (.ok 0) := readByte_needs []
    exact .inl (htag.andThen (m := 0) fun h => absurd h (by decide))
  | cons tag rest =>
    have htag : Needs 0 readByte (tag :: rest) 1 (.ok tag) := readByte_needs _
    by_cases hmulti : tag.toNat % 32 = 31
    · have hneeded : needed (tag :: rest) = 1 := if_pos hmulti
      rw [hneeded]
      refine .inr ⟨⟨.multiByteTag tag, 1⟩, htag.andThen (m := 0) fun _ => ?_, fun hoid => ?_⟩
      · simp only [if_pos hmulti]
        exact .fail _ _ _
      · rw [List.headD_cons] at hoid
        rw [hoid] at hmulti
        exact absurd hmulti (by decide)
    · have hneeded : needed (tag :: rest) = 1 + Length.needed rest := if_neg hmulti
      have hread : ∀ {outcome}, Needs 1 (readLength tag) rest (Length.needed rest) outcome →
          Needs 0 read (tag :: rest) (1 + Length.needed rest) outcome := by
        intro outcome hlength
        refine htag.andThen fun _ => ?_
        simp only [if_neg hmulti]
        exact hlength
      rw [hneeded]
      rcases readLength_needs tag rest with hlength | ⟨e, hlength, hzero⟩
      · exact .inl (hread hlength)
      · exact .inr ⟨e, hread hlength, fun _ => hzero⟩

theorem exists_read_needs (data : List UInt8) : ∃ outcome, Needs 0 read data (needed data) outcome := by
  rcases read_needs data with h | ⟨e, h, -⟩
  · exact ⟨_, h⟩
  · exact ⟨_, h⟩

end Header

namespace Payload

/-- Bytes that were taken are decoded without a request. -/
theorem decodeTaken_needs (before : Nat) (limit length : Int) (payload behind : List UInt8) :
    ∃ outcome, Needs before (decodeTaken limit length payload) behind 0 outcome := by
  unfold decodeTaken
  cases decode limit payload with
  | ok oid => exact ⟨_, .done _ _ _⟩
  | error e => exact ⟨.error e, .idle fun _ => ⟨rfl, rfl, rfl⟩⟩

/-- A payload needs the length asked for, if that is positive and a size for every source. -/
theorem read_needs (limit : Int) {length : Int} (hsize : length < Source.leastOversized) (data : List UInt8) :
    ∃ outcome, Needs 0 (read limit length) data length.toNat outcome := by
  unfold read
  by_cases hpos : length ≤ 0
  · have hzero : length.toNat = 0 := by omega
    simp only [if_pos hpos, hzero]
    exact ⟨_, .fail _ _ _⟩
  · simp only [if_neg hpos]
    obtain ⟨outcome, hdecode⟩ :=
      decodeTaken_needs (0 + length.toNat) limit length (data.take length.toNat) (data.drop length.toNat)
    exact ⟨outcome, (Source.gather_needs hsize data).andThen (m := 0) fun _ => hdecode⟩

/-- A payload of more bytes than an index is refused for its length by memory. -/
theorem read_ofBytes_of_oversized (limit : Int) {length : Int} {data : List UInt8} (hsize : Source.leastOversized ≤ length)
    (hdata : (data.length : Int) < Source.leastOversized) :
    read limit length (.ofBytes data) = ⟨.error ⟨.oversized length, 0⟩, [length], [], .ofBytes data⟩ := by
  have hpos : ¬length ≤ 0 := Int.not_le.2 (Int.lt_of_lt_of_le (by decide) hsize)
  rw [read, if_neg hpos, Source.gather_ofBytes_of_oversized hsize hdata]
  rfl

end Payload

namespace Frame

/-- The bytes that a frame needs: those of its header, and behind the tag of object identifiers as many as the length gives. -/
def needed : List UInt8 → Nat
  | [] => 1
  | tag :: rest => Header.needed (tag :: rest) + if tag.toNat = oidTag then Length.atFront rest else 0

/-- A frame needs its header and its payload. -/
theorem read_needs (limit : Int) (data : List UInt8) : ∃ outcome, Needs 0 (read limit) data (needed data) outcome := by
  have hneeded : needed data = Header.needed data + if (data.headD 0).toNat = oidTag then Length.atFront data.tail else 0 := by
    cases data <;> rfl
  rw [hneeded]
  by_cases htag : (data.headD 0).toNat = oidTag
  · rw [if_pos htag]
    rcases Header.read_needs data with hheader | ⟨e, hheader, hzero⟩
    · have hlength := Length.atFront_lt data.tail
      have hindex : (Length.atFront data.tail : Int) < Source.leastOversized := by rw [Source.leastOversized]; omega
      obtain ⟨outcome, hpayload⟩ := Payload.read_needs limit hindex (data.drop (Header.needed data))
      rw [Int.toNat_natCast] at hpayload
      refine ⟨(outcome.mapError (·.after (Header.needed data))).map fun result => (result.1, Header.needed data + result.2),
        hheader.andThen fun _ => ?_⟩
      simp only [htag, ne_eq, not_true_eq_false, if_false]
      rw [Nat.zero_add]
      exact (hpayload.after (Header.needed data)).map _
    · rw [hzero htag]
      exact ⟨_, hheader.andThen_of_error⟩
  · rw [if_neg htag]
    rcases Header.read_needs data with hheader | ⟨e, hheader, -⟩
    · refine ⟨.error ⟨.foreignTag (data.headD 0), Header.needed data⟩, hheader.andThen fun _ => ?_⟩
      simp only [ne_eq, htag, not_false_eq_true, if_true]
      exact .fail _ _ _
    · exact ⟨_, hheader.andThen_of_error⟩

end Frame

/-! ## Sources and memory -/

namespace Reading

/-- The reading from a source goes as the reading from memory. Both have the same result, or refusals that are raised as the same and
tell the same number of bytes, and both have taken the same bytes. If no more bytes are needed than are delivered, the two agree on a
refusal in full, every request was answered with bytes, and what is behind the bytes delivered is still there. If more are needed,
the refusal is one for want of bytes: raised from the failure of the source if that is how it ends, else the same as from memory. -/
structure LikeMemory {α : Type} (needed : Nat) (s : Source) (data : List UInt8) (last : List Piece) (ending : Option String)
    (r memory : Reading α) : Prop where
  told_eq : r.outcome.mapError (fun e => (e.fault.raised, e.told?)) =
    memory.outcome.mapError fun e => (e.fault.raised, e.told?)
  taken_eq : ∃ taken, s.pending = taken ++ r.rest.pending ∧ data = taken ++ memory.rest.pending
  enough : needed ≤ data.length →
    r.outcome = memory.outcome ∧ s.Serves r.requests r.rest ∧ r.rest.Delivers (data.drop needed) last
  short : data.length < needed → ∃ e, r.outcome = .error e ∧ e.fault.raised = .shortRead ∧ e.fault.cause? = ending ∧
    (ending = none → memory.outcome = .error e)

end Reading

/-- Memory delivers its bytes, and is then at its end. -/
theorem Source.ofBytes_delivers (data : List UInt8) :
    ∃ last, (ofBytes data).Delivers data last ∧ Stops last none ∧ last.tail = [] := by
  by_cases hdata : data = []
  · subst hdata
    exact ⟨[.bytes []], ⟨rfl, nofun, [], by simp, rfl, rfl⟩, .empty [], rfl⟩
  · exact ⟨[], delivers_ofBytes hdata, .ended, rfl⟩

/-- An operation with needs reads from a source as it reads from memory. -/
theorem Needs.likeMemory {α : Type} {op : Source → Reading α} {data : List UInt8} {n : Nat} {outcome : Except DecodeError α}
    (h : Needs 0 op data n outcome) {s : Source} {last : List Piece} {ending : Option String} (hs : s.Delivers data last)
    (hl : Stops last ending) : (op s).LikeMemory n s data last ending (op (.ofBytes data)) := by
  obtain ⟨last', hm, hl', htail'⟩ := ofBytes_delivers data
  have hbehind' : last'.flatMap Piece.content = [] := by rw [hl'.flatMap_tail, htail', List.flatMap_nil]
  by_cases hn : n ≤ data.length
  · obtain ⟨ho, hserves, hrest⟩ := h.enough hn hs
    obtain ⟨ho', -, hrest'⟩ := h.enough hn hm
    refine ⟨by rw [ho, ho'], ⟨data.take n, ?_, ?_⟩, fun _ => ⟨by rw [ho, ho'], hserves, hrest⟩, fun hshort => by omega⟩
    · rw [hs.pending_eq, hrest.pending_eq, ← List.append_assoc, List.take_append_drop]
    · rw [hrest'.pending_eq, hbehind', List.append_nil, List.take_append_drop]
  · obtain ⟨received, wanted, hshown, hshort⟩ := h.short (by omega)
    obtain ⟨ho, hrest⟩ := hshort hs hl
    obtain ⟨ho', hrest'⟩ := hshort hm hl'
    refine ⟨?_, ⟨data, ?_, ?_⟩, fun henough => absurd henough hn, fun _ => ⟨_, ho, ?_, ?_, ?_⟩⟩
    · rw [ho, ho']
      simp [Except.mapError, DecodeError.told?, DecodeFault.raised_shortfall hshown]
    · rw [hs.pending_eq, hl.flatMap_tail, pending, hrest]
    · rw [pending, hrest', htail', List.flatMap_nil, List.append_nil]
    · exact DecodeFault.raised_shortfall hshown
    · exact DecodeFault.cause?_shortfall _ _ _
    · rintro rfl
      exact ho'

/-- Chunks do not matter. From a source that delivers bytes in non-empty pieces, cut anywhere and answered in chunks of any size,
and that behind them is at its end or fails, gathering and the reading of headers, payloads and frames go as they do from memory,
if the size or length asked for is one that memory takes. How the source ends is learnt only when more bytes are needed than it
delivers. A size that is no index is refused by memory, whatever it holds, and taken by a source that takes any size, which is then
refused for want of bytes. -/
theorem reads_as_from_memory {s : Source} {data : List UInt8} {last : List Piece} {ending : Option String}
    (h : s.Delivers data last) (hl : Stops last ending) (size length limit : Int) :
    (size < leastOversized →
      (s.gather size).LikeMemory size.toNat s data last ending ((ofBytes data).gather size)) ∧
    (Header.read s).LikeMemory (Header.needed data) s data last ending (Header.read (.ofBytes data)) ∧
    (length < leastOversized →
      (Payload.read limit length s).LikeMemory length.toNat s data last ending (Payload.read limit length (.ofBytes data))) ∧
    (Frame.read limit s).LikeMemory (Frame.needed data) s data last ending (Frame.read limit (.ofBytes data)) ∧
    ((data.length : Int) < leastOversized → leastOversized ≤ size →
      (ofBytes data).gather size = ⟨.error ⟨.oversized size, 0⟩, [size], [], ofBytes data⟩ ∧
      Payload.read limit size (.ofBytes data) = ⟨.error ⟨.oversized size, 0⟩, [size], [], ofBytes data⟩ ∧
      (s.takesIndices = false →
        (s.gather size).outcome = .error ⟨.shortfall data.length size ending, data.length⟩)) := by
  obtain ⟨_, hheader⟩ := Header.exists_read_needs data
  obtain ⟨_, hframe⟩ := Frame.read_needs limit data
  refine ⟨fun hsize => (gather_needs hsize data).likeMemory h hl, hheader.likeMemory h hl, fun hlength => ?_,
    hframe.likeMemory h hl, fun hdata hsize => ⟨gather_ofBytes_of_oversized hsize hdata,
      Payload.read_ofBytes_of_oversized limit hsize hdata, fun hany => ?_⟩⟩
  · obtain ⟨_, hpayload⟩ := Payload.read_needs limit hlength data
    exact hpayload.likeMemory h hl
  · exact (gather_short h hl (Int.lt_of_lt_of_le hdata hsize) fun hindices => by simp [hany] at hindices).1

/-- A frame cut off by a failure after five of its seven bytes, in three pieces answered two bytes at a time. -/
def resetSource : Source :=
  { pieces := [.bytes [6], .bytes [5, 0x2b, 6], .bytes [1], .failure "connection reset"], chunk := some 2 }

/-- The frame needs seven bytes, so the failure is met and is the cause of the refusal; its header needs two, and is read. -/
theorem reads_as_from_memory_resetSource :
    resetSource.Delivers [6, 5, 0x2b, 6, 1] [.failure "connection reset"] ∧
      Stops [.failure "connection reset"] (some "connection reset") ∧
      Frame.needed [6, 5, 0x2b, 6, 1] = 7 ∧
      (∃ e, (Frame.read Oid.maxArc resetSource).outcome = .error e ∧ e.fault.raised = .shortRead ∧
        e.fault.cause? = some "connection reset") ∧
      (Header.read resetSource).rest.Delivers [0x2b, 6, 1] [.failure "connection reset"] ∧
      (1 : Int) < leastOversized ∧ (resetSource.gather 1).outcome = ((ofBytes [6, 5, 0x2b, 6, 1]).gather 1).outcome := by
  have h : resetSource.Delivers [6, 5, 0x2b, 6, 1] [.failure "connection reset"] :=
    ⟨rfl, by decide, [[6], [5, 0x2b, 6], [1]], by decide, rfl, rfl⟩
  have hl : Stops [.failure "connection reset"] (some "connection reset") := .failed _ _
  obtain ⟨hgather, hheader, -, hframe, -⟩ := reads_as_from_memory h hl 1 1 Oid.maxArc
  obtain ⟨e, he, hkind, hcause, -⟩ := hframe.short (by decide)
  have hindex : (1 : Int) < leastOversized := by decide
  exact ⟨h, hl, by decide, ⟨e, he, hkind, hcause⟩, (hheader.enough (by decide)).2.2, hindex,
    ((hgather hindex).enough (by decide)).1⟩

/-- A byte that is given out one at a time, by a source that takes any size. -/
def singleByteSource : Source := { pieces := [.bytes [0x2b]], chunk := some 1 }

/-- Asked for 2 to the 63rd bytes, it gives its byte and is at its end; memory with the same byte refuses the size. -/
theorem oversized_from_memory : ¬∀ (s : Source) (data : List UInt8) (size : Int), s.Delivers data [] →
    (s.gather size).outcome.mapError (fun e => (e.fault.raised, e.told?)) =
      ((ofBytes data).gather size).outcome.mapError fun e => (e.fault.raised, e.told?) := by
  intro hlike
  have h : singleByteSource.Delivers [0x2b] [] := ⟨rfl, by decide, [[0x2b]], by decide, rfl, rfl⟩
  obtain ⟨-, -, -, -, hover⟩ := reads_as_from_memory h .ended leastOversized 1 0
  obtain ⟨hmemory, -, hsource⟩ := hover (by decide) (Int.le_refl _)
  have heq := hlike _ _ leastOversized h
  rw [hmemory, hsource rfl] at heq
  exact absurd heq (by decide +kernel)

end BerOid
