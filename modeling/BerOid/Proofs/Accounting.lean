import BerOid.Proofs.Framing

/-!
# The bytes that readings account for

A reading from a source that never over-delivers takes bytes from the front of what the source holds and reports how many they
are, in its result or in its refusal. `Reading.Accounts` says so of a step of an operation, counting also the bytes of the steps
before it, and is kept when steps are put together; hence every operation accounts for its bytes on every path
(`bytes_accounted`). Beside it, `Reading.RefusesOnly` says of which kinds the causes of the refusals of an operation are, and which
numbers their wordings show, from which it follows how they are raised (`Reading.Raises`).
-/

namespace BerOid

namespace Reading

/-! ## Accounts of steps -/

/-- The reading took bytes from the front of the source, and these and the `before` bytes of earlier steps are as many as its
refusal or, by `count`, its result reports. What it leaves does not over-deliver either. -/
structure Accounts {α : Type} (before : Nat) (count : α → Nat) (s : Source) (r : Reading α) : Prop where
  restrained : r.rest.overDelivers = false
  reported : ∃ taken, s.pending = taken ++ r.rest.pending ∧ (∀ a, r.outcome = .ok a → count a = before + taken.length) ∧
    ∀ e, r.outcome = .error e → e.bytesRead = before + taken.length

variable {α β : Type} {before : Nat} {count : α → Nat} {s : Source} {r : Reading α}

/-- A result without a request accounts for the bytes before it. -/
theorem accounts_done {a : α} (hs : s.overDelivers = false) (h : count a = before) :
    (done a s).Accounts before count s :=
  ⟨hs, [], rfl, fun _ ha => by cases ha; exact h, nofun⟩

/-- A refusal without a request accounts for the bytes before it. -/
theorem accounts_fail {e : DecodeError} (hs : s.overDelivers = false) (h : e.bytesRead = before) :
    (fail e s : Reading α).Accounts before count s :=
  ⟨hs, [], rfl, nofun, fun _ he => by cases he; exact h⟩

/-- What the result reports matters only for the result there is. -/
theorem Accounts.congr {count' : α → Nat} (h : r.Accounts before count s)
    (hc : ∀ a, r.outcome = .ok a → count' a = count a) : r.Accounts before count' s := by
  obtain ⟨hs, taken, hp, hok, herr⟩ := h
  exact ⟨hs, taken, hp, fun a ha => (hc a ha).trans (hok a ha), herr⟩

/-- Bytes taken earlier are added to what is reported. -/
theorem Accounts.after (h : r.Accounts 0 count s) (n : Nat) : (r.after n).Accounts n (fun a => n + count a) s := by
  obtain ⟨hs, taken, hp, hok, herr⟩ := h
  refine ⟨hs, taken, hp, ?_, ?_⟩
  · intro a ha
    have := hok a (mapError_eq_ok_iff.1 ha)
    omega
  · intro e' he'
    obtain ⟨e, he, rfl⟩ := mapError_eq_error_iff.1 he'
    have := herr e he
    simp only [DecodeError.after]
    omega

/-- A changed result accounts for the bytes if it reports as many as the result before. -/
theorem Accounts.map {f : α → β} {count' : β → Nat} (h : r.Accounts before count s)
    (hc : ∀ a, r.outcome = .ok a → count' (f a) = count a) : (r.map f).Accounts before count' s := by
  obtain ⟨hs, taken, hp, hok, herr⟩ := h
  refine ⟨hs, taken, hp, ?_, fun e he => herr e (map_eq_error_iff.1 he)⟩
  intro b hb
  obtain ⟨a, ha, rfl⟩ := map_eq_ok_iff.1 hb
  rw [hc a ha]
  exact hok a ha

/-- A step accounts for its bytes if the step behind it does, counting what the result of the first reports. -/
theorem Accounts.andThen {next : α → Source → Reading β} {total : β → Nat} (h : r.Accounts before count s)
    (hnext : ∀ a, r.outcome = .ok a → r.rest.overDelivers = false → (next a r.rest).Accounts (count a) total r.rest) :
    (r.andThen next).Accounts before total s := by
  obtain ⟨hs, taken, hp, hok, herr⟩ := h
  cases ho : r.outcome with
  | error e =>
    simp only [Reading.andThen, ho]
    refine ⟨hs, taken, hp, ?_, ?_⟩
    · intro b hb
      cases hb
    · intro e' he
      cases he
      exact herr e ho
  | ok a =>
    obtain ⟨hs', taken', hp', hok', herr'⟩ := hnext a ho hs
    have hcount := hok a ho
    simp only [Reading.andThen, ho]
    refine ⟨hs', taken ++ taken', by rw [hp, hp', List.append_assoc], ?_, ?_⟩
    · intro b hb
      rw [hok' b hb, hcount, List.length_append, Nat.add_assoc]
    · intro e he
      rw [herr' e he, hcount, List.length_append, Nat.add_assoc]

/-- A reading in two steps has a result exactly when both steps have one. -/
theorem andThen_eq_ok_iff {next : α → Source → Reading β} {b : β} :
    (r.andThen next).outcome = .ok b ↔ ∃ a, r.outcome = .ok a ∧ (next a r.rest).outcome = .ok b := by
  unfold andThen
  cases r.outcome <;> simp

/-! ## Kinds of refusals -/

/-- The cause of every refusal of the reading is of one of the kinds, unless the reading may be refused for a size. It is a value out
of range, or its wording shows only integers that have a text and the given numbers. -/
def RefusesOnly (kinds : List DecodeKind) (numbers : List Int) (oversize : Prop) (r : Reading α) : Prop :=
  ∀ e, r.outcome = .error e → (e.fault.kind ∈ kinds ∨ e.fault.kind = .oversized ∧ oversize) ∧
    ((∃ v cap, e.fault = .arcAboveLimit v cap) ∨ ∀ n ∈ e.fault.shownIntegers, isShowable n ∨ n ∈ numbers)

variable {kinds : List DecodeKind} {numbers : List Int} {oversize : Prop}

theorem refusesOnly_done {a : α} : (done a s).RefusesOnly kinds numbers oversize := nofun

theorem refusesOnly_fail {e : DecodeError} (h : e.fault.kind ∈ kinds)
    (hn : ∀ n ∈ e.fault.shownIntegers, isShowable n ∨ n ∈ numbers) :
    (fail e s : Reading α).RefusesOnly kinds numbers oversize :=
  fun _ he => by cases he; exact ⟨.inl h, .inr hn⟩

theorem RefusesOnly.map {f : α → β} (h : r.RefusesOnly kinds numbers oversize) :
    (r.map f).RefusesOnly kinds numbers oversize :=
  fun e he => h e (map_eq_error_iff.1 he)

theorem RefusesOnly.after {n : Nat} (h : r.RefusesOnly kinds numbers oversize) :
    (r.after n).RefusesOnly kinds numbers oversize := by
  intro e' he'
  obtain ⟨e, he, rfl⟩ := mapError_eq_error_iff.1 he'
  exact h e he

theorem RefusesOnly.andThen {next : α → Source → Reading β} (h : r.RefusesOnly kinds numbers oversize)
    (hnext : ∀ a, r.outcome = .ok a → (next a r.rest).RefusesOnly kinds numbers oversize) :
    (r.andThen next).RefusesOnly kinds numbers oversize := by
  intro e he
  cases ho : r.outcome with
  | error e' =>
    simp only [Reading.andThen, ho, Except.error.injEq] at he
    subst he
    exact h e' ho
  | ok a =>
    simp only [Reading.andThen, ho] at he
    exact hnext a ho e he

theorem RefusesOnly.mono {kinds' : List DecodeKind} {numbers' : List Int} {oversize' : Prop}
    (h : r.RefusesOnly kinds numbers oversize) (hsub : kinds ⊆ kinds') (hn : ∀ n ∈ numbers, isShowable n ∨ n ∈ numbers')
    (hsize : oversize → oversize') : r.RefusesOnly kinds' numbers' oversize' := by
  intro e he
  obtain ⟨hkind, hshown⟩ := h e he
  exact ⟨hkind.imp (@hsub _) (And.imp_right hsize), hshown.imp_right fun hall n hmem => (hall n hmem).elim .inl (hn n)⟩

/-- How the refusals of a reading are raised: as one of the kinds, telling the bytes that were taken, if the wording can be made. If
it cannot, the complaint about digits takes its place and tells nothing; a value out of range, the limit that it passed or one of the
numbers has no text then. The complaint about a size tells nothing either. -/
def Raises (kinds : List DecodeKind) (numbers : List Int) (oversize : Prop) (r : Reading α) : Prop :=
  ∀ e, r.outcome = .error e →
    (e.fault.isShowable ∧ e.fault.raised ∈ kinds ∧ e.told? = some e.bytesRead) ∨
    (e.fault.raised = .unshowable ∧ e.told? = none ∧
      ((∃ v cap, e.fault = .arcAboveLimit v cap ∧ ¬(isShowable v ∧ isShowable cap)) ∨ ∃ n ∈ numbers, ¬isShowable n)) ∨
    (e.fault.raised = .oversized ∧ e.told? = none ∧ oversize)

/-- The causes of refusals and the numbers they show decide how these are raised. -/
theorem RefusesOnly.raises (h : r.RefusesOnly kinds numbers oversize) (hkinds : .oversized ∉ kinds) :
    r.Raises kinds numbers oversize := by
  intro e he
  obtain ⟨hkind, hshown⟩ := h e he
  by_cases hshowable : e.fault.isShowable
  · have hraised := DecodeFault.raised_of_isShowable hshowable
    rcases hkind with hkind | ⟨hkind, hsize⟩
    · have hcounted : e.fault.kind ≠ .oversized := fun h => hkinds (h ▸ hkind)
      exact .inl ⟨hshowable, by rwa [hraised], DecodeError.told?_eq_some_iff.2 ⟨rfl, hshowable, hcounted⟩⟩
    · exact .inr (.inr ⟨hraised.trans hkind, by simp [DecodeError.told?, hraised, hkind, DecodeKind.isCounted], hsize⟩)
  · have hraised := DecodeFault.raised_of_not_isShowable hshowable
    refine .inr (.inl ⟨hraised, by simp [DecodeError.told?, hraised, DecodeKind.isCounted], ?_⟩)
    rcases hshown with ⟨v, cap, hfault⟩ | hall
    · rw [hfault, DecodeFault.isShowable_arcAboveLimit] at hshowable
      exact .inl ⟨v, cap, hfault, hshowable⟩
    · rw [DecodeFault.isShowable_eq_true_iff] at hshowable
      push Not at hshowable
      obtain ⟨n, hmem, hn⟩ := hshowable
      exact .inr ⟨n, (hall n hmem).resolve_left hn, hn⟩

end Reading

open Reading

/-! ## Gathering -/

namespace Source

/-- A run of requests accounts for the bytes it takes. -/
theorem gatherFrom_accounts {wanted : Int} {received : Nat} {s : Source} (hs : s.overDelivers = false) :
    (gatherFrom wanted received s).Accounts received (fun bytes => received + bytes.length) s := by
  have hrun := gatherFrom_run wanted (motive := fun received s r =>
    s.overDelivers = false → r.Accounts received (fun (bytes : List UInt8) => received + bytes.length) s)
  refine hrun ?done ?failed ?ended ?more received s hs
  case done => exact fun received s _ hs => accounts_done hs rfl
  case failed =>
    intro received s t fault _ hread hs
    obtain ⟨hp, ho, -⟩ := read_error hread
    exact ⟨ho.trans hs, [], hp, nofun, fun _ he => by cases he; rfl⟩
  case ended =>
    intro received s t _ hread hs
    obtain ⟨hp, ho, -⟩ := read_ok hread
    exact ⟨ho.trans hs, [], hp, nofun, fun _ he => by cases he; rfl⟩
  case more =>
    intro received s t got r _ hread _ ih hs
    obtain ⟨hp, ho, -⟩ := read_ok hread
    obtain ⟨hs', taken, hp', hok, herr⟩ := ih (ho.trans hs)
    refine ⟨hs', got ++ taken, by rw [hp, hp', List.append_assoc]; rfl, ?_, ?_⟩
    · intro bytes hbytes
      obtain ⟨others, hothers, rfl⟩ := map_eq_ok_iff.1 hbytes
      have := hok others hothers
      rw [List.length_append, List.length_append]
      omega
    · intro e he
      rw [herr e (map_eq_error_iff.1 he), List.length_append, Nat.add_assoc]

/-- Gathering accounts for the bytes it takes. -/
theorem gather_accounts {s : Source} (hs : s.overDelivers = false) (wanted : Int) :
    (s.gather wanted).Accounts 0 List.length s :=
  (gatherFrom_accounts hs).congr fun _ _ => (Nat.zero_add _).symm

/-- Gathering is refused only for want of bytes or for the size of a request, and that only by a source that takes indices. -/
theorem fault_of_gather {s : Source} {wanted : Int} {e : DecodeError} (h : (s.gather wanted).outcome = .error e) :
    (e.fault.kind = .shortRead ∧ e.fault.shownIntegers = [wanted]) ∨
      ∃ asked ≤ wanted, e.fault = .oversized asked ∧ s.takesIndices ∧ leastOversized ≤ asked := by
  have hrun := gatherFrom_run wanted (motive := fun _ s r => ∀ e, r.outcome = .error e →
    (e.fault.kind = .shortRead ∧ e.fault.shownIntegers = [wanted]) ∨
      ∃ asked ≤ wanted, e.fault = .oversized asked ∧ s.takesIndices ∧ leastOversized ≤ asked)
  refine hrun ?done ?failed ?ended ?more 0 s e h
  case done => exact fun _ _ _ _ he => nomatch he
  case failed =>
    intro received s t fault _ hread e he
    cases he
    cases fault with
    | failed reason => exact .inl ⟨rfl, rfl⟩
    | oversized =>
      have hsize := (read_error hread).2.2.2.1 rfl
      simp only [takes, Bool.or_eq_true, Bool.not_eq_true', decide_eq_true_eq, not_or, Bool.not_eq_false, not_lt] at hsize
      exact .inr ⟨wanted - received, by omega, rfl, hsize.1.1, hsize.1.2⟩
  case ended => exact fun _ _ _ _ _ e he => by cases he; exact .inl ⟨rfl, rfl⟩
  case more =>
    intro received s t got r _ hread _ ih e he
    obtain ⟨-, -, hindices, -⟩ := read_ok hread
    rw [← hindices]
    exact ih e (map_eq_error_iff.1 he)

theorem gather_refusesOnly (s : Source) (wanted : Int) :
    (s.gather wanted).RefusesOnly [.shortRead] [wanted] (s.takesIndices ∧ leastOversized ≤ wanted) := by
  intro e he
  rcases fault_of_gather he with ⟨hkind, hshown⟩ | ⟨asked, hle, hfault, hindices, hover⟩
  · exact ⟨.inl (by simp [hkind]), .inr fun n hn => .inr (by rwa [hshown] at hn)⟩
  · refine ⟨.inr ⟨by simp [hfault, DecodeFault.kind], hindices, by omega⟩, .inr fun n hn => ?_⟩
    simp [hfault, DecodeFault.shownIntegers] at hn

/-- A size that can be an index leaves only the want of bytes, whose wording can be made. -/
theorem gather_refusesOnly_of_lt (s : Source) {wanted : Nat} (h : wanted < 2 ^ 63) :
    (s.gather wanted).RefusesOnly [.shortRead] [] False := by
  refine (s.gather_refusesOnly wanted).mono (List.Subset.refl _) ?_ ?_
  · exact fun n hn => .inl (by rw [List.mem_singleton.1 hn]; exact isShowable_of_lt_index h)
  · rintro ⟨-, hover⟩
    simp only [leastOversized] at hover
    omega

/-- A run of requests ends well only when all bytes wanted have come, and with no more than these unless the source over-delivers. -/
theorem length_gatherFrom {wanted : Int} {received : Nat} {s : Source} {bytes : List UInt8}
    (h : (gatherFrom wanted received s).outcome = .ok bytes) :
    wanted ≤ received + bytes.length ∧ (s.overDelivers = false → received ≤ wanted → received + bytes.length ≤ wanted) := by
  have hrun := gatherFrom_run wanted (motive := fun received s r => ∀ bytes, r.outcome = .ok bytes →
    wanted ≤ received + bytes.length ∧ (s.overDelivers = false → received ≤ wanted → received + bytes.length ≤ wanted))
  refine hrun ?done ?failed ?ended ?more received s bytes h
  case done =>
    intro received s hle bytes hbytes
    cases hbytes
    simpa using hle
  case failed => exact fun _ _ _ _ _ _ _ hbytes => nomatch hbytes
  case ended => exact fun _ _ _ _ _ _ hbytes => nomatch hbytes
  case more =>
    intro received s t got r hlt hread _ ih bytes hbytes
    obtain ⟨-, ho, -, hgot⟩ := read_ok hread
    obtain ⟨others, hothers, rfl⟩ := map_eq_ok_iff.1 hbytes
    obtain ⟨hlow, hhigh⟩ := ih others hothers
    rw [List.length_append]
    refine ⟨by omega, fun hs _ => ?_⟩
    have hle := hgot hs
    have := hhigh (ho.trans hs) (by omega)
    omega

/-- Gathering from a source that does not over-deliver gives as many bytes as wanted. -/
theorem length_gather {wanted : Int} {s : Source} {bytes : List UInt8} (hs : s.overDelivers = false)
    (h : (s.gather wanted).outcome = .ok bytes) : bytes.length = wanted.toNat := by
  by_cases hw : 0 ≤ wanted
  · obtain ⟨hlow, hhigh⟩ := length_gatherFrom h
    have := hhigh hs hw
    omega
  · rw [gather, gatherFrom, if_neg (by omega)] at h
    cases h
    rw [List.length_nil]
    omega

end Source

/-! ## Headers -/

namespace Header

/-- The byte read is there, and is the one byte taken. -/
theorem readByte_accounts {s : Source} (hs : s.overDelivers = false) : (readByte s).Accounts 0 (fun _ => 1) s :=
  (s.gather_accounts hs 1).map fun _ h => (Source.length_gather hs h).symm

theorem readByte_refusesOnly (s : Source) : (readByte s).RefusesOnly [.shortRead] [] False :=
  (s.gather_refusesOnly_of_lt (show 1 < 2 ^ 63 by decide)).map

/-- A length accounts for its bytes and the tag. -/
theorem readLength_accounts (tag : UInt8) {s : Source} (hs : s.overDelivers = false) :
    (readLength tag s).Accounts 1 Header.size s := by
  obtain ⟨behind, hread, hbehind⟩ := readLength_spec tag
  rw [hread]
  refine ((readByte_accounts hs).after 1).andThen fun first _ ht => ?_
  rcases hbehind first with ⟨-, hnext⟩ | ⟨-, hnext⟩ | ⟨-, hnext⟩ | ⟨count, -, -, -, hnext⟩ <;> rw [hnext]
  · exact accounts_done ht rfl
  · exact accounts_fail ht rfl
  · exact accounts_fail ht rfl
  · have hcount := (Source.gather_accounts ht count).congr fun octets h => (Source.length_gather ht h).symm
    exact (hcount.after 2).map fun _ _ => rfl

theorem readLength_refusesOnly (tag : UInt8) (s : Source) :
    (readLength tag s).RefusesOnly [.shortRead, .badTag, .malformed] [] False := by
  obtain ⟨behind, hread, hbehind⟩ := readLength_spec tag
  rw [hread]
  refine ((readByte_refusesOnly s).after.mono (by simp) nofun id).andThen fun first _ => ?_
  rcases hbehind first with ⟨-, hnext⟩ | ⟨-, hnext⟩ | ⟨-, hnext⟩ | ⟨count, -, hmax, -, hnext⟩ <;> rw [hnext]
  · exact refusesOnly_done
  · exact refusesOnly_fail (by decide) nofun
  · exact refusesOnly_fail (by simp [DecodeFault.kind]) nofun
  · simp only [maxLengthOctets] at hmax
    exact ((Source.gather_refusesOnly_of_lt _ (by omega)).after.mono (by simp) nofun id).map

/-- A length that is read from a source that does not over-deliver has at most four octets. -/
theorem length_lt_of_readLength {tag : UInt8} {s : Source} (hs : s.overDelivers = false) {header : Header}
    (h : (readLength tag s).outcome = .ok header) : header.length < 2 ^ 32 := by
  obtain ⟨behind, hread, hbehind⟩ := readLength_spec tag
  rw [hread] at h
  obtain ⟨first, hfirst, hrest⟩ := andThen_eq_ok_iff.1 h
  have ht := (((readByte_accounts hs).after 1)).restrained
  rcases hbehind first with ⟨hshort, hnext⟩ | ⟨-, hnext⟩ | ⟨-, hnext⟩ | ⟨count, -, hmax, -, hnext⟩ <;> rw [hnext] at hrest
  · cases hrest
    simp only
    omega
  · cases hrest
  · cases hrest
  · obtain ⟨octets, hoctets, rfl⟩ := map_eq_ok_iff.1 hrest
    have hlength := Source.length_gather ht (mapError_eq_ok_iff.1 hoctets)
    rw [Int.toNat_natCast] at hlength
    have hlt := Length.ofOctets_lt octets
    rw [hlength] at hlt
    exact Nat.lt_of_lt_of_le hlt (Nat.pow_le_pow_right (by decide) hmax)

/-- A header accounts for its bytes. -/
theorem read_accounts {s : Source} (hs : s.overDelivers = false) : (read s).Accounts 0 Header.size s := by
  refine (readByte_accounts hs).andThen fun tag _ ht => ?_
  by_cases hmulti : tag.toNat % 32 = 31
  · rw [if_pos hmulti]
    exact accounts_fail ht rfl
  · rw [if_neg hmulti]
    exact readLength_accounts tag ht

theorem read_refusesOnly (s : Source) : (read s).RefusesOnly [.shortRead, .badTag, .malformed] [] False := by
  refine ((readByte_refusesOnly s).mono (by simp) nofun id).andThen fun tag _ => ?_
  by_cases hmulti : tag.toNat % 32 = 31
  · rw [if_pos hmulti]
    exact refusesOnly_fail (by simp [DecodeFault.kind]) nofun
  · rw [if_neg hmulti]
    exact readLength_refusesOnly tag _

/-- A header read from a source that does not over-deliver gives a length below 2 to the 32nd. -/
theorem length_lt_of_read {s : Source} (hs : s.overDelivers = false) {header : Header} (h : (read s).outcome = .ok header) :
    header.length < 2 ^ 32 := by
  obtain ⟨tag, -, hrest⟩ := andThen_eq_ok_iff.1 h
  split at hrest
  · cases hrest
  · exact length_lt_of_readLength (readByte_accounts hs).restrained hrest

end Header

/-! ## Payloads and frames -/

namespace Payload

/-- Decoding the bytes taken reports all of them, whether they are accepted or not. -/
theorem decodeTaken_accounts (limit : Int) {length : Int} {payload : List UInt8} {s : Source} (hs : s.overDelivers = false)
    (hlen : payload.length = length.toNat) : (decodeTaken limit length payload s).Accounts payload.length Prod.snd s := by
  unfold decodeTaken
  split
  · exact accounts_done hs hlen.symm
  · rename_i e he
    exact ⟨hs, [], rfl, nofun, fun _ he' => by cases he'; exact bytesRead_of_decode he⟩

theorem decodeTaken_refusesOnly (limit length : Int) (payload : List UInt8) (s : Source) :
    (decodeTaken limit length payload s).RefusesOnly [.malformed, .outOfRange] [] False := by
  unfold decodeTaken
  split
  · exact refusesOnly_done
  · rename_i e he
    intro e' he'
    cases he'
    have hreports := reports_of_decode he
    generalize e.fault = fault at hreports
    cases hreports with
    | empty => exact ⟨.inl (by decide), .inr nofun⟩
    | unfinished _ hle => exact ⟨.inl (by simp [DecodeFault.kind]), .inr fun n hn => by simp [DecodeFault.shownIntegers, hle] at hn⟩
    | above => exact ⟨.inl (by simp [DecodeFault.kind]), .inl ⟨_, _, rfl⟩⟩

/-- A payload accounts for its bytes. -/
theorem read_accounts (limit length : Int) {s : Source} (hs : s.overDelivers = false) :
    (read limit length s).Accounts 0 Prod.snd s := by
  unfold read
  split
  · exact accounts_fail hs rfl
  · exact (s.gather_accounts hs length).andThen fun payload h ht =>
      decodeTaken_accounts limit ht (Source.length_gather hs h)

theorem read_refusesOnly (limit length : Int) (s : Source) : (read limit length s).RefusesOnly [.shortRead, .malformed, .outOfRange]
    [length] (s.takesIndices ∧ Source.leastOversized ≤ length) := by
  unfold read
  split
  · exact refusesOnly_fail (by simp [DecodeFault.kind]) fun n hn => .inr hn
  · exact ((s.gather_refusesOnly length).mono (by simp) (fun _ => .inr) id).andThen fun payload _ =>
      (decodeTaken_refusesOnly limit length payload _).mono (by simp) (List.forall_mem_nil _) False.elim

/-- A length that can be an index can be shown and asked for. -/
theorem read_refusesOnly_of_lt (limit : Int) {length : Nat} (s : Source) (h : length < 2 ^ 63) :
    (read limit length s).RefusesOnly [.shortRead, .malformed, .outOfRange] [] False := by
  refine (read_refusesOnly limit length s).mono (List.Subset.refl _) ?_ ?_
  · exact fun n hn => .inl (by rw [List.mem_singleton.1 hn]; exact isShowable_of_lt_index h)
  · rintro ⟨-, hover⟩
    simp only [Source.leastOversized] at hover
    omega

end Payload

namespace Frame

/-- A frame accounts for its bytes. -/
theorem read_accounts (limit : Int) {s : Source} (hs : s.overDelivers = false) :
    (read limit s).Accounts 0 Prod.snd s := by
  refine (Header.read_accounts hs).andThen fun header _ ht => ?_
  by_cases htag : header.tag.toNat ≠ oidTag
  · rw [if_pos htag]
    exact accounts_fail ht rfl
  · rw [if_neg htag]
    exact ((Payload.read_accounts limit header.length ht).after header.size).map fun _ _ => rfl

theorem read_refusesOnly (limit : Int) {s : Source} (hs : s.overDelivers = false) :
    (read limit s).RefusesOnly [.shortRead, .malformed, .badTag, .outOfRange] [] False := by
  refine ((Header.read_refusesOnly s).mono (by simp) nofun id).andThen fun header h => ?_
  by_cases htag : header.tag.toNat ≠ oidTag
  · rw [if_pos htag]
    exact refusesOnly_fail (by simp [DecodeFault.kind]) nofun
  · rw [if_neg htag]
    have hlength := Header.length_lt_of_read hs h
    exact ((Payload.read_refusesOnly_of_lt limit _ (by omega)).after.mono (by simp) nofun id).map

theorem decode_refusesOnly (limit : Int) (data : List UInt8) :
    (decode limit data).RefusesOnly [.shortRead, .malformed, .badTag, .outOfRange] [] False := by
  refine (read_refusesOnly limit (s := .ofBytes data) rfl).andThen fun r _ => ?_
  simp only
  split
  · exact refusesOnly_fail (by simp [DecodeFault.kind]) nofun
  · exact refusesOnly_done

/-- A refusal of bytes in memory reports no more bytes than there are. -/
theorem bytesRead_of_decode {limit : Int} {data : List UInt8} {e : DecodeError}
    (h : (decode limit data).outcome = .error e) : e.bytesRead ≤ data.length := by
  obtain ⟨-, taken, hp, hok, herr⟩ := read_accounts limit (s := .ofBytes data) rfl
  have hle : taken.length ≤ data.length := by
    have := congrArg List.length hp
    rw [Source.pending_ofBytes, List.length_append] at this
    omega
  unfold decode andThen at h
  cases ho : (read limit (.ofBytes data)).outcome with
  | error e' =>
    rw [ho] at h
    cases h
    rw [herr e ho]
    omega
  | ok r =>
    rw [ho] at h
    simp only at h
    split at h
    · cases h
      have := hok r ho
      simp only
      omega
    · cases h

end Frame

/-! ## Every path -/

/-- The subidentifier at an offset that does not count from the end is read or refused, and a refusal counts the whole buffer. -/
theorem decodeAt_of_nonneg {cap : Option Int} {data : List UInt8} {offset : Int} {e : Base128.OffsetError}
    (hoffset : 0 ≤ offset) (h : Base128.decodeAt cap data offset = .error e) :
    ∃ refusal, e = .refused refusal ∧ refusal.bytesRead = data.length := by
  unfold Base128.decodeAt at h
  rw [if_neg (by unfold Base128.leastAddress; omega), if_neg (by omega)] at h
  simp only at h
  split at h
  · cases h
    exact ⟨_, rfl, Payload.bytesRead_inBuffer _ _ _⟩
  · cases h

/-- The bytes are accounted for on every path: from a source that never over-delivers, whatever its pieces, its chunks and the
places where it is empty or fails, gathering and the reading of headers, payloads and frames take bytes from the front of the
source and count exactly these, in the result and in every refusal. Refusals are raised as the kinds named and tell the count, with
two exceptions: the wording would show a number without a text, which can be the size or the length asked for or, of an arc, its
value or its limit; or a source that takes only indices is asked for a size that is none. Neither occurs in headers, and the second
not in frames. A frame in memory tells no more bytes than there are. The bytes that the operations look at are always there: the one
byte gathered at a time for a header, and the subidentifier at an offset into a payload. -/
theorem bytes_accounted (s : Source) (hs : s.overDelivers = false) (size length limit : Int) :
    ((s.gather size).Accounts 0 List.length s ∧
      (s.gather size).Raises [.shortRead] [size] (s.takesIndices ∧ Source.leastOversized ≤ size)) ∧
    ((Header.read s).Accounts 0 Header.size s ∧ (Header.read s).Raises [.shortRead, .badTag, .malformed] [] False) ∧
    ((Payload.read limit length s).Accounts 0 Prod.snd s ∧ (Payload.read limit length s).Raises
      [.shortRead, .malformed, .outOfRange] [length] (s.takesIndices ∧ Source.leastOversized ≤ length)) ∧
    ((Frame.read limit s).Accounts 0 Prod.snd s ∧
      (Frame.read limit s).Raises [.shortRead, .malformed, .badTag, .outOfRange] [] False) ∧
    (∀ data, (Frame.decode limit data).Raises [.shortRead, .malformed, .badTag, .outOfRange] [] False ∧
      ∀ e n, (Frame.decode limit data).outcome = .error e → e.told? = some n → n ≤ data.length) ∧
    (∀ bytes, (s.gather 1).outcome = .ok bytes → ∃ b, bytes = [b]) ∧
    ∀ cap data (offset : Int) e, 0 ≤ offset → Base128.decodeAt cap data offset = .error e →
      ∃ refusal, e = .refused refusal ∧ refusal.bytesRead = data.length := by
  refine ⟨⟨s.gather_accounts hs size, (s.gather_refusesOnly size).raises (by decide)⟩,
    ⟨Header.read_accounts hs, (Header.read_refusesOnly s).raises (by decide)⟩,
    ⟨Payload.read_accounts limit length hs, (Payload.read_refusesOnly limit length s).raises (by decide)⟩,
    ⟨Frame.read_accounts limit hs, (Frame.read_refusesOnly limit hs).raises (by decide)⟩,
    fun data => ⟨(Frame.decode_refusesOnly limit data).raises (by decide), fun e n he hn => ?_⟩, fun bytes h => ?_,
    fun cap data offset e hoffset h => decodeAt_of_nonneg hoffset h⟩
  · rw [← (DecodeError.told?_eq_some_iff.1 hn).1]
    exact Frame.bytesRead_of_decode he
  · exact List.length_eq_one_iff.1 (Source.length_gather hs h)

/-- A source that delivers at most two bytes at a time, gives nothing once within the payload, and has a failure behind that. -/
def brokenSource : Source :=
  { pieces := [.bytes [6, 5, 0x2b], .bytes [], .bytes [6], .failure "connection reset"], chunk := some 2 }

/-- The three bytes taken from the broken source are accounted for and told. -/
theorem bytes_accounted_brokenSource :
    brokenSource.overDelivers = false ∧
      (∃ e, (Frame.read Oid.maxArc brokenSource).outcome = .error e ∧ e.fault = .sourceEnded 1 5 ∧
        e.fault.raised = .shortRead ∧ e.told? = some 3) ∧
      (Frame.read Oid.maxArc brokenSource).Accounts 0 Prod.snd brokenSource ∧
      (Payload.read Oid.maxArc (-1) brokenSource).Accounts 0 Prod.snd brokenSource := by
  have houtcome : (Frame.read Oid.maxArc brokenSource).outcome = .error ⟨.sourceEnded 1 5, 3⟩ := by cbv
  obtain ⟨-, -, ⟨hpayload, -⟩, ⟨hframe, hraises⟩, -⟩ := bytes_accounted brokenSource rfl 1 (-1) Oid.maxArc
  refine ⟨rfl, ⟨_, houtcome, rfl, ?_⟩, hframe, hpayload⟩
  rcases hraises _ houtcome with ⟨hshowable, -, htold⟩ | ⟨-, -, ⟨v, cap, hfault, -⟩ | ⟨n, hn, -⟩⟩ | ⟨-, -, hsize⟩
  · exact ⟨DecodeFault.raised_of_isShowable hshowable, htold⟩
  · cases hfault
  · cases hn
  · exact hsize.elim

/-- Not every refusal of a payload is of one of the kinds and tells the bytes that were taken. -/
theorem untold_refusal : ¬∀ (s : Source) (length limit : Int) (e : DecodeError), s.overDelivers = false →
    (Payload.read limit length s).outcome = .error e →
      e.fault.raised ∈ [.shortRead, .malformed, .badTag, .outOfRange] ∧ e.told? = some e.bytesRead := by
  intro hkinds
  obtain ⟨e, he, hraised⟩ := Payload.decode_unshowablePayload
  have hmemory : (Source.ofBytes Payload.unshowablePayload).Delivers (Payload.unshowablePayload ++ []) [] := by
    rw [List.append_nil]
    exact Source.delivers_ofBytes Payload.unshowablePayload_ne_nil
  have hread := (Payload.read_yields (leastUnshowable - 1) hmemory).outcome_eq
  rw [Payload.answer, if_neg Payload.unshowablePayload_ne_nil, he] at hread
  obtain ⟨hkind, -⟩ := hkinds _ _ _ e rfl hread
  rw [hraised] at hkind
  simp at hkind

end BerOid
