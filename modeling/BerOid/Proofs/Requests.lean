import BerOid.Proofs.Gathering
import BerOid.Proofs.Results

/-!
# What gathering asks of a source

A source of any kind is a function: from the state it is in and the size it is asked for to an answer and its next state. It may
answer with too few bytes or too many, with none, or fail, each time as it likes. `Gathers` is the gathering of bytes from such a
source, with one rule for each way that a request can go. From a `Source` bytes are gathered in just this way
(`Source.gatherFrom_gathers`).

A request is followed by another only if it was answered with bytes, and with fewer than it asked for (`Exchange.LeadsTo`). So fewer
bytes are missing each time, and whatever the source, there is exactly one conversation with it, which ends after no more requests
than bytes are wanted (`asks_only_for_missing_bytes`).
-/

namespace BerOid

/-- One request to a source and its answer: bytes, or a failure. -/
structure Exchange where
  asked : Int
  answer : Except ReadFault (List UInt8)

namespace Exchange

/-- The bytes of the answer. A failure has none. -/
def got (e : Exchange) : List UInt8 :=
  match e.answer with
  | .ok bytes => bytes
  | .error _ => []

@[simp]
theorem got_ok (asked : Int) (bytes : List UInt8) : got ⟨asked, .ok bytes⟩ = bytes := rfl

@[simp]
theorem got_error (asked : Int) (fault : ReadFault) : got ⟨asked, .error fault⟩ = [] := rfl

/-- The second exchange follows the first: that had an answer with bytes, but with fewer than it asked for, and the second asks for
those left. -/
structure LeadsTo (e f : Exchange) : Prop where
  got_ne_nil : e.got ≠ []
  got_lt : (e.got.length : Int) < e.asked
  asked_eq : f.asked = e.asked - e.got.length

/-- A further request is made only for bytes that are missing. -/
theorem LeadsTo.asked_pos {e f : Exchange} (h : e.LeadsTo f) : 0 < f.asked := by
  have hlt := h.got_lt
  have hasked := h.asked_eq
  omega

/-- A further request asks for less. -/
theorem LeadsTo.asked_lt {e f : Exchange} (h : e.LeadsTo f) : f.asked < e.asked := by
  have hgot := List.length_pos_iff.2 h.got_ne_nil
  have hasked := h.asked_eq
  omega

end Exchange

/-- What passes between a source and one who gathers bytes from it: the exchanges, what they come to, and the state in which the
source is left. -/
structure Conversation (σ : Type*) where
  exchanges : List Exchange
  outcome : Except DecodeError (List UInt8)
  rest : σ

namespace Conversation

variable {σ : Type*}

/-- The sizes asked for. -/
def requests (c : Conversation σ) : List Int := c.exchanges.map Exchange.asked

/-- The bytes of all answers, in order. -/
def bytes (c : Conversation σ) : List UInt8 := c.exchanges.flatMap Exchange.got

/-- The bytes of a further exchange come before those of a conversation. -/
theorem bytes_cons (e : Exchange) (c : Conversation σ) (outcome : Except DecodeError (List UInt8)) (t : σ) :
    bytes ⟨e :: c.exchanges, outcome, t⟩ = e.got ++ c.bytes := List.flatMap_cons

/-- No answer has more bytes than were asked for. -/
def Restrained (c : Conversation σ) : Prop := ∀ e ∈ c.exchanges, (e.got.length : Int) ≤ e.asked

/-- The conversation as one who wants a number of bytes has to hold it. -/
structure Disciplined (wanted : Int) (c : Conversation σ) : Prop where
  /-- All bytes wanted are asked for first; nothing is asked for if none are wanted. -/
  first : c.requests.head? = if 0 < wanted then some wanted else none
  /-- Nothing follows an empty answer, a failure, or the last byte wanted; what follows another answer is a request for the bytes
  that it lacks. -/
  next : c.exchanges.IsChain Exchange.LeadsTo
  positive : ∀ size ∈ c.requests, 0 < size
  decreasing : c.requests.Pairwise (· > ·)
  length_le : c.requests.length ≤ wanted.toNat
  /-- A result is given exactly when enough bytes have come, and is all of these. -/
  result : ∀ bytes, c.outcome = .ok bytes ↔ bytes = c.bytes ∧ wanted.toNat ≤ bytes.length
  /-- A source that keeps to what it is asked for makes the result exactly as long as wanted. -/
  length_eq : c.Restrained → ∀ bytes, c.outcome = .ok bytes → bytes.length = wanted.toNat

end Conversation

/-- Gathering from a source of any kind: after `received` of the bytes `wanted` have come, and with the source in a state, this is
the conversation that remains. -/
inductive Gathers {σ : Type*} (read : σ → Int → Except ReadFault (List UInt8) × σ) (wanted : Int) :
    Nat → σ → Conversation σ → Prop
  /-- Enough bytes have come. -/
  | done {received : Nat} {s : σ} (h : wanted ≤ received) : Gathers read wanted received s ⟨[], .ok [], s⟩
  /-- The source fails, or does not take the size. -/
  | failed {received : Nat} {s t : σ} {fault : ReadFault} (h : received < wanted)
      (hread : read s (wanted - received) = (.error fault, t)) :
      Gathers read wanted received s
        ⟨[⟨wanted - received, .error fault⟩], .error ⟨fault.cause received wanted, received⟩, t⟩
  /-- The source is at its end. -/
  | ended {received : Nat} {s t : σ} (h : received < wanted) (hread : read s (wanted - received) = (.ok [], t)) :
      Gathers read wanted received s
        ⟨[⟨wanted - received, .ok []⟩], .error ⟨.sourceEnded received wanted, received⟩, t⟩
  /-- Bytes come, and the conversation goes on. -/
  | more {received : Nat} {s t : σ} {got : List UInt8} {c : Conversation σ} (h : received < wanted)
      (hread : read s (wanted - received) = (.ok got, t)) (hgot : got ≠ [])
      (hmore : Gathers read wanted (received + got.length) t c) :
      Gathers read wanted received s
        ⟨⟨wanted - received, .ok got⟩ :: c.exchanges, c.outcome.map (got ++ ·), c.rest⟩

/-! ## The conversation and its end -/

section Conversations

variable {σ : Type*} {read : σ → Int → Except ReadFault (List UInt8) × σ} {wanted : Int}

/-- Gathering comes to an end, whatever the source answers. -/
theorem exists_gathers (read : σ → Int → Except ReadFault (List UInt8) × σ) (wanted : Int) (received : Nat) (s : σ) :
    ∃ c, Gathers read wanted received s c := by
  -- by the number of bytes that are missing, which every answer with bytes lowers
  induction hn : (wanted - received).toNat using Nat.strongRecOn generalizing received s with
  | ind n ih =>
    by_cases hlt : (received : Int) < wanted
    · rcases hread : read s (wanted - received) with ⟨answer, t⟩
      cases answer with
      | error fault => exact ⟨_, .failed hlt hread⟩
      | ok got =>
        by_cases hgot : got = []
        · subst hgot
          exact ⟨_, .ended hlt hread⟩
        · have := List.length_pos_iff.2 hgot
          obtain ⟨c, hc⟩ := ih (wanted - (received + got.length : Nat)).toNat (by omega) _ t rfl
          exact ⟨_, .more hlt hread hgot hc⟩
    · exact ⟨_, .done (by omega)⟩

namespace Gathers

variable {received : Nat} {s : σ} {c : Conversation σ}

/-- The answers of the source decide the conversation. -/
theorem unique {c' : Conversation σ} (h : Gathers read wanted received s c) (h' : Gathers read wanted received s c') :
    c' = c := by
  induction h generalizing c' with
  | done h =>
    cases h' with
    | done => rfl
    | failed h' | ended h' | more h' => omega
  | failed h hread =>
    cases h' with
    | done h' => omega
    | failed _ hread' =>
      cases hread.symm.trans hread'
      rfl
    | ended _ hread' | more _ hread' => cases hread.symm.trans hread'
  | ended h hread =>
    cases h' with
    | done h' => omega
    | failed _ hread' => cases hread.symm.trans hread'
    | ended _ hread' =>
      cases hread.symm.trans hread'
      rfl
    | more _ hread' hgot =>
      cases hread.symm.trans hread'
      exact absurd rfl hgot
  | more h hread hgot _ ih =>
    cases h' with
    | done h' => omega
    | failed _ hread' => cases hread.symm.trans hread'
    | ended _ hread' =>
      cases hread.symm.trans hread'
      exact absurd rfl hgot
    | more _ hread' _ hmore' =>
      cases hread.symm.trans hread'
      rw [ih hmore']

/-! ## The requests -/

/-- The first request is for the bytes missing, if there are any. -/
theorem head?_requests (h : Gathers read wanted received s c) :
    c.requests.head? = if (received : Int) < wanted then some (wanted - received) else none := by
  cases h with
  | done h => exact (if_neg (by omega)).symm
  | failed h | ended h | more h => exact (if_pos h).symm

/-- Each exchange leads to the next. -/
theorem isChain_exchanges (h : Gathers read wanted received s c) : c.exchanges.IsChain Exchange.LeadsTo := by
  induction h with
  | done => exact .nil
  | failed | ended => exact .singleton _
  | @more received s t got c _ _ hgot hmore ih =>
    refine List.isChain_cons.2 ⟨fun f hf => ?_, ih⟩
    have hhead := hmore.head?_requests
    rw [Conversation.requests, List.head?_map, hf] at hhead
    split at hhead
    · -- the next request asks for what is still missing, and that it is made says that something is
      rename_i hlt
      have hasked : f.asked = wanted - (received + got.length : Nat) := Option.some.inj hhead
      refine ⟨hgot, ?_, ?_⟩ <;> simp only [Exchange.got_ok] <;> omega
    · cases hhead

/-- No more requests are made than bytes are missing. -/
theorem length_requests_le (h : Gathers read wanted received s c) : c.requests.length ≤ (wanted - received).toNat := by
  rw [Conversation.requests, List.length_map]
  induction h with
  | done => exact Nat.zero_le _
  | failed h | ended h =>
    rw [List.length_singleton]
    omega
  | more h _ hgot _ ih =>
    have := List.length_pos_iff.2 hgot
    rw [List.length_cons]
    omega

/-! ## The result -/

/-- There is a result exactly when enough bytes have come, and it is the bytes of all answers. -/
theorem outcome_eq_ok_iff (h : Gathers read wanted received s c) {bytes : List UInt8} :
    c.outcome = .ok bytes ↔ bytes = c.bytes ∧ wanted ≤ received + bytes.length := by
  induction h generalizing bytes with
  | done h =>
    constructor
    · intro hbytes
      cases hbytes
      exact ⟨rfl, by simpa using h⟩
    · rintro ⟨rfl, -⟩
      rfl
  | failed h | ended h =>
    refine iff_of_false nofun ?_
    rintro ⟨rfl, hle⟩
    rw [Conversation.bytes, List.flatMap_singleton] at hle
    exact absurd hle (by simpa using h)
  | @more received s t got c h _ _ _ ih =>
    -- the bytes that are still to come are those of a result of the conversation that goes on
    have hlength : ∀ others : List UInt8, (received + got.length : Nat) + (others.length : Int) =
        received + (got ++ others).length := by
      intro others
      rw [List.length_append]
      omega
    rw [Conversation.bytes_cons, map_eq_ok_iff]
    constructor
    · rintro ⟨others, hothers, rfl⟩
      obtain ⟨rfl, hle⟩ := ih.1 hothers
      exact ⟨rfl, by rwa [← hlength]⟩
    · rintro ⟨rfl, hle⟩
      exact ⟨c.bytes, ih.2 ⟨rfl, by rwa [hlength]⟩, rfl⟩

/-- Answers that keep to what is asked for bring no more bytes than are missing. -/
theorem length_bytes_le (h : Gathers read wanted received s c) (hc : c.Restrained) :
    c.bytes.length ≤ (wanted - received).toNat := by
  induction h with
  | done | failed | ended => exact Nat.zero_le _
  | @more received s t got c h _ _ _ ih =>
    obtain ⟨hgot, hmore⟩ := List.forall_mem_cons.1 hc
    have hle := ih hmore
    simp only [Exchange.got_ok] at hgot
    rw [Conversation.bytes_cons, Exchange.got_ok, List.length_append]
    omega

/-! ## Discipline -/

/-- The conversation with a source of any kind is held as it has to be. -/
theorem disciplined (h : Gathers read wanted 0 s c) : c.Disciplined wanted := by
  have hfirst := h.head?_requests
  have hlength := h.length_requests_le
  rw [Int.natCast_zero, Int.sub_zero] at hfirst hlength
  have hresult : ∀ bytes, c.outcome = .ok bytes ↔ bytes = c.bytes ∧ wanted.toNat ≤ bytes.length := by
    intro bytes
    rw [h.outcome_eq_ok_iff, Int.natCast_zero, Int.zero_add, Int.toNat_le]
  have hnext := h.isChain_exchanges
  refine ⟨hfirst, hnext, ?positive, ?decreasing, hlength, hresult, ?length_eq⟩
  case positive =>
    rw [Conversation.requests, List.forall_mem_map]
    refine hnext.induction _ _ (fun e f hlead _ => hlead.asked_pos) fun hne => ?_
    rw [Conversation.requests, List.head?_map, List.head?_eq_some_head hne] at hfirst
    split at hfirst
    · rename_i hpos
      rwa [Option.some.inj hfirst]
    · cases hfirst
  case decreasing =>
    exact List.isChain_iff_pairwise.1 ((List.isChain_map _).2 (hnext.imp fun e f hlead => hlead.asked_lt))
  case length_eq =>
    intro hc bytes hbytes
    obtain ⟨rfl, hle⟩ := (hresult bytes).1 hbytes
    have := h.length_bytes_le hc
    omega

end Gathers

end Conversations

/-! ## Gathering from sources in pieces -/

/-- The reading tells of the conversation that was held with its source. -/
structure Reading.Recounts (r : Reading (List UInt8)) (c : Conversation Source) : Prop where
  outcome_eq : r.outcome = c.outcome
  requests_eq : r.requests = c.requests
  rest_eq : r.rest = c.rest

namespace Source

/-- Bytes are gathered from a source in pieces as from one of any kind. -/
theorem gatherFrom_gathers (wanted : Int) (received : Nat) (s : Source) :
    ∃ c, Gathers Source.read wanted received s c ∧ (gatherFrom wanted received s).Recounts c := by
  refine gatherFrom_run wanted (motive := fun received s r => ∃ c, Gathers Source.read wanted received s c ∧ r.Recounts c)
    ?done ?failed ?ended ?more received s
  case done => exact fun received s h => ⟨_, .done h, rfl, rfl, rfl⟩
  case failed => exact fun received s t fault h hread => ⟨_, .failed h hread, rfl, rfl, rfl⟩
  case ended => exact fun received s t h hread => ⟨_, .ended h hread, rfl, rfl, rfl⟩
  case more =>
    rintro received s t got r h hread hgot ⟨c, hc, houtcome, hrequests, hrest⟩
    refine ⟨_, .more h hread hgot hc, ?_, ?_, hrest⟩
    · rw [proceed, houtcome]
    · rw [proceed, hrequests]
      rfl

/-- A source in pieces that does not over-deliver keeps to what it is asked for. -/
theorem restrained_of_gathers {wanted : Int} {received : Nat} {s : Source} {c : Conversation Source}
    (h : Gathers Source.read wanted received s c) (hs : s.overDelivers = false) : c.Restrained := by
  induction h with
  | done => exact nofun
  | failed h | ended h =>
    refine List.forall_mem_singleton.2 ?_
    simp only [Exchange.got_ok, Exchange.got_error, List.length_nil]
    omega
  | more h hread _ _ ih =>
    obtain ⟨-, ho, -, hgot⟩ := read_ok hread
    refine List.forall_mem_cons.2 ⟨?_, ih (ho.trans hs)⟩
    have := hgot hs
    simp only [Exchange.got_ok]
    omega

end Source

/-- Gathering asks a source only for bytes that are missing, and it ends. With a source of any kind, also one that gives more than
it is asked for, there is exactly one conversation, and it is disciplined: at first all bytes wanted are asked for, then each time
those that the last answer left missing, so that the sizes are positive and strictly decreasing and the requests are no more than
the bytes wanted; after an empty answer, a failure or the last byte wanted there is none. A result is given exactly when enough
bytes have come, and is all that have come, in order; it has just the length wanted if no answer had more than was asked for. Such
is the conversation that is held with every source in pieces, and one of these that does not over-deliver gives no such answer. -/
theorem asks_only_for_missing_bytes {σ : Type*} (read : σ → Int → Except ReadFault (List UInt8) × σ) (wanted : Int) (s : σ) :
    (∃! c, Gathers read wanted 0 s c) ∧ (∀ c, Gathers read wanted 0 s c → c.Disciplined wanted) ∧
    ∀ source : Source, ∃ c, Gathers Source.read wanted 0 source c ∧ c.Disciplined wanted ∧
      (source.gather wanted).Recounts c ∧ (source.overDelivers = false → c.Restrained) := by
  refine ⟨?_, fun c hc => hc.disciplined, fun source => ?_⟩
  · obtain ⟨c, hc⟩ := exists_gathers read wanted 0 s
    exact ⟨c, hc, fun c' hc' => hc.unique hc'⟩
  · obtain ⟨c, hc, hrecounts⟩ := source.gatherFrom_gathers wanted 0
    exact ⟨c, hc, hc.disciplined, hrecounts, Source.restrained_of_gathers hc⟩

/-- A source that gives one byte at first, and from then on twice as many as it is asked for. -/
def generousRead (begun : Bool) (size : Int) : Except ReadFault (List UInt8) × Bool :=
  (.ok (if begun then List.replicate (2 * size.toNat) 6 else [0x2b]), true)

/-- What passes between it and one who wants three bytes. -/
def generousConversation : Conversation Bool :=
  ⟨[⟨3, .ok [0x2b]⟩, ⟨2, .ok [6, 6, 6, 6]⟩], .ok [0x2b, 6, 6, 6, 6], true⟩

/-- Three bytes and one behind them, given two at a time. -/
def pairwiseSource : Source := { pieces := [.bytes [0x2b, 6, 1, 4]], chunk := some 2 }

/-- The generous source is asked for three bytes and for two, and gives five; the one that gives two bytes at a time is asked for
three and for one, and gives three. -/
theorem asks_only_for_missing_bytes_generousRead :
    Gathers generousRead 3 0 false generousConversation ∧ generousConversation.Disciplined 3 ∧
      ¬generousConversation.Restrained ∧ pairwiseSource.overDelivers = false ∧
      ∃ c, Gathers Source.read 3 0 pairwiseSource c ∧ c.Restrained ∧ c.requests = [3, 1] ∧
        c.outcome = .ok [0x2b, 6, 1] ∧ ([0x2b, 6, 1] : List UInt8).length = (3 : Int).toNat := by
  have hmore : Gathers generousRead 3 1 true ⟨[⟨2, .ok [6, 6, 6, 6]⟩], .ok [6, 6, 6, 6], true⟩ :=
    .more (by decide) rfl (by decide) (.done (by decide))
  have hgathers : Gathers generousRead 3 0 false generousConversation :=
    @Gathers.more Bool generousRead 3 0 false true [0x2b] _ (by decide) rfl (by decide) hmore
  have houtcome : (pairwiseSource.gather 3).outcome = .ok [0x2b, 6, 1] := by cbv
  have hrequests : (pairwiseSource.gather 3).requests = [3, 1] := by cbv
  obtain ⟨-, hdisciplined, hsource⟩ := asks_only_for_missing_bytes generousRead 3 false
  obtain ⟨c, hc, hheld, hrecounts, hrestrained⟩ := hsource pairwiseSource
  rw [hrecounts.outcome_eq] at houtcome
  rw [hrecounts.requests_eq] at hrequests
  refine ⟨hgathers, hdisciplined _ hgathers, ?_, rfl, c, hc, hrestrained rfl, hrequests, houtcome,
    hheld.length_eq (hrestrained rfl) _ houtcome⟩
  exact fun h => absurd (h ⟨2, .ok [6, 6, 6, 6]⟩ (by simp [generousConversation])) (by decide)

end BerOid
