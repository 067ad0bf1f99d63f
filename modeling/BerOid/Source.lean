import BerOid.Diagnostic

/-!
# Byte sources

A source delivers its bytes in pieces; at any place it may fail instead, and it may cut what it delivers into chunks or deliver more
than it is asked for. A source in memory takes as a size only what can be an index. `Source.gather` asks until enough bytes have
come: it asks for what is missing, takes an empty answer as the end, and keeps everything it is given. A `Reading` is what an
operation on a source did: its outcome, the sizes it asked for, what it noted, and the source it left.
-/

namespace BerOid

/-- What a source delivers next: bytes, or a failure. -/
inductive Piece where
  | bytes (data : List UInt8)
  | failure (reason : String)
  deriving DecidableEq

/-- The bytes of a piece. -/
def Piece.content : Piece → List UInt8
  | bytes data => data
  | failure _ => []

/-- Why a source gives no answer: it fails, or the size it is asked for is none that it takes. -/
inductive ReadFault where
  | failed (reason : String)
  | oversized
  deriving DecidableEq

/-- A source: its pieces, the greatest chunk it delivers at once if there is one, whether it ignores the size it is asked for, and
whether that size has to be an index. -/
structure Source where
  pieces : List Piece
  chunk : Option Nat := none
  overDelivers : Bool := false
  takesIndices : Bool := false
  deriving DecidableEq

namespace Source

/-- The source that holds bytes in memory. -/
def ofBytes (data : List UInt8) : Source := { pieces := [.bytes data], takesIndices := true }

/-- The bytes that a source holds. -/
def pending (s : Source) : List UInt8 := s.pieces.flatMap Piece.content

/-- The least size that is no index, 2 to the 63rd. -/
def leastOversized : Int := 0x8000000000000000

/-- Whether a source takes a size. Of indices the number of bytes it holds is always one. -/
def takes (s : Source) (size : Int) : Bool := !s.takesIndices || size < leastOversized || size ≤ s.pending.length

/-- The answer to a size that the source takes: at most one piece, a failure once. A piece that is used up is dropped. -/
def answer (s : Source) (size : Int) : Except ReadFault (List UInt8) × Source :=
  match s.pieces with
  | [] => (.ok [], s)
  | .failure reason :: pieces => (.error (.failed reason), { s with pieces })
  | .bytes data :: pieces =>
    let asked := if s.overDelivers then data.length else size.toNat
    let n := match s.chunk with
      | some chunk => min asked chunk
      | none => asked
    if data.length ≤ n then (.ok data, { s with pieces })
    else (.ok (data.take n), { s with pieces := .bytes (data.drop n) :: pieces })

/-- Asks the source for a number of bytes. -/
def read (s : Source) (size : Int) : Except ReadFault (List UInt8) × Source :=
  if s.takes size then s.answer size else (.error .oversized, s)

end Source

namespace ReadFault

/-- The cause of the refusal when a source gives no answer after `received` of the `wanted` bytes have come. -/
def cause (received : Nat) (wanted : Int) : ReadFault → DecodeFault
  | failed reason => .sourceFailed received wanted reason
  | oversized => .oversized (wanted - received)

/-- What is then noted. -/
def notes (received : Nat) (wanted : Int) : ReadFault → List Diagnostic
  | failed _ => [.sourceFailed received wanted]
  | oversized => []

end ReadFault

/-- What an operation on a source did. -/
structure Reading (α : Type) where
  outcome : Except DecodeError α
  requests : List Int
  notes : List Diagnostic
  rest : Source

namespace Reading

/-- A result without any request. -/
def done {α : Type} (a : α) (s : Source) : Reading α := ⟨.ok a, [], [], s⟩

/-- A refusal without any request. -/
def fail {α : Type} (e : DecodeError) (s : Source) : Reading α := ⟨.error e, [], [], s⟩

/-- Goes on with the source that is left, unless there was a refusal. -/
def andThen {α β : Type} (r : Reading α) (next : α → Source → Reading β) : Reading β :=
  match r.outcome with
  | .error e => ⟨.error e, r.requests, r.notes, r.rest⟩
  | .ok a =>
    let t := next a r.rest
    ⟨t.outcome, r.requests ++ t.requests, r.notes ++ t.notes, t.rest⟩

/-- Changes the result. -/
def map {α β : Type} (f : α → β) (r : Reading α) : Reading β := { r with outcome := r.outcome.map f }

/-- Counts `n` bytes that were taken before. -/
def after {α : Type} (n : Nat) (r : Reading α) : Reading α := { r with outcome := r.outcome.mapError (·.after n) }

end Reading

namespace Source

/-- Asks for the bytes still missing after `received` of the `wanted` have come. Every answer with bytes in it leaves fewer missing. -/
def gatherFrom (wanted : Int) (received : Nat) (s : Source) : Reading (List UInt8) :=
  if (received : Int) < wanted then
    let asked := wanted - received
    match s.read asked with
    | (.error fault, rest) =>
      ⟨.error ⟨fault.cause received wanted, received⟩, [asked], fault.notes received wanted, rest⟩
    | (.ok [], rest) =>
      ⟨.error ⟨.sourceEnded received wanted, received⟩, [asked], [.sourceEnded received wanted], rest⟩
    | (.ok (b :: more), rest) =>
      let r := gatherFrom wanted (received + (more.length + 1)) rest
      { r with outcome := r.outcome.map (b :: more ++ ·), requests := asked :: r.requests }
  else .done [] s
termination_by (wanted - received).toNat

/-- Asks until `wanted` bytes have come. -/
def gather (wanted : Int) (s : Source) : Reading (List UInt8) := gatherFrom wanted 0 s

end Source

end BerOid
