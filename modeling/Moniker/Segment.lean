import Moniker.Segment.Fixed
import Moniker.Segment.Excerpt
import Moniker.Segment.Sample
import Moniker.Segment.Counter

/-!
# Segments

A segment is a fragment at work: it holds the data of its variable and gives one
piece of every candidate.
-/

namespace Moniker

inductive Source (ρ : Type) where
  | literal (fixed : Fixed)
  | whole (fixed : Fixed)
  | sample (sample : Sample ρ)
  | part (excerpt : Excerpt)
  | counter (counter : Counter)
  deriving DecidableEq

namespace Source

variable {ρ : Type}

/-- The data is not looked at by a literal, nor the stream by any but a sample. -/
def ofForm (fragment : Text) (data : Text) (stream : ρ) : Form -> Source ρ
  | .literal payload => literal { text := payload }
  | .data _ .whole => whole { text := data }
  | .data _ (.sample length) =>
      sample { alphabet := data, length := length, stream := stream }
  | .data _ (.part span) => part { fragment := fragment, data := data, span := span }
  | .data _ (.counter width) => counter { digits := data, width := width }

def next [Chance ρ] : Source ρ -> Except Failure Text × Source ρ
  | literal f => (.ok f.next.1, literal f.next.2)
  | whole f => (.ok f.next.1, whole f.next.2)
  | sample s => (.ok s.next.1, sample s.next.2)
  | part x => (x.next.1, part x.next.2)
  | counter c => (.ok c.next.1, counter c.next.2)

def live : Source ρ -> Bool
  | literal f => f.live
  | whole f => f.live
  | sample s => s.live
  | part x => x.live
  | counter c => c.live

def complete : Source ρ -> Bool
  | literal f => f.complete
  | whole f => f.complete
  | sample s => s.complete
  | part x => x.complete
  | counter c => c.complete

end Source

structure Segment (ρ : Type) where
  text : Text
  resolver : Bool
  source : Source ρ
  deriving DecidableEq

namespace Segment

variable {ρ : Type}

def ofFragment (fragment : Fragment) (data : Text) (stream : ρ) : Segment ρ :=
  { text := fragment.text
    resolver := fragment.resolver
    source := Source.ofForm fragment.text data stream fragment.form }

def next [Chance ρ] (s : Segment ρ) : Except Failure Text × Segment ρ :=
  (s.source.next.1, { s with source := s.source.next.2 })

def live (s : Segment ρ) : Bool :=
  s.source.live

def complete (s : Segment ρ) : Bool :=
  s.source.complete && !s.text.isEmpty

/-!
# Rows of segments

The pieces of a row are given from left to right and joined.  The first segment
that fails ends the step; those before it have moved on, it and those behind it
have not.
-/

def nextAll [Chance ρ] : List (Segment ρ) -> Except Failure Text × List (Segment ρ)
  | [] => (.ok [], [])
  | s :: rest =>
      match s.next with
      | (.error failure, s) => (.error failure, s :: rest)
      | (.ok piece, s) =>
          match nextAll rest with
          | (.error failure, rest) => (.error failure, s :: rest)
          | (.ok pieces, rest) => (.ok (piece ++ pieces), s :: rest)

end Segment
end Moniker
