import Moniker.Bindings
import Moniker.Fragment.Session
import Moniker.Segment

/-!
# Templates

A template is compiled from its text: the text is cut at every colon, the pieces
are read in one session, each gets the data of its variable and a random stream
of its own, and must be complete.  The leftmost piece that cannot be compiled is
reported.
-/

namespace Moniker

structure Template (ρ : Type) where
  source : Text
  segments : List (Segment ρ)
  deriving DecidableEq

namespace Template

variable {ρ : Type}

/-- Stands between the fragments of a template. -/
def delimiter : Char :=
  ':'

/-- The data of a fragment; a literal needs none. -/
def dataFor (bindings : Bindings) (fragment : Fragment) : Except Failure Text :=
  match fragment.form.key? with
  | none => .ok []
  | some key =>
      match bindings.get? key with
      | some data => .ok data
      | none => .error (.unbound key fragment.text)

def compileSegment (bindings : Bindings) (raw : Text) (fragment : Fragment)
    (stream : ρ) : Except Failure (Segment ρ) := do
  let data ← dataFor bindings fragment
  let segment := Segment.ofFragment fragment data stream
  if segment.complete then
    return segment
  else
    throw (.incomplete raw)

/-- Every piece takes its stream from the master stream, whether it samples or not. -/
def compilePieces [Chance ρ] (bindings : Bindings) :
    List Text -> Session -> ρ -> Except Failure (List (Segment ρ))
  | [], _, _ => .ok []
  | raw :: rest, session, master =>
      match session.read raw with
      | (.error failure, _) => .error failure
      | (.ok fragment, session) => do
          let (stream, master) := Chance.split master
          let segment ← compileSegment bindings raw fragment stream
          let segments ← compilePieces bindings rest session master
          return segment :: segments

def compile [Chance ρ] (master : ρ) (source : Text) (bindings : Bindings) :
    Except Failure (Template ρ) := do
  let segments ← compilePieces bindings (Text.cut delimiter source) {} master
  return { source := source, segments := segments }

def next [Chance ρ] (t : Template ρ) : Except Failure Text × Template ρ :=
  let (candidate, segments) := Segment.nextAll t.segments
  (candidate, { t with segments := segments })

/-- A template is live while a segment that is no resolver is. -/
def live (t : Template ρ) : Bool :=
  t.segments.any fun s => !s.resolver && s.live

end Template
end Moniker
