import Moniker.Failure
import Moniker.Fragment.Grammar

/-!
# Reading sessions

The fragments of one template are read in one session, which remembers whether
a counter was read: a template has at most one.  A session that refuses a
fragment is left as it was.
-/

namespace Moniker

/-- A resolver is written between brackets, with no line feed in between. -/
def unbracket? : Text -> Option Text
  | '[' :: rest =>
      match rest.getLast? with
      | some ']' => if rest.dropLast.contains '\n' then none else some rest.dropLast
      | _ => none
  | _ => none

/-- The text of a fragment without its brackets, and whether it had them. -/
def unbracket (s : Text) : Text × Bool :=
  match unbracket? s with
  | some inner => (inner, true)
  | none => (s, false)

structure Session where
  counterRead : Bool := false
  deriving DecidableEq

namespace Session

/-- Reads a text as it stands, brackets not being removed. -/
def readForm (session : Session) (s : Text) : Except Failure Form × Session :=
  match Form.read? s with
  | none => (.error (.unknownForm s), session)
  | some form =>
      if form.isCounter then
        if session.counterRead then
          (.error (.secondCounter s), session)
        else
          (.ok form, { session with counterRead := true })
      else
        (.ok form, session)

def readWith (session : Session) (s : Text) (resolver : Bool) :
    Except Failure Fragment × Session :=
  match session.readForm s with
  | (.ok form, session) => (.ok { text := s, resolver := resolver, form := form }, session)
  | (.error failure, session) => (.error failure, session)

def readInner (session : Session) (s : Text) : Except Failure Fragment × Session :=
  session.readWith s false

def read (session : Session) (raw : Text) : Except Failure Fragment × Session :=
  session.readWith (unbracket raw).1 (unbracket raw).2

end Session
end Moniker
