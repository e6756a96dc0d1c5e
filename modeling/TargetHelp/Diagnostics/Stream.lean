import TargetHelp.Fault

/-!
# Streams

What has been written to a place, write by write, and which texts the place takes. A write that is
refused leaves the stream as it was.
-/

set_option autoImplicit false
set_option relaxedAutoImplicit false

namespace TargetHelp

/-- Which texts a stream takes. -/
inductive Policy where
  | everything
  /-- Texts without surrogates. -/
  | strict
  /-- All texts, with surrogates escaped. -/
  | escaping
  /-- No text; every write ends in this fault. -/
  | broken (fault : Fault)
  /-- What an answer lets through, which may depend on what has been written before. -/
  | answering (answer : List Text → Text → Except Fault Text)

structure Stream where
  policy : Policy
  writes : List Text := []

namespace Stream

def text (stream : Stream) : Text := stream.writes.flatten

/-- How a text is written under a policy behind some writes. -/
def accept (policy : Policy) (writes : List Text) (t : Text) : Except Fault Text :=
  match policy with
  | .everything => .ok t
  | .strict =>
    match Utf8.surrogates? t with
    | none => .ok t
    | some error => .error (.encoding error)
  | .escaping => .ok (Text.escapeSurrogates t)
  | .broken fault => .error fault
  | .answering answer => answer writes t

def write (stream : Stream) (t : Text) : Except Fault Stream := do
  return { stream with writes := stream.writes ++ [← accept stream.policy stream.writes t] }

end Stream

end TargetHelp
