import MarkupTemplate.Fault.Cause
import MarkupTemplate.Span

/-!
# Faults

A fault is a cause, with the place in a markup that shows it and the name of the template it came
from, where these are known. Two faults *agree* if they read alike apart from the place.
-/

namespace MarkupTemplate

/-- A stretch of a source text. -/
structure Place where
  source : Text
  span : Span
  deriving DecidableEq, Repr

/-- Something that went wrong. -/
structure Fault where
  cause : Cause
  place : Option Place
  name : Option Text
  deriving DecidableEq, Repr

namespace Fault

/-- A fault that shows no place and names no template. -/
def ofCause (cause : Cause) : Fault := ⟨cause, none, none⟩

/-- A fault at a span of a source text. -/
def ofSpan (source : Text) (span : Span) (cause : Cause) : Fault :=
  ⟨cause, some ⟨source, span⟩, none⟩

/-- The fault under the name of a template. The empty key names nothing. -/
def named (fault : Fault) : Key → Fault
  | .empty => fault
  | key => { fault with name := some key.text }

def kind (fault : Fault) : FaultKind := fault.cause.kind

def reason (fault : Fault) : Text := fault.cause.reason

def help (fault : Fault) : Option Text := fault.cause.help

/-- Whether two faults have the same kind, reason, advice and name. -/
def agrees (a b : Fault) : Bool :=
  a.kind = b.kind && a.reason = b.reason && a.help = b.help && a.name = b.name

@[simp] theorem cause_named (fault : Fault) (key : Key) :
    (fault.named key).cause = fault.cause := by
  cases key <;> rfl

@[simp] theorem place_named (fault : Fault) (key : Key) :
    (fault.named key).place = fault.place := by
  cases key <;> rfl

end Fault

end MarkupTemplate
