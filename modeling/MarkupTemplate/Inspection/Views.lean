import MarkupTemplate.Engine
import MarkupTemplate.Fault.Report
import MarkupTemplate.Inspection.Basic

/-!
# Inspecting faults, caches and engines

What the notation of inspection shows of a fault, of a cache and of an engine. The compact form of
a fault comes behind its report.
-/

namespace MarkupTemplate

namespace FaultKind

/-- The name of the kind in a record. -/
def recordName : FaultKind → Text
  | malformed => txt "Structure"
  | arity => txt "Arity"
  | lookup => txt "Lookup"
  | value => txt "Value"

end FaultKind

namespace Pointer

/-- The record of a pointer. -/
def inspection (p : Pointer) : Inspection :=
  .record (txt "Pointer")
    [(txt "line", .ofNat p.line), (txt "column", .ofNat p.column), (txt "length", .ofNat p.length),
      (txt "text", .quoted p.text)] false

end Pointer

namespace Fault

variable [Metric]

/-- The record of a fault. -/
def inspection (fault : Fault) : Inspection :=
  .record (txt "Error")
    [(txt "kind", .word fault.kind.recordName), (txt "reason", .quoted fault.reason),
      (txt "name", .ofOption (fault.name.map .quoted)),
      (txt "visual", .ofOption (fault.place.map fun place => (Pointer.ofPlace place).inspection)),
      (txt "help", .ofOption (fault.help.map .quoted))] false

/-- The report of a fault, and its record on one line. -/
def inspect (fault : Fault) : Text := fault.report ++ '\n' :: fault.inspection.compact

/-- The record of a fault on several lines. -/
def inspectIndented (fault : Fault) : Text := fault.inspection.indented 0

end Fault

namespace Key

/-- A key in a record. -/
def inspection : Key → Inspection
  | empty => .word (txt "Empty")
  | hash value => .wrapped (txt "Hash") (.word (Text.ofInt value.toInt))

end Key

namespace Cache

/-- The record of a cache: its keys, and the number of its producers. -/
def inspection {π : Type} (c : Cache π) : Inspection :=
  .record (txt "ProducerCache")
    [(txt "keys", .list (c.keys.map Key.inspection)), (txt "len", .ofNat c.size)] false

end Cache

namespace Dialect

/-- The record of a dialect. -/
def inspection (d : Dialect) : Inspection :=
  .record (txt "Syntax") [(txt "void_tags", .set (d.voidTags.map .quoted))] false

end Dialect

namespace Engine

/-- The record of an engine. The host is not shown. -/
def inspection {σ : Type} (engine : Engine σ) : Inspection :=
  .record (txt "Engine")
    [(txt "syntax", engine.dialect.inspection), (txt "cache", engine.cache.inspection),
      (txt "compilations", .ofNat engine.compilations)] true

end Engine

end MarkupTemplate
