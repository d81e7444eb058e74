import MarkupTemplate.Cache
import MarkupTemplate.Template

/-!
# The engine

An engine renders templates from their fragments. It compiles a template when it first meets the
markup with values of the same shapes, has a host turn the program into a producer, and stores the
producer; from then on it only runs it.

A host may keep a state and may refuse a program. The plain host runs the plan itself.
-/

namespace MarkupTemplate

/-- What turns the programs of templates into producers, with a state of its own. -/
structure Host (σ : Type) where
  install : Template → σ → Except Fault Producer × σ

namespace Host

/-- The host that runs plans. -/
def plain [NumberFormat] : Host Unit := ⟨fun template state => (.ok template.plan.produce, state)⟩

/-- The host that runs plans and keeps the source text of every program. -/
def recording [NumberFormat] : Host (List Text) :=
  ⟨fun template sources => (.ok template.plan.produce, sources ++ [template.source])⟩

/-- The host that refuses every program. -/
def refusing (fault : Fault) : Host Unit := ⟨fun _ state => (.error fault, state)⟩

end Host

/-- What renders templates, and what it has compiled so far. -/
structure Engine (σ : Type) where
  dialect : Dialect
  host : Host σ
  /-- The state of the host. -/
  state : σ
  cache : Cache Producer
  /-- How many templates were compiled, also those that the host refused. -/
  compilations : Nat

namespace Engine

variable {σ : Type}

/-- An engine that has compiled nothing. -/
def new (dialect : Dialect) (host : Host σ) (state : σ) : Engine σ :=
  ⟨dialect, host, state, .empty, 0⟩

/-- The engine with another dialect, and with all that it has compiled. -/
def withDialect (engine : Engine σ) (dialect : Dialect) : Engine σ := { engine with dialect }

/-- Have the host install a compiled template, and store the producer. -/
def install (engine : Engine σ) (identity : Text) (template : Template) :
    Except Fault (Key × Producer) × Engine σ :=
  let engine := { engine with compilations := engine.compilations + 1 }
  match engine.host.install template engine.state with
  | (.ok producer, state) =>
    (.ok (template.key, producer),
      { engine with state, cache := engine.cache.put template.key identity producer })
  | (.error fault, state) => (.error (fault.named template.key), { engine with state })

section

variable [Alphabet]

/-- The producer of a template and the key that it is stored under. The template is compiled unless
its identity is known. -/
def producer (engine : Engine σ) (fragments : List Text) (b : Bindings) :
    Except Fault (Key × Producer) × Engine σ :=
  match Markup.assemble fragments b.size with
  | .error cause => (.error (Fault.ofCause cause), engine)
  | .ok markup =>
    let identity := markup.identity b.shapes
    let key := Key.ofText identity
    match engine.cache.get? key identity with
    | some producer => (.ok (key, producer), engine)
    | none =>
      match Template.compile engine.dialect b.shapes key markup with
      | .error fault => (.error fault, engine)
      | .ok template => engine.install identity template

def render (engine : Engine σ) (fragments : List Text) (b : Bindings) :
    Except Fault Rendered × Engine σ :=
  match engine.producer fragments b with
  | (.ok (_, producer), engine) => (producer b, engine)
  | (.error fault, engine) => (.error fault, engine)

/-- Compile a template unless it is known, and answer its key. -/
def compile (engine : Engine σ) (fragments : List Text) (b : Bindings) :
    Except Fault Key × Engine σ :=
  match engine.producer fragments b with
  | (.ok (key, _), engine) => (.ok key, engine)
  | (.error fault, engine) => (.error fault, engine)

end

/-- Render the one template that was compiled under a key. -/
def invoke (engine : Engine σ) (key : Key) (b : Bindings) : Except Fault Rendered :=
  engine.cache.invoke key b

end Engine

def render [Alphabet] [NumberFormat] (fragments : List Text) (b : Bindings) :
    Except Fault Rendered :=
  ((Engine.new .standard .plain ()).render fragments b).1

end MarkupTemplate
