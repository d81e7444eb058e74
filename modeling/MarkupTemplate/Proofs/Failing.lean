import MarkupTemplate.Libraries
import MarkupTemplate.Proofs.Accounting
import MarkupTemplate.Proofs.Uses

/-!
# What a call that fails leaves behind

A call may fail at four places: the markup cannot be assembled or read, the host refuses the
program, or the producer meets a value that it cannot use.

    assemble ──▶ read ──▶ install ──▶ produce

Nothing is stored before `install`, and what is stored there is tried out at once, on the very
values it was compiled for; `Tree.exists_evaluate_of_ofMarkup` says that a tree can be evaluated on
them. So a call that fails leaves the cache as it was, and the counter as well unless it was the
host that refused: `take_of_answer_eq_error`.
-/

namespace MarkupTemplate

variable {σ : Type}

/-- Whether a host, in every state, refuses a program or runs its plan. -/
def Host.RunsPlans [NumberFormat] (host : Host σ) : Prop :=
  ∀ template state, (∃ fault, (host.install template state).1 = .error fault) ∨
    (host.install template state).1 = (plain.install template ()).1

/-- What a call answers unless it fails. -/
inductive Answer where
  | element (e : Rendered)
  | key (key : Key)

/-- Markup that is read as a tree for some values is evaluated on these values. -/
theorem Tree.exists_evaluate_of_ofMarkup [Alphabet] [NumberFormat] {dialect : Dialect}
    {fragments : List Text} {b : Bindings} {m : Markup} {tree : Tree}
    (hm : Markup.assemble fragments b.size = .ok m)
    (htree : ofMarkup dialect b.shapes m = .ok tree) : ∃ e, tree.evaluate b = .ok e := by
  rw [← Bindings.length_shapes] at hm
  have hfits := fits_of_ofMarkup hm htree
  exact exists_evaluate fun use huse => Use.check_of_fits (hfits use huse)

namespace Engine

/-- What an engine answers to a call. -/
def answer [Alphabet] (engine : Engine σ) : Call → Except Fault Answer
  | .render fragments b => (engine.render fragments b).1.map .element
  | .compile fragments b => (engine.compile fragments b).1.map .key
  | .invoke key b => (engine.invoke key b).map .element

/-- An installation leaves the host and the dialect as they are. -/
theorem install_keeps (engine : Engine σ) (identity : Text) (template : Template) :
    (engine.install identity template).2.host = engine.host ∧
      (engine.install identity template).2.dialect = engine.dialect := by
  rw [install]
  dsimp only
  split <;> exact ⟨rfl, rfl⟩

/-- So does a call, which installs a template or changes nothing. -/
theorem take_keeps [Alphabet] (engine : Engine σ) (call : Call) :
    (engine.take call).host = engine.host ∧ (engine.take call).dialect = engine.dialect := by
  cases hattempt : engine.attempt? call with
  | none =>
    rw [take_of_attempt?_eq_none hattempt]
    exact ⟨rfl, rfl⟩
  | some a =>
    obtain ⟨fragments, b, template, hrequest, htask, -⟩ := attempt?_eq_some hattempt
    rw [take_of_request? hrequest, producer_of_task? htask]
    exact install_keeps engine _ _

/-- An engine keeps its host. -/
theorem host_after [Alphabet] (engine : Engine σ) (calls : List Call) :
    (engine.after calls).host = engine.host := by
  induction calls generalizing engine with
  | nil => rfl
  | cons call calls ih => rw [after_cons, ih, (take_keeps engine call).1]

/-! ## What becomes of an attempt -/

variable {engine : Engine σ} {call : Call} {identity : Text}

section

variable [Alphabet]

/-- What is answered to a call that asks for a template depends on its producer. -/
theorem answer_of_request? {fragments : List Text} {b : Bindings}
    (h : call.request? = some (fragments, b)) :
    engine.answer call = (engine.producer fragments b).1 >>= fun found =>
      match call with
      | .compile _ _ => .ok (.key found.1)
      | _ => (found.2 b).map .element := by
  cases call with
  | render fragments b =>
    cases h
    rw [answer, render_fst]
    cases (engine.producer fragments b).1 <;> rfl
  | compile fragments b =>
    cases h
    rw [answer, compile_fst]
    cases (engine.producer fragments b).1 <;> rfl
  | invoke key b => cases h

/-- When the host refuses, the call fails with the fault of the host under the name of the
template. -/
theorem answer_of_refused {fault : Fault}
    (h : engine.attempt? call = some ⟨identity, .error fault⟩) :
    engine.answer call = .error (fault.named (Key.ofText identity)) := by
  obtain ⟨fragments, b, template, hrequest, htask, houtcome⟩ := attempt?_eq_some h
  obtain ⟨m, -, -, -, htemplate⟩ := task?_eq_some htask
  obtain ⟨tree, -, rfl⟩ := Template.compile_eq_ok htemplate
  rw [answer_of_request? hrequest, producer_of_task? htask, install_fst, ← houtcome]
  rfl

/-- When a program is installed by a host that runs plans, the call succeeds. -/
theorem exists_answer_of_installed [NumberFormat] {producer : Producer}
    (hhost : engine.host.RunsPlans) (h : engine.attempt? call = some ⟨identity, .ok producer⟩) :
    ∃ a, engine.answer call = .ok a := by
  obtain ⟨fragments, b, template, hrequest, htask, houtcome⟩ := attempt?_eq_some h
  obtain ⟨m, hm, -, -, htemplate⟩ := task?_eq_some htask
  obtain ⟨tree, htree, rfl⟩ := Template.compile_eq_ok htemplate
  obtain ⟨e, he⟩ := Tree.exists_evaluate_of_ofMarkup hm htree
  have hproducer : producer = (Plan.ofTree tree).produce := by
    rcases hhost (.ofTree (Key.ofText identity) tree) engine.state with ⟨fault, hfault⟩ | hplan
    · rw [← houtcome] at hfault
      cases hfault
    · exact Except.ok.inj (houtcome.trans hplan)
  have hproduce : producer b = .ok e := by
    rw [hproducer, Plan.produce, Plan.run_ofTree, he]
    rfl
  rw [answer_of_request? hrequest, producer_of_task? htask, install_fst, ← houtcome]
  -- A request to compile needs only the key, and a request to render only the element.
  cases call with
  | render => exact ⟨.element e, congrArg (Except.map Answer.element) hproduce⟩
  | compile => exact ⟨.key (Key.ofText identity), rfl⟩
  | invoke => cases hrequest

/-- **A call that fails leaves no trace.** If the host of an engine refuses programs or runs their
plans, then a call that fails after any history leaves the cache as it is. The counter stays as
well, unless it was the host that refused; then the attempt is counted, and the fault is that of the
host under the name of the template. -/
theorem take_of_answer_eq_error [NumberFormat] {engine : Engine σ} (hhost : engine.host.RunsPlans)
    (calls : List Call) (call : Call) {fault : Fault}
    (h : (engine.after calls).answer call = .error fault) :
    ((engine.after calls).take call).cache = (engine.after calls).cache ∧
      match (engine.after calls).attempt? call with
      | none => ((engine.after calls).take call).compilations = (engine.after calls).compilations
      | some a =>
        ((engine.after calls).take call).compilations = (engine.after calls).compilations + 1 ∧
          ∃ own, a.outcome = .error own ∧ fault = own.named (Key.ofText a.identity) := by
  rw [← host_after engine calls] at hhost
  generalize engine.after calls = engine at hhost h
  cases hattempt : engine.attempt? call with
  | none =>
    rw [take_of_attempt?_eq_none hattempt]
    exact ⟨rfl, rfl⟩
  | some a =>
    obtain ⟨identity, outcome⟩ := a
    cases outcome with
    | ok producer =>
      obtain ⟨a, ha⟩ := exists_answer_of_installed hhost hattempt
      rw [ha] at h
      cases h
    | error own =>
      refine ⟨cache_take_of_refused hattempt, (compilations_take hattempt).2, own, rfl, ?_⟩
      rw [answer_of_refused hattempt] at h
      exact (Except.error.inj h).symm

end

/-- A host that runs one program and refuses the next, which has the same key. -/
theorem take_of_answer_eq_error_refused :
    let host : Host Bool :=
      ⟨fun template ready =>
        (if ready then .ok template.plan.produce else .error (Fault.ofCause .missingRoot), false)⟩
    let engine := (new .standard host true).after [.render [txt "<p>Aa</p>"] .empty]
    let call : Call := .compile [txt "<p>BB</p>"] .empty
    let fault := (Fault.ofCause .missingRoot).named (Key.ofText (txt "<p>Aa</p>"))
    host.RunsPlans ∧ engine.answer call = .error fault ∧
      (engine.take call).cache = engine.cache ∧
      (engine.take call).compilations = engine.compilations + 1 := by
  intro host engine call fault
  have hhost : host.RunsPlans := by
    intro template ready
    cases ready with
    | false => exact .inl ⟨_, rfl⟩
    | true => exact .inr rfl
  have hcompile : (engine.compile [txt "<p>BB</p>"] .empty).1 = .error fault := by decide +kernel
  have hanswer : engine.answer call = .error fault := congrArg (Except.map Answer.key) hcompile
  have hattempt : (engine.attempt? call).isSome = true := by decide +kernel
  obtain ⟨a, ha⟩ := Option.isSome_iff_exists.mp hattempt
  obtain ⟨hcache, htrace⟩ :=
    @take_of_answer_eq_error _ _ _ (new .standard host true) hhost
      [.render [txt "<p>Aa</p>"] .empty] call _ hanswer
  have hcount : (engine.take call).compilations = engine.compilations + 1 := by
    change match engine.attempt? call with
      | none => _
      | some _ => _ at htrace
    rw [ha] at htrace
    exact htrace.1
  exact ⟨hhost, hanswer, hcache, hcount⟩

end Engine

end MarkupTemplate
