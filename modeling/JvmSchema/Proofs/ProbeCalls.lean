import JvmSchema.Classification.Probe
import Mathlib.Logic.Basic

/-!
# Which calls a classification makes

A resolver may change with every call, and so may the types that it finds: all of them are actions
on one state. Nothing is then known of an answer but that it came from the very call that was made,
in the state that the call before it left.

At one descriptor (`Serves`) a well-known identity costs no call. Any other descriptor is resolved
once, and a type that was found is asked the questions of `Shape.asks` up to the first that it
answers with yes (`Asked`); the last answer decides. A list of descriptors is served one after the
other (`ServesAll`), so a descriptor that comes back is resolved again. `recorded_classifyAll` says
that these are all the calls, and that writing them down changes nothing.
-/

set_option autoImplicit false
set_option relaxedAutoImplicit false

namespace JvmSchema

variable {σ : Type}

/-! ### The calls that are due -/

/-- The questions to a type in their order, each with the action that answers it. -/
def Shape.asks {m : Type → Type} (shape : Shape m) (string : Descriptor) : List (Probe × m Bool) :=
  [(.isEnum, shape.isEnum),
    (.hasStringConstructor string, shape.hasStringConstructor string),
    (.hasStringFactory "valueOf" string, shape.hasStringFactory "valueOf" string),
    (.hasStringFactory "fromString" string, shape.hasStringFactory "fromString" string)]

/-- Actions run one after the other, each in the state that the one before left, give these
answers. -/
inductive Answers : σ → List (StateM σ Bool) → List Bool → σ → Prop
  | nil (state : σ) : Answers state [] [] state
  | cons {state next last : σ} {action : StateM σ Bool} {actions : List (StateM σ Bool)}
      {answer : Bool} {answers : List Bool} (h : action.run state = (answer, next))
      (hrest : Answers next actions answers last) :
      Answers state (action :: actions) (answer :: answers) last

/-- Of the questions that are due, those of an initial part have been asked. Every answer but the
last is no, and the last can be no only if all questions have been asked. -/
structure Asked (state : σ) (due asked : List (Probe × StateM σ Bool)) (answer : Bool)
    (after : σ) : Prop where
  initial : asked <+: due
  answers : ∃ others, Answers state (asked.map Prod.snd) (others ++ [answer]) after ∧
    ∀ other ∈ others, other = false
  all : answer = false → asked = due

/-- The calls at one descriptor, with the kind and the state that they lead to. -/
inductive Serves (resolver : Resolver (StateM σ)) (known : Identities) (descriptor : Descriptor) :
    σ → List Probe → Kind → σ → Prop
  | known {state : σ} {kind : Kind} (h : known.kind? descriptor = some kind) :
      Serves resolver known descriptor state [] kind state
  | unresolved {state after : σ} (h : known.kind? descriptor = none)
      (hresolve : (resolver.resolve descriptor).run state = (none, after)) :
      Serves resolver known descriptor state [.resolve descriptor] .object after
  | resolved {state found after : σ} {shape : Shape (StateM σ)}
      {asked : List (Probe × StateM σ Bool)} {answer : Bool} (h : known.kind? descriptor = none)
      (hresolve : (resolver.resolve descriptor).run state = (some shape, found))
      (hasked : Asked found (shape.asks known.string) asked answer after) :
      Serves resolver known descriptor state (.resolve descriptor :: asked.map Prod.fst)
        (if answer then .string else .object) after

/-- Descriptors served one after the other, with the calls at each of them. -/
inductive ServesAll (resolver : Resolver (StateM σ)) (known : Identities) :
    σ → List Descriptor → List (List Probe) → List Kind → σ → Prop
  | nil (state : σ) : ServesAll resolver known state [] [] [] state
  | cons {state next last : σ} {descriptor : Descriptor} {descriptors : List Descriptor}
      {probes : List Probe} {calls : List (List Probe)} {kind : Kind} {kinds : List Kind}
      (h : Serves resolver known descriptor state probes kind next)
      (hrest : ServesAll resolver known next descriptors calls kinds last) :
      ServesAll resolver known state (descriptor :: descriptors) (probes :: calls) (kind :: kinds)
        last

/-- Whether a call resolves a descriptor. -/
def Probe.isResolve : Probe → Bool
  | .resolve _ => true
  | _ => false

/-! ### Running actions -/

theorem run_bind_of_run {α β : Type} {action : StateM σ α} {state next : σ} {value : α}
    (h : action.run state = (value, next)) (further : α → StateM σ β) :
    (action >>= further).run state = (further value).run next := by
  change (further (action.run state).1).run (action.run state).2 = _
  rw [h]

/-- The same below a log. -/
theorem run_run_bind_of_run {α β : Type} {action : StateT (List Probe) (StateM σ) α}
    {log logged : List Probe} {state next : σ} {value : α}
    (h : (action.run log).run state = ((value, logged), next))
    (further : α → StateT (List Probe) (StateM σ) β) :
    ((action >>= further).run log).run state = ((further value).run logged).run next :=
  run_bind_of_run h fun found ↦ (further found.1).run found.2

/-- A recorded action leaves its probe and does what it did before. -/
theorem Probe.run_record {α : Type} (probe : Probe) {action : StateM σ α} {state next : σ}
    {value : α} (h : action.run state = (value, next)) (log : List Probe) :
    ((probe.record action).run log).run state = ((value, log ++ [probe]), next) := by
  change (((action.run state).1, log ++ [probe]), (action.run state).2) = _
  rw [h]

/-! ### Questions to a type -/

theorem asked_singleton {state after : σ} {probe : Probe} {action : StateM σ Bool} {answer : Bool}
    {rest : List (Probe × StateM σ Bool)} (h : action.run state = (answer, after))
    (hall : answer = false → rest = []) :
    Asked state ((probe, action) :: rest) [(probe, action)] answer after where
  initial := List.prefix_append [(probe, action)] rest
  answers := ⟨[], .cons h (.nil after), List.forall_mem_nil _⟩
  all hanswer := by rw [hall hanswer]

theorem Asked.cons {state next after : σ} {probe : Probe} {action : StateM σ Bool} {answer : Bool}
    {due asked : List (Probe × StateM σ Bool)} (h : action.run state = (false, next))
    (hrest : Asked next due asked answer after) :
    Asked state ((probe, action) :: due) ((probe, action) :: asked) answer after where
  initial := List.cons_prefix_cons.2 ⟨rfl, hrest.initial⟩
  answers := by
    obtain ⟨others, hanswers, hothers⟩ := hrest.answers
    exact ⟨false :: others, .cons h hanswers, List.forall_mem_cons.2 ⟨rfl, hothers⟩⟩
  all hanswer := by rw [hrest.all hanswer]

/-- The actions of questions, each recorded. -/
def recordAll (due : List (Probe × StateM σ Bool)) : List (StateT (List Probe) (StateM σ) Bool) :=
  due.map fun (probe, action) ↦ probe.record action

/-- The search for a yes asks what is due, whether or not it is recorded. -/
theorem exists_asked_anyTrue {due : List (Probe × StateM σ Bool)} (hdue : due ≠ [])
    (log : List Probe) (state : σ) :
    ∃ asked answer after, Asked state due asked answer after ∧
      (anyTrue (due.map Prod.snd)).run state = (answer, after) ∧
      ((anyTrue (recordAll due)).run log).run state =
        ((answer, log ++ asked.map Prod.fst), after) := by
  induction due generalizing log state with
  | nil => exact absurd rfl hdue
  | cons first rest ih =>
    obtain ⟨probe, action⟩ := first
    rcases hanswer : action.run state with ⟨answer, next⟩
    have hplain := run_bind_of_run hanswer
      fun holds ↦ if holds then pure true else anyTrue (rest.map Prod.snd)
    have hrecorded := run_run_bind_of_run (probe.run_record hanswer log)
      fun holds ↦ if holds then pure true else anyTrue (recordAll rest)
    cases answer with
    | true => exact ⟨_, true, next, asked_singleton hanswer nofun, hplain, hrecorded⟩
    | false =>
      by_cases hrest : rest = []
      · subst hrest
        exact ⟨_, false, next, asked_singleton hanswer fun _ ↦ rfl, hplain, hrecorded⟩
      · obtain ⟨asked, answer, after, hasked, hrun, hrunRecorded⟩ :=
          ih hrest (log ++ [probe]) next
        rw [List.append_assoc] at hrunRecorded
        exact ⟨(probe, action) :: asked, answer, after, hasked.cons hanswer, hplain.trans hrun,
          hrecorded.trans hrunRecorded⟩

/-! ### Descriptors -/

/-- One descriptor is served as it should be, whether or not its calls are recorded. -/
theorem exists_serves (resolver : Resolver (StateM σ)) (known : Identities)
    (descriptor : Descriptor) (log : List Probe) (state : σ) :
    ∃ probes verdict after, Serves resolver known descriptor state probes verdict.kind after ∧
      (resolver.classify known descriptor).run state = (verdict, after) ∧
      ((resolver.recorded.classify known descriptor).run log).run state =
        ((verdict, log ++ probes), after) := by
  cases hkind : known.kind? descriptor with
  | some kind =>
    refine ⟨[], .known kind, state, .known hkind, ?_, ?_⟩
    · rw [Resolver.classify, hkind]
      rfl
    · rw [Resolver.classify, hkind, List.append_nil]
      rfl
  | none =>
    rcases hresolve : (resolver.resolve descriptor).run state with ⟨shape?, found⟩
    -- What the recorded resolver finds is recorded as well.
    have hrecorded : ((resolver.recorded.resolve descriptor).run log).run state =
        ((shape?.map Shape.recorded, log ++ [.resolve descriptor]), found) :=
      run_run_bind_of_run (Probe.run_record _ hresolve log) fun shape? ↦
        pure (shape?.map Shape.recorded)
    rw [Resolver.classify, Resolver.classify, hkind]
    cases shape? with
    | none =>
      exact ⟨_, _, found, .unresolved hkind hresolve, run_bind_of_run hresolve _,
        run_run_bind_of_run hrecorded _⟩
    | some shape =>
      have hdue : shape.asks known.string ≠ [] := List.cons_ne_nil _ _
      obtain ⟨asked, answer, after, hasked, hrun, hrunRecorded⟩ :=
        exists_asked_anyTrue hdue (log ++ [.resolve descriptor]) found
      rw [List.append_assoc] at hrunRecorded
      refine ⟨_, .resolved answer, after, .resolved hkind hresolve hasked, ?_, ?_⟩
      · exact (run_bind_of_run hresolve _).trans
          (run_bind_of_run hrun fun fromString ↦ pure (Verdict.resolved fromString))
      · exact (run_run_bind_of_run hrecorded _).trans
          (run_run_bind_of_run hrunRecorded fun fromString ↦ pure (Verdict.resolved fromString))

/-- The calls at a descriptor resolve it once if its kind is not known, and not at all otherwise. -/
theorem Serves.countP_isResolve {resolver : Resolver (StateM σ)} {known : Identities}
    {descriptor : Descriptor} {state after : σ} {probes : List Probe} {kind : Kind}
    (h : Serves resolver known descriptor state probes kind after) :
    probes.countP Probe.isResolve = if known.kind? descriptor = none then 1 else 0 := by
  cases h with
  | known h => simp [h]
  | unresolved h => simp [h, Probe.isResolve]
  | @resolved _ _ shape asked _ h _ hasked =>
    have hquestions : ∀ ask ∈ shape.asks known.string, ask.1.isResolve = false := by
      simp [Shape.asks, Probe.isResolve]
    have hnone : (asked.map Prod.fst).countP Probe.isResolve = 0 := by
      rw [List.countP_eq_zero]
      intro probe hprobe
      obtain ⟨ask, hask, rfl⟩ := List.mem_map.1 hprobe
      simp [hquestions ask (hasked.initial.subset hask)]
    rw [List.countP_cons_of_pos rfl, hnone, if_pos h]

theorem ServesAll.countP_isResolve {resolver : Resolver (StateM σ)} {known : Identities}
    {descriptors : List Descriptor} {state last : σ} {calls : List (List Probe)}
    {kinds : List Kind} (h : ServesAll resolver known state descriptors calls kinds last) :
    calls.flatten.countP Probe.isResolve =
      descriptors.countP fun descriptor ↦ known.kind? descriptor = none := by
  induction h with
  | nil => rfl
  | cons h _ ih =>
    rw [List.flatten_cons, List.countP_append, ih, h.countP_isResolve, List.countP_cons,
      Nat.add_comm]
    simp

/-- The descriptors of a list are served one after the other, whether or not the calls are
recorded. -/
theorem exists_servesAll (resolver : Resolver (StateM σ)) (known : Identities)
    (descriptors : List Descriptor) (log : List Probe) (state : σ) :
    ∃ calls verdicts last,
      ServesAll resolver known state descriptors calls (verdicts.map Verdict.kind) last ∧
      (resolver.classifyAll known descriptors).run state = (descriptors.zip verdicts, last) ∧
      ((resolver.recorded.classifyAll known descriptors).run log).run state =
        ((descriptors.zip verdicts, log ++ calls.flatten), last) := by
  induction descriptors generalizing log state with
  | nil =>
    refine ⟨[], [], state, .nil state, rfl, ?_⟩
    rw [List.flatten_nil, List.append_nil]
    rfl
  | cons descriptor rest ih =>
    obtain ⟨probes, verdict, next, hserves, hrun, hrunRecorded⟩ :=
      exists_serves resolver known descriptor log state
    obtain ⟨calls, verdicts, last, hserved, hrest, hrestRecorded⟩ := ih (log ++ probes) next
    have hrow := run_bind_of_run hrun fun verdict ↦ pure (descriptor, verdict)
    have hrowRecorded := run_run_bind_of_run hrunRecorded fun verdict ↦ pure (descriptor, verdict)
    rw [List.append_assoc, ← List.flatten_cons] at hrestRecorded
    refine ⟨probes :: calls, verdict :: verdicts, last, .cons hserves hserved, ?_, ?_⟩
    · rw [Resolver.classifyAll, List.mapM_cons]
      exact (run_bind_of_run hrow _).trans
        (run_bind_of_run hrest fun rows ↦ pure ((descriptor, verdict) :: rows))
    · rw [Resolver.classifyAll, List.mapM_cons]
      exact (run_run_bind_of_run hrowRecorded _).trans
        (run_run_bind_of_run hrestRecorded fun rows ↦ pure ((descriptor, verdict) :: rows))

/-- Every call of a batch is one that is due at its place, and none is left out; each is answered in
the state that the calls before it left. Writing the calls down changes neither the kinds nor the
state. A descriptor is resolved as often as it is listed, if it is no well-known one. -/
theorem recorded_classifyAll (resolver : Resolver (StateM σ)) (known : Identities)
    (descriptors : List Descriptor) (state : σ) :
    ∃ calls verdicts last,
      ((resolver.recorded.classifyAll known descriptors).run []).run state =
        ((descriptors.zip verdicts, calls.flatten), last) ∧
      (resolver.classifyAll known descriptors).run state = (descriptors.zip verdicts, last) ∧
      ServesAll resolver known state descriptors calls (verdicts.map Verdict.kind) last ∧
      calls.flatten.countP Probe.isResolve =
        descriptors.countP fun descriptor ↦ known.kind? descriptor = none := by
  obtain ⟨calls, verdicts, last, hserved, hrun, hrunRecorded⟩ :=
    exists_servesAll resolver known descriptors [] state
  exact ⟨calls, verdicts, last, hrunRecorded, hrun, hserved, hserved.countP_isResolve⟩

-- A resolver that counts its calls and finds a type on every other one is asked again each time.
example :
    let shape : Shape (StateM Nat) := ⟨pure false, fun _ ↦ pure false, fun name _ ↦
      pure (name = "valueOf")⟩
    let resolver : Resolver (StateM Nat) := ⟨fun _ ↦ do
      modify (· + 1)
      return if (← get) % 2 = 0 then some shape else none⟩
    ((resolver.recorded.classifyAll .jvm [⟨"LA;"⟩, ⟨"I"⟩, ⟨"LA;"⟩]).run []).run 0 =
      (([(⟨"LA;"⟩, .unresolved), (⟨"I"⟩, .known .integer), (⟨"LA;"⟩, .resolved true)],
        [.resolve ⟨"LA;"⟩, .resolve ⟨"LA;"⟩, .isEnum,
          .hasStringConstructor ⟨"Ljava/lang/String;"⟩,
          .hasStringFactory "valueOf" ⟨"Ljava/lang/String;"⟩]), 2) := by
  rfl

end JvmSchema
