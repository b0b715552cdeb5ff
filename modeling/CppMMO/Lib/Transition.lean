import Mathlib.Data.List.Basic

/-! Finite labelled runs of a step relation, the invariant rule over them, and
runs of partial step functions that can be executed. -/

set_option autoImplicit false

namespace CppMMO.Lib

inductive Run {State Label : Type} (step : State → Label → State → Prop) :
    State → List Label → State → Prop where
  | nil {state : State} : Run step state [] state
  | cons {start middle finish : State} {label : Label} {labels : List Label} :
      step start label middle → Run step middle labels finish →
      Run step start (label :: labels) finish

/-- Every label that switches on is followed by one that switches off. -/
def Followed {Label : Type} (on off : Label → Bool) (labels : List Label) : Prop :=
  ∀ front label back, labels = front ++ label :: back → on label = true →
    ∃ later ∈ back, off later = true

theorem followed_cons_iff {Label : Type} {on off : Label → Bool} {first : Label}
    {labels : List Label} :
    Followed on off (first :: labels) ↔
      (on first = true → ∃ later ∈ labels, off later = true) ∧ Followed on off labels := by
  constructor
  · intro followed
    refine ⟨followed [] first labels rfl, ?_⟩
    intro front label back split switches
    exact followed (first :: front) label back (by rw [split]; rfl) switches
  · rintro ⟨atFirst, followed⟩ front label back split switches
    cases front with
    | nil =>
        cases split
        exact atFirst switches
    | cons other front =>
        cases split
        exact followed front label back rfl switches

instance Followed.decidable {Label : Type} (on off : Label → Bool) :
    ∀ labels, Decidable (Followed on off labels)
  | [] => isTrue fun _ _ _ split => by simp at split
  | _ :: labels =>
      have := Followed.decidable on off labels
      decidable_of_iff _ followed_cons_iff.symm

theorem followed_snoc_iff {Label : Type} {on off : Label → Bool} {labels : List Label}
    {last : Label} :
    Followed on off (labels ++ [last]) ↔
      on last = false ∧ (Followed on off labels ∨ off last = true) := by
  constructor
  · intro followed
    refine ⟨?_, ?_⟩
    · cases switches : on last with
      | false => rfl
      | true =>
          obtain ⟨later, member, -⟩ := followed labels last [] rfl switches
          cases member
    · cases ends : off last with
      | true => exact .inr rfl
      | false =>
          refine .inl fun front label back split switches => ?_
          obtain ⟨later, member, isOff⟩ := followed front label (back ++ [last])
            (by rw [split]; simp) switches
          rcases List.mem_append.mp member with earlier | same
          · exact ⟨later, earlier, isOff⟩
          · rw [List.mem_singleton.mp same, ends] at isOff
            cases isOff
  · rintro ⟨silent, followed⟩ front label back split switches
    rcases List.eq_nil_or_concat back with rfl | ⟨between, final, rfl⟩
    · obtain ⟨-, same⟩ := List.append_inj' split rfl
      cases same
      rw [silent] at switches
      cases switches
    · rw [List.concat_eq_append] at split ⊢
      have resplit : labels ++ [last] = (front ++ label :: between) ++ [final] := by
        simpa using split
      obtain ⟨rfl, same⟩ := List.append_inj' resplit rfl
      cases same
      rcases followed with before | ends
      · obtain ⟨later, member, isOff⟩ := before front label between rfl switches
        exact ⟨later, List.mem_append_left _ member, isOff⟩
      · exact ⟨last, by simp, ends⟩

namespace Run

variable {State Label : Type} {step : State → Label → State → Prop}

theorem append {start middle finish : State} {front back : List Label}
    (first : Run step start front middle) (second : Run step middle back finish) :
    Run step start (front ++ back) finish := by
  induction first with
  | nil => exact second
  | cons taken _ ih => exact .cons taken (ih second)

theorem snoc {start middle finish : State} {labels : List Label} {label : Label}
    (run : Run step start labels middle) (taken : step middle label finish) :
    Run step start (labels ++ [label]) finish :=
  run.append (.cons taken .nil)

theorem split {start finish : State} {front back : List Label}
    (run : Run step start (front ++ back) finish) :
    ∃ middle, Run step start front middle ∧ Run step middle back finish := by
  induction front generalizing start with
  | nil => exact ⟨start, .nil, run⟩
  | cons label front ih =>
      cases run with
      | cons taken rest =>
          obtain ⟨middle, first, second⟩ := ih rest
          exact ⟨middle, .cons taken first, second⟩

theorem split_at {start finish : State} {front back : List Label} {label : Label}
    (run : Run step start (front ++ label :: back) finish) :
    ∃ before after, Run step start front before ∧ step before label after ∧
      Run step after back finish := by
  obtain ⟨before, first, second⟩ := run.split
  cases second with
  | cons taken rest => exact ⟨before, _, first, taken, rest⟩

theorem exists_step_of_mem {start finish : State} {labels : List Label} {label : Label}
    (run : Run step start labels finish) (member : label ∈ labels) :
    ∃ before after, step before label after := by
  obtain ⟨front, back, rfl⟩ := List.append_of_mem member
  obtain ⟨before, after, -, taken, -⟩ := run.split_at
  exact ⟨before, after, taken⟩

/-- The invariant rule: what every step preserves holds at the end of a run. -/
theorem preserves (invariant : State → Prop)
    (preserved : ∀ {before label after}, invariant before → step before label after →
      invariant after)
    {start finish : State} {labels : List Label} (run : Run step start labels finish)
    (initially : invariant start) : invariant finish := by
  induction run with
  | nil => exact initially
  | cons taken _ ih => exact ih (preserved initially taken)

/-- The invariant rule with history: the invariant may speak of the labels so far. -/
theorem preserves_history (invariant : List Label → State → Prop)
    (preserved : ∀ {labels before label after}, invariant labels before →
      step before label after → invariant (labels ++ [label]) after)
    {start finish : State} {past labels : List Label} (run : Run step start labels finish)
    (initially : invariant past start) : invariant (past ++ labels) finish := by
  induction run generalizing past with
  | nil => simpa using initially
  | cons taken _ ih => simpa using ih (preserved initially taken)

/-- A property that some labels switch on and others switch off holds at the end of a run
unless every switch on was followed by a switch off. -/
theorem holds_iff_not_followed (holds : State → Prop) (on off : Label → Bool)
    (switches : ∀ {before label after}, step before label after →
      (holds after ↔ on label = true ∨ holds before ∧ off label = false))
    {start finish : State} {labels : List Label} (run : Run step start labels finish)
    (initially : ¬ holds start) : holds finish ↔ ¬ Followed on off labels := by
  have started : holds start ↔ ¬ Followed on off [] := by
    simp [initially, Followed]
  refine run.preserves_history (fun past state => holds state ↔ ¬ Followed on off past) ?_ started
  intro past before label after heldBefore taken
  rw [switches taken, heldBefore, followed_snoc_iff]
  cases on label <;> cases off label <;> simp

/-- Where a property holds at the end of a run but not at its start, one step of the
run made it hold. -/
theorem exists_change (property : State → Prop) {start finish : State} {labels : List Label}
    (run : Run step start labels finish) (absent : ¬ property start) (present : property finish) :
    ∃ front label back before after, labels = front ++ label :: back ∧
      Run step start front before ∧ step before label after ∧ Run step after back finish ∧
      ¬ property before ∧ property after := by
  induction run with
  | nil => exact absurd present absent
  | @cons start middle finish label labels taken rest ih =>
      by_cases already : property middle
      · exact ⟨[], label, labels, start, middle, rfl, .nil, taken, rest, absent, already⟩
      · obtain ⟨front, changed, back, before, after, rfl, first, step, last, wasNot, becomes⟩ :=
          ih already present
        exact ⟨label :: front, changed, back, before, after, rfl, .cons taken first, step, last,
          wasNot, becomes⟩

theorem with_labels (property : Label → Prop) {start finish : State} {labels : List Label}
    (run : Run step start labels finish) (holds : ∀ label ∈ labels, property label) :
    Run (fun before label after => step before label after ∧ property label) start labels finish := by
  induction run with
  | nil => exact .nil
  | cons taken _ ih =>
      exact .cons ⟨taken, holds _ List.mem_cons_self⟩
        (ih fun label member => holds label (List.mem_cons_of_mem _ member))

/-- What only bad steps end, and no step begins, holds at the end of a run exactly when the
run takes no bad step. -/
theorem holds_iff_avoids (invariant holds : State → Prop) (bad : State → Label → Prop)
    (deterministic : ∀ {before label after other}, step before label after →
      step before label other → after = other)
    (preserved : ∀ {before label after}, invariant before → step before label after →
      invariant after)
    (ends : ∀ {before label after}, invariant before → step before label after →
      (holds after ↔ holds before ∧ ¬ bad before label))
    {start finish : State} {labels : List Label} (run : Run step start labels finish)
    (initially : invariant start) :
    holds finish ↔ holds start ∧
      Run (fun before label after => step before label after ∧ ¬ bad before label)
        start labels finish := by
  induction run with
  | nil => exact ⟨fun still => ⟨still, .nil⟩, fun still => still.1⟩
  | @cons start middle finish label labels taken _ ih =>
      rw [ih (preserved initially taken), ends initially taken]
      constructor
      · rintro ⟨⟨still, good⟩, rest⟩
        exact ⟨still, .cons ⟨taken, good⟩ rest⟩
      · rintro ⟨still, good⟩
        cases good with
        | cons first rest =>
            cases deterministic taken first.1
            exact ⟨⟨still, first.2⟩, rest⟩

/-- A run takes no bad step, or it can be cut at one. -/
theorem avoids_or_hits (bad : State → Label → Prop) {start finish : State} {labels : List Label}
    (run : Run step start labels finish) :
    Run (fun before label after => step before label after ∧ ¬ bad before label)
      start labels finish ∨
    ∃ front label back before after, labels = front ++ label :: back ∧
      Run step start front before ∧ step before label after ∧ bad before label ∧
      Run step after back finish := by
  induction run with
  | nil => exact .inl .nil
  | @cons start middle finish label labels taken rest ih =>
      by_cases isBad : bad start label
      · exact .inr ⟨[], label, labels, start, middle, rfl, .nil, taken, isBad, rest⟩
      · rcases ih with avoiding | ⟨front, hit, back, before, after, rfl, first, hits, last, more⟩
        · exact .inl (.cons ⟨taken, isBad⟩ avoiding)
        · exact .inr ⟨label :: front, hit, back, before, after, rfl, .cons taken first, hits, last,
            more⟩

/-- What a run emits is pairwise related, where every step relates what it emits to all that the
state remembers, and what was emitted stays remembered. -/
theorem pairwise_emitted {Value : Type} (emit : Label → Option Value)
    (remembers : State → Value → Prop) (related : Value → Value → Prop)
    (relates : ∀ {before label after earlier value}, step before label after →
      emit label = some value → remembers before earlier → related earlier value)
    (kept : ∀ {before label after earlier}, step before label after → remembers before earlier →
      remembers after earlier)
    (recorded : ∀ {before label after value}, step before label after → emit label = some value →
      remembers after value)
    {start finish : State} {labels : List Label} (run : Run step start labels finish) :
    (labels.filterMap emit).Pairwise related := by
  let invariant (past : List Label) (state : State) : Prop :=
    (past.filterMap emit).Pairwise related ∧ ∀ value ∈ past.filterMap emit, remembers state value
  have holds : invariant ([] ++ labels) finish := by
    refine run.preserves_history invariant ?_ (by simp [invariant])
    intro past before label after soFar taken
    obtain ⟨pairwise, remembered⟩ := soFar
    have keptAll : ∀ value ∈ past.filterMap emit, remembers after value :=
      fun value member => kept taken (remembered value member)
    cases emitted : emit label with
    | none =>
        have nothing : List.filterMap emit [label] = [] := by simp [emitted]
        simp only [invariant, List.filterMap_append, nothing, List.append_nil]
        exact ⟨pairwise, keptAll⟩
    | some value =>
        have single : List.filterMap emit [label] = [value] := by simp [emitted]
        simp only [invariant, List.filterMap_append, single]
        refine ⟨List.pairwise_append.mpr ⟨pairwise, List.pairwise_singleton _ _, ?_⟩, ?_⟩
        · intro earlier member last isLast
          rw [List.mem_singleton.mp isLast]
          exact relates taken emitted (remembered earlier member)
        · intro other member
          rcases List.mem_append.mp member with earlier | last
          · exact keptAll other earlier
          · exact List.mem_singleton.mp last ▸ recorded taken emitted
  exact holds.1

/-- Unwinding: where hidden steps leave the view as it is and every other step can be
taken from any clean state with the same view, a run without its hidden steps is a run, and
ends with the same view. -/
theorem purge {View : Type} {target : State → Label → State → Prop} (view : State → View)
    (hidden : Label → Bool) (invariant clean : State → Prop)
    (preserved : ∀ {before label after}, invariant before → step before label after →
      invariant after)
    (respects : ∀ {before label after}, invariant before → hidden label = true →
      step before label after → view after = view before)
    (consistent : ∀ {before label after other}, hidden label = false → clean other →
      view before = view other → step before label after →
      ∃ next, target other label next ∧ clean next ∧ view after = view next)
    {start finish : State} {labels : List Label} (run : Run step start labels finish)
    (initially : invariant start) {other : State} (cleanOther : clean other)
    (same : view start = view other) :
    ∃ next, Run target other (labels.filter (!hidden ·)) next ∧ view finish = view next := by
  induction run generalizing other with
  | nil => exact ⟨other, .nil, same⟩
  | @cons before middle finish label labels taken _ ih =>
      have continues := @ih (preserved initially taken)
      cases isHidden : hidden label with
      | true =>
          obtain ⟨next, rest, ends⟩ :=
            continues cleanOther ((respects initially isHidden taken).trans same)
          exact ⟨next, by simpa [isHidden] using rest, ends⟩
      | false =>
          obtain ⟨between, first, cleanBetween, sameBetween⟩ :=
            consistent isHidden cleanOther same taken
          obtain ⟨next, rest, ends⟩ := continues cleanBetween sameBetween
          exact ⟨next, by simpa [isHidden] using .cons first rest, ends⟩

end Run

/-- Values observed one after the other in a run, each at a moment after its first steps `past`. -/
inductive Observed {State Label Value : Type} (step : State → Label → State → Prop)
    (observe : State → Value) (start : State) (past : List Label) :
    List Label → List Value → Prop where
  | nil (more : List Label) : Observed step observe start past (past ++ more) []
  | snoc {labels : List Label} {values : List Value} {middle : State} (more : List Label) :
      Observed step observe start past labels values → Run step start labels middle →
      Observed step observe start past (labels ++ more) (values ++ [observe middle])

namespace Observed

variable {State Label Value : Type} {step : State → Label → State → Prop} {observe : State → Value}
  {start : State} {past labels : List Label} {values : List Value}

theorem append (observed : Observed step observe start past labels values) (more : List Label) :
    Observed step observe start past (labels ++ more) values := by
  cases observed with
  | nil later =>
      rw [List.append_assoc]
      exact .nil (later ++ more)
  | snoc later earlier run =>
      rw [List.append_assoc]
      exact .snoc (later ++ more) earlier run

theorem exists_later (observed : Observed step observe start past labels values) :
    ∃ more, labels = past ++ more := by
  induction observed with
  | nil more => exact ⟨more, rfl⟩
  | snoc more _ _ ih =>
      obtain ⟨between, rfl⟩ := ih
      exact ⟨between ++ more, List.append_assoc _ _ _⟩

/-- The moment of the last value. -/
theorem exists_moment {value : Value}
    (observed : Observed step observe start past labels (values ++ [value])) :
    ∃ front more middle, labels = front ++ more ∧ Observed step observe start past front values ∧
      Run step start front middle ∧ observe middle = value := by
  generalize seen : values ++ [value] = all at observed
  cases observed with
  | nil => simp at seen
  | snoc more earlier run =>
      obtain ⟨rfl, same⟩ := List.append_inj' seen rfl
      cases same
      exact ⟨_, more, _, rfl, earlier, run, rfl⟩

end Observed

def Taken {State Label : Type} (step : State → Label → Option State)
    (before : State) (label : Label) (after : State) : Prop :=
  step before label = some after

theorem Run.mono {State Label : Type} {first second : State → Label → Option State}
    (takes : ∀ {state label after}, first state label = some after →
      second state label = some after)
    {start finish : State} {labels : List Label} (run : Run (Taken first) start labels finish) :
    Run (Taken second) start labels finish := by
  induction run with
  | nil => exact .nil
  | cons taken _ ih => exact .cons (takes taken) ih

/-- Two restrictions of one step function take the same steps. -/
theorem run_of_restrictions {State Label : Type} {step first second : State → Label → Option State}
    (firstTakes : ∀ {state label after}, first state label = some after →
      step state label = some after)
    (secondTakes : ∀ {state label after}, second state label = some after →
      step state label = some after)
    {start finish other : State} {labels : List Label} (run : Run (Taken first) start labels finish)
    (again : Run (Taken second) start labels other) :
    Run (fun before label after => first before label = some after ∧
      second before label = some after) start labels finish := by
  induction run with
  | nil => exact .nil
  | cons taken _ ih =>
      cases again with
      | cons takenAgain rest =>
          cases (firstTakes taken).symm.trans (secondTakes takenAgain)
          exact .cons ⟨taken, takenAgain⟩ (ih rest)

def execute {State Label : Type} (step : State → Label → Option State) :
    State → List Label → Option State
  | state, [] => some state
  | state, label :: labels => (step state label).bind (execute step · labels)

theorem run_of_execute {State Label : Type} {step : State → Label → Option State}
    {labels : List Label} {start finish : State}
    (executed : execute step start labels = some finish) :
    Run (Taken step) start labels finish := by
  induction labels generalizing start with
  | nil =>
      cases executed
      exact .nil
  | cons label labels ih =>
      obtain ⟨middle, taken, rest⟩ := Option.bind_eq_some_iff.mp executed
      exact .cons taken (ih rest)

theorem execute_of_run {State Label : Type} {step : State → Label → Option State}
    {labels : List Label} {start finish : State}
    (run : Run (Taken step) start labels finish) :
    execute step start labels = some finish := by
  induction run with
  | nil => rfl
  | cons taken _ ih => exact Option.bind_eq_some_iff.mpr ⟨_, taken, ih⟩

theorem Run.deterministic {State Label : Type} {step : State → Label → Option State}
    {start finish other : State} {labels : List Label} (run : Run (Taken step) start labels finish)
    (again : Run (Taken step) start labels other) : finish = other :=
  Option.some.inj ((execute_of_run run).symm.trans (execute_of_run again))

theorem exists_run_of_execute {State Label : Type} (step : State → Label → Option State)
    (start? : Option State) (labels : List Label) (property : State → Prop)
    [DecidablePred property]
    (executed : (start?.bind (execute step · labels)).any (fun state => property state) = true) :
    ∃ start finish, start? = some start ∧ Run (Taken step) start labels finish ∧
      property finish := by
  obtain ⟨finish, reached, holds⟩ := (Option.any_eq_true _ _).mp executed
  obtain ⟨start, created, ran⟩ := Option.bind_eq_some_iff.mp reached
  exact ⟨start, finish, created, run_of_execute ran, of_decide_eq_true holds⟩

end CppMMO.Lib
