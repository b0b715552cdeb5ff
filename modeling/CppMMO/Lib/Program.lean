import CppMMO.Lib.Transition

/-! Programs that stop at every call they make of their surroundings, and pools of
requests served by such programs: the calls of all requests interleave over one shared
state, which may also change by itself. -/

set_option autoImplicit false

namespace CppMMO.Lib

inductive Program (Call : Type) (Answer : Call → Type) (Value : Type) where
  | done (value : Value)
  | call (made : Call) (next : Answer made → Program Call Answer Value)

/-- A call that was made: the state it found, what was settled outside, the answer, and the
state it left. -/
structure Occurrence (State Call : Type) (Answer : Call → Type) (Choice : Type) where
  before : State
  made : Call
  choice : Choice
  answer : Answer made
  after : State

variable {Call : Type} {Answer : Call → Type} {Value : Type} {State Choice Request Event : Type}

namespace Program

def bind {Result : Type} :
    Program Call Answer Value → (Value → Program Call Answer Result) → Program Call Answer Result
  | .done value, andThen => andThen value
  | .call made next, andThen => .call made fun answer => (next answer).bind andThen

instance : Monad (Program Call Answer) where
  pure := .done
  bind := Program.bind

def perform (made : Call) : Program Call Answer (Answer made) := .call made .done

/-- The call that the program has come to. -/
def next? : Program Call Answer Value → Option Call
  | .done _ => none
  | .call made _ => some made

def result? : Program Call Answer Value → Option Value
  | .done value => some value
  | .call _ _ => none

theorem result?_eq_some_iff {program : Program Call Answer Value} {value : Value} :
    program.result? = some value ↔ program = .done value := by
  cases program <;> simp [result?]

/-- The program makes the calls of the list, one after the other, and `rest` is left of it. -/
def Follows (answers : State → (made : Call) → Choice → Option (Answer made × State)) :
    Program Call Answer Value → List (Occurrence State Call Answer Choice) →
      Program Call Answer Value → Prop
  | program, [], rest => program = rest
  | .done _, _ :: _, _ => False
  | .call made next, occurrence :: past, rest =>
      ∃ before choice answer after, occurrence = ⟨before, made, choice, answer, after⟩ ∧
        answers before made choice = some (answer, after) ∧ (next answer).Follows answers past rest

variable {answers : State → (made : Call) → Choice → Option (Answer made × State)}
  {past : List (Occurrence State Call Answer Choice)}

theorem follows_done_iff {value : Value} {rest : Program Call Answer Value} :
    (done value).Follows answers past rest ↔ past = [] ∧ done value = rest := by
  cases past <;> simp [Follows]

theorem follows_call_iff {made : Call} {next : Answer made → Program Call Answer Value}
    {value : Value} :
    (call made next).Follows answers past (.done value) ↔
      ∃ before choice answer after later, past = ⟨before, made, choice, answer, after⟩ :: later ∧
        answers before made choice = some (answer, after) ∧
        (next answer).Follows answers later (.done value) := by
  cases past with
  | nil => simp [Follows]
  | cons occurrence later =>
      simp only [Follows, List.cons.injEq]
      constructor
      · rintro ⟨before, choice, answer, after, same, answered, follows⟩
        exact ⟨before, choice, answer, after, later, ⟨same, rfl⟩, answered, follows⟩
      · rintro ⟨before, choice, answer, after, _, ⟨same, rfl⟩, answered, follows⟩
        exact ⟨before, choice, answer, after, same, answered, follows⟩

/-- One more call of a program that has come to it. -/
theorem Follows.snoc {program : Program Call Answer Value} {made : Call}
    {next : Answer made → Program Call Answer Value} {before after : State} {choice : Choice}
    {answer : Answer made} (follows : program.Follows answers past (.call made next))
    (answered : answers before made choice = some (answer, after)) :
    program.Follows answers (past ++ [⟨before, made, choice, answer, after⟩]) (next answer) := by
  induction past generalizing program with
  | nil =>
      rw [Follows] at follows
      subst follows
      exact ⟨before, choice, answer, after, rfl, answered, by rw [Follows]⟩
  | cons earlier past ih =>
      cases program with
      | done value => cases follows
      | call first andThen =>
          obtain ⟨firstBefore, firstChoice, firstAnswer, firstAfter, same, firstAnswered, rest⟩ := follows
          exact ⟨firstBefore, firstChoice, firstAnswer, firstAfter, same, firstAnswered, ih rest⟩

theorem Follows.answered {program rest : Program Call Answer Value}
    (follows : program.Follows answers past rest) :
    ∀ occurrence ∈ past, answers occurrence.before occurrence.made occurrence.choice =
      some (occurrence.answer, occurrence.after) := by
  induction past generalizing program with
  | nil => simp
  | cons first past ih =>
      cases program with
      | done value => cases follows
      | call made next =>
          obtain ⟨before, choice, answer, after, rfl, answered, follows⟩ := follows
          intro occurrence member
          rcases List.mem_cons.mp member with rfl | later
          · exact answered
          · exact ih follows occurrence later

theorem follows_bind_iff {Result : Type} {program : Program Call Answer Value}
    {andThen : Value → Program Call Answer Result} {result : Result} :
    (program >>= andThen).Follows answers past (.done result) ↔
      ∃ front back value, past = front ++ back ∧ program.Follows answers front (.done value) ∧
        (andThen value).Follows answers back (.done result) := by
  induction program generalizing past with
  | done value =>
      have unfolded : (done value >>= andThen) = andThen value := rfl
      simp [unfolded, follows_done_iff]
  | call made next ih =>
      have unfolded : (call made next >>= andThen) = .call made fun answer => next answer >>= andThen := rfl
      rw [unfolded, follows_call_iff]
      constructor
      · rintro ⟨before, choice, answer, after, later, rfl, answered, follows⟩
        obtain ⟨front, back, value, rfl, first, second⟩ := (ih answer).mp follows
        exact ⟨_ :: front, back, value, rfl,
          follows_call_iff.mpr ⟨before, choice, answer, after, front, rfl, answered, first⟩, second⟩
      · rintro ⟨front, back, value, rfl, first, second⟩
        obtain ⟨before, choice, answer, after, later, rfl, answered, follows⟩ := follows_call_iff.mp first
        exact ⟨before, choice, answer, after, later ++ back, rfl, answered,
          (ih answer).mpr ⟨later, back, value, rfl, follows, second⟩⟩

/-- All that the program does when the call at each place is answered as given. -/
def trace (outcomes : Nat → (made : Call) → Answer made) (place : Nat) :
    Program Call Answer Value → List (Sigma Answer)
  | .done _ => []
  | .call made next =>
      ⟨made, outcomes place made⟩ :: (next (outcomes place made)).trace outcomes (place + 1)

@[simp] theorem trace_pure {outcomes : Nat → (made : Call) → Answer made} {place : Nat} {value : Value} :
    (pure value : Program Call Answer Value).trace outcomes place = [] := rfl

@[simp] theorem trace_perform {outcomes : Nat → (made : Call) → Answer made} {place : Nat} {made : Call} :
    (perform made : Program Call Answer (Answer made)).trace outcomes place =
      [⟨made, outcomes place made⟩] := rfl

@[simp] theorem trace_perform_bind {outcomes : Nat → (made : Call) → Answer made} {place : Nat}
    {made : Call} {andThen : Answer made → Program Call Answer Value} :
    (perform made >>= andThen).trace outcomes place =
      ⟨made, outcomes place made⟩ :: (andThen (outcomes place made)).trace outcomes (place + 1) := rfl

/-- The first call of the program is one that it may make there, and each later call one that
the answer just before it allows. -/
def Guarded (allowed : (made : Call) → Answer made → Call → Prop) :
    (Call → Prop) → Program Call Answer Value → Prop
  | _, .done _ => True
  | may, .call made next =>
      may made ∧ ∀ answer, (next answer).Guarded allowed (allowed made answer)

theorem Guarded.next? {allowed : (made : Call) → Answer made → Call → Prop} {may : Call → Prop}
    {program : Program Call Answer Value} (guarded : program.Guarded allowed may) :
    ∀ made ∈ program.next?, may made := by
  intro made comes
  cases program with
  | done value => cases comes
  | call first next =>
      cases comes
      exact guarded.1

/-- What a program may call after the calls of the list. -/
def mayCall (allowed : (made : Call) → Answer made → Call → Prop) (initially : Call → Prop)
    (past : List (Occurrence State Call Answer Choice)) : Call → Prop :=
  match past.getLast? with
  | none => initially
  | some last => allowed last.made last.answer

theorem Follows.guarded {allowed : (made : Call) → Answer made → Call → Prop} {initially : Call → Prop}
    {program rest : Program Call Answer Value} (follows : program.Follows answers past rest)
    (guarded : program.Guarded allowed initially) :
    rest.Guarded allowed (mayCall allowed initially past) := by
  induction past generalizing program initially with
  | nil =>
      rw [Follows] at follows
      subst follows
      exact guarded
  | cons first past ih =>
      cases program with
      | done value => cases follows
      | call made next =>
          obtain ⟨before, choice, answer, after, rfl, -, follows⟩ := follows
          have later := ih follows (guarded.2 answer)
          cases past with
          | nil => exact later
          | cons second past => simpa [mayCall, List.getLast?_cons] using later

/-- All calls of the program, whatever it is answered. -/
def Calls (property : Call → Prop) (program : Program Call Answer Value) : Prop :=
  program.Guarded (fun _ _ => property) property

theorem Follows.of_calls {property : Call → Prop} {program rest : Program Call Answer Value}
    (follows : program.Follows answers past rest) (calls : program.Calls property) :
    ∀ occurrence ∈ past, property occurrence.made := by
  induction past generalizing program with
  | nil => simp
  | cons first past ih =>
      cases program with
      | done value => cases follows
      | call made next =>
          obtain ⟨before, choice, answer, after, rfl, -, follows⟩ := follows
          intro occurrence member
          rcases List.mem_cons.mp member with rfl | later
          · exact calls.1
          · exact ih follows (calls.2 answer) occurrence later

/-- Each call that the program comes to is one that the calls and answers before it allow. -/
def Obeys (rule : List (Sigma Answer) → Call → Prop) :
    List (Sigma Answer) → Program Call Answer Value → Prop
  | _, .done _ => True
  | exchanged, .call made next =>
      rule exchanged made ∧ ∀ answer, (next answer).Obeys rule (exchanged ++ [⟨made, answer⟩])

section Obeys

variable {rule : List (Sigma Answer) → Call → Prop} {exchanged : List (Sigma Answer)}

theorem Obeys.next? {program : Program Call Answer Value} (obeys : program.Obeys rule exchanged) :
    ∀ made ∈ program.next?, rule exchanged made := by
  intro made comes
  cases program with
  | done value => cases comes
  | call first next =>
      cases comes
      exact obeys.1

theorem Follows.obeys {program rest : Program Call Answer Value}
    (follows : program.Follows answers past rest) (obeys : program.Obeys rule exchanged) :
    rest.Obeys rule (exchanged ++ past.map fun occurrence => ⟨occurrence.made, occurrence.answer⟩) := by
  induction past generalizing program exchanged with
  | nil =>
      rw [Follows] at follows
      subst follows
      simpa using obeys
  | cons first past ih =>
      cases program with
      | done value => cases follows
      | call made next =>
          obtain ⟨before, choice, answer, after, rfl, -, follows⟩ := follows
          simpa using ih follows (obeys.2 answer)

/-- A program that calls nothing after another one obeys what that one does. -/
theorem Obeys.bind_done {Result : Type} {program : Program Call Answer Value}
    {andThen : Value → Program Call Answer Result} (obeys : program.Obeys rule exchanged)
    (ends : ∀ value, ∃ result, andThen value = .done result) :
    (program >>= andThen).Obeys rule exchanged := by
  induction program generalizing exchanged with
  | done value =>
      obtain ⟨result, same⟩ := ends value
      have unfolded : (done value >>= andThen) = .done result := same
      rw [unfolded]
      trivial
  | call made next ih => exact ⟨obeys.1, fun answer => ih answer (obeys.2 answer)⟩

end Obeys

/-- A program that calls nothing after another one is guarded as that one is. -/
theorem Guarded.bind_done {Result : Type} {allowed : (made : Call) → Answer made → Call → Prop}
    {may : Call → Prop} {program : Program Call Answer Value}
    {andThen : Value → Program Call Answer Result} (guarded : program.Guarded allowed may)
    (ends : ∀ value, ∃ result, andThen value = .done result) :
    (program >>= andThen).Guarded allowed may := by
  induction program generalizing may with
  | done value =>
      obtain ⟨result, same⟩ := ends value
      have unfolded : (done value >>= andThen) = .done result := same
      rw [unfolded]
      trivial
  | call made next ih => exact ⟨guarded.1, fun answer => ih answer (guarded.2 answer)⟩

end Program

/-- What a service does with a request, how its surroundings answer a call, and how they
change by themselves. -/
structure Service (State Request Call : Type) (Answer : Call → Type) (Value Choice Event : Type) where
  body : Request → Program Call Answer Value
  answers : State → (made : Call) → Choice → Option (Answer made × State)
  changes : State → Event → Option State

/-- A request in service. The calls it has made are kept for reference only. -/
structure Thread (State Request Call : Type) (Answer : Call → Type) (Value Choice : Type) where
  request : Request
  past : List (Occurrence State Call Answer Choice) := []
  rest : Program Call Answer Value

structure Pool (State Request Call : Type) (Answer : Call → Type) (Value Choice : Type) where
  state : State
  threads : List (Thread State Request Call Answer Value Choice) := []

inductive Pool.Label (Request Choice Event : Type) where
  | start (request : Request)
  | advance (thread : Nat) (choice : Choice)
  | change (event : Event)

namespace Service

variable (service : Service State Request Call Answer Value Choice Event)

def start (pool : Pool State Request Call Answer Value Choice) (request : Request) :
    Pool State Request Call Answer Value Choice :=
  { pool with threads := pool.threads ++ [{ request, rest := service.body request }] }

def step (pool : Pool State Request Call Answer Value Choice) :
    Pool.Label Request Choice Event → Option (Pool State Request Call Answer Value Choice)
  | .start request => some (service.start pool request)
  | .advance index choice =>
      match pool.threads[index]? with
      | none => none
      | some thread =>
          match thread.rest with
          | .done _ => none
          | .call made next =>
              (service.answers pool.state made choice).map fun (answer, state) =>
                { state
                  threads := pool.threads.set index
                    { thread with
                      past := thread.past ++ [⟨pool.state, made, choice, answer, state⟩]
                      rest := next answer } }
  | .change event => (service.changes pool.state event).map fun state => { pool with state }

variable {service : Service State Request Call Answer Value Choice Event}
  {pool after : Pool State Request Call Answer Value Choice}

theorem step_cases {label : Pool.Label Request Choice Event}
    (taken : service.step pool label = some after) :
    (∃ request, label = .start request ∧ after = service.start pool request) ∨
    (∃ index choice thread made next answer state, label = .advance index choice ∧
      pool.threads[index]? = some thread ∧ thread.rest = .call made next ∧
      service.answers pool.state made choice = some (answer, state) ∧
      after = { state
                threads := pool.threads.set index
                  { thread with
                    past := thread.past ++ [⟨pool.state, made, choice, answer, state⟩]
                    rest := next answer } }) ∨
    (∃ event state, label = .change event ∧ service.changes pool.state event = some state ∧
      after = { pool with state }) := by
  cases label with
  | start request => exact .inl ⟨request, rfl, (Option.some.inj taken).symm⟩
  | advance index choice =>
      simp only [step] at taken
      split at taken
      · cases taken
      · next thread there =>
          split at taken
          · cases taken
          · next made next waits =>
              obtain ⟨⟨answer, state⟩, answered, rfl⟩ := Option.map_eq_some_iff.mp taken
              exact .inr (.inl ⟨index, choice, thread, made, next, answer, state, rfl, there, waits,
                answered, rfl⟩)
  | change event =>
      obtain ⟨state, changed, rfl⟩ := Option.map_eq_some_iff.mp taken
      exact .inr (.inr ⟨event, state, rfl, changed, rfl⟩)

/-- Where a thread comes from: it was there already, it has just been started, or the step
was one of its calls. -/
theorem thread_cases {label : Pool.Label Request Choice Event} {index : Nat}
    {thread : Thread State Request Call Answer Value Choice}
    (taken : service.step pool label = some after) (there : after.threads[index]? = some thread) :
    pool.threads[index]? = some thread ∨
    (∃ request, label = .start request ∧ index = pool.threads.length ∧
      thread = { request, rest := service.body request }) ∨
    (∃ earlier choice made next answer, label = .advance index choice ∧
      pool.threads[index]? = some earlier ∧ earlier.rest = .call made next ∧
      service.answers pool.state made choice = some (answer, after.state) ∧
      thread = { earlier with
        past := earlier.past ++ [⟨pool.state, made, choice, answer, after.state⟩]
        rest := next answer }) := by
  obtain ⟨request, rfl, rfl⟩ | ⟨advanced, choice, earlier, made, next, answer, state, rfl, earlierThere,
    waits, answered, rfl⟩ | ⟨event, state, -, -, rfl⟩ := step_cases taken
  · by_cases inside : index < pool.threads.length
    · left
      rwa [start, List.getElem?_append_left inside] at there
    · right
      left
      rw [start, List.getElem?_append_right (Nat.le_of_not_lt inside)] at there
      obtain ⟨last, same⟩ := List.getElem?_eq_some_iff.mp there
      have isFirst : index - pool.threads.length = 0 := Nat.lt_one_iff.mp last
      refine ⟨request, rfl, by omega, ?_⟩
      simpa [isFirst] using same.symm
  · by_cases same : advanced = index
    · subst same
      right
      right
      rw [List.getElem?_set_self (List.getElem?_eq_some_iff.mp earlierThere).1] at there
      exact ⟨earlier, choice, made, next, answer, rfl, earlierThere, waits, answered,
        (Option.some.inj there).symm⟩
    · left
      rwa [List.getElem?_set_ne same] at there
  · exact .inl there

/-- Each thread has followed the program of its request. -/
def Followed (service : Service State Request Call Answer Value Choice Event)
    (pool : Pool State Request Call Answer Value Choice) : Prop :=
  ∀ index : Nat, ∀ thread ∈ pool.threads[index]?,
    (service.body thread.request).Follows service.answers thread.past thread.rest

theorem Followed.step {label : Pool.Label Request Choice Event} (followed : service.Followed pool)
    (taken : service.step pool label = some after) : service.Followed after := by
  intro index thread there
  obtain earlier | ⟨request, -, -, rfl⟩ | ⟨earlier, choice, made, next, answer, -, before, waits, answered,
    rfl⟩ := thread_cases taken there
  · exact followed index thread earlier
  · rw [Program.Follows]
  · have sofar := followed index earlier before
    rw [waits] at sofar
    exact sofar.snoc answered

/-- Every state that a thread from place `since` on found at one of its calls. -/
def Found (since : Nat) (property : State → Prop)
    (pool : Pool State Request Call Answer Value Choice) : Prop :=
  ∀ index : Nat, since ≤ index → ∀ thread ∈ pool.threads[index]?,
    ∀ occurrence ∈ thread.past, property occurrence.before

theorem Found.step {since : Nat} {property : State → Prop} {label : Pool.Label Request Choice Event}
    (found : Found since property pool) (holds : property pool.state)
    (taken : service.step pool label = some after) : Found since property after := by
  intro index late thread there
  obtain earlier | ⟨request, -, -, rfl⟩ | ⟨earlier, choice, made, next, answer, -, before, -, -, rfl⟩ :=
    thread_cases taken there
  · exact found index late thread earlier
  · simp
  · intro occurrence member
    rcases List.mem_append.mp member with past | now
    · exact found index late earlier before occurrence past
    · rw [List.mem_singleton.mp now]
      exact holds

/-- What no step brings about, and is there at the end, was there at every call of the threads
started since. -/
theorem found_of_lasting (invariant : Pool State Request Call Answer Value Choice → Prop)
    {property : State → Prop}
    (preserved : ∀ {before label after}, invariant before → service.step before label = some after →
      invariant after)
    (lasting : ∀ {before label after}, invariant before → service.step before label = some after →
      property after.state → property before.state)
    {start finish : Pool State Request Call Answer Value Choice}
    {labels : List (Pool.Label Request Choice Event)}
    (run : Run (Taken service.step) start labels finish) (initially : invariant start)
    (holds : property finish.state) : Found start.threads.length property finish := by
  have reached : invariant finish ∧
      (property finish.state → Found start.threads.length property finish) := by
    refine run.preserves (fun pool => invariant pool ∧
      (property pool.state → Found start.threads.length property pool)) ?_ ⟨initially, ?_⟩
    · intro before label after ⟨soFar, found⟩ taken
      refine ⟨preserved soFar taken, fun holdsAfter => ?_⟩
      have holdsBefore := lasting soFar taken holdsAfter
      exact (found holdsBefore).step holdsBefore taken
    · intro _ index beyond thread there
      rw [List.getElem?_eq_none beyond] at there
      cases there
  exact reached.2 holds

/-- What every answer and every change keeps, a step keeps. -/
theorem state_of_step {invariant : State → Prop}
    (answered : ∀ {state made choice answer next}, invariant state →
      service.answers state made choice = some (answer, next) → invariant next)
    (changed : ∀ {state event next}, invariant state →
      service.changes state event = some next → invariant next)
    {label : Pool.Label Request Choice Event} (holds : invariant pool.state)
    (taken : service.step pool label = some after) : invariant after.state := by
  obtain ⟨request, -, rfl⟩ | ⟨index, choice, thread, made, next, answer, state, -, -, -, answeredSo,
    rfl⟩ | ⟨event, state, -, changedSo, rfl⟩ := step_cases taken
  · exact holds
  · exact answered holds answeredSo
  · exact changed holds changedSo

/-- A thread that was there is still there, with the calls it had made. -/
theorem exists_thread_of_step {label : Pool.Label Request Choice Event}
    {thread : Thread State Request Call Answer Value Choice}
    (taken : service.step pool label = some after) (member : thread ∈ pool.threads) :
    ∃ later ∈ after.threads, later.request = thread.request ∧ thread.past ⊆ later.past := by
  obtain ⟨request, -, rfl⟩ | ⟨advanced, choice, other, made, next, answer, state, -, otherThere, -, -,
    rfl⟩ | ⟨event, state, -, -, rfl⟩ := step_cases taken
  · exact ⟨thread, List.mem_append_left _ member, rfl, List.Subset.refl _⟩
  · obtain ⟨index, there⟩ := List.mem_iff_getElem?.mp member
    by_cases same : advanced = index
    · subst same
      rw [there] at otherThere
      cases otherThere
      have inside := (List.getElem?_eq_some_iff.mp there).1
      exact ⟨_, List.mem_of_getElem? (List.getElem?_set_self inside), rfl,
        List.subset_append_left _ _⟩
    · exact ⟨thread, List.mem_of_getElem? ((List.getElem?_set_ne same).trans there), rfl,
        List.Subset.refl _⟩
  · exact ⟨thread, member, rfl, List.Subset.refl _⟩

/-- Some thread accounts for what holds of the state, if one does for whatever a call brings about. -/
theorem accounted_of_step (property : State → Prop)
    (accounts : Thread State Request Call Answer Value Choice → Prop)
    {label : Pool.Label Request Choice Event}
    (mono : ∀ {thread later}, later.request = thread.request → thread.past ⊆ later.past →
      accounts thread → accounts later)
    (changed : ∀ {state event next}, service.changes state event = some next → property next →
      property state)
    (called : ∀ {index : Nat} {thread : Thread State Request Call Answer Value Choice}
      {made next choice answer}, pool.threads[index]? = some thread → thread.rest = .call made next →
      service.answers pool.state made choice = some (answer, after.state) →
      property pool.state ∨ accounts { thread with
        past := thread.past ++ [⟨pool.state, made, choice, answer, after.state⟩]
        rest := next answer })
    (taken : service.step pool label = some after)
    (sofar : property pool.state → ∃ thread ∈ pool.threads, accounts thread)
    (holds : property after.state) : ∃ thread ∈ after.threads, accounts thread := by
  have still : property pool.state → ∃ thread ∈ after.threads, accounts thread := by
    intro held
    obtain ⟨thread, member, accountsFor⟩ := sofar held
    obtain ⟨later, isLater, same, kept⟩ := exists_thread_of_step taken member
    exact ⟨later, isLater, mono same kept accountsFor⟩
  obtain ⟨request, -, rfl⟩ | ⟨index, choice, thread, made, next, answer, state, -, there, waits, answered,
    rfl⟩ | ⟨event, state, -, changedSo, rfl⟩ := step_cases taken
  · exact still holds
  · rcases called there waits answered with held | accountsFor
    · exact still held
    · have inside := (List.getElem?_eq_some_iff.mp there).1
      exact ⟨_, List.mem_of_getElem? (List.getElem?_set_self inside), accountsFor⟩
  · exact still (changed changedSo holds)

/-- A thread keeps its place and its request. -/
theorem request_of_step {label : Pool.Label Request Choice Event} {index : Nat} {request : Request}
    (taken : service.step pool label = some after)
    (placed : pool.threads[index]?.map (·.request) = some request) :
    after.threads[index]?.map (·.request) = some request := by
  obtain ⟨thread, there, rfl⟩ := Option.map_eq_some_iff.mp placed
  obtain ⟨request, -, rfl⟩ | ⟨advanced, choice, other, made, next, answer, state, -, otherThere, -, -,
    rfl⟩ | ⟨event, state, -, -, rfl⟩ := step_cases taken
  · have inside := (List.getElem?_eq_some_iff.mp there).1
    simp [start, List.getElem?_append_left inside, there]
  · by_cases same : advanced = index
    · subst same
      have inside := (List.getElem?_eq_some_iff.mp there).1
      rw [there] at otherThere
      cases otherThere
      simp [inside]
    · simp [same, there]
  · simp [there]

/-- A thread goes on from where it was, by one call at most. -/
theorem later_of_step {label : Pool.Label Request Choice Event} {index : Nat}
    {thread : Thread State Request Call Answer Value Choice}
    (taken : service.step pool label = some after) (there : pool.threads[index]? = some thread) :
    ∃ later, after.threads[index]? = some later ∧ later.request = thread.request ∧
      (later = thread ∨ ∃ made next occurrence, thread.rest = .call made next ∧
        occurrence.before = pool.state ∧ later.past = thread.past ++ [occurrence]) := by
  obtain ⟨later, isThere, asks⟩ := Option.map_eq_some_iff.mp
    (request_of_step taken (Option.map_eq_some_iff.mpr ⟨thread, there, rfl⟩))
  refine ⟨later, isThere, asks, ?_⟩
  obtain earlier | ⟨request, -, rfl, -⟩ | ⟨earlier, choice, made, next, answer, -, before, waits, -, rfl⟩ :=
    thread_cases taken isThere
  · exact .inl (Option.some.inj (earlier.symm.trans there))
  · have inside := (List.getElem?_eq_some_iff.mp there).1
    omega
  · cases before.symm.trans there
    exact .inr ⟨made, next, _, waits, rfl, rfl⟩

end Service

end CppMMO.Lib
