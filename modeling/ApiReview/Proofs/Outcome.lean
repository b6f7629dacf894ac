import Mathlib

/-! Taking apart computations that may fail: what a successful run says about
the runs it is made of, and what two runs have in common. -/

set_option autoImplicit false

namespace ApiReview

variable {Error Value Result : Type}

/-- A successful sequence of two computations runs both. -/
theorem bind_ok {source : Except Error Value} {continuation : Value → Except Error Result}
    {result : Result} (success : (source >>= continuation) = .ok result) :
    ∃ value, source = .ok value ∧ continuation value = .ok result := by
  cases source with
  | error error => cases success
  | ok value => exact ⟨value, rfl, success⟩

theorem mapError_ok {Other : Type} {source : Except Error Value} {change : Error → Other}
    {value : Value} (success : source.mapError change = .ok value) : source = .ok value := by
  cases source with
  | error error => cases success
  | ok found =>
      simp only [Except.mapError, Except.ok.injEq] at success
      rw [success]

/-- A sequence fails in its first computation or, after that, in the second. -/
theorem bind_eq_error_iff {source : Except Error Value}
    {continuation : Value → Except Error Result} {error : Error} :
    (source >>= continuation) = .error error ↔
      source = .error error ∨ ∃ value, source = .ok value ∧ continuation value = .error error := by
  cases source with
  | error other =>
      have passed : (Except.error other >>= continuation) = .error other := rfl
      simp [passed]
  | ok value =>
      have passed : (Except.ok value >>= continuation) = continuation value := rfl
      simp [passed]

theorem mapError_eq_error_iff {Other : Type} {source : Except Error Value}
    {change : Error → Other} {other : Other} :
    source.mapError change = .error other ↔ ∃ error, source = .error error ∧ change error = other := by
  cases source with
  | error error => simp [Except.mapError]
  | ok value => simp [Except.mapError]

/-- Steps one after the other fail at the first that fails on what those before it lead to. -/
theorem foldlM_eq_error_iff {State : Type} {step : State → Value → Except Error State}
    {values : List Value} {state : State} {error : Error} :
    values.foldlM step state = .error error ↔ ∃ done value rest reached,
      values = done ++ value :: rest ∧ done.foldlM step state = .ok reached ∧
        step reached value = .error error := by
  constructor
  · intro failed
    induction values generalizing state with
    | nil => cases failed
    | cons value rest ih =>
        rw [List.foldlM_cons, bind_eq_error_iff] at failed
        rcases failed with failed | ⟨next, stepped, failed⟩
        · exact ⟨[], value, rest, state, rfl, rfl, failed⟩
        · obtain ⟨done, last, behind, reached, rfl, ran, failed⟩ := ih failed
          refine ⟨value :: done, last, behind, reached, rfl, ?_, failed⟩
          rw [List.foldlM_cons, stepped]
          exact ran
  · rintro ⟨done, value, rest, reached, rfl, ran, failed⟩
    rw [List.foldlM_append, ran]
    refine bind_eq_error_iff.mpr (.inr ⟨reached, rfl, ?_⟩)
    rw [List.foldlM_cons, failed]
    rfl

/-- Steps for the numbers below a count fail at the first that fails on what those before it lead
to. -/
theorem foldlM_range_eq_error_iff {State : Type} {step : State → Nat → Except Error State}
    {state : State} {count : Nat} {error : Error} :
    (List.range count).foldlM step state = .error error ↔ ∃ position < count, ∃ reached,
      (List.range position).foldlM step state = .ok reached ∧
        step reached position = .error error := by
  induction count with
  | zero => simp [pure, Except.pure]
  | succ count ih =>
      rw [List.range_succ, List.foldlM_append, bind_eq_error_iff, ih]
      simp only [List.foldlM_cons, List.foldlM_nil, bind_pure]
      constructor
      · rintro (⟨position, below, early⟩ | ⟨reached, ran, failed⟩)
        · exact ⟨position, Nat.lt_succ_of_lt below, early⟩
        · exact ⟨count, Nat.lt_succ_self count, reached, ran, failed⟩
      · rintro ⟨position, below, reached, ran, failed⟩
        rcases Nat.lt_succ_iff_lt_or_eq.mp below with early | rfl
        · exact .inl ⟨position, early, reached, ran, failed⟩
        · exact .inr ⟨reached, ran, failed⟩

theorem foldlM_preserves {State : Type} {step : State → Value → Except Error State}
    (invariant : State → Prop)
    (kept : ∀ {state value next}, invariant state → step state value = .ok next → invariant next)
    {values : List Value} {state next : State} (held : invariant state)
    (ran : values.foldlM step state = .ok next) : invariant next := by
  induction values generalizing state with
  | nil =>
      cases ran
      exact held
  | cons value rest ih =>
      rw [List.foldlM_cons] at ran
      obtain ⟨reached, stepped, ran⟩ := bind_ok ran
      exact ih (kept held stepped) ran

/-- A test of the result that passes shows that there is one. -/
theorem ok_of_any {source : Except Error Value} {test : Value → Bool}
    (passed : source.toOption.any test = true) :
    ∃ value, source = .ok value ∧ test value = true := by
  cases source with
  | error error => cases passed
  | ok value => exact ⟨value, rfl, passed⟩

/-- The results of a successful walk over a list stand for its entries, in order. -/
theorem mapM_ok {step : Value → Except Error Result} {values : List Value}
    {results : List Result} (success : values.mapM step = .ok results) :
    List.Forall₂ (fun value result => step value = .ok result) values results := by
  induction values generalizing results with
  | nil =>
      simp only [List.mapM_nil, pure, Except.pure, Except.ok.injEq] at success
      subst success
      exact .nil
  | cons value rest ih =>
      rw [List.mapM_cons] at success
      obtain ⟨result, stepped, continuation⟩ := bind_ok success
      obtain ⟨later, walked, shape⟩ := bind_ok continuation
      simp only [pure, Except.pure, Except.ok.injEq] at shape
      subst shape
      exact .cons stepped (ih walked)

theorem mem_of_mapM_ok {step : Value → Except Error Result} {values : List Value}
    {results : List Result} (success : values.mapM step = .ok results) {result : Result}
    (member : result ∈ results) : ∃ value ∈ values, step value = .ok result := by
  obtain ⟨index, bound, rfl⟩ := List.getElem_of_mem member
  have aligned := mapM_ok success
  have within : index < values.length := aligned.length_eq ▸ bound
  exact ⟨values[index], List.getElem_mem within, aligned.get within bound⟩

theorem mapM_ok_mem {step : Value → Except Error Result} {values : List Value}
    {results : List Result} (success : values.mapM step = .ok results) {value : Value}
    (member : value ∈ values) : ∃ result ∈ results, step value = .ok result := by
  obtain ⟨index, bound, rfl⟩ := List.getElem_of_mem member
  have aligned := mapM_ok success
  have within : index < results.length := aligned.length_eq ▸ bound
  exact ⟨results[index], List.getElem_mem within, aligned.get bound within⟩

/-- A walk over a list succeeds when each of its steps does. -/
theorem mapM_ok_of_forall {step : Value → Except Error Result} {values : List Value}
    (steps : ∀ value ∈ values, ∃ result, step value = .ok result) :
    ∃ results, values.mapM step = .ok results := by
  induction values with
  | nil => exact ⟨[], rfl⟩
  | cons value rest ih =>
      obtain ⟨result, stepped⟩ := steps value List.mem_cons_self
      obtain ⟨later, walked⟩ := ih fun other among => steps other (List.mem_cons_of_mem _ among)
      refine ⟨result :: later, ?_⟩
      rw [List.mapM_cons, stepped, walked]
      rfl

/-- A walk that keeps what passes a test comes to an end where the test has an answer throughout. -/
theorem filterM_eq_ok_iff {test : Value → Except Error Bool} {values listed : List Value} :
    values.filterM test = .ok listed ↔
      (∀ value ∈ values, ∃ verdict, test value = .ok verdict) ∧
        listed = values.filter fun value => (test value).toOption.getD false := by
  -- the walk collects what it keeps in front of what it has kept before
  have walked : ∀ kept collected, values.filterAuxM test kept = .ok collected ↔
      (∀ value ∈ values, ∃ verdict, test value = .ok verdict) ∧ collected =
        (values.filter fun value => (test value).toOption.getD false).reverse ++ kept := by
    induction values with
    | nil =>
        intro kept collected
        simp [List.filterAuxM, pure, Except.pure, eq_comm]
    | cons value rest ih =>
        intro kept collected
        cases tested : test value with
        | error fault => simp [List.filterAuxM, tested, bind, Except.bind]
        | ok verdict =>
            have behind := ih (cond verdict (value :: kept) kept) collected
            cases verdict <;>
              simpa [List.filterAuxM, tested, bind, Except.bind, Except.toOption] using behind
  unfold List.filterM
  constructor
  · intro ended
    obtain ⟨collected, ran, ended⟩ := bind_ok ended
    obtain ⟨answered, rfl⟩ := (walked [] collected).mp ran
    cases ended
    exact ⟨answered, by simp⟩
  · rintro ⟨answered, rfl⟩
    have ran := (walked [] _).mpr ⟨answered, rfl⟩
    rw [ran]
    simp [bind, Except.bind, pure, Except.pure]

/-! ## Computations that agree -/

/-- Two computations fail alike, or have related results. -/
inductive Agree {First Second : Type} (related : First → Second → Prop) :
    Except Error First → Except Error Second → Prop where
  | ok {first : First} {second : Second} :
      related first second → Agree related (.ok first) (.ok second)
  | failed (cause : Error) : Agree related (.error cause) (.error cause)

namespace Agree

variable {First Second Third Fourth : Type} {related : First → Second → Prop}
  {derived : Third → Fourth → Prop} {left : Except Error First} {right : Except Error Second}

theorem bind {next : First → Except Error Third} {other : Second → Except Error Fourth}
    (agree : Agree related left right)
    (later : ∀ first second, related first second → Agree derived (next first) (other second)) :
    Agree derived (left >>= next) (right >>= other) := by
  cases agree with
  | ok here => exact later _ _ here
  | failed cause => exact .failed cause

theorem bind_same {source : Except Error Value} {next : Value → Except Error Third}
    {other : Value → Except Error Fourth} (later : ∀ value, Agree derived (next value) (other value)) :
    Agree derived (source >>= next) (source >>= other) := by
  cases source with
  | ok value => exact later value
  | error cause => exact .failed cause

theorem refl {related : First → First → Prop} (reflexive : ∀ value, related value value)
    (source : Except Error First) : Agree related source source := by
  cases source with
  | ok value => exact .ok (reflexive value)
  | error cause => exact .failed cause

theorem mono {wider : First → Second → Prop} (agree : Agree related left right)
    (widens : ∀ first second, related first second → wider first second) :
    Agree wider left right := by
  cases agree with
  | ok here => exact .ok (widens _ _ here)
  | failed cause => exact .failed cause

theorem mapError {Other : Type} {change : Error → Other} (agree : Agree related left right) :
    Agree related (left.mapError change) (right.mapError change) := by
  cases agree with
  | ok here => exact .ok here
  | failed cause => exact .failed (change cause)

/-- What comes behind may use that both computations have succeeded. -/
theorem bind_of_ok {next : First → Except Error Third} {other : Second → Except Error Fourth}
    (agree : Agree related left right)
    (later : ∀ first second, left = .ok first → right = .ok second → related first second →
      Agree derived (next first) (other second)) :
    Agree derived (left >>= next) (right >>= other) := by
  cases agree with
  | ok here => exact later _ _ rfl rfl here
  | failed cause => exact .failed cause

/-- A computation that agrees with a successful one succeeds with a related result. -/
theorem exists_ok {first : First} (agree : Agree related (.ok first) right) :
    ∃ second, right = .ok second ∧ related first second := by
  cases agree with
  | ok here => exact ⟨_, rfl, here⟩

/-- Computations that agree in the very result are the same after any step that does not tell
related results apart. -/
theorem bind_eq {next : First → Except Error Third} {other : Second → Except Error Third}
    (agree : Agree related left right)
    (same : ∀ first second, related first second → next first = other second) :
    (left >>= next) = (right >>= other) := by
  cases agree with
  | ok here => exact same _ _ here
  | failed cause => rfl

end Agree

theorem agree_mapM {Entry First Second : Type} {related : First → Second → Prop}
    {step : Entry → Except Error First} {other : Entry → Except Error Second}
    {entries : List Entry} (steps : ∀ entry ∈ entries, Agree related (step entry) (other entry)) :
    Agree (List.Forall₂ related) (entries.mapM step) (entries.mapM other) := by
  induction entries with
  | nil => exact .ok .nil
  | cons entry rest ih =>
      rw [List.mapM_cons, List.mapM_cons]
      refine (steps entry List.mem_cons_self).bind fun first second here => ?_
      refine (ih fun entry among => steps entry (List.mem_cons_of_mem _ among)).bind
        fun firsts seconds behind => ?_
      exact .ok (.cons here behind)

end ApiReview
