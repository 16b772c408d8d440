import DurableQueue.Store.Durable
import Mathlib.Algebra.Order.Group.Nat
import Mathlib.Data.UInt
import Mathlib.Order.Bounds.Basic

/-!
# How long an opening waits

What the tries of an opening come to, whatever the calls answer. They end: with the first call that does not find
the directory held by another handle, or with the call after the last new try that the options allow. Between two
calls there is one pause, and no number on the way gets too large (`Opening.retried_exact`).

A doubled pause is cut to `longestPause`, but the first one is taken from the options as it is. So the limit holds
for all pauses only if it holds for the first, and `Opening.retried_late` is an opening that waits five times as
long.

1. `Backoff.At` says where the tries stand after some calls; it holds at the start, and each new try keeps it.
2. `Follows` says how the tries go on from there (`follows_of_tries`, by induction along the calls).
-/

namespace DurableQueue.Opening

variable {α : Type} {options : StoreOptions} {call : Nat → Except EngineError α} {i : Nat} {b : Backoff}
  {course : Course α}

/-- The length of a pause in milliseconds, where the pauses are counted from zero. -/
def pauseMillis (options : StoreOptions) (i : Nat) : Nat :=
  if i = 0 then max options.lockRetryDelayMs.toNat 1
  else min (max options.lockRetryDelayMs.toNat 1 * 2 ^ i) 100

theorem pauseMillis_succ (options : StoreOptions) (i : Nat) :
    pauseMillis options (i + 1) = min (2 * pauseMillis options i) 100 := by
  unfold pauseMillis
  rw [if_neg (Nat.succ_ne_zero i), Nat.pow_succ, ← Nat.mul_assoc, Nat.mul_comm _ 2]
  split
  · next first =>
    subst first
    omega
  · omega

theorem pauseMillis_eq_min_iff (options : StoreOptions) (i : Nat) :
    pauseMillis options i = min (max options.lockRetryDelayMs.toNat 1 * 2 ^ i) 100 ↔
      i ≠ 0 ∨ options.lockRetryDelayMs.toNat ≤ 100 := by
  unfold pauseMillis
  split
  · next first =>
    subst first
    omega
  · next later => exact iff_of_true rfl (Or.inl later)

theorem pauseMillis_le_iff (options : StoreOptions) (i : Nat) :
    pauseMillis options i ≤ 100 ↔ i ≠ 0 ∨ options.lockRetryDelayMs.toNat ≤ 100 := by
  unfold pauseMillis
  split
  · next first => omega
  · next later => exact iff_of_true (Nat.min_le_right _ _) (Or.inl later)

theorem pauseMillis_lt (options : StoreOptions) (i : Nat) : pauseMillis options i < UInt64.size := by
  have small := options.lockRetryDelayMs.toNat_lt
  unfold pauseMillis UInt64.size
  split <;> omega

/-! ## From call to call -/

/-- Where the tries stand after `i` calls, if all of them found the directory held. -/
structure Backoff.At (options : StoreOptions) (i : Nat) (b : Backoff) : Prop where
  attempt : b.attempt.toNat = i
  within : i ≤ options.lockRetryAttempts.toNat
  delay : b.delay.nanoseconds = 1000000 * pauseMillis options i

theorem Backoff.at_first (options : StoreOptions) : (first options).At options 0 where
  attempt := rfl
  within := Nat.zero_le _
  delay := by
    unfold first pauseMillis
    rw [Duration.nanoseconds_ofMillis, UInt64.toNat_max, if_pos rfl]
    rfl

/-- A new try is one call further. -/
theorem Backoff.At.again {answer : Except EngineError α} {pause : Pause} {next : Backoff}
    (stands : b.At options i) (h : b.after options.lockRetryAttempts answer = .again pause next) :
    next.At options (i + 1) := by
  obtain ⟨⟨-, more⟩, -, counted, length⟩ := of_again h
  have more := UInt32.lt_iff_toNat_lt.1 more
  have attempt := stands.attempt
  refine ⟨by omega, by omega, ?_⟩
  rw [length, stands.delay, nanoseconds_longestPause, pauseMillis_succ]
  omega

theorem lt_calls_of_tries {limit : UInt32} (ran : tries limit call i b = some course) :
    i < course.calls := by
  fun_induction tries limit call i b generalizing course with
  | case1 i =>
    obtain rfl := Option.some.inj ran
    exact Nat.lt_succ_self i
  | case2 i b pause next again ih =>
    obtain ⟨rest, rest_ran, rfl⟩ := Option.map_eq_some_iff.1 ran
    have later := ih rest_ran
    exact Nat.lt_of_succ_lt later
  | case3 => cases ran

/-- Answers that no call asks for do not matter. -/
theorem tries_congr {limit : UInt32} {call' : Nat → Except EngineError α}
    (ran : tries limit call i b = some course) (same : ∀ j < course.calls, call' j = call j) :
    tries limit call' i b = some course := by
  fun_induction tries limit call i b generalizing course with
  | case1 i b last finished =>
    obtain rfl := Option.some.inj ran
    rw [← same i (Nat.lt_succ_self i)] at finished
    exact tries_of_done finished
  | case2 i b pause next again ih =>
    obtain ⟨rest, rest_ran, rfl⟩ := Option.map_eq_some_iff.1 ran
    have asked : i < rest.calls := Nat.lt_of_succ_lt (lt_calls_of_tries rest_ran)
    rw [← same i asked] at again
    rw [tries_of_again again, ih rest_ran same]
    rfl
  | case3 => cases ran

/-- How the tries go on after `i` calls that found the directory held. -/
structure Follows (options : StoreOptions) (call : Nat → Except EngineError α) (i : Nat)
    (course : Course α) : Prop where
  within : course.calls ≤ options.lockRetryAttempts.toNat + 1
  held : ∀ j, i ≤ j → j + 1 < course.calls → isContended (call j) = true
  ends : isContended (call (course.calls - 1)) = true →
    course.calls = options.lockRetryAttempts.toNat + 1
  last : course.last = call (course.calls - 1)
  pauses : course.pauses.map (fun pause => (pause.attempt.toNat, pause.length.nanoseconds)) =
    (List.range' i (course.calls - 1 - i)).map fun j => (j + 1, 1000000 * pauseMillis options j)

theorem follows_of_tries (stands : b.At options i)
    (ran : tries options.lockRetryAttempts call i b = some course) : Follows options call i course := by
  fun_induction tries options.lockRetryAttempts call i b generalizing course with
  | case1 i b last finished =>
    obtain rfl := Option.some.inj ran
    obtain ⟨rfl, ends⟩ := Backoff.of_done finished
    have within := stands.within
    refine ⟨Nat.succ_le_succ within, ?held, ?ends, rfl, ?pauses⟩
    case held =>
      intro j from_i before
      exact absurd (Nat.lt_of_succ_lt_succ before) (Nat.not_lt_of_le from_i)
    case ends =>
      intro contended
      have used : ¬ b.attempt < options.lockRetryAttempts := fun more => ends ⟨contended, more⟩
      rw [UInt32.lt_iff_toNat_lt, stands.attempt] at used
      show i + 1 = options.lockRetryAttempts.toNat + 1
      omega
    case pauses =>
      have none_left : i + 1 - 1 - i = 0 := by omega
      show [] = (List.range' i (i + 1 - 1 - i)).map _
      rw [none_left]
      rfl
  | case2 i b pause next again ih =>
    obtain ⟨rest, rest_ran, rfl⟩ := Option.map_eq_some_iff.1 ran
    have goes_on := ih (stands.again again) rest_ran
    obtain ⟨⟨contended, -⟩, rfl, counted, -⟩ := Backoff.of_again again
    have later := lt_calls_of_tries rest_ran
    refine ⟨goes_on.within, ?held, goes_on.ends, goes_on.last, ?pauses⟩
    case held =>
      intro j from_i before
      rcases Nat.eq_or_lt_of_le from_i with rfl | after_i
      · exact contended
      · exact goes_on.held j after_i before
    case pauses =>
      have one_more : rest.calls - 1 - i = rest.calls - 1 - (i + 1) + 1 := by omega
      show (_, _) :: rest.pauses.map _ = (List.range' i (rest.calls - 1 - i)).map _
      rw [one_more, List.range'_succ, List.map_cons, goes_on.pauses, counted, stands.attempt, stands.delay]
  | case3 => cases ran

/-! ## The whole opening -/

theorem retried?_eq (options : StoreOptions) (call : Nat → Except EngineError α) :
    retried? options call = some (retried options call) := (Option.some_get _).symm

theorem follows_retried (options : StoreOptions) (call : Nat → Except EngineError α) :
    Follows options call 0 (retried options call) :=
  follows_of_tries (Backoff.at_first options) (retried?_eq options call)

theorem Follows.length (follows : Follows options call i course) :
    course.pauses.length = course.calls - 1 - i := by
  have lengths := congrArg List.length follows.pauses
  rwa [List.length_map, List.length_map, List.length_range'] at lengths

/-- The pauses of an opening, one by one. -/
theorem Follows.pause (follows : Follows options call 0 course) (h : i < course.pauses.length) :
    course.pauses[i].attempt.toNat = i + 1 ∧
      course.pauses[i].length.nanoseconds = 1000000 * pauseMillis options i := by
  have before : i < course.calls - 1 - 0 := follows.length ▸ h
  have same := congrArg (fun pauses => pauses[i]?) follows.pauses
  rw [List.getElem?_map, List.getElem?_map, List.getElem?_eq_getElem h, List.getElem?_range' before,
    Nat.zero_add, Nat.one_mul] at same
  exact Prod.mk.inj (Option.some.inj same)

/-- If every call is answered alike, there is one call or all of them. -/
theorem Follows.alike {answer : Except EngineError α} (follows : Follows options (fun _ => answer) 0 course)
    (some_call : 0 < course.calls) :
    course.last = answer ∧
      course.pauses.length = if isContended answer then options.lockRetryAttempts.toNat else 0 := by
  refine ⟨follows.last, ?_⟩
  rw [follows.length, Nat.sub_zero]
  split
  · next held => rw [follows.ends held, Nat.add_sub_cancel]
  · next free =>
    have one : ¬ 0 + 1 < course.calls := fun more => free (follows.held 0 (Nat.le_refl 0) more)
    omega

/-- What may fail only of the first pause holds of all pauses if there are none or it holds of the first. -/
theorem forall_lt_iff_of_first {P : Nat → Prop} {Q : Prop} (first : ∀ i, P i ↔ i ≠ 0 ∨ Q) (n : Nat) :
    (∀ i < n, P i) ↔ n = 0 ∨ Q := by
  constructor
  · intro all
    rcases Nat.eq_zero_or_pos n with none | some
    · exact Or.inl none
    · exact Or.inr (((first 0).1 (all 0 some)).resolve_left fun later => later rfl)
  · rintro (rfl | holds) i before
    · exact absurd before (Nat.not_lt_zero i)
    · exact (first i).2 (Or.inr holds)

/-- What an opening comes to: its calls, and the pauses between them. -/
structure Bounded (options : StoreOptions) (call : Nat → Except EngineError α) (course : Course α) :
    Prop where
  /-- The last call is the first one that does not find the directory held, or else the one after all new
  tries. -/
  calls : IsLeast {k | k = options.lockRetryAttempts.toNat + 1 ∨ ∃ i, k = i + 1 ∧ isContended (call i) = false}
    course.calls
  /-- Nothing depends on how later calls would be answered. -/
  unasked : ∀ call' : Nat → Except EngineError α, (∀ i < course.calls, call' i = call i) →
    retried? options call' = some course
  last : course.last = call (course.calls - 1)
  sleeps : course.pauses.length = course.calls - 1
  numbered : ∀ (i : Nat) (h : i < course.pauses.length), course.pauses[i].attempt.toNat = i + 1
  lengths : ∀ (i : Nat) (h : i < course.pauses.length),
    course.pauses[i].length.nanoseconds = 1000000 * pauseMillis options i
  /-- The milliseconds told of a pause are all of it. -/
  told : ∀ pause ∈ course.pauses, 1000000 * pause.length.millis.toNat = pause.length.nanoseconds
  /-- The first pause is cut like the others only if there is nothing to cut. -/
  cut : (∀ (i : Nat) (h : i < course.pauses.length), course.pauses[i].length.nanoseconds =
      1000000 * min (max options.lockRetryDelayMs.toNat 1 * 2 ^ i) 100) ↔
    course.pauses = [] ∨ options.lockRetryDelayMs.toNat ≤ 100
  short : (∀ pause ∈ course.pauses, pause.length ≤ longestPause) ↔
    course.pauses = [] ∨ options.lockRetryDelayMs.toNat ≤ 100

/-- Every opening ends, with no number too large on the way; its calls and its pauses are exactly these. -/
theorem retried_exact (options : StoreOptions) (call : Nat → Except EngineError α) :
    retried? options call = some (retried options call) ∧ Bounded options call (retried options call) := by
  have ran := retried?_eq options call
  have follows := follows_retried options call
  generalize retried options call = course at ran follows
  have some_call : 0 < course.calls := lt_calls_of_tries ran
  have sleeps : course.pauses.length = course.calls - 1 := follows.length
  refine ⟨ran, ⟨⟨?last_call, ?no_earlier⟩, fun call' same => tries_congr ran same, follows.last, sleeps,
    fun i h => (follows.pause h).1, fun i h => (follows.pause h).2, ?told, ?cut, ?short⟩⟩
  case last_call =>
    cases contended : isContended (call (course.calls - 1)) with
    | true => exact Or.inl (follows.ends contended)
    | false => exact Or.inr ⟨course.calls - 1, by omega, contended⟩
  case no_earlier =>
    rintro k (rfl | ⟨i, rfl, free⟩)
    · exact follows.within
    · refine Nat.le_of_not_lt fun before => ?_
      rw [follows.held i (Nat.zero_le i) before] at free
      cases free
  case told =>
    intro pause there
    obtain ⟨i, h, rfl⟩ := List.getElem_of_mem there
    have room := pauseMillis_lt options i
    unfold Duration.millis
    rw [(follows.pause h).2, Nat.mul_div_cancel_left _ (by decide), UInt64.toNat_ofNat_of_lt' room]
  case cut =>
    rw [← List.length_eq_zero_iff, ← forall_lt_iff_of_first (pauseMillis_eq_min_iff options)]
    refine forall₂_congr fun i h => ?_
    rw [(follows.pause h).2]
    exact Nat.mul_right_inj (by decide)
  case short =>
    rw [← List.length_eq_zero_iff, ← forall_lt_iff_of_first (pauseMillis_le_iff options),
      List.forall_mem_iff_forall_getElem]
    refine forall₂_congr fun i h => ?_
    rw [Duration.le_iff, (follows.pause h).2, nanoseconds_longestPause]
    exact Nat.mul_le_mul_left_iff (by decide)

-- With the options that a store is opened with by default, a held directory is given up after three and a half
-- seconds.
example : ((List.range 40).map (pauseMillis .default)).sum = 3526 := by decide

/-- Options with half a second before the first new try, and no other. -/
def patient : StoreOptions := { StoreOptions.default with lockRetryAttempts := 1, lockRetryDelayMs := 500 }

/-- A directory that is held at first and free afterwards. -/
def letGo : Nat → Except EngineError Unit
  | 0 => .error (.lockHeld "q")
  | _ + 1 => .ok ()

/-- The first pause can be longer than the longest that a doubling leads to. -/
theorem retried_late : retried? patient letGo = some ⟨.ok (), 2, [⟨1, .ofMillis 500⟩]⟩ ∧
    (Duration.ofMillis 500).nanoseconds ≠ 1000000 * min (max patient.lockRetryDelayMs.toNat 1 * 2 ^ 0) 100 ∧
    ¬ Duration.ofMillis 500 ≤ longestPause := by
  have waits : (Backoff.first patient).after 1 (letGo 0) = .again ⟨1, .ofMillis 500⟩ ⟨1, .ofMillis 100⟩ := by
    have held : isContended (letGo 0) = true := EngineError.isContention_lockHeld "q"
    exact if_pos ⟨held, by decide⟩
  have opens : (Backoff.mk 1 (.ofMillis 100)).after 1 (letGo 1) = .done (.ok ()) := rfl
  refine ⟨?_, by decide, by decide⟩
  have second : tries 1 letGo 1 ⟨1, .ofMillis 100⟩ = some ⟨.ok (), 2, []⟩ := tries_of_done opens
  show tries 1 letGo 0 (.first patient) = _
  rw [tries_of_again waits, second]
  rfl

end DurableQueue.Opening

/-! ## Stores on disk -/

namespace DurableQueue.Durable

variable {s : Durable} {options : StoreOptions}

/-- A try finds the directory held if there is one and a handle has it; no other failure looks like that. -/
theorem isContended_tryOpen_iff : Opening.isContended (s.tryOpen options) = true ↔
    s.held = true ∧ ∃ files, s.surroundings.files.makeDirectory s.surroundings.here s.path = .ok files := by
  unfold tryOpen
  dsimp only
  cases s.surroundings.files.makeDirectory s.surroundings.here s.path with
  | error fault =>
    have other : (EngineError.io false fault.message).isContention = false := by cases fault <;> decide
    refine iff_of_false (fun contended => ?_) nofun
    exact Bool.false_ne_true (other.symm.trans contended)
  | ok files =>
    cases s.held with
    | true => exact iff_of_true (EngineError.isContention_lockHeld s.path) ⟨rfl, files, rfl⟩
    | false => exact iff_of_false Bool.false_ne_true fun held => Bool.false_ne_true held.1

/-- All new tries are made while the directory is held, and none if it is not. -/
theorem length_events_connect : (s.connect options).2.2.length =
    if Opening.isContended (s.tryOpen options) then options.lockRetryAttempts.toNat else 0 := by
  have ran := Opening.retried?_eq options fun _ => s.tryOpen options
  have follows := Opening.follows_retried options fun _ => s.tryOpen options
  have told : (s.connect options).2.2 =
      retryEvents s.path (Opening.retried options fun _ => s.tryOpen options).pauses := by
    unfold connect
    dsimp only
    split <;> rfl
  rw [told, retryEvents, List.length_map, (follows.alike (Opening.lt_calls_of_tries ran)).2]

/-- An opening fails if the last try does, and then the store is as it was. -/
theorem connect_of_error {e : EngineError} (failed : s.tryOpen options = .error e) :
    (s.connect options).1 = .error (openError s.path) ∧ (s.connect options).2.1 = s := by
  have last : (Opening.retried options fun _ => s.tryOpen options).last = .error e :=
    (Opening.follows_retried options fun _ => s.tryOpen options).last.trans failed
  unfold connect
  dsimp only
  split
  · next opened => rw [opened] at last; cases last
  · exact ⟨rfl, rfl⟩

end DurableQueue.Durable
