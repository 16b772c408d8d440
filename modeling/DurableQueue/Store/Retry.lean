import DurableQueue.Duration
import DurableQueue.Store.Options
import DurableQueue.Text.Split

/-!
# Opening a locked directory

A directory that another handle still holds is tried again after a pause. The first pause has the chosen
length, at least a millisecond; each one after it is twice as long as the one before, or `longestPause` if
that is less. Any other outcome ends the tries.

The tries are counted and the pauses doubled in machine words, and a count or a length without room would end
the program. `isSome_retried?` says that this never happens.
-/

namespace DurableQueue

/-- Why the engine below a store could not open a directory. -/
inductive EngineError where
  /-- a call on the files failed: whether it would have had to wait, and what it says -/
  | io (wouldBlock : Bool) (text : String)
  /-- anything that is not about files -/
  | other (text : String)
  deriving DecidableEq, Repr

namespace EngineError

/-- The words with which the engine says that the directory is locked. -/
def lockComplaint : String := "could not acquire lock"

/-- The error of a directory that another handle holds. -/
def lockHeld (path : String) : EngineError := .io false (lockComplaint ++ " on " ++ path)

/-- Does another handle hold the directory? -/
def isContention : EngineError → Bool
  | io wouldBlock text => wouldBlock || Text.occurs lockComplaint.toList text.toList
  | other _ => false

@[simp] theorem isContention_lockHeld (path : String) : (lockHeld path).isContention = true := by
  have front : lockComplaint.toList <+: (lockComplaint ++ " on " ++ path).toList := by
    rw [String.toList_append, String.toList_append, List.append_assoc]
    exact List.prefix_append _ _
  exact Text.occurs_iff.2 front.isInfix

end EngineError

namespace Opening

/-- The longest pause that a doubling leads to. -/
def longestPause : Duration := .ofMillis 100

theorem nanoseconds_longestPause : longestPause.nanoseconds = 1000000 * 100 := rfl

/-- A pause before a new try: the number of the new try, and how long the pause is. -/
structure Pause where
  attempt : UInt32
  length : Duration
  deriving DecidableEq, Repr

/-- Where the tries stand: how many new ones have been begun, and how long the next pause is. -/
structure Backoff where
  attempt : UInt32
  delay : Duration

/-- What a call leads to: the end of the tries, or a pause and a new try, or a number without room. -/
inductive Round (α : Type) where
  | done (last : Except EngineError α)
  | again (pause : Pause) (next : Backoff)
  | overflow

/-- How the tries went: the answer of the last call, the number of calls, and the pauses between them. -/
structure Course (α : Type) where
  last : Except EngineError α
  calls : Nat
  pauses : List Pause

variable {α : Type}

/-- Did the call find the directory held by another handle? -/
def isContended : Except EngineError α → Bool
  | .ok _ => false
  | .error e => e.isContention

/-- The number of the next try, if there is room for it. -/
def nextAttempt? (n : UInt32) : Option UInt32 :=
  if n.toNat + 1 < UInt32.size then some (n + 1) else none

/-- A pause before the tries that follow. -/
def Course.paused (pause : Pause) (course : Course α) : Course α :=
  { course with pauses := pause :: course.pauses }

/-- Where the tries stand at the start. -/
def Backoff.first (options : StoreOptions) : Backoff := ⟨0, .ofMillis (max options.lockRetryDelayMs 1)⟩

/-- What the answer of a call leads to, if at most `limit` new tries are allowed. -/
def Backoff.after (b : Backoff) (limit : UInt32) (answer : Except EngineError α) : Round α :=
  if isContended answer ∧ b.attempt < limit then
    match nextAttempt? b.attempt, b.delay.double? with
    | some attempt, some doubled => .again ⟨attempt, b.delay⟩ ⟨attempt, min doubled longestPause⟩
    | _, _ => .overflow
  else .done answer

theorem toNat_nextAttempt {n next : UInt32} (h : nextAttempt? n = some next) :
    next.toNat = n.toNat + 1 := by
  unfold nextAttempt? at h
  split at h
  · next room =>
    obtain rfl := Option.some.inj h
    rw [UInt32.toNat_add]
    exact Nat.mod_eq_of_lt room
  · cases h

theorem nextAttempt?_of_lt {n limit : UInt32} (h : n < limit) : nextAttempt? n = some (n + 1) := by
  have room : n.toNat + 1 < UInt32.size :=
    Nat.lt_of_le_of_lt (UInt32.lt_iff_toNat_lt.1 h) limit.toNat_lt
  exact if_pos room

namespace Backoff

variable {b : Backoff} {limit : UInt32} {answer : Except EngineError α}

/-- Everything that a new try says about the call before it. -/
theorem of_again {pause : Pause} {next : Backoff} (h : b.after limit answer = .again pause next) :
    (isContended answer = true ∧ b.attempt < limit) ∧ pause = ⟨next.attempt, b.delay⟩ ∧
      next.attempt.toNat = b.attempt.toNat + 1 ∧
      next.delay.nanoseconds = min (2 * b.delay.nanoseconds) longestPause.nanoseconds := by
  unfold after at h
  split at h
  · next tried =>
    split at h
    · next attempt doubled counted twice =>
      obtain ⟨rfl, rfl⟩ := Round.again.inj h
      refine ⟨tried, rfl, toNat_nextAttempt counted, ?_⟩
      rw [Duration.nanoseconds_min, Duration.nanoseconds_of_double? twice]
    · cases h
  · cases h

/-- The tries end with an answer that is no contention, or with the tries used up. -/
theorem of_done {last : Except EngineError α} (h : b.after limit answer = .done last) :
    last = answer ∧ ¬ (isContended answer = true ∧ b.attempt < limit) := by
  unfold after at h
  split at h
  · split at h <;> cases h
  · next ends => exact ⟨(Round.done.inj h).symm, ends⟩

/-- There is room for the next pause, too. -/
def HasRoom (b : Backoff) : Prop := 2 * b.delay.nanoseconds < UInt64.size * 1000000000

theorem hasRoom_first (options : StoreOptions) : (first options).HasRoom := by
  have small := (max options.lockRetryDelayMs 1).toNat_lt
  unfold HasRoom first UInt64.size
  rw [Duration.nanoseconds_ofMillis]
  omega

theorem hasRoom_of_again {pause : Pause} {next : Backoff} (h : b.after limit answer = .again pause next) :
    next.HasRoom := by
  obtain ⟨-, -, -, length⟩ := of_again h
  have short : next.delay.nanoseconds ≤ 1000000 * 100 := by
    rw [length, nanoseconds_longestPause]
    exact Nat.min_le_right _ _
  unfold HasRoom UInt64.size
  omega

theorem after_ne_overflow (room : b.HasRoom) : b.after limit answer ≠ .overflow := by
  unfold after
  split
  · next tried =>
    rw [nextAttempt?_of_lt tried.2, Duration.double?_of_lt room]
    nofun
  · nofun

end Backoff

/-- Tries until the directory is free or no new try is allowed; the calls are numbered from `made` on. There is
no course if a number gets too large. -/
def tries (limit : UInt32) (call : Nat → Except EngineError α) (made : Nat) (b : Backoff) :
    Option (Course α) :=
  match h : b.after limit (call made) with
  | .done last => some ⟨last, made + 1, []⟩
  | .again pause next => (tries limit call (made + 1) next).map (Course.paused pause)
  | .overflow => none
termination_by limit.toNat - b.attempt.toNat
decreasing_by
  obtain ⟨⟨-, more⟩, -, counted, -⟩ := Backoff.of_again h
  have := UInt32.lt_iff_toNat_lt.1 more
  omega

section Tries

variable {limit : UInt32} {call : Nat → Except EngineError α} {made : Nat} {b : Backoff}

theorem tries_of_done {last : Except EngineError α} (h : b.after limit (call made) = .done last) :
    tries limit call made b = some ⟨last, made + 1, []⟩ := by
  rw [tries]
  split <;> rename_i h' <;> cases h.symm.trans h'
  rfl

theorem tries_of_again {pause : Pause} {next : Backoff} (h : b.after limit (call made) = .again pause next) :
    tries limit call made b = (tries limit call (made + 1) next).map (Course.paused pause) := by
  rw [tries]
  split <;> rename_i h' <;> cases h.symm.trans h'
  rfl

theorem isSome_tries (room : b.HasRoom) : (tries limit call made b).isSome := by
  fun_induction tries limit call made b with
  | case1 => rfl
  | case2 made b pause next again ih =>
    rw [Option.isSome_map]
    exact ih (Backoff.hasRoom_of_again again)
  | case3 made b overflows => exact absurd overflows (Backoff.after_ne_overflow room)

end Tries

/-- The course of an opening, where the calls are answered as told. -/
def retried? (options : StoreOptions) (call : Nat → Except EngineError α) : Option (Course α) :=
  tries options.lockRetryAttempts call 0 (.first options)

/-- No number gets too large. -/
theorem isSome_retried? (options : StoreOptions) (call : Nat → Except EngineError α) :
    (retried? options call).isSome := isSome_tries (Backoff.hasRoom_first options)

/-- The course of an opening. -/
def retried (options : StoreOptions) (call : Nat → Except EngineError α) : Course α :=
  (retried? options call).get (isSome_retried? options call)

end Opening

end DurableQueue
