import DurableQueue.Proofs.Number.Rounding
import DurableQueue.Proofs.Settings.Verbatim

/-!
# Numbers in the environment

The text of a variable is parsed before anyone knows what it is for. The digits of a number below `2 ^ 63` are
parsed as a whole number, and the setting gets this number. The digits of a greater one are parsed as a
floating-point number, which has not room for all of them: what arrives is `EnvironmentSource.arriving` of the
number, the nearest multiple of 2048, or the greatest number of 64 bits if there is no room for that one either.
Only one in 2048 of these numbers arrives as it is (`EnvironmentSource.arrival`), and the others are replaced
without a word (`Settings.load_rounded`).

As for paths, loading is looked at twice: where the sources are layers, and where they hold anything whatsoever.
-/

namespace DurableQueue

namespace EnvironmentSource

/-! ## Digits parsed -/

theorem toList_toString_natural (n : Nat) : (toString n).toList = Nat.toDigits 10 n := Nat.toList_repr

theorem isDigit_of_mem_toDigits {n : Nat} : ∀ c ∈ Nat.toDigits 10 n, c.isDigit = true := fun _ there =>
  Nat.isDigit_of_mem_toDigits (by decide) (by decide) there

/-- Digits are in lower case. -/
theorem lower_toString (n : Nat) : Text.lower (toString n) = toString n := by
  refine Text.lower_of_settled fun c there => Text.settled_of_lt ?_
  rw [toList_toString_natural] at there
  have to_nine : c.toNat ≤ 57 := of_decide_eq_true (Bool.and_eq_true_iff.1 (isDigit_of_mem_toDigits c there)).2
  omega

theorem lower_toString_ne {n : Nat} {word : String} (letters : word.toList.any Char.isDigit = false) :
    Text.lower (toString n) ≠ word := by
  rw [lower_toString]
  rintro rfl
  rw [toList_toString_natural] at letters
  obtain ⟨c, there⟩ := List.exists_mem_of_ne_nil _ (Nat.toDigits_ne_nil (b := 10) (n := n))
  exact List.any_eq_false.1 letters c there (isDigit_of_mem_toDigits c there)

/-- The digits of a number are read as the number itself, before any rounding. -/
theorem read?_toString (n : Nat) : Binary64.read? (toString n) = some (.ofDecimal ⟨false, n, 0⟩) := by
  have digits := isDigit_of_mem_toDigits (n := n)
  have decimal : Decimal.read? (Nat.toDigits 10 n) = some ⟨false, n, 0⟩ := by
    unfold Decimal.read?
    rw [splitSign_toDigits]
    dsimp only
    rw [List.takeWhile_eq_self_iff.2 digits, List.dropWhile_eq_nil_iff.2 digits]
    dsimp only
    rw [List.append_nil, readDigits?_toDigits]
    rfl
  unfold Binary64.read?
  rw [toList_toString_natural, decimal]

theorem value_toString_of_lt {n : Nat} (small : n < 2 ^ 63) : value (toString n) = .integer n := by
  have bound : Int.pow 2 63 = 2 ^ 63 := rfl
  have same : toString (n : Int) = toString n := by
    show Int.repr (Int.ofNat n) = Nat.repr n
    rfl
  have read : readInt64? (toString (n : Int)).toList = some (n : Int) :=
    readInt64?_toString (by omega) (by omega)
  rw [same] at read
  unfold value
  dsimp only
  rw [if_neg (lower_toString_ne (by decide)), if_neg (lower_toString_ne (by decide)), read]

theorem value_toString_of_le {n : Nat} (large : 2 ^ 63 ≤ n) :
    value (toString n) = .float (.ofDecimal ⟨false, n, 0⟩) := by
  have bound : Int.pow 2 63 = 2 ^ 63 := rfl
  have unread : readInt64? (toString n).toList = none := by
    unfold readInt64? readInt?
    rw [toList_toString_natural, splitSign_toDigits]
    dsimp only
    rw [readDigits?_toDigits]
    dsimp only
    rw [if_neg Bool.false_ne_true, if_neg (by omega)]
  unfold value
  dsimp only
  rw [if_neg (lower_toString_ne (by decide)), if_neg (lower_toString_ne (by decide)), unread, read?_toString]

/-! ## What arrives -/

/-- The number that a setting gets if the digits of a number are in its variable. -/
def arriving (n : Nat) : Nat :=
  if n < 2 ^ 63 then n else min (2048 * Binary64.roundHalfEven n 2048) (2 ^ 64 - 1)

theorem value?_word_value {n : Nat} (most : n < 2 ^ 64) :
    Kind.word.value? (value (toString n)) = some (UInt64.ofNat (arriving n)) := by
  unfold arriving
  by_cases small : n < 2 ^ 63
  · have natural : Node.asWord [] (.scalar (.integer n) none) = .ok (UInt64.ofNat n) := by
      unfold Node.asWord
      exact if_pos (Int.natCast_nonneg n)
    rw [value_toString_of_lt small, if_pos small]
    exact congrArg Except.toOption natural
  · have large := Nat.le_of_not_lt small
    rw [value_toString_of_le large, if_neg small, ← Binary64.toNat_ofDecimal large most, UInt64.ofNat_toNat]
    rfl

/-- How the number that arrives compares with the one that was written. -/
structure Arrival (n : Nat) : Prop where
  /-- It is the same below `2 ^ 63`, and beyond only for multiples of 2048 and for the greatest number. -/
  same : arriving n = n ↔ n < 2 ^ 63 ∨ 2048 ∣ n ∨ n = 2 ^ 64 - 1
  near : n ≤ arriving n + 1024 ∧ arriving n ≤ n + 1024
  word : arriving n < 2 ^ 64

theorem arrival {n : Nat} (most : n < 2 ^ 64) : Arrival n := by
  by_cases small : n < 2 ^ 63
  · have itself : arriving n = n := if_pos small
    exact ⟨iff_of_true itself (Or.inl small), by omega, by omega⟩
  · have rounded : arriving n = min (2048 * Binary64.roundHalfEven n 2048) (2 ^ 64 - 1) := if_neg small
    have bounds := Binary64.roundHalfEven_bounds (show 0 < 2048 by decide) n
    have multiple := Binary64.roundHalfEven_mul_eq_iff (show 0 < 2048 by decide) n
    refine ⟨?same, by omega, by omega⟩
    case same =>
      rw [rounded, ← multiple]
      omega

theorem toNat_of_value? {n : Nat} (most : n < 2 ^ 64) {v : UInt64}
    (read : Kind.word.value? (value (toString n)) = some v) : v.toNat = arriving n := by
  obtain rfl := Option.some.inj ((value?_word_value most).symm.trans read)
  rw [UInt64.toNat_ofNat']
  exact Nat.mod_eq_of_lt (arrival most).word

end EnvironmentSource

/-! ## Loading -/

namespace Settings

open EnvironmentSource (arriving Arrival)

/-- The numbers in settings are those in their variables, as they arrive. Of the variables, those count that
`given` says. -/
structure NumbersArrive (given : Field → String → Prop) (m : Settings) : Prop where
  capacity : ∀ n < 2 ^ 64, given .cacheCapacity (toString n) → m.storage.cacheCapacity.toNat = arriving n
  interval : ∀ n < 2 ^ 64, given .flushEveryMs (toString n) → m.storage.flushEveryMs.toNat = arriving n

theorem NumbersArrive.of_read {given : Field → String → Prop} {m : Settings}
    (read : ∀ f : Field, f.kind = .word → ∀ text, given f text →
      ∃ v, f.kind.value? (EnvironmentSource.value text) = some v ∧ m.get? f = some v) :
    NumbersArrive given m where
  capacity n most there := by
    obtain ⟨v, value, got⟩ := read .cacheCapacity rfl _ there
    obtain rfl := Option.some.inj got
    exact EnvironmentSource.toNat_of_value? most value
  interval n most there := by
    obtain ⟨v, value, got⟩ := read .flushEveryMs rfl _ there
    obtain rfl := Option.some.inj got
    exact EnvironmentSource.toNat_of_value? most value

/-- Where the directory of the store is seen from does not matter to the numbers. -/
theorem NumbersArrive.seen {given : Field → String → Prop} {m : Settings} (h : NumbersArrive given m)
    (directory : String) : NumbersArrive given { m with storage.dataDir := directory } :=
  ⟨h.capacity, h.interval⟩

theorem lettered_of_word {f : Field} (word : f.kind = .word) : f.Lettered := by
  cases f <;> trivial

theorem Takes.numbersArrive {w : Surroundings} {named : Layer} {layers : List Layer} {m : Settings}
    (takes : Takes w (Layer.top (named :: layers)) m) (set : w.VariablesSet named) : NumbersArrive w.Names m :=
  .of_read fun _ word _ names => takes.get?_of_names set (lettered_of_word word) names

theorem numbersArrive_of_ofSources {w : Surroundings} {sources : List (Named Node)} {m : Settings}
    (steady : ∀ source ∈ sources, ∀ e ∈ source, Address.Steady e.1) (comes : ofSources w sources = .ok m) :
    NumbersArrive w.Reaches m := by
  refine .of_read fun f word text reaches => get?_of_reaches steady comes ?_ reaches
  rintro name rfl
  cases word

/-- Where the settings of a workspace are loaded, and where those of a single file are, the size of the cache and
the interval between flushes are the numbers in their variables, as they arrive. Settings are answered if the
layers hold valid ones, and whatever the files and the other variables hold, if settings are answered, they have
these numbers. How the number that arrives compares with the one that was written is in `Arrival`. -/
theorem load_numbers {w : Surroundings} {workspace : String} {own base chosen named : Layer}
    (sources : Sources w workspace own base chosen named) :
    (∃ m, Takes w (Layer.top [named,
          if (Path.parts (environment w)).getLast? = some "" then Layer.nothing else chosen,
          base, own]) m ∧
        NumbersArrive w.Names m ∧
        (load w workspace).1 =
          Settings.validated { m with storage.dataDir := seenFrom workspace m.storage.dataDir }) ∧
      (∀ w' path source named', SettingsFile.required w' path = .ok source →
        Shape.settings.Fits (.table source none) → Surroundings.VariablesSet w' named' →
        ∃ m, Takes w' (Layer.top [named', (Node.table source none).get?]) m ∧
          NumbersArrive w'.Names m ∧ loadFile w' path = m.validated) ∧
      (∀ w' workspace' sources' loaded, (∀ source ∈ sources', ∀ e ∈ source, Address.Steady e.1) →
        ((globalFile w').1 ++ workspaceFiles w' workspace').mapM (SettingsFile.ifFound w') = .ok sources' →
        (load w' workspace').1 = .ok loaded → NumbersArrive w'.Reaches loaded) ∧
      (∀ w' path source loaded, (∀ e ∈ source, Address.Steady e.1) →
        SettingsFile.required w' path = .ok source → loadFile w' path = .ok loaded →
        NumbersArrive w'.Reaches loaded) ∧
      ∀ n < 2 ^ 64, Arrival n := by
  refine ⟨?workspace, ?single, ?anyWorkspace, ?anySingle, fun _ most => EnvironmentSource.arrival most⟩
  case workspace =>
    obtain ⟨m, comes, takes⟩ := merged_takes sources
    refine ⟨m, takes, takes.numbersArrive sources.named, ?_⟩
    have resolved : m.resolvedAgainst workspace =
        { m with storage.dataDir := seenFrom workspace m.storage.dataDir } := resolvedAgainst_eq m workspace
    rw [load_eq, comes, ← resolved]
    rfl
  case single =>
    intro w' path source named' found fits named_set
    obtain ⟨m, comes, takes⟩ := ofSources_single named_set fits
    exact ⟨m, takes, takes.numbersArrive named_set, loadFile_eq found comes⟩
  case anyWorkspace =>
    intro w' workspace' sources' loaded steady found loads
    rw [load_eq] at loads
    obtain ⟨m, comes, valid⟩ := exists_of_bind_ok loads
    unfold merged at comes
    rw [found] at comes
    obtain rfl := (validated_eq_ok_iff.1 valid).1
    exact (numbersArrive_of_ofSources steady comes).seen _
  case anySingle =>
    intro w' path source loaded steady found loads
    obtain ⟨source', found', loads⟩ := exists_of_bind_ok loads
    obtain rfl : source = source' := Except.ok.inj (found.symm.trans found')
    obtain ⟨m, comes, valid⟩ := exists_of_bind_ok loads
    obtain rfl := (validated_eq_ok_iff.1 valid).1
    exact numbersArrive_of_ofSources (List.forall_mem_cons.2 ⟨steady, List.forall_mem_nil _⟩) comes

/-- Surroundings whose variables have numbers for which all of the 64 bits are needed. -/
def wordy : Surroundings :=
  ⟨[("FIFOQ__STORAGE__CACHE_CAPACITY", "9223372036854775809"),
      ("FIFOQ__STORAGE__FLUSH_EVERY_MS", "18446744073709551614")], "/",
    ⟨[(["bare.toml"], .file "")]⟩⟩

/-- What the variables hold. -/
def wordyNamed : Layer
  | .cacheCapacity => some (9223372036854775808 : UInt64)
  | .flushEveryMs => some (18446744073709551615 : UInt64)
  | _ => none

theorem variablesSet_wordy : wordy.VariablesSet wordyNamed := by
  refine ⟨?read, ?named⟩
  case read =>
    have capacity := EnvironmentSource.value?_word_value (n := 9223372036854775809) (by decide)
    have interval := EnvironmentSource.value?_word_value (n := 18446744073709551614) (by decide)
    rw [show arriving 9223372036854775809 = 9223372036854775808 by decide] at capacity
    rw [show arriving 18446744073709551614 = 18446744073709551615 by decide] at interval
    simp only [wordy, List.forall_mem_cons]
    refine ⟨fun _ => ?_, fun _ => ?_, nofun⟩
    · exact ⟨.cacheCapacity, (9223372036854775808 : UInt64), trivial, by decide, capacity, rfl⟩
    · exact ⟨.flushEveryMs, (18446744073709551615 : UInt64), trivial, by decide, interval, rfl⟩
  case named =>
    intro f v set
    cases f with
    | cacheCapacity =>
      exact ⟨trivial, ("FIFOQ__STORAGE__CACHE_CAPACITY", "9223372036854775809"), by decide, by decide⟩
    | flushEveryMs =>
      exact ⟨trivial, ("FIFOQ__STORAGE__FLUSH_EVERY_MS", "18446744073709551614"), by decide, by decide⟩
    | _ => cases set

theorem sources_wordy : Sources wordy "ws" Layer.nothing Layer.nothing Layer.nothing wordyNamed where
  own := .nowhere rfl
  base := .absent rfl
  chosen := .absent rfl
  named := variablesSet_wordy

theorem valid_wordy {layer : Layer} (only : ∀ f, layer f = wordyNamed f) {m : Settings}
    (takes : Takes wordy layer m) : m.objections = [] ∧ m.storage.cacheCapacity = 9223372036854775808 ∧
      m.storage.flushEveryMs = 18446744073709551615 := by
  have value (f : Field) : m.get? f = (wordyNamed f).or ((default wordy).get? f) := only f ▸ takes.value f
  have directory : m.storage.dataDir = ".fifoq/queue" := Option.some.inj (value .dataDir)
  have capacity : m.storage.cacheCapacity = 9223372036854775808 := Option.some.inj (value .cacheCapacity)
  have level : m.logging.level = "info" := Option.some.inj (value .level)
  have format : m.logging.format = "text" := Option.some.inj (value .format)
  have output : m.logging.output = "stdout" := Option.some.inj (value .output)
  refine ⟨?_, capacity, Option.some.inj (value .flushEveryMs)⟩
  rw [objections_eq_nil_iff, StorageSettings.objection?_eq_none_iff, directory, capacity,
    LoggingSettings.objection?, level, format, output]
  decide

/-- Neither of the two numbers arrives as it was given, and loading does not fail. -/
theorem load_rounded : wordy.Names .cacheCapacity (toString 9223372036854775809) ∧
    wordy.Names .flushEveryMs (toString 18446744073709551614) ∧
    (∃ m, (load wordy "ws").1 = .ok m ∧ m.storage.cacheCapacity = 9223372036854775808 ∧
      m.storage.flushEveryMs = 18446744073709551615) ∧
    ∃ m, loadFile wordy "bare.toml" = .ok m ∧ m.storage.cacheCapacity = 9223372036854775808 ∧
      m.storage.flushEveryMs = 18446744073709551615 := by
  refine ⟨⟨_, List.mem_cons_self, by decide⟩, ⟨_, List.mem_cons_of_mem _ List.mem_cons_self, by decide⟩,
    ?workspace, ?single⟩
  case workspace =>
    obtain ⟨m, comes, takes⟩ := merged_takes sources_wordy
    obtain ⟨valid, numbers⟩ := valid_wordy (fun f => by rw [ite_self]; cases f <;> rfl) takes
    refine ⟨m.resolvedAgainst "ws", ?_, numbers⟩
    rw [load_eq, comes]
    exact validated_eq_ok_iff.2 ⟨rfl, objections_resolvedAgainst_of_valid valid "ws"⟩
  case single =>
    have empty : Shape.settings.Fits (.table [] none) := Shape.fits_noMembers _
    obtain ⟨m, comes, takes⟩ := ofSources_single variablesSet_wordy empty
    obtain ⟨valid, numbers⟩ := valid_wordy (fun f => by cases f <;> rfl) takes
    refine ⟨m, ?_, numbers⟩
    have found : SettingsFile.required wordy "bare.toml" = .ok [] := rfl
    rw [loadFile_eq found comes]
    exact validated_eq_ok_iff.2 ⟨rfl, valid⟩

/-- The numbers in these surroundings, by the general theorem. -/
theorem load_numbers_wordy :
    Sources wordy "ws" Layer.nothing Layer.nothing Layer.nothing wordyNamed ∧
      (∃ m, NumbersArrive wordy.Names m ∧ (load wordy "ws").1 =
          Settings.validated { m with storage.dataDir := seenFrom "ws" m.storage.dataDir } ∧
        m.storage.cacheCapacity.toNat = arriving 9223372036854775809) ∧
      (∃ m, NumbersArrive wordy.Names m ∧ loadFile wordy "bare.toml" = m.validated) ∧
      Arrival 9223372036854775809 ∧ arriving 9223372036854775809 = 9223372036854775808 ∧
      arriving 9223372036854775808 = 9223372036854775808 := by
  obtain ⟨⟨m, -, numbers, loaded⟩, single, -, -, arrival⟩ := load_numbers sources_wordy
  obtain ⟨m', -, numbers', loaded'⟩ :=
    single wordy "bare.toml" [] wordyNamed rfl (Shape.fits_noMembers _) variablesSet_wordy
  refine ⟨sources_wordy, ⟨m, numbers, loaded, ?_⟩, ⟨m', numbers', loaded'⟩, arrival _ (by decide), by decide,
    by decide⟩
  exact numbers.capacity 9223372036854775809 (by decide) ⟨_, List.mem_cons_self, by decide⟩

end Settings

end DurableQueue
