import DurableQueue.Proofs.Settings.Fields

/-!
# Settings in environment variables

A variable is named after the path of the setting that it sets, in letters of either case, with two
underscores between the names. Read in lower case and with points for the underscores, the name is the key of
the setting (`EnvironmentSource.key?_of_lower`), and the key is read as its address
(`Address.ofKey_intercalate`). Nothing of the kind holds for names of modules that are not made of letters: a
point in them, or two underscores, lead elsewhere.
-/

namespace DurableQueue

namespace Field

/-- The setting has a fixed name, or it is of a module whose name is made of lower-case letters. -/
def Lettered : Field → Prop
  | module name => name ≠ "" ∧ ∀ c ∈ name.toList, 'a' ≤ c ∧ c ≤ 'z'
  | _ => True

/-- The key of a setting: the names on its path with points between them. -/
def key (f : Field) : String := ".".intercalate f.path

/-- The name of a variable for a setting, in lower case. -/
def variableName (f : Field) : String := "fifoq__" ++ "__".intercalate f.path

theorem lower_path {f : Field} (lettered : f.Lettered) : ∀ name ∈ f.path, Text.lower name = name := by
  have low : ∀ name ∈ f.path, name.toList.all Text.isLow = true := by
    cases f with
    | module name =>
      have letters : name.toList.all Text.isLow = true :=
        List.all_eq_true.2 fun c there => Text.isLow_of_letter (lettered.2 c there)
      simp only [path, List.forall_mem_cons]
      exact ⟨by decide, by decide, letters, List.forall_mem_nil _⟩
    | _ => decide
  exact fun name there => Text.lower_of_low (low name there)

end Field

/-! ## Keys -/

namespace EnvironmentSource

theorem dotted_cons {c : Char} (other : c ≠ '_') (cs : List Char) : dotted (c :: cs) = c :: dotted cs := by
  rw [dotted]
  rintro _ rfl
  exact absurd rfl other

/-- A text without underscores stays as it is. -/
theorem dotted_of_notMem {cs : List Char} (none : '_' ∉ cs) : dotted cs = cs := by
  induction cs with
  | nil => rfl
  | cons c cs ih =>
    obtain ⟨other, later⟩ := not_or.1 (mt List.mem_cons.2 none)
    rw [dotted_cons (Ne.symm other), ih later]

theorem dotted_path {f : Field} (lettered : f.Lettered) :
    dotted ("__".intercalate f.path).toList = f.key.toList := by
  cases f with
  | module name =>
    have none : '_' ∉ name.toList := by
      intro there
      exact absurd (lettered.2 _ there).1 (by decide)
    have written : ("__".intercalate (Field.module name).path).toList =
        "logging__modules__".toList ++ name.toList := by
      simp [Field.path, String.intercalate_cons_cons]
    have key : (Field.module name).key.toList = "logging.modules.".toList ++ name.toList := by
      simp [Field.key, Field.path, String.intercalate_cons_cons]
    rw [written, key]
    show "logging.modules.".toList ++ dotted name.toList = _
    rw [dotted_of_notMem none]
  | _ => rfl

/-- The variable of a setting sets the key of the setting, whatever the case of its letters. -/
theorem key?_of_lower {f : Field} (lettered : f.Lettered) {name : String}
    (named : Text.lower name = f.variableName) : key? name = some f.key := by
  have chars : f.variableName.toList = front ++ ("__".intercalate f.path).toList := by
    rw [Field.variableName, String.toList_append]
    rfl
  have begins : front.isPrefixOf (front ++ ("__".intercalate f.path).toList) = true :=
    List.isPrefixOf_iff_prefix.2 (List.prefix_append _ _)
  unfold key?
  rw [named, chars]
  dsimp only
  rw [if_pos begins, List.drop_left, dotted_path lettered, String.ofList_toList]

end EnvironmentSource

/-! ## Addresses -/

open Format

/-- A run ends where the test fails. -/
theorem Format.Reader.run1_append {test : Char → Bool} {cs rest : List Char} (some_char : cs ≠ [])
    (all : ∀ c ∈ cs, test c = true) (ends : rest.takeWhile test = [])
    (stays : rest.dropWhile test = rest) :
    Reader.run1 test (cs ++ rest) = some (cs, rest) := by
  have taken : (cs ++ rest).takeWhile test = cs := by
    rw [List.takeWhile_append_of_pos all, ends, List.append_nil]
  have left : (cs ++ rest).dropWhile test = rest := by
    rw [List.dropWhile_append_of_pos all, stays]
  show (if ((cs ++ rest).takeWhile test).isEmpty then failure else return (cs ++ rest).takeWhile test :
    Reader _) ((cs ++ rest).dropWhile test) = _
  rw [taken, left, if_neg (by simpa using some_char)]
  rfl

namespace Address

/-- Can the name be written as a step of an address? -/
def Plain (name : String) : Prop := name ≠ "" ∧ name.toList.all isNameChar = true

/-- The text behind the first name of an address of names. -/
def tail (path : List String) : List Char := path.flatMap fun name => '.' :: name.toList

theorem tail_stops (path : List String) :
    (tail path).takeWhile isNameChar = [] ∧ (tail path).dropWhile isNameChar = tail path := by
  cases path with
  | nil => exact ⟨rfl, rfl⟩
  | cons name path => exact ⟨rfl, rfl⟩

theorem nameStep_append {name : String} (plain : Plain name) (path : List String) :
    nameStep (name.toList ++ tail path) = some (.name name, tail path) := by
  have some_char : name.toList ≠ [] := fun none => plain.1 (String.toList_eq_nil_iff.1 none)
  have read := Reader.run1_append some_char (List.all_eq_true.1 plain.2) (tail_stops path).1 (tail_stops path).2
  show (Reader.run1 isNameChar (name.toList ++ tail path)).bind
    (fun x => some (Step.name (String.ofList x.1), x.2)) = _
  rw [read]
  simp

/-- A name and then further ones. -/
theorem steps_append {name : String} {path : List String} (plain : Plain name) {fuel : Nat}
    (rest : furtherSteps fuel (tail path) = some (path.map .name, [])) :
    (do return (← nameStep) :: (← furtherSteps fuel) : Reader Address) (name.toList ++ tail path) =
      some ((name :: path).map .name, []) := by
  show (nameStep (name.toList ++ tail path)).bind
    (fun x => (furtherSteps fuel x.2).bind fun y => some (x.1 :: y.1, y.2)) = _
  rw [nameStep_append plain path]
  dsimp only [Option.bind]
  rw [rest]
  rfl

theorem furtherSteps_tail {path : List String} (plain : ∀ name ∈ path, Plain name) {fuel : Nat}
    (enough : path.length < fuel) : furtherSteps fuel (tail path) = some (path.map .name, []) := by
  induction path generalizing fuel with
  | nil =>
    obtain ⟨fuel, rfl⟩ := Nat.exists_eq_succ_of_ne_zero (Nat.ne_of_gt enough)
    rfl
  | cons name path ih =>
    obtain ⟨fuel, rfl⟩ := Nat.exists_eq_succ_of_ne_zero (Nat.ne_zero_of_lt enough)
    obtain ⟨first, later⟩ := List.forall_mem_cons.1 plain
    exact steps_append first (ih later (Nat.lt_of_succ_lt_succ enough))

theorem toList_intercalate (name : String) (path : List String) :
    (".".intercalate (name :: path)).toList = name.toList ++ tail path := by
  induction path generalizing name with
  | nil => simp [tail]
  | cons next path ih =>
    rw [String.intercalate_cons_cons, String.toList_append, String.toList_append, ih]
    simp [tail]

theorem length_le_tail (path : List String) : path.length ≤ (tail path).length := by
  induction path with
  | nil => exact Nat.le_refl 0
  | cons name path ih =>
    simp only [tail, List.flatMap_cons, List.length_append, List.length_cons] at ih ⊢
    omega

/-- Names with points between them are read as the address of these names. -/
theorem ofKey_intercalate {path : List String} (some_name : path ≠ [])
    (plain : ∀ name ∈ path, Plain name) : ofKey (".".intercalate path) = path.map .name := by
  cases path with
  | nil => exact absurd rfl some_name
  | cons name path =>
    obtain ⟨first, later⟩ := List.forall_mem_cons.1 plain
    have chars := toList_intercalate name path
    have enough : path.length < (".".intercalate (name :: path)).length + 1 := by
      have long := length_le_tail path
      rw [← String.length_toList, chars, List.length_append]
      omega
    have read : read? (".".intercalate (name :: path)) = some ((name :: path).map .name) := by
      unfold read?
      rw [chars]
      unfold Reader.whole
      rw [steps_append first (furtherSteps_tail later enough)]
    rw [ofKey, read, Option.getD_some]

end Address

theorem Field.plain_path {f : Field} (lettered : f.Lettered) : ∀ name ∈ f.path, Address.Plain name := by
  cases f with
  | module name =>
    have plain : Address.Plain name := by
      refine ⟨lettered.1, List.all_eq_true.2 fun c there => ?_⟩
      obtain ⟨from_a, to_z⟩ := lettered.2 c there
      have lower : c.isLower = true := Bool.and_eq_true_iff.2 ⟨decide_eq_true from_a, decide_eq_true to_z⟩
      show (((c.isUpper || c.isLower) || c.isDigit) || _ || _ || _) = true
      rw [lower, Bool.or_true, Bool.true_or, Bool.true_or, Bool.true_or, Bool.true_or]
    simp only [path, List.forall_mem_cons]
    unfold Address.Plain at plain ⊢
    exact ⟨by decide, by decide, plain, List.forall_mem_nil _⟩
  | _ =>
    unfold Address.Plain
    decide

/-- The key of a setting is read as its path. -/
theorem Field.ofKey_key {f : Field} (lettered : f.Lettered) : Address.ofKey f.key = f.path.map .name := by
  have some_name : f.path ≠ [] := by cases f <;> nofun
  exact Address.ofKey_intercalate some_name (f.plain_path lettered)

end DurableQueue
