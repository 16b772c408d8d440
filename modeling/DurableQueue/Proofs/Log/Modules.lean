import DurableQueue.Proofs.Log.Verdict
import Mathlib.Data.List.DropRight

/-!
# Levels of modules

Settings and environment give levels of single modules, each as an entry of a name and a level. An entry is read
as a directive (`Directive.ofEntry`): with a plain name it is about this name, and the level alone decides whether
it can be read (`Directive.ofEntry_of_plain`).

Entries are added to a filter until one cannot be read, so all of them are added or none is
(`Filter.addModules_of_good`, `Filter.addModules_of_not_good`). The filter of settings and environment is then known by
its directives: those of the level, of the entries of the settings and of those of the environment, in this order
(`Filter.chosen_eq_ok_iff`).
-/

namespace DurableQueue

/-! ## Pieces of texts -/

namespace Text

theorem notMem_of_mem_splitAll {sep : Char} {cs piece : List Char} (there : piece ∈ splitAll sep cs) :
    sep ∉ piece := by
  induction cs generalizing piece with
  | nil =>
    obtain rfl := List.mem_singleton.1 there
    exact List.not_mem_nil
  | cons c cs ih =>
    rw [splitAll] at there
    split at there
    · obtain rfl | later := List.mem_cons.1 there
      · exact List.not_mem_nil
      · exact ih later
    · next other =>
      split at there
      · next none => exact absurd none (splitAll_ne_nil sep cs)
      · next first pieces split =>
        rw [split] at ih
        obtain rfl | later := List.mem_cons.1 there
        · exact fun within => (List.mem_cons.1 within).elim (fun same => other same.symm) (ih List.mem_cons_self)
        · exact ih (List.mem_cons_of_mem _ later)

theorem eq_of_splitOnce? {sep : Char} {cs before after : List Char}
    (split : splitOnce? sep cs = some (before, after)) : cs = before ++ sep :: after ∧ sep ∉ before := by
  induction cs generalizing before with
  | nil => cases split
  | cons c cs ih =>
    rw [splitOnce?] at split
    split at split
    · next same =>
      obtain ⟨rfl, rfl⟩ := Prod.mk.inj (Option.some.inj split)
      exact ⟨by rw [same, List.nil_append], List.not_mem_nil⟩
    · next other =>
      obtain ⟨⟨front, rest⟩, later, parts⟩ := Option.map_eq_some_iff.1 split
      obtain ⟨rfl, rfl⟩ := Prod.mk.inj parts
      obtain ⟨rfl, without⟩ := ih later
      exact ⟨rfl, fun within => (List.mem_cons.1 within).elim (fun same => other same.symm) without⟩

theorem trim_eq (cs : List Char) : trim cs = (cs.dropWhile isBlank).rdropWhile isBlank := rfl

theorem mem_of_mem_trim {c : Char} {cs : List Char} (there : c ∈ trim cs) : c ∈ cs :=
  (List.dropWhile_sublist _).subset ((List.rdropWhile_prefix _ _).subset there)

/-- A trimmed text does not begin with a blank. -/
theorem dropWhile_trim (cs : List Char) : (trim cs).dropWhile isBlank = trim cs := by
  obtain ⟨behind, whole⟩ := List.rdropWhile_prefix isBlank (cs.dropWhile isBlank)
  rw [trim_eq]
  cases trimmed : (cs.dropWhile isBlank).rdropWhile isBlank with
  | nil => rfl
  | cons c rest =>
    rw [trimmed, List.cons_append] at whole
    have some_left : cs.dropWhile isBlank ≠ [] := by
      rw [← whole]
      exact List.cons_ne_nil _ _
    have visible : isBlank c = false := by
      simpa only [← whole, List.head_cons] using List.head_dropWhile_not isBlank some_left
    rw [List.dropWhile_cons, visible]
    rfl

theorem rdropWhile_append_cons {c : Char} (visible : isBlank c = false) (front level : List Char) :
    (front ++ c :: level).rdropWhile isBlank = front ++ c :: level.rdropWhile isBlank := by
  unfold List.rdropWhile
  have reversed : (front ++ c :: level).reverse = level.reverse ++ c :: front.reverse := by simp
  have kept : (c :: front.reverse).dropWhile isBlank = c :: front.reverse := by
    rw [List.dropWhile_cons, if_neg (by rw [visible]; exact Bool.false_ne_true)]
  rw [reversed, List.dropWhile_append, kept]
  split
  · next blank => simp [List.isEmpty_iff.1 blank]
  · simp

end Text

namespace Directive

/-! ## Reading an entry -/

/-- A name is unbroken if it ends at the equals sign of a directive and nowhere else, and does not begin with a
blank. -/
structure Unbroken (name : String) : Prop where
  blank : name.toList.dropWhile Text.isBlank = name.toList
  equals : '=' ∉ name.toList
  bracket : '[' ∉ name.toList
  comma : ',' ∉ name.toList

/-- A plain name begins as directives do. -/
structure Plain (name : String) : Prop extends Unbroken name where
  begins : name.toList.head?.any canBegin = true

/-- The level behind a plain name. A comma can only be its last character, up to blanks. -/
def levelGiven (level : List Char) : Except DirectiveFault Verbosity :=
  match (level.rdropWhile Text.isBlank).dropWhile (· != ',') with
  | [] => readLevel level
  | _ :: after => do
    let v ← readLevel (level.take ((level.rdropWhile Text.isBlank).takeWhile (· != ',')).length)
    if after.isEmpty then return v else throw .malformed

/-- The directive that an entry of a name and a level stands for. -/
def ofEntry (entry : String × String) : Except DirectiveFault Directive := read (entry.1 ++ "=" ++ entry.2)

/-- No directive begins with the equals sign. -/
theorem canBegin_of_split {name : String} {level rest : List Char} {first : Char}
    (split : name.toList ++ '=' :: level = first :: rest) : canBegin first = name.toList.head?.any canBegin := by
  cases chars : name.toList with
  | nil =>
    rw [chars] at split
    rw [← (List.cons.inj split).1]
    decide +kernel
  | cons c cs =>
    rw [chars] at split
    rw [← (List.cons.inj split).1]
    rfl

section Unbroken

variable {name : String} (unbroken : Unbroken name)
include unbroken

theorem Unbroken.trim (level : List Char) : Text.trim (name.toList ++ '=' :: level) =
    name.toList ++ '=' :: level.rdropWhile Text.isBlank := by
  have front : (name.toList ++ '=' :: level).dropWhile Text.isBlank = name.toList ++ '=' :: level := by
    rw [List.dropWhile_append, unbroken.blank]
    split
    · next empty =>
      rw [List.isEmpty_iff.1 empty]
      rfl
    · rfl
  rw [Text.trim_eq, front, Text.rdropWhile_append_cons (by decide)]

/-- The name ends at the equals sign. -/
theorem Unbroken.inside : ∀ c ∈ name.toList, (c != '=' && c != '[' && c != ',') = true := by
  intro c there
  simp only [Bool.and_eq_true, bne_iff_ne]
  exact ⟨⟨fun same => unbroken.equals (same ▸ there), fun same => unbroken.bracket (same ▸ there)⟩,
    fun same => unbroken.comma (same ▸ there)⟩

/-- An entry with an unbroken name is about this name, if it is plain. -/
theorem ofEntry_of_unbroken (level : String) :
    ofEntry (name, level) = if name.toList.head?.any canBegin then (levelGiven level.toList).map (.events (some name))
      else .error .malformed := by
  have text_eq : (name ++ "=" ++ level).toList = name.toList ++ '=' :: level.toList := by simp
  have taken (rest : List Char) : (name.toList ++ '=' :: rest).takeWhile
      (fun c => c != '=' && c != '[' && c != ',') = name.toList := by
    rw [List.takeWhile_append_of_pos unbroken.inside, List.takeWhile_cons, if_neg (by decide), List.append_nil]
  have dropped (rest : List Char) : (name.toList ++ '=' :: rest).dropWhile
      (fun c => c != '=' && c != '[' && c != ',') = '=' :: rest := by
    rw [List.dropWhile_append_of_pos unbroken.inside, List.dropWhile_cons, if_neg (by decide)]
  have behind : (name.toList ++ '=' :: level.toList).drop (name.toList.length + 1) = level.toList := by
    rw [← List.drop_drop, List.drop_left]
    rfl
  unfold ofEntry read
  dsimp only
  rw [text_eq, unbroken.trim, taken, dropped, List.take_left, String.ofList_toList, behind]
  split
  · next none => simp at none
  · next _ split =>
    -- a bracket in front would be part of the name
    cases chars : name.toList with
    | nil =>
      rw [chars] at split
      exact absurd (List.cons.inj split).1 (by decide)
    | cons c cs =>
      rw [chars] at split
      refine absurd ?_ unbroken.bracket
      rw [chars, (List.cons.inj split).1]
      exact List.mem_cons_self
  · next first _ _ split =>
    rw [canBegin_of_split split]
    cases name.toList.head?.any canBegin with
    | false => rfl
    | true =>
      rw [if_neg (by decide), if_pos rfl]
      split
      -- what follows the name is the equals sign, so only the last case is left
      · next same => cases same
      · next same => exact absurd (List.cons.inj same).1 (by decide)
      · next same => exact absurd (List.cons.inj same).1 (by decide)
      · next level' _ _ same =>
        obtain rfl := (List.cons.inj same).2
        unfold levelGiven
        generalize level.toList.rdropWhile Text.isBlank = visible
        cases visible.dropWhile (· != ',') with
        | nil => cases readLevel level.toList <;> rfl
        | cons _ after =>
          dsimp only
          cases readLevel (level.toList.take (visible.takeWhile (· != ',')).length) with
          | error fault => rfl
          | ok v =>
            dsimp only [bind, Except.bind]
            split <;> rfl

/-- Only with a plain name can an entry be read. -/
theorem Unbroken.plain {level : String} {d : Directive} (read : ofEntry (name, level) = .ok d) : Plain name := by
  rw [ofEntry_of_unbroken unbroken] at read
  split at read
  · next begins => exact ⟨unbroken, begins⟩
  · cases read

end Unbroken

theorem ofEntry_of_plain {name : String} (plain : Plain name) (level : String) :
    ofEntry (name, level) = (levelGiven level.toList).map (.events (some name)) := by
  rw [ofEntry_of_unbroken plain.toUnbroken, if_pos plain.begins]

theorem ofEntry_eq_ok_iff {name level : String} {d : Directive} (plain : Plain name) :
    ofEntry (name, level) = .ok d ↔ ∃ v, levelGiven level.toList = .ok v ∧ d = .events (some name) v := by
  rw [ofEntry_of_plain plain]
  cases levelGiven level.toList with
  | error fault => exact ⟨nofun, nofun⟩
  | ok v =>
    constructor
    · exact fun same => ⟨v, rfl, (Except.ok.inj same).symm⟩
    · rintro ⟨v', same, rfl⟩
      obtain rfl := Except.ok.inj same
      rfl

/-- A level without a comma is read as it is. -/
theorem levelGiven_eq {level : List Char} (comma : ',' ∉ level) : levelGiven level = readLevel level := by
  have whole : (level.rdropWhile Text.isBlank).dropWhile (· != ',') = [] := by
    refine List.dropWhile_eq_nil_iff.2 fun c there => bne_iff_ne.2 ?_
    rintro rfl
    exact comma ((List.rdropWhile_prefix _ _).subset there)
  unfold levelGiven
  rw [whole]

/-! ## Reading all entries -/

/-- Can all of the entries be read? -/
def Good (entries : List (String × String)) : Prop := ∀ entry ∈ entries, ∃ d, ofEntry entry = .ok d

/-- The directives that entries stand for, those left out that cannot be read. -/
def ofEntries (entries : List (String × String)) : List Directive :=
  entries.filterMap fun entry => (ofEntry entry).toOption

theorem ofEntries_append (entries entries' : List (String × String)) :
    ofEntries (entries ++ entries') = ofEntries entries ++ ofEntries entries' := List.filterMap_append

theorem ofEntries_cons {entry : String × String} {d : Directive} (read : ofEntry entry = .ok d)
    (entries : List (String × String)) : ofEntries (entry :: entries) = d :: ofEntries entries := by
  unfold ofEntries
  rw [List.filterMap_cons, read]
  rfl

theorem toOption_eq_some_iff {ε α : Type} {result : Except ε α} {a : α} :
    result.toOption = some a ↔ result = .ok a := by
  cases result with
  | error => exact ⟨nofun, nofun⟩
  | ok a' => exact ⟨fun same => congrArg _ (Option.some.inj same), fun same => congrArg _ (Except.ok.inj same)⟩

theorem mem_ofEntries {entries : List (String × String)} {d : Directive} :
    d ∈ ofEntries entries ↔ ∃ entry ∈ entries, ofEntry entry = .ok d := by
  simp only [ofEntries, List.mem_filterMap, toOption_eq_some_iff]

section Plain

variable {entries : List (String × String)} (plain : ∀ entry ∈ entries, Plain entry.1)
include plain

/-- The directives of entries with plain names are about these names. -/
theorem mem_of_events_mem_ofEntries {t : Option String} {v : Verbosity} (there : .events t v ∈ ofEntries entries) :
    ∃ entry ∈ entries, t = some entry.1 ∧ levelGiven entry.2.toList = .ok v := by
  obtain ⟨entry, entry_there, read⟩ := mem_ofEntries.1 there
  obtain ⟨v', given, same⟩ := (ofEntry_eq_ok_iff (plain entry entry_there)).1 read
  obtain ⟨rfl, rfl⟩ := Directive.events.inj same
  exact ⟨entry, entry_there, rfl, given⟩

/-- Nothing is said of other targets than the names. -/
theorem said?_ofEntries_eq_none {t : Option String} (other : ∀ entry ∈ entries, t ≠ some entry.1) :
    said? t (ofEntries entries) = none := by
  refine said?_eq_none_iff.2 fun v there => ?_
  obtain ⟨entry, entry_there, about, -⟩ := mem_of_events_mem_ofEntries plain there
  exact other entry entry_there about

end Plain

/-- Of the entries whose names begin a target, the one that counts: none of them has a longer name, and none
behind it the same. -/
structure Leads (entries : List (String × String)) (target name level : String) : Prop where
  last : ∃ before after, entries = before ++ (name, level) :: after ∧ ∀ later ∈ after, later.1 ≠ name
  begins : name.toList <+: target.toList
  longest : ∀ entry ∈ entries, entry.1.toList <+: target.toList → entry.1.length ≤ name.length

theorem Leads.mem {entries : List (String × String)} {target name level : String}
    (h : Leads entries target name level) : (name, level) ∈ entries := by
  obtain ⟨before, after, rfl, -⟩ := h.last
  exact List.mem_append_right _ List.mem_cons_self

/-- What is said of the name of the entry that counts is its level. -/
theorem Leads.said?_eq {entries : List (String × String)} {target name level : String}
    (h : Leads entries target name level) (plain : ∀ entry ∈ entries, Plain entry.1) {v : Verbosity}
    (given : levelGiven level.toList = .ok v) : said? (some name) (ofEntries entries) = some v := by
  have read := (ofEntry_eq_ok_iff (plain _ h.mem)).2 ⟨v, given, rfl⟩
  obtain ⟨before, after, rfl, other⟩ := h.last
  refine said?_eq_some_iff.2 ⟨ofEntries before, ofEntries after, ?_, ?_⟩
  · rw [ofEntries_append, ofEntries_cons read]
  · refine said?_ofEntries_eq_none (fun entry there => plain entry ?_) fun entry there same => ?_
    · exact List.mem_append_right _ (List.mem_cons_of_mem _ there)
    · exact other entry there (Option.some.inj same).symm

/-- Where entries have the last word, the one that counts decides, unless what else is said describes the target more
closely. -/
theorem Leads.decides {entries : List (String × String)} {target name level : String}
    (h : Leads entries target name level) (plain : ∀ entry ∈ entries, Plain entry.1) {v : Verbosity}
    (given : levelGiven level.toList = .ok v) {said before : Option String → Option Verbosity}
    (said_eq : ∀ t, said t = (said? t (ofEntries entries)).or (before t))
    (closest : ∀ t, before t ≠ none → Target.Begins t target → Target.closeness t ≤ Target.closeness (some name)) :
    Filter.Decides said target v := by
  refine ⟨some name, ?_, h.begins, fun t there begins => ?_⟩
  · rw [said_eq, h.said?_eq plain given, Option.some_or]
  · cases last : said? t (ofEntries entries) with
    | some v' =>
      obtain ⟨entry, entry_there, rfl, -⟩ := mem_of_events_mem_ofEntries plain (mem_of_said? last)
      exact Nat.succ_le_succ (h.longest entry entry_there begins)
    | none =>
      rw [said_eq, last, Option.none_or] at there
      exact closest t there begins

end Directive

/-! ## Filters from entries -/

namespace Filter

open Directive (ofEntry ofEntries Good Plain Leads levelGiven readLevel)

theorem addModules_cons_of_ok {entry : String × String} {d : Directive} (read : ofEntry entry = .ok d)
    (filter : Filter) (entries : List (String × String)) :
    filter.addModules (entry :: entries) = (filter.add d).addModules entries := by
  obtain ⟨name, level⟩ := entry
  unfold ofEntry at read
  dsimp only at read
  unfold addModules
  rw [List.foldlM_cons]
  dsimp only
  rw [read]
  rfl

theorem addModules_cons_of_error {entry : String × String} {fault : DirectiveFault}
    (read : ofEntry entry = .error fault) (filter : Filter) (entries : List (String × String)) :
    filter.addModules (entry :: entries) = .error (.badDirective fault) := by
  obtain ⟨name, level⟩ := entry
  unfold ofEntry at read
  dsimp only at read
  unfold addModules
  rw [List.foldlM_cons]
  dsimp only
  rw [read]
  rfl

theorem addModules_of_good {entries : List (String × String)} (good : Good entries) (filter : Filter) :
    filter.addModules entries = .ok ((ofEntries entries).foldl add filter) := by
  induction entries generalizing filter with
  | nil => rfl
  | cons entry entries ih =>
    obtain ⟨⟨d, read⟩, good⟩ := List.forall_mem_cons.1 good
    rw [addModules_cons_of_ok read, ih good, Directive.ofEntries_cons read, List.foldl_cons]

/-- One entry that cannot be read is enough for all of them to fail, wherever it stands. -/
theorem addModules_of_not_good {entries : List (String × String)} (bad : ¬ Good entries) (filter : Filter) :
    ∃ fault, filter.addModules entries = .error (.badDirective fault) := by
  induction entries generalizing filter with
  | nil => exact absurd (List.forall_mem_nil _) bad
  | cons entry entries ih =>
    cases read : ofEntry entry with
    | error fault => exact ⟨fault, addModules_cons_of_error read filter entries⟩
    | ok d =>
      rw [addModules_cons_of_ok read]
      exact ih (fun good => bad (List.forall_mem_cons.2 ⟨⟨d, read⟩, good⟩)) (filter.add d)

/-- What a text lists is cut at commas and equals signs, and has no blanks around it. -/
theorem of_mem_modulesIn {text : String} {entry : String × String} (there : entry ∈ modulesIn text) :
    entry.1.toList.dropWhile Text.isBlank = entry.1.toList ∧ '=' ∉ entry.1.toList ∧ ',' ∉ entry.1.toList ∧
      ',' ∉ entry.2.toList := by
  obtain ⟨piece, piece_there, parts⟩ := List.mem_filterMap.1 there
  obtain ⟨⟨before, after⟩, split, rfl⟩ := Option.map_eq_some_iff.1 parts
  obtain ⟨rfl, equals⟩ := Text.eq_of_splitOnce? split
  have comma := Text.notMem_of_mem_splitAll piece_there
  dsimp only
  rw [String.toList_ofList, String.toList_ofList]
  refine ⟨Text.dropWhile_trim _, fun within => equals (Text.mem_of_mem_trim within), fun within => comma ?_,
    fun within => comma ?_⟩
  · exact List.mem_append_left _ (Text.mem_of_mem_trim within)
  · exact List.mem_append_right _ (List.mem_cons_of_mem _ (Text.mem_of_mem_trim within))

/-! ## Filters from a level -/

/-- The good directives in a text. -/
def goodIn (text : String) : List Directive := (pieces text).filterMap fun piece => (Directive.read piece).toOption

theorem lenient_eq (text : String) : (lenient text).1 = ofDirectives (.upTo .error) (goodIn text) := by
  unfold lenient goodIn
  dsimp only
  rw [List.filterMap_map]
  rfl

theorem single_lenient (text : String) : (lenient text).1.Single := by
  rw [lenient_eq]
  unfold ofDirectives
  split
  · exact List.nodup_singleton _
  · exact single_empty.foldl_add _

theorem mem_goodIn_of_said?_lenient {text : String} {t : Option String} {v : Verbosity}
    (said : (lenient text).1.said? t = some v) : t = none ∨ .events t v ∈ goodIn text := by
  rw [lenient_eq] at said
  unfold ofDirectives at said
  split at said
  · have single : Single ⟨[⟨none, .upTo .error⟩]⟩ := List.nodup_singleton _
    exact .inl (Rule.mk.inj (List.mem_singleton.1 ((said?_eq_some_iff single).1 said))).1
  · rw [said?_foldl_add] at said
    rcases Option.or_eq_some_iff.1 said with last | ⟨-, before⟩
    · exact .inr (Directive.mem_of_said? last)
    · cases before

/-- The name of a level is read as the directive for all events. -/
theorem lenient_of_name {name : String} {most : Level} (named : (name, Verbosity.upTo most) ∈ Verbosity.all) :
    (lenient name).1 = ⟨[⟨none, .upTo most⟩]⟩ := by
  simp only [Verbosity.all, List.mem_cons, Prod.mk.injEq, reduceCtorEq, and_false, false_or, List.not_mem_nil,
    or_false, Verbosity.upTo.injEq] at named
  rcases named with ⟨rfl, rfl⟩ | ⟨rfl, rfl⟩ | ⟨rfl, rfl⟩ | ⟨rfl, rfl⟩ | ⟨rfl, rfl⟩ <;> decide +kernel

/-! ## The filter of settings and environment -/

/-- The entries that the environment lists. -/
def listed (w : Surroundings) : List (String × String) := modulesIn ((w.value? "FIFOQ_LOG_MODULES").getD "")

/-- The entries that settings and environment give, in this order. -/
def entries (w : Surroundings) (settings : Option LoggingSettings) : List (String × String) :=
  settings.elim [] (·.modules) ++ listed w

section Chosen

variable {w : Surroundings} {settings : Option LoggingSettings}

theorem chosen_of_readable {filter : Filter} (readable : (w.value? "FIFOQ_LOG").bind strict? = some filter) :
    chosen w settings = (.ok filter, []) := by
  unfold chosen
  rw [readable]

variable (unread : (w.value? "FIFOQ_LOG").bind strict? = none)
include unread

theorem chosen_of_off (off : settings.elim "info" (·.level) = "off") : chosen w settings = (.ok nothing, []) := by
  unfold chosen
  rw [unread]
  exact if_pos off

theorem chosen_of_on (on : settings.elim "info" (·.level) ≠ "off") :
    (chosen w settings).1 = (lenient (settings.elim "info" (·.level))).1.addModules (entries w settings) := by
  unfold chosen entries listed
  rw [unread]
  dsimp only
  rw [if_neg on]
  unfold addModules
  rw [List.foldlM_append]

theorem chosen_eq_ok_iff (on : settings.elim "info" (·.level) ≠ "off") {filter : Filter} :
    (chosen w settings).1 = .ok filter ↔ Good (entries w settings) ∧
      filter = (ofEntries (entries w settings)).foldl add (lenient (settings.elim "info" (·.level))).1 := by
  rw [chosen_of_on unread on]
  by_cases good : Good (entries w settings)
  · rw [addModules_of_good good]
    exact ⟨fun same => ⟨good, (Except.ok.inj same).symm⟩, fun ⟨_, same⟩ => congrArg _ same.symm⟩
  · obtain ⟨fault, fails⟩ := addModules_of_not_good good (lenient (settings.elim "info" (·.level))).1
    rw [fails]
    exact ⟨nofun, fun ⟨good', _⟩ => absurd good' good⟩

theorem single_chosen (on : settings.elim "info" (·.level) ≠ "off") {filter : Filter}
    (chosen_ok : (chosen w settings).1 = .ok filter) : filter.Single := by
  obtain ⟨-, rfl⟩ := (chosen_eq_ok_iff unread on).1 chosen_ok
  exact (single_lenient _).foldl_add _

/-- What the chosen filter says of a target: the last word is that of the entries, the first one that of the
level. -/
theorem said?_chosen (on : settings.elim "info" (·.level) ≠ "off") {filter : Filter}
    (chosen_ok : (chosen w settings).1 = .ok filter) (t : Option String) :
    filter.said? t = (Directive.said? t (ofEntries (entries w settings))).or
      ((lenient (settings.elim "info" (·.level))).1.said? t) := by
  obtain ⟨-, rfl⟩ := (chosen_eq_ok_iff unread on).1 chosen_ok
  rw [said?_foldl_add]

end Chosen

end Filter

end DurableQueue
