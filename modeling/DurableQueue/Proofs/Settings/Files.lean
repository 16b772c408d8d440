import DurableQueue.Proofs.Settings.Acceptance

/-!
# Settings files and their formats

Which format a settings file is read in depends on the end of its path alone, and a path that is seen from a
directory, or followed to where it leads, ends as before. So a file whose name is put together from something
and `.toml` is read as TOML (`SettingsFile.ifFound_toml`), with one exception: where there is nothing before
the point, the name has no extension, and the file is passed over although it is there
(`SettingsFile.ifFound_unnamed`).
-/

namespace DurableQueue

/-! ## Ends of paths -/

theorem Text.splitAll_of_notMem {sep : Char} {cs : List Char} (none : sep ∉ cs) :
    splitAll sep cs = [cs] := by
  induction cs with
  | nil => rfl
  | cons c cs ih =>
    obtain ⟨other, later⟩ := not_or.1 (mt List.mem_cons.2 none)
    rw [splitAll, if_neg (Ne.symm other), ih later]

/-- Without a separator in it, what is put behind a text is put behind its last piece. -/
theorem Text.splitAll_append {sep : Char} {rest : List Char} (none : sep ∉ rest) (cs : List Char) :
    ∃ before last, splitAll sep cs = before ++ [last] ∧
      splitAll sep (cs ++ rest) = before ++ [last ++ rest] := by
  induction cs with
  | nil => exact ⟨[], [], rfl, splitAll_of_notMem none⟩
  | cons c cs ih =>
    obtain ⟨before, last, alone, followed⟩ := ih
    rw [List.cons_append, splitAll, splitAll, alone, followed]
    by_cases at_c : c = sep
    · rw [if_pos at_c, if_pos at_c]
      exact ⟨[] :: before, last, rfl, rfl⟩
    · rw [if_neg at_c, if_neg at_c]
      cases before with
      | nil => exact ⟨[], c :: last, rfl, rfl⟩
      | cons piece before => exact ⟨(c :: piece) :: before, last, rfl, rfl⟩

namespace Path

theorem parts_ne_nil (path : String) : parts path ≠ [] := by
  unfold parts
  simpa using Text.splitAll_ne_nil '/' path.toList

theorem parts_append_slash (base path : String) : parts (base ++ "/" ++ path) = parts base ++ parts path := by
  unfold parts
  rw [String.toList_append, String.toList_append, show "/".toList = ['/'] from rfl, List.append_assoc,
    List.singleton_append, Text.splitAll_append_cons, List.map_append]

theorem getLast?_parts_append_slash (base path : String) :
    (parts (base ++ "/" ++ path)).getLast? = (parts path).getLast? := by
  rw [parts_append_slash, List.getLast?_append, List.getLast?_eq_some_getLast (parts_ne_nil path),
    Option.some_or]

/-- Seen from a directory, a path ends as before. -/
theorem getLast?_parts_join (base path : String) :
    (parts (join base path)).getLast? = (parts path).getLast? := by
  unfold join
  split
  · rfl
  · split
    · next nothing_between =>
      rcases Bool.or_eq_true _ _ ▸ nothing_between with empty | slash
      · rw [String.toList_eq_nil_iff.1 (List.isEmpty_iff.1 empty), String.empty_append]
      · obtain ⟨front, chars⟩ := List.getLast?_eq_some_iff.1 (beq_iff_eq.1 slash)
        have base_eq : base = String.ofList front ++ "/" := by
          rw [← String.toList_inj, chars, String.toList_append, String.toList_ofList]
          rfl
        rw [base_eq]
        exact getLast?_parts_append_slash _ path
    · exact getLast?_parts_append_slash base path

theorem getLast?_parts_append {rest : String} (none : '/' ∉ rest.toList) (path : String) :
    (parts (path ++ rest)).getLast? = (parts path).getLast?.map (· ++ rest) := by
  obtain ⟨before, last, alone, followed⟩ := Text.splitAll_append none path.toList
  unfold parts
  rw [String.toList_append, alone, followed, List.map_append, List.map_append]
  simp [String.ofList_append]

/-- The pieces between the points of a name with `.toml` at its end. -/
theorem pieces_toml (stem : String) :
    (Text.splitAll '.' (stem ++ ".toml").toList).map String.ofList =
      (Text.splitAll '.' stem.toList).map String.ofList ++ ["toml"] := by
  rw [String.toList_append, show ".toml".toList = '.' :: "toml".toList from rfl, Text.splitAll_append_cons,
    List.map_append]
  rfl

theorem fileName?_toml {path stem : String} (ends : (parts path).getLast? = some (stem ++ ".toml")) :
    fileName? path = some (stem ++ ".toml") := by
  have long {short : String} (shorter : short.length < 5) : stem ++ ".toml" ≠ short := by
    rintro rfl
    rw [String.length_append, show ".toml".length = 5 from rfl] at shorter
    omega
  obtain ⟨before, parts_eq⟩ := List.getLast?_eq_some_iff.1 ends
  have components_eq : (components path).getLast? = some (stem ++ ".toml") := by
    have kept : [stem ++ ".toml"].filter (fun part => part ≠ "" && part ≠ ".") = [stem ++ ".toml"] := by
      refine List.filter_eq_self.2 fun part there => ?_
      rw [List.mem_singleton.1 there, decide_eq_true (long (by decide)), decide_eq_true (long (by decide))]
      rfl
    rw [components, parts_eq, List.filter_append, kept]
    exact List.getLast?_concat
  rw [fileName?, components_eq]
  exact if_neg (long (by decide))

/-- The extension of a path that ends in a name with `.toml` at its end. -/
theorem extension?_toml {path stem : String} (ends : (parts path).getLast? = some (stem ++ ".toml")) :
    extension? path = if stem = "" then none else some "toml" := by
  rw [extension?, fileName?_toml ends]
  dsimp only
  rw [pieces_toml, List.getLast?_concat]
  by_cases unnamed : stem = ""
  · subst unnamed
    rfl
  · rw [if_neg unnamed]
    have whole := Text.join_splitAll '.' stem.toList
    cases pieces : Text.splitAll '.' stem.toList with
    | nil => exact absurd pieces (Text.splitAll_ne_nil _ _)
    | cons piece more =>
      cases more with
      | nil =>
        -- There is no other point in the name, so the piece is all that stands before `.toml`.
        rw [pieces] at whole
        have piece_eq : String.ofList piece = stem := by
          rw [show piece = stem.toList by simpa using whole, String.ofList_toList]
        simp [piece_eq, unnamed]
      | cons second more =>
        rw [if_neg]
        simp only [List.map_cons, List.length_append, List.length_cons, Bool.or_eq_true,
          Bool.and_eq_true, decide_eq_true_eq]
        omega

end Path

/-! ## Where paths lead -/

/-- The place that a path leads to ends in the last name of the path. -/
theorem FileTree.follow_concat {tree : FileTree} {name : String} (proper : name ∉ ["", ".", ".."])
    {parts : List String} {place place' : Place} {entry : FileEntry}
    (leads : tree.follow place (parts ++ [name]) = .ok (place', entry)) :
    ∃ before, place' = before ++ [name] := by
  have follow_nil {place place' : Place} {entry : FileEntry}
      (leads : tree.follow place [] = .ok (place', entry)) : place' = place := by
    rw [follow] at leads
    cases at_place : tree.at? place with
    | none =>
      rw [at_place] at leads
      cases leads
    | some entry' =>
      rw [at_place] at leads
      exact (Prod.mk.inj (Except.ok.inj leads)).1.symm
  obtain ⟨some_name, stays, down⟩ : name ≠ "" ∧ name ≠ "." ∧ name ≠ ".." := by
    simpa using proper
  induction parts generalizing place with
  | nil =>
    rw [List.nil_append, follow] at leads
    split at leads
    · cases leads
    · cases leads
    · rw [if_neg (not_or.2 ⟨some_name, stays⟩), if_neg down] at leads
      split at leads
      · cases leads
      · exact ⟨place, follow_nil leads⟩
  | cons part parts ih =>
    rw [List.cons_append, follow] at leads
    split at leads
    · cases leads
    · cases leads
    · split at leads
      · exact ih leads
      · split at leads
        · exact ih leads
        · split at leads
          · cases leads
          · exact ih leads

theorem Path.getLast?_parts_intercalate {name : String} (plain : '/' ∉ name.toList) (before : List String) :
    (parts ("/" ++ "/".intercalate (before ++ [name]))).getLast? = some name := by
  obtain ⟨front, split⟩ : ∃ front,
      "/" ++ "/".intercalate (before ++ [name]) = front ++ "/" ++ name := by
    cases before with
    | nil => exact ⟨"", by simp⟩
    | cons first before =>
      refine ⟨"/" ++ "/".intercalate (first :: before), ?_⟩
      rw [String.intercalate_append_of_ne_nil (List.cons_ne_nil _ _) (List.cons_ne_nil _ _),
        String.intercalate_singleton]
      simp [String.append_assoc]
  have alone : parts name = [name] := by
    rw [parts, Text.splitAll_of_notMem plain, List.map_singleton, String.ofList_toList]
  rw [split, getLast?_parts_append_slash, alone]
  rfl

/-- A path that leads somewhere ends as before when it is made canonical. -/
theorem Surroundings.getLast?_canonical {w : Surroundings} {path name canonical : String}
    (proper : name ∉ ["", ".", ".."]) (plain : '/' ∉ name.toList)
    (ends : (Path.parts path).getLast? = some name) (found : w.canonical? path = some canonical) :
    (Path.parts canonical).getLast? = some name := by
  obtain ⟨before, parts_eq⟩ := List.getLast?_eq_some_iff.1 ends
  unfold canonical? at found
  split at found
  · next place entry resolved =>
    obtain rfl := Option.some.inj found
    unfold FileTree.resolve at resolved
    split at resolved
    · cases resolved
    · split at resolved
      · cases resolved
      · rw [parts_eq] at resolved
        obtain ⟨before, rfl⟩ := FileTree.follow_concat proper resolved
        exact Path.getLast?_parts_intercalate plain before
  · cases found

namespace SettingsFile

variable {w : Surroundings} {path stem text : String}

/-- A file that is there and has a name with something before `.toml` is read as TOML. -/
theorem ifFound_toml (ends : (Path.parts path).getLast? = some (stem ++ ".toml")) (named : stem ≠ "")
    (there : w.text? (Path.join w.workingDirectory path) = some text) :
    ifFound w path = settings w ⟨Path.join w.workingDirectory path, text, .toml⟩ := by
  have extension := Path.extension?_toml ((Path.getLast?_parts_join w.workingDirectory path).trans ends)
  rw [if_neg named] at extension
  unfold ifFound find
  dsimp only
  rw [there]
  dsimp only
  rw [exact, extension]
  rfl

/-- A file with nothing before `.toml` in its name is passed over, although it is there. -/
theorem ifFound_unnamed (ends : (Path.parts path).getLast? = some ".toml")
    (there : w.text? (Path.join w.workingDirectory path) = some text) : ifFound w path = .ok [] := by
  have full_ends : (Path.parts (Path.join w.workingDirectory path)).getLast? = some ("" ++ ".toml") :=
    (Path.getLast?_parts_join w.workingDirectory path).trans ends
  have extension := Path.extension?_toml full_ends
  unfold ifFound find
  dsimp only
  rw [there]
  dsimp only
  rw [exact, extension]
  rfl

end SettingsFile

end DurableQueue
