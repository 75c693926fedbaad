import Mathlib.Data.List.DropRight
import RequestDispatch.Application.Start
import RequestDispatch.Proofs.Text.Split

/-!
Where the files of a profile are. The profile goes before the last dot of the whole path, and not of
the last part of it: the file is beside the base file unless that one has no dot in its name and one
in its directory, and then the profile changes the name of a directory (`profile_beside_base`).
-/

namespace RequestDispatch

/-- A path up to its last slash, and with it. -/
def directoryPart (path : String) : String := String.ofList (path.toList.rdropWhile (· ≠ '/'))

/-- What stands behind the last slash of a path. -/
def namePart (path : String) : String := String.ofList (path.toList.rtakeWhile (· ≠ '/'))

/-- The name of a file, and the name with a profile in it: before the last dot, or at the end if
there is no dot. -/
inductive Profiled (profile : String) : String → String → Prop where
  | dotted (stem ending : String) (last : '.' ∉ ending.toList) :
      Profiled profile (stem ++ "." ++ ending) (stem ++ "-" ++ profile ++ "." ++ ending)
  | plain (name : String) (absent : '.' ∉ name.toList) :
      Profiled profile name (name ++ "-" ++ profile)

def IsDirectory (path : String) : Prop := ∀ last, path.toList.getLast? = some last → last = '/'

theorem directory_append_name (path : String) : directoryPart path ++ namePart path = path := by
  apply String.toList_injective
  simp [directoryPart, namePart]

theorem slash_not_mem_name (path : String) : '/' ∉ (namePart path).toList := by
  intro member
  rw [namePart, String.toList_ofList] at member
  simpa using List.mem_rtakeWhile_imp member

theorem directory_is_directory (path : String) : IsDirectory (directoryPart path) := by
  intro last ends
  rw [directoryPart, String.toList_ofList] at ends
  obtain ⟨nonempty, rfl⟩ := List.mem_getLast?_eq_getLast ends
  simpa using List.rdropWhile_last_not _ _ nonempty

theorem parts_of_append {directory name : String} (ends : IsDirectory directory)
    (simple : '/' ∉ name.toList) :
    directoryPart (directory ++ name) = directory ∧ namePart (directory ++ name) = name := by
  have passed : ∀ character ∈ name.toList.reverse, decide (character ≠ '/') = true := by
    intro character member
    refine decide_eq_true ?_
    rintro rfl
    exact simple (List.mem_reverse.1 member)
  have kept : directory.toList.rdropWhile (· ≠ '/') = directory.toList := by
    rw [List.rdropWhile_eq_self_iff]
    intro nonempty
    simpa using ends _ (List.getLast?_eq_some_getLast nonempty)
  have front : directoryPart (directory ++ name) = directory := by
    rw [directoryPart, String.toList_append, List.rdropWhile, List.reverse_append,
      List.dropWhile_append_of_pos passed, ← List.rdropWhile, kept, String.ofList_toList]
  have whole := directory_append_name (directory ++ name)
  rw [front] at whole
  have characters := congrArg String.toList whole
  simp only [String.toList_append, List.append_right_inj] at characters
  exact ⟨front, String.toList_injective characters⟩

theorem exists_last_dot {text : String} (dotted : '.' ∈ text.toList) :
    ∃ stem ending : String, text = stem ++ "." ++ ending ∧ '.' ∉ ending.toList := by
  obtain ⟨stem, ending, whole, last⟩ := Text.last_separator dotted
  refine ⟨String.ofList stem, String.ofList ending, ?_, by simpa using last⟩
  apply String.toList_injective
  simp [whole]

theorem profile_path_dotted {ending : String} (last : '.' ∉ ending.toList)
    (stem profile : String) :
    profilePath (stem ++ "." ++ ending) profile = stem ++ "-" ++ profile ++ "." ++ ending := by
  have characters : (stem ++ "." ++ ending).toList = stem.toList ++ '.' :: ending.toList := by simp
  simp only [profilePath, characters, Text.splitLast_append last, String.ofList_toList]

theorem profile_path_plain {base : String} (absent : '.' ∉ base.toList) (profile : String) :
    profilePath base profile = base ++ "-" ++ profile := by
  rw [profilePath, Text.splitLast_eq_none.2 absent]

theorem Profiled.no_slash {profile name changed : String} (profiled : Profiled profile name changed)
    (simple : '/' ∉ profile.toList) (last : '/' ∉ name.toList) : '/' ∉ changed.toList := by
  cases profiled with
  | dotted stem ending =>
      simp only [String.toList_append, List.mem_append, not_or] at last ⊢
      exact ⟨⟨⟨⟨last.1.1, by decide⟩, simple⟩, by decide⟩, last.2⟩
  | plain =>
      simp only [String.toList_append, List.mem_append, not_or]
      exact ⟨⟨last, by decide⟩, simple⟩

theorem profile_path_beside {base : String}
    (dots : '.' ∈ (directoryPart base).toList → '.' ∈ (namePart base).toList) (profile : String) :
    ∃ changed, Profiled profile (namePart base) changed ∧
      profilePath base profile = directoryPart base ++ changed := by
  by_cases dotted : '.' ∈ (namePart base).toList
  · obtain ⟨stem, ending, name, last⟩ := exists_last_dot dotted
    have whole : base = directoryPart base ++ stem ++ "." ++ ending := by
      simpa only [name, String.append_assoc] using (directory_append_name base).symm
    refine ⟨stem ++ "-" ++ profile ++ "." ++ ending, ?_, ?_⟩
    · rw [name]
      exact .dotted stem ending last
    · have path := profile_path_dotted last (directoryPart base ++ stem) profile
      rw [← whole] at path
      simpa only [String.append_assoc] using path
  · have absent : '.' ∉ base.toList := by
      rw [← directory_append_name base, String.toList_append, List.mem_append, not_or]
      exact ⟨fun member => dotted (dots member), dotted⟩
    refine ⟨_, .plain _ dotted, ?_⟩
    rw [profile_path_plain absent, ← String.append_assoc, ← String.append_assoc,
      directory_append_name]

theorem profile_path_apart {base : String} (dotted : '.' ∈ (directoryPart base).toList)
    (absent : '.' ∉ (namePart base).toList) (profile : String) :
    ∃ before after : String, '.' ∉ after.toList ∧ directoryPart base = before ++ "." ++ after ∧
      directoryPart (profilePath base profile) = before ++ "-" ++ profile ++ "." ++ after ∧
      namePart (profilePath base profile) = namePart base := by
  obtain ⟨before, after, directory, last⟩ := exists_last_dot dotted
  have path : profilePath base profile =
      before ++ "-" ++ profile ++ "." ++ after ++ namePart base := by
    have whole : base = before ++ "." ++ (after ++ namePart base) := by
      simpa only [directory, String.append_assoc] using (directory_append_name base).symm
    have behind : '.' ∉ (after ++ namePart base).toList := by
      rw [String.toList_append, List.mem_append, not_or]
      exact ⟨last, absent⟩
    have path := profile_path_dotted behind before profile
    rw [← whole] at path
    simpa only [String.append_assoc] using path
  have ends : IsDirectory (before ++ "-" ++ profile ++ "." ++ after) := by
    -- Both directories end as their last dot and the rest do.
    intro character final
    apply directory_is_directory base
    rw [directory]
    simpa [List.getLast?_append, List.getLast?_cons] using final
  obtain ⟨front, back⟩ := parts_of_append ends (slash_not_mem_name base)
  exact ⟨before, after, last, directory, path ▸ front, path ▸ back⟩

/-- The file of a profile is in the directory of the base file and has its name with the profile in
it, unless the base file has no dot in its name and one in its directory. Then the file has the name
of the base file, and the profile stands before the last dot of the directory. -/
theorem profile_beside_base (base profile : String) (simple : '/' ∉ profile.toList) :
    (directoryPart (profilePath base profile) = directoryPart base ∧
        Profiled profile (namePart base) (namePart (profilePath base profile)) ↔
      ('.' ∈ (directoryPart base).toList → '.' ∈ (namePart base).toList)) ∧
    ('.' ∈ (directoryPart base).toList → '.' ∉ (namePart base).toList →
      ∃ before after : String, '.' ∉ after.toList ∧ directoryPart base = before ++ "." ++ after ∧
        directoryPart (profilePath base profile) = before ++ "-" ++ profile ++ "." ++ after ∧
        namePart (profilePath base profile) = namePart base) := by
  refine ⟨⟨?_, ?_⟩, fun dotted absent => profile_path_apart dotted absent profile⟩
  · rintro ⟨same, -⟩ dotted
    by_contra absent
    obtain ⟨before, after, -, directory, changed, -⟩ := profile_path_apart dotted absent profile
    rw [same, directory] at changed
    have lengths := congrArg String.length changed
    simp only [String.length_append] at lengths
    have dash : "-".length = 1 := rfl
    omega
  · intro dots
    obtain ⟨changed, profiled, path⟩ := profile_path_beside dots profile
    obtain ⟨front, back⟩ := parts_of_append (directory_is_directory base)
      (profiled.no_slash simple (slash_not_mem_name base))
    rw [path, front, back]
    exact ⟨rfl, profiled⟩

/-- A name with a dot, in a directory with a dot. -/
theorem profile_in_dotted_directory :
    '/' ∉ "dev".toList ∧ '.' ∈ (directoryPart "conf.d/shop.toml").toList ∧
      profilePath "conf.d/shop.toml" "dev" = "conf.d/shop-dev.toml" ∧
      directoryPart (profilePath "conf.d/shop.toml" "dev") = directoryPart "conf.d/shop.toml" ∧
      Profiled "dev" (namePart "conf.d/shop.toml")
        (namePart (profilePath "conf.d/shop.toml" "dev")) := by
  have simple : '/' ∉ "dev".toList := by decide
  have law := profile_beside_base "conf.d/shop.toml" "dev" simple
  exact ⟨simple, by decide +kernel, by decide +kernel, law.1.2 fun _ => by decide +kernel⟩

/-- A name without a dot in the same directory: the file is sought in another one. -/
theorem profile_of_plain_name_elsewhere :
    '/' ∉ "dev".toList ∧ directoryPart "conf.d/shop" = "conf.d/" ∧
      profilePath "conf.d/shop" "dev" = "conf-dev.d/shop" ∧
      directoryPart (profilePath "conf.d/shop" "dev") ≠ directoryPart "conf.d/shop" := by
  refine ⟨?_, ?_, ?_, ?_⟩ <;> decide +kernel

end RequestDispatch
