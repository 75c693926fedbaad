import Mathlib.Data.Int.Order.Basic
import RequestDispatch.Application.Start
import RequestDispatch.Proofs.Except
import RequestDispatch.Proofs.Settings.Order

/-!
Which setting counts after the start of an application. Files are read in groups, the base files
first and then those of each profile. As long as the priorities of the profiles do not wrap around,
a group goes before all that was read earlier: the step is `read_group`, the run `read_profiles`.
The variables of the process have a fixed priority, which the profiles reach when there are more
than ninety of them; so they come behind the files of the later profiles and before all other files
(`settings_precedence`).
-/

namespace RequestDispatch

/-- The sources stand from the highest priority to the lowest, and all are below a bound. -/
structure Below (bound : Int) (sources : List PropertySource) : Prop where
  sorted : sources.Pairwise fun first second => second.priority ≤ first.priority
  lower : ∀ source ∈ sources, source.priority.toInt < bound

theorem Below.mono {bound greater : Int} {sources : List PropertySource}
    (below : Below bound sources) (le : bound ≤ greater) : Below greater sources where
  sorted := below.sorted
  lower := fun source member => lt_of_lt_of_le (below.lower source member) le

theorem Below.append {priority : Int32} {bound : Int} {front back : List PropertySource}
    (level : ∀ source ∈ front, source.priority = priority) (below : Below priority.toInt back)
    (less : priority.toInt < bound) : Below bound (front ++ back) where
  sorted := by
    rw [List.pairwise_append]
    refine ⟨?_, below.sorted, ?_⟩
    · apply List.pairwise_of_forall_mem_list
      intro first member second other
      exact (level second other).le.trans (level first member).ge
    · intro first member second other
      rw [level first member, Int32.le_iff_toInt_le]
      exact (below.lower second other).le
  lower := by
    intro source member
    rcases List.mem_append.1 member with own | other
    · rw [level source own]
      exact less
    · exact lt_trans (below.lower source other) less

/-- A source comes to stand behind those whose priority is not below its own. -/
theorem Environment.add_sources {environment : Environment} {front back : List PropertySource}
    {source : PropertySource} (held : environment.sources = front ++ back)
    (sorted : (front ++ back).Pairwise fun first second => second.priority ≤ first.priority)
    (before : ∀ other ∈ front, source.priority ≤ other.priority)
    (behind : ∀ other ∈ back, other.priority < source.priority) :
    (environment.add source).sources = front ++ source :: back := by
  have inserted := mergeSort_concat sorted before behind
  rw [← inserted, ← held]
  rfl

def FileTree.setting? (tree : FileTree) (key path : String) : Option Setting :=
  (Application.readSource? tree path).toOption.join.bind fun source => source.get? key

namespace Application

variable {Bean : Type} {tree : FileTree}

def baseSetting? (application : Application Bean) (tree : FileTree) (key : String) :
    Option Setting :=
  application.settingsFiles.findSome? fun path => tree.setting? key path

def profileSetting? (application : Application Bean) (tree : FileTree) (key profile : String) :
    Option Setting :=
  application.settingsFiles.findSome? fun path => tree.setting? key (profilePath path profile)

def variableSetting? (application : Application Bean) (process : Entries String) (key : String) :
    Option Setting :=
  (lookUp? process (variableName application.variablePrefix key)).map .text

def sourcesOf (tree : FileTree) (priority : Int32) (paths : List String) : List PropertySource :=
  paths.filterMap fun path =>
    (readSource? tree path).toOption.join.map fun source => source.withPriority priority

theorem priority_of_sources {priority : Int32} {paths : List String} :
    ∀ source ∈ sourcesOf tree priority paths, source.priority = priority := by
  intro source member
  obtain ⟨path, -, found⟩ := List.mem_filterMap.1 member
  obtain ⟨read, -, rfl⟩ := Option.map_eq_some_iff.1 found
  rfl

theorem find_sources (priority : Int32) (paths : List String) (key : String) :
    (sourcesOf tree priority paths).findSome? (fun source => source.get? key) =
      paths.findSome? fun path => tree.setting? key path := by
  unfold sourcesOf FileTree.setting?
  induction paths with
  | nil => rfl
  | cons path paths ih =>
      rw [List.filterMap_cons, List.findSome?_cons]
      cases (readSource? tree path).toOption.join with
      | none => exact ih
      | some source =>
          dsimp only [Option.map_some, Option.bind_some]
          rw [List.findSome?_cons, ih]
          rfl

theorem read_files_cons {path : String} {priority : Int32} {planned : List (String × Int32)}
    {environment after : Environment}
    (read : readFiles tree ((path, priority) :: planned) environment = .ok after) :
    (sourcesOf tree priority [path] = [] ∧ readFiles tree planned environment = .ok after) ∨
      ∃ source, sourcesOf tree priority [path] = [source] ∧
        readFiles tree planned (environment.add source) = .ok after := by
  rw [readFiles] at read
  split at read
  · cases read
  · next missing => exact .inl ⟨by simp [sourcesOf, missing, Except.toOption], read⟩
  · next source found => exact .inr ⟨_, by simp [sourcesOf, found, Except.toOption], read⟩

theorem read_files_append {front back : List (String × Int32)} {environment after : Environment}
    (read : readFiles tree (front ++ back) environment = .ok after) :
    ∃ middle, readFiles tree front environment = .ok middle ∧
      readFiles tree back middle = .ok after := by
  induction front generalizing environment with
  | nil => exact ⟨environment, rfl, read⟩
  | cons file front ih =>
      rw [List.cons_append, readFiles] at read
      rw [readFiles]
      split at read
      · cases read
      · exact ih read
      · exact ih read

/-- Files of one priority that is higher than all before go before the rest, in their order. -/
theorem read_group {priority : Int32} {paths : List String} {environment after : Environment}
    {front back : List PropertySource} (held : environment.sources = front ++ back)
    (level : ∀ source ∈ front, source.priority = priority) (below : Below priority.toInt back)
    (read : readFiles tree (paths.map fun path => (path, priority)) environment = .ok after) :
    after.sources = front ++ sourcesOf tree priority paths ++ back := by
  induction paths generalizing environment front with
  | nil =>
      cases read
      simpa [sourcesOf] using held
  | cons path paths ih =>
      have parted : sourcesOf tree priority (path :: paths) =
          sourcesOf tree priority [path] ++ sourcesOf tree priority paths :=
        List.filterMap_append (l := [path])
      rcases read_files_cons read with ⟨missing, read⟩ | ⟨source, found, read⟩
      · rw [parted, missing]
        exact ih held level read
      · have own : source.priority = priority :=
          priority_of_sources source (by rw [found]; exact List.mem_singleton_self source)
        have sorted := (below.append level (Int.lt_succ priority.toInt)).sorted
        have added := Environment.add_sources held sorted
          (fun other member => (own.trans (level other member).symm).le)
          (fun other member => Int32.lt_iff_toInt_lt.2 (own ▸ below.lower other member))
        have levelToo : ∀ other ∈ front ++ [source], other.priority = priority := by
          intro other member
          rcases List.mem_append.1 member with earlier | last
          · exact level other earlier
          · rw [List.mem_singleton.1 last]
            exact own
        rw [parted, found, ih (by rw [added]; simp) levelToo read]
        simp

/-- As many profiles have priorities that do not wrap around: ten less than `2 ^ 31`. -/
def profileLimit : Nat := 2147483638

theorem profile_priority {index : Nat} (bounded : index < profileLimit) :
    (profilePriority index).toInt = 10 + index := by
  unfold profileLimit at bounded
  rw [profilePriority, Int32.toInt_add, Int32.toInt_ofNat_of_lt (by omega)]
  apply Int.bmod_eq_of_le
  · simp
    omega
  · simp
    omega

def profileFiles (application : Application Bean) (number : Nat) (profiles : List String) :
    List (String × Int32) :=
  (profiles.zipIdx number).flatMap fun (profile, index) =>
    application.settingsFiles.map fun path => (profilePath path profile, profilePriority index)

def profileSources (application : Application Bean) (tree : FileTree) (number : Nat)
    (profiles : List String) : List PropertySource :=
  (profiles.zipIdx number).reverse.flatMap fun (profile, index) =>
    sourcesOf tree (profilePriority index)
      (application.settingsFiles.map fun path => profilePath path profile)

variable {application : Application Bean}

theorem profile_sources_cons (number : Nat) (profile : String) (profiles : List String) :
    application.profileSources tree number (profile :: profiles) =
      application.profileSources tree (number + 1) profiles ++
        sourcesOf tree (profilePriority number)
          (application.settingsFiles.map fun path => profilePath path profile) := by
  simp [profileSources, List.zipIdx_cons]

theorem profile_sources_parted (count number : Nat) (profiles : List String) :
    application.profileSources tree number profiles =
      application.profileSources tree (number + count) (profiles.drop count) ++
        application.profileSources tree number (profiles.take count) := by
  induction profiles generalizing count number with
  | nil => simp [profileSources]
  | cons profile profiles ih =>
      cases count with
      | zero => simp [profileSources]
      | succ count =>
          rw [List.drop_succ_cons, List.take_succ_cons, profile_sources_cons, profile_sources_cons,
            ih count (number + 1), List.append_assoc, Nat.add_right_comm, Nat.add_assoc]

theorem priority_of_profiles {number : Nat} {profiles : List String}
    (bounded : number + profiles.length ≤ profileLimit) :
    ∀ source ∈ application.profileSources tree number profiles,
      (10 + number : Int) ≤ source.priority.toInt ∧
        source.priority.toInt < (10 + number + profiles.length : Int) := by
  intro source member
  obtain ⟨⟨profile, index⟩, listed, own⟩ := List.mem_flatMap.1 member
  obtain ⟨least, most, -⟩ := List.mem_zipIdx (List.mem_reverse.1 listed)
  rw [priority_of_sources source own, profile_priority (by omega)]
  omega

/-- Profiles are read in their order, and the files of each go before all that was read earlier. -/
theorem read_profiles {number : Nat} {profiles : List String} {environment after : Environment}
    (bounded : number + profiles.length ≤ profileLimit)
    (below : Below (10 + number) environment.sources)
    (read : readFiles tree (application.profileFiles number profiles) environment = .ok after) :
    after.sources = application.profileSources tree number profiles ++ environment.sources ∧
      Below (10 + number + profiles.length) after.sources := by
  induction profiles generalizing number environment with
  | nil =>
      cases read
      exact ⟨rfl, below.mono (by simp)⟩
  | cons profile profiles ih =>
      have planned : application.profileFiles number (profile :: profiles) =
          ((application.settingsFiles.map fun path => profilePath path profile).map
            fun path => (path, profilePriority number)) ++
              application.profileFiles (number + 1) profiles := by
        simp [profileFiles, List.zipIdx_cons]
      rw [List.length_cons] at bounded
      rw [planned] at read
      obtain ⟨middle, first, rest⟩ := read_files_append read
      have held : environment.sources = [] ++ environment.sources := rfl
      have own := profile_priority (show number < profileLimit by omega)
      rw [← own] at below
      have group := read_group held (by simp) below first
      rw [List.nil_append] at group
      have between : Below (10 + (number + 1 : Nat)) middle.sources := by
        rw [group]
        exact below.append priority_of_sources (by omega)
      obtain ⟨sources, belowToo⟩ := ih (by omega) between rest
      constructor
      · rw [sources, group, profile_sources_cons, List.append_assoc]
      · apply belowToo.mono
        rw [List.length_cons]
        omega

/-- The variables come behind the files of the profiles from the ninety-first on. -/
theorem environment_sources {process : Entries String} {environment : Environment}
    (bounded : (application.activeProfiles process).length ≤ profileLimit)
    (read : application.environment tree process = .ok environment) :
    environment.sources =
      application.profileSources tree 90 ((application.activeProfiles process).drop 90) ++
        .ofVariables application.variablePrefix process ::
          (application.profileSources tree 0 ((application.activeProfiles process).take 90) ++
            sourcesOf tree 0 application.settingsFiles) := by
  obtain ⟨gathered, files, same⟩ := bind_eq_ok.1 read
  cases same
  obtain ⟨middle, base, rest⟩ := read_files_append files
  generalize application.activeProfiles process = profiles at bounded rest ⊢
  have held : Environment.empty.sources = [] ++ [] := rfl
  have group := read_group held (by simp) ⟨.nil, by simp⟩ base
  rw [List.nil_append, List.append_nil] at group
  have below : Below (10 + (0 : Nat)) middle.sources := by
    rw [group, ← List.append_nil (sourcesOf tree 0 application.settingsFiles)]
    exact Below.append priority_of_sources ⟨.nil, by simp⟩ (by decide)
  obtain ⟨sources, ordered⟩ := read_profiles (by omega) below rest
  have divided : gathered.sources =
      application.profileSources tree 90 (profiles.drop 90) ++
        (application.profileSources tree 0 (profiles.take 90) ++
          sourcesOf tree 0 application.settingsFiles) := by
    rw [sources, group, profile_sources_parted 90, List.append_assoc]
  apply Environment.add_sources divided
  · rw [← divided]
    exact ordered.sorted
  · intro other member
    -- Where nothing is left behind the first ninety profiles, there is no such source.
    rcases Nat.le_total profiles.length 90 with few | many
    · simp [List.drop_of_length_le few, profileSources] at member
    · have later : 90 + (profiles.drop 90).length ≤ profileLimit := by
        rw [List.length_drop]
        omega
      exact Int32.le_iff_toInt_le.2 (priority_of_profiles later other member).1
  · intro other member
    have first : 0 + (profiles.take 90).length ≤ profileLimit := by
      rw [List.length_take]
      omega
    change other.priority < 100
    rcases List.mem_append.1 member with early | own
    · have bounds := (priority_of_profiles first other early).2
      rw [List.length_take] at bounds
      rw [Int32.lt_iff_toInt_lt]
      change other.priority.toInt < 100
      omega
    · rw [priority_of_sources other own]
      decide

theorem find_profiles (number : Nat) (profiles : List String) (key : String) :
    (application.profileSources tree number profiles).findSome? (fun source => source.get? key) =
      profiles.reverse.findSome? fun profile => application.profileSetting? tree key profile := by
  induction profiles generalizing number with
  | nil => rfl
  | cons profile profiles ih =>
      rw [profile_sources_cons, List.findSome?_append, ih, List.reverse_cons, List.findSome?_append,
        find_sources, List.findSome?_map]
      apply congrArg (Option.or _)
      simp [profileSetting?, Function.comp_def]

theorem environment_setting {process : Entries String} {environment : Environment}
    (bounded : (application.activeProfiles process).length ≤ profileLimit)
    (read : application.environment tree process = .ok environment) (key : String) :
    environment.get? key =
      (((application.activeProfiles process).drop 90).reverse.findSome? fun profile =>
          application.profileSetting? tree key profile).or
        ((application.variableSetting? process key).or
          ((((application.activeProfiles process).take 90).reverse.findSome? fun profile =>
              application.profileSetting? tree key profile).or
            (application.baseSetting? tree key))) := by
  have ofProcess : (PropertySource.ofVariables application.variablePrefix process).get? key =
      application.variableSetting? process key := rfl
  unfold Environment.get?
  rw [environment_sources bounded read, List.findSome?_append, List.findSome?_cons,
    List.findSome?_append, find_profiles, find_profiles, find_sources, ofProcess]
  cases application.variableSetting? process key <;> rfl

def plannedSources (tree : FileTree) (planned : List (String × Int32)) : List PropertySource :=
  planned.flatMap fun file => sourcesOf tree file.2 [file.1]

theorem read_files_eq {planned : List (String × Int32)} {environment after : Environment}
    (read : readFiles tree planned environment = .ok after) :
    after = (plannedSources tree planned).foldl Environment.add environment := by
  induction planned generalizing environment with
  | nil =>
      cases read
      rfl
  | cons file planned ih =>
      rw [plannedSources, List.flatMap_cons, List.foldl_append]
      rcases read_files_cons read with ⟨missing, read⟩ | ⟨source, found, read⟩
      · rw [missing]
        exact ih read
      · rw [found]
        exact ih read

/-- The environment has the sources of all files and then that of the variables. -/
theorem environment_gathers {process : Entries String} {environment : Environment}
    (read : application.environment tree process = .ok environment) :
    let profiles := application.activeProfiles process
    environment = (Environment.ofSources (plannedSources tree (application.plannedFiles profiles) ++
      [.ofVariables application.variablePrefix process])).withProfiles profiles := by
  intro profiles
  obtain ⟨gathered, files, same⟩ := bind_eq_ok.1 read
  cases same
  unfold Environment.ofSources
  rw [List.foldl_append, ← read_files_eq files]
  rfl

def KeepsSettings (initializer : Initializer Bean) : Prop :=
  ∀ context after, initializer context = .ok after → after.environment = context.environment

theorem initializers_keep {initializers : List (Initializer Bean)} {index : Nat}
    {context after : ApplicationContext Bean}
    (keep : ∀ initializer ∈ initializers, KeepsSettings initializer)
    (ran : runInitializers index initializers context = .ok after) :
    after.environment = context.environment := by
  induction initializers generalizing index context with
  | nil =>
      cases ran
      rfl
  | cons initializer initializers ih =>
      rw [List.forall_mem_cons] at keep
      rw [runInitializers] at ran
      split at ran
      · cases ran
      · next between started => exact (ih keep.2 ran).trans (keep.1 _ _ started)

end Application

/-- The settings of an application that has started. The environment is gathered from the files, in
the order in which they are read, and the variables. As long as the priorities of the profiles do
not wrap around, what counts for a key is, of those that there are, the value that the last profile
from the ninety-first on has for it, then that of the variable, then that of the last among the
first ninety profiles, and then that of the base files; a profile and the base files give the value
of their first file that knows the key. With ninety profiles or fewer the variable thus comes before
all files. This holds of the environment that the initializers are given, and of the one they leave
if none of them changes it. -/
theorem settings_precedence {Bean : Type} {application : Application Bean} {tree : FileTree}
    {process : Entries String} {context : ApplicationContext Bean}
    (started : application.start tree process = .ok context) :
    let profiles := application.activeProfiles process
    let ofProfile (key profile : String) := application.profileSetting? tree key profile
    ∃ environment, application.environment tree process = .ok environment ∧
      Application.runInitializers 0 application.initializers ⟨environment, .empty⟩ = .ok context ∧
      environment = (Environment.ofSources
        (Application.plannedSources tree (application.plannedFiles profiles) ++
          [.ofVariables application.variablePrefix process])).withProfiles profiles ∧
      (profiles.length ≤ Application.profileLimit → ∀ key, environment.get? key =
        ((profiles.drop 90).reverse.findSome? (ofProfile key)).or
          ((application.variableSetting? process key).or
            (((profiles.take 90).reverse.findSome? (ofProfile key)).or
              (application.baseSetting? tree key)))) ∧
      (profiles.length ≤ 90 → ∀ key, environment.get? key =
        (application.variableSetting? process key).or
          ((profiles.reverse.findSome? (ofProfile key)).or (application.baseSetting? tree key))) ∧
      ((∀ initializer ∈ application.initializers, Application.KeepsSettings initializer) →
        context.environment = environment) := by
  intro profiles ofProfile
  obtain ⟨environment, read, ran⟩ := bind_eq_ok.1 started
  refine ⟨environment, read, ran, Application.environment_gathers read,
    fun bounded => Application.environment_setting bounded read, ?_, fun keep =>
    Application.initializers_keep keep ran⟩
  intro few key
  have setting := Application.environment_setting (few.trans (by decide)) read key
  rw [List.drop_of_length_le few, List.take_of_length_le few] at setting
  exact setting

/-! A shop with some number of profiles. -/

namespace Shop

def application (count : Nat) : Application Unit :=
  { Application.named "shop" with
    settingsFiles := ["shop"], profiles := (List.range count).map toString }

def tree : FileTree := ⟨[("shop-0", "level = \"first\""), ("shop-90", "level = \"last\"")]⟩

theorem exists_of_isOk {Error Result : Type} {result : Except Error Result}
    (fine : result.isOk = true) : ∃ value, result = .ok value := by
  cases result with
  | error error => cases fine
  | ok value => exact ⟨value, rfl⟩

theorem eq_text {setting : Option Setting} {content : String}
    (held : setting.bind Setting.content? = some content) : setting = some (.text content) := by
  obtain ⟨value, rfl, same⟩ := Option.bind_eq_some_iff.1 held
  rw [Setting.eq_text_of_content same]

end Shop

/-- Of two profiles the second has no file, so that the first one's counts where no variable is
set. -/
theorem profile_before_base :
    ∃ context, (Shop.application 2).start Shop.tree [] = .ok context ∧
      context.environment.get? "level" = some (.text "first") := by
  have fine : ((Shop.application 2).start Shop.tree []).isOk = true := by decide +kernel
  obtain ⟨context, started⟩ := Shop.exists_of_isOk fine
  obtain ⟨environment, -, -, -, -, precedence, kept⟩ := settings_precedence started
  have same := kept (by intro initializer member; cases member)
  refine ⟨context, started, Shop.eq_text ?_⟩
  rw [same, precedence (by decide +kernel)]
  decide +kernel

/-- With ninety-one profiles the file of the last one counts, although the variable is set. -/
theorem last_profile_before_variable :
    let process := [("APP_LEVEL", "variable")]
    ∃ context, (Shop.application 91).start Shop.tree process = .ok context ∧
      (Shop.application 91).variableSetting? process "level" = some (.text "variable") ∧
      context.environment.get? "level" = some (.text "last") := by
  intro process
  have fine : ((Shop.application 91).start Shop.tree process).isOk = true := by decide +kernel
  obtain ⟨context, started⟩ := Shop.exists_of_isOk fine
  obtain ⟨environment, read, ran⟩ := bind_eq_ok.1 started
  have same : context.environment = environment := by
    apply Application.initializers_keep _ ran
    intro initializer member
    cases member
  refine ⟨context, started, Shop.eq_text (by decide +kernel), Shop.eq_text ?_⟩
  rw [same, Application.environment_setting (by decide +kernel) read]
  decide +kernel

end RequestDispatch
