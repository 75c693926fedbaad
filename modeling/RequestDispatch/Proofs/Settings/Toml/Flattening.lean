import Mathlib.Data.List.Perm.Basic
import RequestDispatch.Proofs.Entries
import RequestDispatch.Proofs.Settings.Toml.DistinctKeys

/-!
The settings of a TOML document under dotted keys. The leaves of the document, the settings in which
its tables end, are put into one map under the texts of the paths to them (`flatten_eq`). These
texts tell paths apart if their keys are not empty and have no dot (`joined_injective`), so that the
map holds each leaf and nothing else (`of_toml_leaves`).
-/

namespace RequestDispatch
namespace Setting

def isTable : Setting → Bool
  | .table _ => true
  | _ => false

/-- The path leads through tables from one setting to another. -/
inductive Holds : Setting → List String → Setting → Prop
  | here (value : Setting) : Holds value [] value
  | under {entries : List (String × Setting)} {key : String} {inner value : Setting}
      {path : List String} (member : (key, inner) ∈ entries) (inside : Holds inner path value) :
      Holds (.table entries) (key :: path) value

mutual

/-- The leaves of a setting, in which its tables end, with the paths to them. -/
def leaves : Setting → List (List String × Setting)
  | .table entries => fieldLeaves entries
  | value => [([], value)]

def fieldLeaves : List (String × Setting) → List (List String × Setting)
  | [] => []
  | (key, value) :: rest =>
    (leaves value).map (fun leaf => (key :: leaf.1, leaf.2)) ++ fieldLeaves rest

end

mutual

/-- The keys of the tables that a setting consists of down to its leaves. -/
def tableKeys : Setting → List String
  | .table entries => fieldKeys entries
  | _ => []

def fieldKeys : List (String × Setting) → List String
  | [] => []
  | (key, value) :: rest => key :: tableKeys value ++ fieldKeys rest

end

@[elab_as_elim]
theorem tables_induction {motive : Setting → Prop}
    (leaf : ∀ value, value.isTable = false → motive value)
    (table : ∀ entries, (∀ entry ∈ entries, motive entry.2) → motive (.table entries))
    (value : Setting) : motive value := by
  cases value with
  | table entries =>
      apply table
      intro entry member
      exact tables_induction leaf table entry.2
  | _ => exact leaf _ rfl
termination_by value
decreasing_by
  have smaller := List.sizeOf_lt_of_mem member
  have part : sizeOf entry.2 < sizeOf entry := by
    cases entry
    simp
  simp only [Setting.table.sizeOf_spec]
  omega

theorem field_leaves_eq (entries : List (String × Setting)) :
    fieldLeaves entries = entries.flatMap fun entry =>
      entry.2.leaves.map fun leaf => (entry.1 :: leaf.1, leaf.2) := by
  induction entries with
  | nil => rfl
  | cons entry rest ih => rw [fieldLeaves, ih, List.flatMap_cons]

theorem leaves_table (entries : List (String × Setting)) :
    (table entries).leaves = entries.flatMap fun entry =>
      entry.2.leaves.map fun leaf => (entry.1 :: leaf.1, leaf.2) := by
  rw [leaves, field_leaves_eq]

theorem leaves_of_leaf {value : Setting} (ends : value.isTable = false) :
    value.leaves = [([], value)] := by
  cases value with
  | table => cases ends
  | _ => rfl

theorem mem_leaves {value leaf : Setting} {path : List String} :
    (path, leaf) ∈ value.leaves ↔ value.Holds path leaf ∧ leaf.isTable = false := by
  induction value using tables_induction generalizing path with
  | leaf value ends =>
      rw [leaves_of_leaf ends, List.mem_singleton, Prod.mk.injEq]
      constructor
      · intro ⟨same, own⟩
        subst same own
        exact ⟨.here _, ends⟩
      · intro ⟨held, _⟩
        cases held with
        | here => exact ⟨rfl, rfl⟩
        | under => cases ends
  | table entries ih =>
      simp only [leaves_table, List.mem_flatMap, List.mem_map, Prod.mk.injEq]
      constructor
      · intro ⟨entry, member, ⟨inner, _⟩, inside, same, own⟩
        subst same own
        obtain ⟨held, ends⟩ := (ih entry member).1 inside
        exact ⟨.under member held, ends⟩
      · intro ⟨held, ends⟩
        cases held with
        | here => cases ends
        | @under _ key inner _ path member inside =>
            exact ⟨(key, inner), member, (path, leaf), (ih _ member).2 ⟨inside, ends⟩, rfl, rfl⟩

theorem leaf_paths_distinct {value : Setting} (distinct : value.DistinctKeys) :
    (value.leaves.map Prod.fst).Nodup := by
  induction value using tables_induction with
  | leaf value ends => simp [leaves_of_leaf ends]
  | table entries ih =>
      cases distinct with
      | table keys each =>
        rw [leaves_table, List.map_flatMap, List.nodup_flatMap]
        constructor
        · intro entry member
          rw [List.map_map]
          have below := (ih entry member (each entry member)).map
            (List.cons_injective (a := entry.1))
          rwa [List.map_map] at below
        · -- Paths that begin with different keys are different.
          apply (List.pairwise_map.1 keys).imp
          intro first second differ path one two
          simp only [List.map_map, List.mem_map, Function.comp] at one two
          obtain ⟨_, _, begin⟩ := one
          obtain ⟨_, _, other⟩ := two
          exact differ (List.cons.inj (begin.trans other.symm)).1

theorem holds_unique {value : Setting} (distinct : value.DistinctKeys) {path : List String}
    {first second : Setting} (one : value.Holds path first) (two : value.Holds path second) :
    first = second := by
  induction one with
  | here => cases two; rfl
  | @under entries key inner value path member inside ih =>
      cases distinct with
      | table keys each =>
        cases two with
        | @under _ _ other _ _ found below =>
          have same : inner = other := by
            rw [← Entries.get_eq_some_iff keys] at member found
            exact Option.some.inj (member.symm.trans found)
          subst same
          exact ih (each _ member) below

theorem Holds.distinct {value inner : Setting} {path : List String}
    (held : value.Holds path inner) (distinct : value.DistinctKeys) : inner.DistinctKeys := by
  induction held with
  | here => exact distinct
  | under member inside ih =>
      cases distinct with
      | table keys each => exact ih (each _ member)

end Setting

namespace Toml

open Setting

theorem is_table_sorted (value : Setting) : (sortTables value).isTable = value.isTable := by
  cases value <;> rfl

theorem sort_fields_perm {entries : List (String × Setting)}
    (distinct : (entries.map Prod.fst).Nodup) :
    (sortFields entries).Perm (entries.map fun entry => (entry.1, sortTables entry.2)) := by
  induction entries with
  | nil => rfl
  | cons entry rest ih =>
      rw [List.map_cons, List.nodup_cons] at distinct
      have sorted := ih distinct.2
      have absent : entry.1 ∉ Entries.keys (sortFields rest) := by
        rw [Entries.keys, (sorted.map Prod.fst).mem_iff, List.map_map]
        exact distinct.1
      exact (Entries.insert_perm absent _).trans (sorted.cons _)

/-- The tables of the other setting are those of the first in the order of their keys, and it has
the same scalars and the same items in the same order. -/
inductive SortsTo : Setting → Setting → Prop
  | text (content : String) : SortsTo (.text content) (.text content)
  | int (value : Int64) : SortsTo (.int value) (.int value)
  | float (value : Double) : SortsTo (.float value) (.float value)
  | bool (value : Bool) : SortsTo (.bool value) (.bool value)
  | list {items others : List Setting} (length : others.length = items.length)
      (each : ∀ place ∈ items.zip others, SortsTo place.1 place.2) :
      SortsTo (.list items) (.list others)
  | table {entries others : List (String × Setting)}
      (keys : (others.map Prod.fst).Perm (entries.map Prod.fst))
      (ascending : (others.map Prod.fst).Pairwise (· < ·))
      (each : ∀ key value other, (key, value) ∈ entries → (key, other) ∈ others →
        SortsTo value other) : SortsTo (.table entries) (.table others)

theorem sort_items_eq (items : List Setting) : sortItems items = items.map sortTables := by
  induction items with
  | nil => rfl
  | cons item rest ih => rw [sortItems, ih, List.map_cons]

theorem sort_fields_ascending (entries : List (String × Setting)) :
    ((sortFields entries).map Prod.fst).Pairwise (· < ·) := by
  induction entries with
  | nil => exact .nil
  | cons entry rest ih => exact Entries.insert_ascending ih entry.1 (sortTables entry.2)

theorem sorts_to {value : Setting} (distinct : value.DistinctKeys) :
    SortsTo value (sortTables value) := by
  induction distinct with
  | text => exact .text _
  | int => exact .int _
  | float => exact .float _
  | bool => exact .bool _
  | @list items each ih =>
      have paired : items.zip (items.map sortTables) =
          items.map fun item => (item, sortTables item) := by
        rw [← List.zip_map', List.map_id']
      rw [sortTables, sort_items_eq]
      refine .list (List.length_map _) ?_
      intro place member
      rw [paired, List.mem_map] at member
      obtain ⟨item, listed, rfl⟩ := member
      exact ih item listed
  | @table entries keys each ih =>
      have same := sort_fields_perm keys
      refine .table ?_ (sort_fields_ascending entries) ?_
      · have named := same.map Prod.fst
        rwa [List.map_map] at named
      · intro key value other member found
        obtain ⟨entry, listed, equal⟩ := List.mem_map.1 (same.mem_iff.1 found)
        obtain ⟨rfl, rfl⟩ := Prod.mk.inj equal
        -- The keys are distinct, so it is the entry that was sorted.
        have own : entry.2 = value :=
          congrArg Prod.snd (List.inj_on_of_nodup_map keys listed member rfl)
        rw [own]
        exact ih _ member

theorem leaves_sorted {value : Setting} (distinct : value.DistinctKeys) :
    (sortTables value).leaves.Perm (value.leaves.map fun leaf => (leaf.1, sortTables leaf.2)) := by
  induction value using tables_induction with
  | leaf value ends =>
      rw [leaves_of_leaf ends, leaves_of_leaf ((is_table_sorted value).trans ends)]
      rfl
  | table entries ih =>
      cases distinct with
      | table keys each =>
        rw [sortTables, leaves_table, leaves_table]
        apply ((sort_fields_perm keys).flatMap_right _).trans
        rw [List.flatMap_map, List.map_flatMap]
        apply List.Perm.flatMap_left
        intro entry member
        have below := (ih entry member (each entry member)).map
          fun leaf : List String × Setting => (entry.1 :: leaf.1, leaf.2)
        rw [List.map_map] at below
        rw [List.map_map]
        exact below

/-- The text of a path: its keys with dots between them. -/
def joined (path : List String) : String := ".".intercalate path

theorem joined_eq_empty_iff {path : List String} (filled : ∀ key ∈ path, key ≠ "") :
    joined path = "" ↔ path = [] := by
  match path with
  | [] => simp [joined]
  | [key] => simpa [joined] using filled key (List.mem_singleton_self key)
  | key :: second :: rest =>
      rw [joined, String.intercalate_cons_cons, ← String.toList_inj]
      simp

theorem joined_concat {path : List String} (filled : path ≠ []) (key : String) :
    joined (path ++ [key]) = joined path ++ "." ++ key := by
  induction path with
  | nil => exact absurd rfl filled
  | cons first rest ih =>
      unfold joined at ih ⊢
      by_cases alone : rest = []
      · subst alone
        simp [String.intercalate_cons_cons]
      · rw [List.cons_append, String.intercalate_cons_of_ne_nil (by simp), ih alone,
          String.intercalate_cons_of_ne_nil alone]
        simp only [String.append_assoc]

/-- The empty text stands for the root, since no other path has it. -/
theorem joined_extended {path : List String} (filled : ∀ key ∈ path, key ≠ "") (key : String) :
    (if (joined path).isEmpty then key else joined path ++ "." ++ key) =
      joined (path ++ [key]) := by
  by_cases root : path = []
  · rw [root]
    simp [joined]
  · have text := mt (joined_eq_empty_iff filled).1 root
    rw [if_neg (by simpa [String.isEmpty_iff] using text), joined_concat root]

/-- A key that remains one part of the text of a path. -/
def PlainKey (key : String) : Prop := key ≠ "" ∧ '.' ∉ key.toList

theorem joined_injective {first second : List String} (plain : ∀ key ∈ first, PlainKey key)
    (also : ∀ key ∈ second, PlainKey key) (same : joined first = joined second) :
    first = second := by
  have pieces {path : List String} (filled : path ≠ []) (plain : ∀ key ∈ path, PlainKey key) :
      (joined path).toList.splitOn '.' = path.map String.toList := by
    rw [joined, String.toList_intercalate]
    apply List.splitOn_intercalate
    · intro piece member
      obtain ⟨key, listed, rfl⟩ := List.mem_map.1 member
      exact (plain key listed).2
    · simpa using filled
  have together : first = [] ↔ second = [] := by
    rw [← joined_eq_empty_iff fun key member => (plain key member).1,
      ← joined_eq_empty_iff fun key member => (also key member).1, same]
  by_cases none : first = []
  · rw [none, together.1 none]
  · have split := pieces none plain
    rw [same, pieces (fun other => none (together.2 other)) also] at split
    have byText : Function.Injective String.toList := fun _ _ => String.toList_inj.1
    exact (byText.list_map split).symm

instance (key : String) : Decidable (PlainKey key) :=
  inferInstanceAs (Decidable (key ≠ "" ∧ '.' ∉ key.toList))

def PlainKeys (value : Setting) : Prop := ∀ key ∈ value.tableKeys, PlainKey key

instance (value : Setting) : Decidable (PlainKeys value) :=
  inferInstanceAs (Decidable (∀ key ∈ value.tableKeys, PlainKey key))

theorem plain_keys_leaf {value : Setting} (ends : value.isTable = false) : PlainKeys value := by
  have none : value.tableKeys = [] := by
    cases value with
    | table => cases ends
    | _ => rfl
  simp [PlainKeys, none]

theorem plain_keys_table {entries : List (String × Setting)} :
    PlainKeys (.table entries) ↔ ∀ entry ∈ entries, PlainKey entry.1 ∧ PlainKeys entry.2 := by
  unfold PlainKeys
  rw [tableKeys]
  induction entries with
  | nil => simp [fieldKeys]
  | cons entry rest ih =>
      rw [fieldKeys, List.cons_append, List.forall_mem_cons, List.forall_mem_append, ih,
        List.forall_mem_cons, and_assoc]

theorem plain_of_holds {value inner : Setting} {path : List String} (plain : PlainKeys value)
    (held : value.Holds path inner) : ∀ key ∈ path, PlainKey key := by
  induction held with
  | here => simp
  | under member inside ih =>
      obtain ⟨own, below⟩ := plain_keys_table.1 plain _ member
      exact List.forall_mem_cons.2 ⟨own, ih below⟩

theorem plain_keys_sorted {value : Setting} (distinct : value.DistinctKeys)
    (plain : PlainKeys value) : PlainKeys (sortTables value) := by
  induction value using tables_induction with
  | leaf value ends => exact plain_keys_leaf ((is_table_sorted value).trans ends)
  | table entries ih =>
      cases distinct with
      | table keys each =>
        rw [plain_keys_table] at plain
        rw [sortTables, plain_keys_table]
        intro entry member
        rw [(sort_fields_perm keys).mem_iff, List.mem_map] at member
        obtain ⟨source, listed, rfl⟩ := member
        obtain ⟨own, below⟩ := plain source listed
        exact ⟨own, ih source listed (each source listed) below⟩

/-- The leaves of a setting with the texts of the paths to them, which begin with a given path. -/
def dotted (path : List String) (value : Setting) : List (String × Setting) :=
  value.leaves.map fun leaf => (joined (path ++ leaf.1), leaf.2)

theorem dotted_table (path : List String) (entries : List (String × Setting)) :
    dotted path (.table entries) =
      entries.flatMap fun entry => dotted (path ++ [entry.1]) entry.2 := by
  simp only [dotted, leaves_table, List.map_flatMap, List.map_map, List.append_assoc,
    List.singleton_append]
  rfl

theorem flatten_eq {value : Setting} (plain : PlainKeys value) {path : List String}
    (filled : ∀ key ∈ path, key ≠ "") (settings : Entries Setting) :
    flatten (joined path) settings value =
      (dotted path value).foldl (fun settings pair => settings.insert pair.1 pair.2) settings := by
  induction value using tables_induction generalizing path settings with
  | leaf value ends =>
      have alone : dotted path value = [(joined path, value)] := by
        rw [dotted, leaves_of_leaf ends, List.map_singleton, List.append_nil]
      rw [alone]
      cases value with
      | table => cases ends
      | _ => rfl
  | table entries ih =>
      rw [plain_keys_table] at plain
      rw [flatten, dotted_table]
      induction entries generalizing settings with
      | nil => rfl
      | cons entry rest more =>
          obtain ⟨one, others⟩ := List.forall_mem_cons.1 plain
          obtain ⟨first, later⟩ := List.forall_mem_cons.1 ih
          have filledToo : ∀ key ∈ path ++ [entry.1], key ≠ "" := by
            intro key member
            rcases List.mem_append.1 member with known | last
            · exact filled key known
            · rw [List.mem_singleton.1 last]
              exact one.1.1
          rw [flattenFields]
          simp only [joined_extended filled]
          rw [first one.2 filledToo, more later others, List.flatMap_cons, List.foldl_append]

/-- The texts of the paths to leaves are distinct. -/
theorem joined_leaves_distinct {document : Setting} (distinct : document.DistinctKeys)
    (plain : PlainKeys document) :
    (document.leaves.map fun leaf => joined leaf.1).Nodup := by
  have plainPath {path : List String} (member : path ∈ document.leaves.map Prod.fst) :
      ∀ key ∈ path, PlainKey key := by
    obtain ⟨leaf, listed, rfl⟩ := List.mem_map.1 member
    exact plain_of_holds plain (mem_leaves.1 listed).1
  have apart := (leaf_paths_distinct distinct).map_on fun first one second two same =>
    joined_injective (plainPath one) (plainPath two) same
  rwa [List.map_map] at apart

/-- The settings of a document hold its leaves under the texts of the paths to them. -/
theorem settings_perm {text : String} {document : Setting} (parsed : parse? text = some document)
    (plain : PlainKeys document) :
    ∃ settings, settings? text = some settings ∧
      settings.Perm (document.leaves.map fun leaf => (joined leaf.1, sortTables leaf.2)) := by
  have distinct := parse_distinct parsed
  have gathered : flatten (joined []) [] (sortTables document) =
      Entries.ofList (dotted [] (sortTables document)) :=
    flatten_eq (plain_keys_sorted distinct plain) (by simp) []
  have listed : (dotted [] (sortTables document)).Perm
      (document.leaves.map fun leaf => (joined leaf.1, sortTables leaf.2)) := by
    have named := (leaves_sorted distinct).map
      fun leaf : List String × Setting => (joined leaf.1, leaf.2)
    rw [List.map_map] at named
    exact named
  have keys := listed.map Prod.fst
  rw [List.map_map] at keys
  have held := Entries.ofList_perm (keys.nodup_iff.2 (joined_leaves_distinct distinct plain))
  refine ⟨_, ?_, held.trans listed⟩
  rw [settings?, parsed, ← gathered]
  rfl

end Toml

/-- A document in which no table has an empty key or one with a dot loses nothing when it is taken
as a source of settings. There is exactly one setting for each leaf: its key is the text of the path
to the leaf and its value is the leaf, with the tables inside it in the order of their keys and
otherwise as it is. The source has no other keys, and each only once. The path to a table is no
key. -/
theorem PropertySource.of_toml_leaves {text : String} {document : Setting}
    (parsed : Toml.parse? text = some document) (plain : Toml.PlainKeys document) (name : String) :
    ∃ source, PropertySource.ofToml name text = .ok source ∧
      (∀ path leaf, document.Holds path leaf → leaf.isTable = false →
        source.get? (Toml.joined path) = some (Toml.sortTables leaf) ∧
          Toml.SortsTo leaf (Toml.sortTables leaf)) ∧
      (∀ key, key ∈ source.keys ↔
        ∃ path leaf, document.Holds path leaf ∧ leaf.isTable = false ∧ Toml.joined path = key) ∧
      source.keys.Nodup ∧
      (∀ path other leaf further, document.Holds path leaf → document.Holds other further →
        Toml.joined path = Toml.joined other → path = other ∧ leaf = further) ∧
      ∀ path entries, document.Holds path (.table entries) →
        source.get? (Toml.joined path) = none := by
  have distinct := Toml.parse_distinct parsed
  obtain ⟨settings, read, held⟩ := Toml.settings_perm parsed plain
  have keys : settings.keys.Perm (document.leaves.map fun leaf => Toml.joined leaf.1) := by
    have named := held.map Prod.fst
    rwa [List.map_map] at named
  have keysDistinct := keys.nodup_iff.2 (Toml.joined_leaves_distinct distinct plain)
  have unique {path other : List String} {leaf further : Setting}
      (one : document.Holds path leaf) (two : document.Holds other further)
      (same : Toml.joined path = Toml.joined other) : path = other ∧ leaf = further := by
    have paths := Toml.joined_injective (Toml.plain_of_holds plain one)
      (Toml.plain_of_holds plain two) same
    subst paths
    exact ⟨rfl, Setting.holds_unique distinct one two⟩
  have known (key : String) : key ∈ settings.keys ↔
      ∃ path leaf, document.Holds path leaf ∧ leaf.isTable = false ∧ Toml.joined path = key := by
    rw [keys.mem_iff, List.mem_map]
    constructor
    · intro ⟨leaf, member, same⟩
      have ⟨inside, ends⟩ := Setting.mem_leaves.1 member
      exact ⟨leaf.1, leaf.2, inside, ends, same⟩
    · intro ⟨path, leaf, inside, ends, same⟩
      exact ⟨(path, leaf), Setting.mem_leaves.2 ⟨inside, ends⟩, same⟩
  refine ⟨⟨name, 0, .fixed settings⟩, by rw [PropertySource.ofToml, read], ?_, known, keysDistinct,
    fun _ _ _ _ => unique, ?_⟩
  · intro path leaf inside ends
    refine ⟨?_, Toml.sorts_to (inside.distinct distinct)⟩
    apply (Entries.get_eq_some_iff keysDistinct).2
    rw [held.mem_iff, List.mem_map]
    exact ⟨(path, leaf), Setting.mem_leaves.2 ⟨inside, ends⟩, rfl⟩
  · intro path entries inside
    apply Entries.get_eq_none_iff.2
    rw [known]
    intro ⟨other, leaf, elsewhere, ends, same⟩
    obtain ⟨-, rfl⟩ := unique elsewhere inside same
    cases ends

/-- A dotted key in the table of a header leads to a leaf below two tables. -/
theorem port_below_tables :
    let text := "[server]\nhttp.port = '80'\ntls = \x7b\x7d"
    ∃ document source, Toml.parse? text = some document ∧ Toml.PlainKeys document ∧
      PropertySource.ofToml "base" text = .ok source ∧
      source.get? "server.http.port" = some (.text "80") ∧ source.get? "server.http" = none := by
  intro text
  have shape : (Toml.parse? text).any (fun document => decide (Toml.PlainKeys document) &&
      (document.leaves.map fun leaf => (leaf.1, leaf.2.content?)) ==
        [(["server", "http", "port"], some "80")]) = true := by
    decide +kernel
  obtain ⟨document, parsed, same⟩ := (Option.any_eq_true _ _).1 shape
  rw [Bool.and_eq_true, decide_eq_true_eq, beq_iff_eq, List.map_eq_singleton_iff] at same
  obtain ⟨plain, ⟨path, leaf⟩, alone, seen⟩ := same
  rw [Prod.mk.injEq] at seen
  obtain ⟨place, content⟩ := seen
  have whole := Setting.eq_text_of_content content
  subst place whole
  have held : document.Holds ["server", "http", "port"] (.text "80") := by
    have member := List.mem_singleton_self (["server", "http", "port"], Setting.text "80")
    rw [← alone] at member
    exact (Setting.mem_leaves.1 member).1
  obtain ⟨source, read, leaves, -, -, -, tables⟩ :=
    PropertySource.of_toml_leaves parsed plain "base"
  refine ⟨document, source, parsed, plain, read, (leaves _ _ held rfl).1, ?_⟩
  cases held with
  | under server inside =>
    cases inside with
    | under http below =>
      cases below with
      | under => exact tables ["server", "http"] _ (.under server (.under http (.here _)))

end RequestDispatch
