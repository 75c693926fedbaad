import Mathlib.Data.List.Nodup
import RequestDispatch.Settings.Toml.Document

/-!
No table of a TOML document has a key twice. Each step of the reader keeps this of the tree that it
builds up (`reads_distinct`, `read_lines_distinct`), and so it holds of the setting that the
document is read as (`parse_distinct`).
-/

namespace RequestDispatch

/-- No table in the setting has a key twice. -/
inductive Setting.DistinctKeys : Setting → Prop
  | text (content : String) : DistinctKeys (.text content)
  | int (value : Int64) : DistinctKeys (.int value)
  | float (value : Double) : DistinctKeys (.float value)
  | bool (value : Bool) : DistinctKeys (.bool value)
  | list {items : List Setting} (each : ∀ item ∈ items, DistinctKeys item) :
      DistinctKeys (.list items)
  | table {entries : List (String × Setting)} (distinct : (entries.map Prod.fst).Nodup)
      (each : ∀ entry ∈ entries, DistinctKeys entry.2) : DistinctKeys (.table entries)

namespace Toml

mutual

inductive DistinctKeys : Node → Prop
  | quoted (content : String) : DistinctKeys (.quoted content)
  | scalar {value : Setting} (distinct : value.DistinctKeys) : DistinctKeys (.scalar value)
  | list {items : List Node} (each : ∀ item ∈ items, DistinctKeys item) :
      DistinctKeys (.list items)
  | table (origin : TableOrigin) {children : Children} (distinct : DistinctChildren children) :
      DistinctKeys (.table origin children)
  | tables {elements : List Children} (each : ∀ children ∈ elements, DistinctChildren children) :
      DistinctKeys (.tables elements)

inductive DistinctChildren : Children → Prop
  | intro {children : Children} (distinct : (children.map Prod.fst).Nodup)
      (each : ∀ child ∈ children, DistinctKeys child.2) : DistinctChildren children

end

section Tree

variable {children result : Children} {key : String} {node : Node}

theorem DistinctChildren.empty : DistinctChildren [] := .intro .nil (by simp)

theorem DistinctChildren.of_lookup (distinct : DistinctChildren children)
    (found : children.lookup key = some node) : DistinctKeys node := by
  cases distinct with
  | intro _ each =>
    obtain ⟨front, back, rfl, -⟩ := List.lookup_eq_some_iff.1 found
    exact each (key, node) (by simp)

theorem put_child_keys (key : String) (node : Node) (children : Children) :
    (putChild key node children).map Prod.fst =
      if key ∈ children.map Prod.fst then children.map Prod.fst
      else children.map Prod.fst ++ [key] := by
  induction children with
  | nil => rfl
  | cons child rest ih =>
      rw [putChild]
      by_cases same : child.1 = key
      · simp [same]
      · rw [if_neg same, List.map_cons, ih, List.map_cons]
        simp only [List.mem_cons, Ne.symm same, false_or]
        split <;> rfl

theorem mem_put_child {child : String × Node} (member : child ∈ putChild key node children) :
    child = (key, node) ∨ child ∈ children := by
  induction children with
  | nil => exact .inl (List.mem_singleton.1 member)
  | cons other rest ih =>
      rw [putChild] at member
      split at member
      · rcases List.mem_cons.1 member with own | later
        · exact .inl own
        · exact .inr (List.mem_cons_of_mem _ later)
      · rcases List.mem_cons.1 member with rfl | later
        · exact .inr List.mem_cons_self
        · exact (ih later).imp_right (List.mem_cons_of_mem _)

theorem put_child_distinct (distinct : DistinctChildren children) (fits : DistinctKeys node) :
    DistinctChildren (putChild key node children) := by
  cases distinct with
  | intro distinct each =>
    constructor
    · rw [put_child_keys]
      split
      · exact distinct
      · next new =>
        exact List.nodup_append'.2 ⟨distinct, List.nodup_singleton key, by simpa using new⟩
    · intro child member
      rcases mem_put_child member with rfl | known
      · exact fits
      · exact each child known

theorem put_last_distinct (distinct : DistinctChildren children) (fits : DistinctKeys node) :
    DistinctChildren (putLast key node children) := by
  cases distinct with
  | intro distinct each =>
    constructor
    · rw [putLast, List.map_append, List.nodup_append']
      refine ⟨(List.filter_sublist.map Prod.fst).nodup distinct, List.nodup_singleton key, ?_⟩
      simp
    · intro child member
      rcases List.mem_append.1 member with kept | last
      · exact each child (List.mem_filter.1 kept).1
      · rw [List.mem_singleton.1 last]
        exact fits

theorem alter_at_distinct {byDots : Bool} {path : List String}
    {change : TableOrigin → Children → Option Children}
    (keeps : ∀ origin (before after : Children), DistinctChildren before →
      change origin before = some after → DistinctChildren after)
    {origin : TableOrigin} (distinct : DistinctChildren children)
    (altered : alterAt byDots change origin path children = some result) :
    DistinctChildren result := by
  induction path generalizing origin children result with
  | nil => exact keeps origin children result distinct altered
  | cons step rest ih =>
      rw [alterAt] at altered
      split at altered
      · obtain ⟨inner, below, rfl⟩ := Option.map_eq_some_iff.1 altered
        exact put_child_distinct distinct (.table _ (ih .empty below))
      · next found =>
        split at altered
        · cases altered
        · obtain ⟨inner, below, rfl⟩ := Option.map_eq_some_iff.1 altered
          cases distinct.of_lookup found with
          | table _ before => exact put_child_distinct distinct (.table _ (ih before below))
      · next elements found =>
        obtain ⟨inner, below, rfl⟩ := Option.map_eq_some_iff.1 altered
        cases distinct.of_lookup found with
        | tables each =>
          have last : DistinctChildren (elements.getLastD []) := by
            rcases List.mem_cons.1 (@List.getLastD_mem_cons _ elements []) with missing | member
            · rw [missing]
              exact .empty
            · exact each _ member
          apply put_child_distinct distinct
          constructor
          intro element member
          rcases List.mem_append.1 member with early | own
          · exact each element ((List.dropLast_sublist elements).subset early)
          · rw [List.mem_singleton.1 own]
            exact ih last below
      · cases altered

theorem add_value_distinct {path : List String} (distinct : DistinctChildren children)
    (fits : DistinctKeys node) (added : addValue path key node children = some result) :
    DistinctChildren result := by
  apply alter_at_distinct _ distinct added
  intro origin before after distinct changed
  split at changed
  · cases changed
  · split at changed
    · cases changed
    · cases changed
      exact put_child_distinct distinct fits

theorem open_table_distinct {path : List String} (distinct : DistinctChildren children)
    (opened : openTable path key children = some result) : DistinctChildren result := by
  apply alter_at_distinct _ distinct opened
  intro origin before after distinct changed
  split at changed
  · cases changed
    exact put_child_distinct distinct (.table _ .empty)
  · next found =>
    cases changed
    cases distinct.of_lookup found with
    | table _ inner => exact put_last_distinct distinct (.table _ inner)
  · cases changed

theorem open_element_distinct {path : List String} (distinct : DistinctChildren children)
    (opened : openElement path key children = some result) : DistinctChildren result := by
  apply alter_at_distinct _ distinct opened
  intro origin before after distinct changed
  split at changed
  · cases changed
    exact put_child_distinct distinct (.tables (by simpa using DistinctChildren.empty))
  · next found =>
    cases changed
    cases distinct.of_lookup found with
    | tables each =>
      apply put_child_distinct distinct
      constructor
      intro element member
      rcases List.mem_append.1 member with known | last
      · exact each element known
      · rw [List.mem_singleton.1 last]
        exact .empty
  · cases changed

end Tree

section Scalar

variable {text rest : List Char} {value : Setting}

theorem wide_distinct {number : Int} (read : wide? number = some value) : value.DistinctKeys := by
  unfold wide? at read
  split at read
  · cases read
    exact .int _
  · cases read

theorem based_integer_distinct {base : Nat} (read : basedInteger? base text = some value) :
    value.DistinctKeys := by
  simp only [basedInteger?, Option.bind_eq_bind, Option.bind_eq_some_iff] at read
  obtain ⟨_, -, _, -, fits⟩ := read
  exact wide_distinct fits

theorem decimal_integer_distinct (read : decimalInteger? text = some value) :
    value.DistinctKeys := by
  simp only [decimalInteger?, Option.bind_eq_bind, Option.bind_eq_some_iff] at read
  obtain ⟨_, -, _, -, fits⟩ := read
  exact wide_distinct fits

theorem float_distinct (read : float? text = some value) : value.DistinctKeys := by
  unfold float? at read
  simp only [Option.bind_eq_bind] at read
  split at read
  · cases read
    exact .float _
  · split at read
    · cases read
      exact .float _
    · obtain ⟨_, -, read⟩ := Option.bind_eq_some_iff.1 read
      obtain ⟨_, -, read⟩ := Option.bind_eq_some_iff.1 read
      split at read
      · cases read
      · cases read
        exact .float _

theorem word_distinct (read : word? text = some value) : value.DistinctKeys := by
  unfold word? at read
  split at read
  · cases read
    exact .bool true
  · cases read
    exact .bool false
  · exact based_integer_distinct read
  · exact based_integer_distinct read
  · exact based_integer_distinct read
  · rcases Option.or_eq_some_iff.1 read with whole | ⟨-, broken⟩
    · exact decimal_integer_distinct whole
    · exact float_distinct broken

theorem moment_distinct (read : readMoment text = some (value, rest)) : value.DistinctKeys := by
  unfold readMoment at read
  simp only [Option.bind_eq_bind] at read
  split at read
  · obtain ⟨_, -, same⟩ := Option.map_eq_some_iff.1 read
    cases same
    exact .text _
  · next date _ _ =>
    have timed (after : List Char) (read : ((readTime 23 after).bind fun time =>
        (readOffset time.2).bind fun offset =>
          some (Setting.text (String.ofList (date ++ 'T' :: time.1 ++ offset.1)), offset.2)) =
            some (value, rest)) : value.DistinctKeys := by
      obtain ⟨_, -, read⟩ := Option.bind_eq_some_iff.1 read
      obtain ⟨_, -, same⟩ := Option.bind_eq_some_iff.1 read
      cases same
      exact .text _
    split at read
    · exact timed _ read
    · exact timed _ read
    · split at read
      · exact timed _ read
      · cases read
        exact .text _
    · cases read
      exact .text _

theorem scalar_distinct (read : readScalar text = some (value, rest)) : value.DistinctKeys := by
  unfold readScalar at read
  split at read
  · next found =>
    cases read
    exact moment_distinct found
  · obtain ⟨_, word, same⟩ := Option.map_eq_some_iff.1 read
    cases same
    exact word_distinct word

end Scalar

/-- With this fuel no key comes twice in a table that is read as a value, among the items of a list
or between braces. -/
structure ReadsDistinct (fuel : Nat) : Prop where
  value : ∀ {nesting : Nat} {text rest : List Char} {node : Node},
    readValue fuel nesting text = some (node, rest) → DistinctKeys node
  items : ∀ {nesting : Nat} {text rest : List Char} {items : List Node},
    readItems fuel nesting text = some (items, rest) → ∀ item ∈ items, DistinctKeys item
  fields : ∀ {nesting : Nat} {text rest : List Char} {children result : Children},
    DistinctChildren children → readFields fuel nesting children text = some (result, rest) →
      DistinctChildren result

section Value

variable {fuel nesting : Nat} {text rest : List Char}

theorem value_step (reads : ReadsDistinct fuel) {node : Node}
    (read : readValue (fuel + 1) nesting text = some (node, rest)) : DistinctKeys node := by
  unfold readValue at read
  split at read
  · next impossible => cases impossible
  · next equal =>
    cases equal
    obtain ⟨_, found, same⟩ := Option.map_eq_some_iff.1 read
    cases same
    exact .list (reads.items found)
  · next equal =>
    cases equal
    split at read
    · cases read
      exact .table _ .empty
    · obtain ⟨_, found, same⟩ := Option.map_eq_some_iff.1 read
      cases same
      exact .table _ (reads.fields .empty found)
  · split at read
    · obtain ⟨_, -, same⟩ := Option.map_eq_some_iff.1 read
      cases same
      exact .quoted _
    · obtain ⟨_, -, same⟩ := Option.map_eq_some_iff.1 read
      cases same
      exact .quoted _
    · obtain ⟨_, found, same⟩ := Option.map_eq_some_iff.1 read
      cases same
      exact .scalar (scalar_distinct found)

theorem items_step (reads : ReadsDistinct fuel) {items : List Node}
    (read : readItems (fuel + 1) nesting text = some (items, rest)) :
    ∀ item ∈ items, DistinctKeys item := by
  simp only [readItems, Option.bind_eq_bind] at read
  obtain ⟨_, -, read⟩ := Option.bind_eq_some_iff.1 read
  split at read
  · cases read
    simp
  · obtain ⟨_, first, read⟩ := Option.bind_eq_some_iff.1 read
    obtain ⟨_, -, read⟩ := Option.bind_eq_some_iff.1 read
    split at read
    · cases read
      simpa using reads.value first
    · obtain ⟨_, others, same⟩ := Option.bind_eq_some_iff.1 read
      cases same
      exact List.forall_mem_cons.2 ⟨reads.value first, reads.items others⟩
    · cases read

theorem fields_step (reads : ReadsDistinct fuel) {children result : Children}
    (distinct : DistinctChildren children)
    (read : readFields (fuel + 1) nesting children text = some (result, rest)) :
    DistinctChildren result := by
  simp only [readFields, Option.bind_eq_bind] at read
  obtain ⟨_, -, read⟩ := Option.bind_eq_some_iff.1 read
  split at read
  · obtain ⟨_, value, read⟩ := Option.bind_eq_some_iff.1 read
    obtain ⟨_, added, read⟩ := Option.bind_eq_some_iff.1 read
    have kept := add_value_distinct distinct (reads.value value) added
    split at read
    · cases read
      exact kept
    · exact reads.fields kept read
    · cases read
  · cases read

end Value

theorem reads_distinct (fuel : Nat) : ReadsDistinct fuel := by
  induction fuel with
  | zero => constructor <;> simp [readValue, readItems, readFields]
  | succ fuel ih => exact ⟨value_step ih, items_step ih, fields_step ih⟩

theorem read_lines_distinct {fuel : Nat} {current : List String} {root result : Children}
    {text : List Char} (distinct : DistinctChildren root)
    (read : readLines fuel current root text = some result) : DistinctChildren result := by
  induction fuel generalizing current root text with
  | zero => cases read
  | succ fuel ih =>
      simp only [readLines, Option.bind_eq_bind] at read
      split at read
      · cases read
        exact distinct
      · exact ih distinct read
      · exact ih distinct read
      · obtain ⟨_, -, read⟩ := Option.bind_eq_some_iff.1 read
        exact ih distinct read
      · obtain ⟨_, -, read⟩ := Option.bind_eq_some_iff.1 read
        obtain ⟨_, opened, read⟩ := Option.bind_eq_some_iff.1 read
        exact ih (open_element_distinct distinct opened) read
      · obtain ⟨_, -, read⟩ := Option.bind_eq_some_iff.1 read
        obtain ⟨_, opened, read⟩ := Option.bind_eq_some_iff.1 read
        exact ih (open_table_distinct distinct opened) read
      · obtain ⟨_, -, read⟩ := Option.bind_eq_some_iff.1 read
        split at read
        · obtain ⟨_, value, read⟩ := Option.bind_eq_some_iff.1 read
          obtain ⟨_, -, read⟩ := Option.bind_eq_some_iff.1 read
          obtain ⟨_, altered, read⟩ := Option.bind_eq_some_iff.1 read
          apply ih _ read
          apply alter_at_distinct _ distinct altered
          intro _ before after kept added
          exact add_value_distinct kept ((reads_distinct _).value value) added
        · cases read

mutual

theorem setting_distinct (node : Node) {value : Setting} (distinct : DistinctKeys node)
    (read : node.setting? = some value) : value.DistinctKeys := by
  cases distinct with
  | quoted content =>
      cases read
      exact .text content
  | scalar distinct =>
      cases read
      exact distinct
  | @list items each =>
      obtain ⟨values, found, rfl⟩ := Option.map_eq_some_iff.1 read
      exact .list (items_distinct items each found)
  | @table _ children distinct => exact table_distinct children distinct read
  | @tables elements each =>
      obtain ⟨values, found, rfl⟩ := Option.map_eq_some_iff.1 read
      exact .list (elements_distinct elements each found)

theorem items_distinct (items : List Node) {values : List Setting}
    (each : ∀ item ∈ items, DistinctKeys item) (read : itemSettings? items = some values) :
    ∀ value ∈ values, value.DistinctKeys := by
  cases items with
  | nil =>
      cases read
      simp
  | cons item rest =>
      rw [List.forall_mem_cons] at each
      simp only [itemSettings?, Option.bind_eq_bind] at read
      obtain ⟨first, one, read⟩ := Option.bind_eq_some_iff.1 read
      obtain ⟨others, more, same⟩ := Option.bind_eq_some_iff.1 read
      cases same
      exact List.forall_mem_cons.2
        ⟨setting_distinct item each.1 one, items_distinct rest each.2 more⟩

theorem table_distinct (children : Children) {value : Setting}
    (distinct : DistinctChildren children) (read : tableSetting? children = some value) :
    value.DistinctKeys := by
  cases distinct with
  | intro distinct each =>
    cases children with
    | nil =>
        cases read
        exact .table .nil (by simp)
    | cons child rest =>
        rw [List.forall_mem_cons] at each
        simp only [tableSetting?, Option.bind_eq_bind] at read
        split at read
        · split at read
          · obtain ⟨_, -, same⟩ := Option.map_eq_some_iff.1 read
            cases same
            exact .text _
          · cases read
        · obtain ⟨first, one, read⟩ := Option.bind_eq_some_iff.1 read
          obtain ⟨others, more, same⟩ := Option.bind_eq_some_iff.1 read
          cases same
          obtain ⟨keys, below⟩ := fields_distinct rest each.2 more
          apply Setting.DistinctKeys.table
          · rw [List.map_cons, keys]
            exact distinct
          · exact List.forall_mem_cons.2 ⟨setting_distinct child.2 each.1 one, below⟩

theorem fields_distinct (children : Children) {entries : List (String × Setting)}
    (each : ∀ child ∈ children, DistinctKeys child.2)
    (read : fieldSettings? children = some entries) :
    entries.map Prod.fst = children.map Prod.fst ∧ ∀ entry ∈ entries, entry.2.DistinctKeys := by
  cases children with
  | nil =>
      cases read
      simp
  | cons child rest =>
      rw [List.forall_mem_cons] at each
      simp only [fieldSettings?, Option.bind_eq_bind] at read
      obtain ⟨first, one, read⟩ := Option.bind_eq_some_iff.1 read
      obtain ⟨others, more, same⟩ := Option.bind_eq_some_iff.1 read
      cases same
      obtain ⟨keys, below⟩ := fields_distinct rest each.2 more
      constructor
      · rw [List.map_cons, List.map_cons, keys]
      · exact List.forall_mem_cons.2 ⟨setting_distinct child.2 each.1 one, below⟩

theorem elements_distinct (elements : List Children) {values : List Setting}
    (each : ∀ children ∈ elements, DistinctChildren children)
    (read : elementSettings? elements = some values) : ∀ value ∈ values, value.DistinctKeys := by
  cases elements with
  | nil =>
      cases read
      simp
  | cons children rest =>
      rw [List.forall_mem_cons] at each
      simp only [elementSettings?, Option.bind_eq_bind] at read
      obtain ⟨first, one, read⟩ := Option.bind_eq_some_iff.1 read
      obtain ⟨others, more, same⟩ := Option.bind_eq_some_iff.1 read
      cases same
      exact List.forall_mem_cons.2
        ⟨table_distinct children each.1 one, elements_distinct rest each.2 more⟩

end

/-- No table of a document that is read has a key twice. -/
theorem parse_distinct {text : String} {document : Setting} (parsed : parse? text = some document) :
    document.DistinctKeys := by
  obtain ⟨root, read, converted⟩ := Option.bind_eq_some_iff.1 parsed
  exact table_distinct root (read_lines_distinct .empty read) converted

end Toml
end RequestDispatch
