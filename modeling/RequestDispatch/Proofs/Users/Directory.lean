import RequestDispatch.Users.Directory
import Mathlib.Algebra.Ring.Int.Defs
import Mathlib.Algebra.Ring.Nat
import Mathlib.Data.List.Basic
import Mathlib.Data.List.Nodup

/-!
The directory of users after any calls. The numbers of its users are distinct and below the next
one, which a call keeps (`perform_sound`); since the next number only grows, the number of a user
who has been deleted is never given to another. The main statement is `directory_after_calls`.
-/

namespace RequestDispatch

inductive DirectoryCall where
  | create (name email : String)
  | delete (id : Int64)
  | find (id : Int64)
  | list (tags : List String)
  | search (fields : List (String × String))
  deriving DecidableEq

namespace DirectoryCall

def perform (directory : UserDirectory) : DirectoryCall → UserDirectory
  | create name email => (directory.create name email).2
  | delete id => (directory.delete? id).getD directory
  | find _ | list _ | search _ => directory

def created? (directory : UserDirectory) : DirectoryCall → Option User
  | create name email => some (directory.create name email).1
  | _ => none

def isCreate : DirectoryCall → Bool
  | create _ _ => true
  | _ => false

def creations (calls : List DirectoryCall) : Nat := calls.countP isCreate

end DirectoryCall

theorem User.has_field_iff {user : User} {field expected : String} :
    user.hasField field expected = true ↔
      (field = "name" → user.name = expected) ∧ (field = "email" → user.email = expected) := by
  unfold hasField
  split
  · next named => simp [named]
  · next unnamed =>
    split
    · next addressed => simp [addressed]
    · next other => simp [unnamed, other]

namespace UserDirectory

open DirectoryCall

def run (directory : UserDirectory) (calls : List DirectoryCall) : UserDirectory :=
  calls.foldl perform directory

def created (directory : UserDirectory) : List DirectoryCall → List User
  | [] => []
  | call :: later => (call.created? directory).toList ++ created (call.perform directory) later

/-- The numbers are distinct and below the next one. -/
structure Sound (directory : UserDirectory) : Prop where
  distinct : (directory.users.map User.id).Nodup
  below : ∀ user ∈ directory.users, user.id < directory.nextId

/-- There are numbers left for the users that calls add. -/
def Room (directory : UserDirectory) (calls : List DirectoryCall) : Prop :=
  directory.nextId.toInt + creations calls < 2 ^ 63

variable {directory remaining : UserDirectory} {user : User} {id : Int64}
  {call : DirectoryCall} {calls earlier later : List DirectoryCall}

theorem find_eq_some_iff (sound : directory.Sound) :
    directory.find? id = some user ↔ user ∈ directory.users ∧ user.id = id := by
  constructor
  · intro found
    exact ⟨List.mem_of_find?_eq_some found, by simpa using List.find?_some found⟩
  · rintro ⟨member, rfl⟩
    cases found : directory.find? user.id with
    | none => simpa using List.find?_eq_none.1 found user member
    | some other =>
        have known := List.mem_of_find?_eq_some found
        have same : other.id = user.id := by simpa using List.find?_some found
        rw [List.inj_on_of_nodup_map sound.distinct known member same]

theorem find_eq_none_iff : directory.find? id = none ↔ id ∉ directory.users.map User.id := by
  simp [find?]

theorem delete_eq_none_iff : directory.delete? id = none ↔ directory.find? id = none := by
  simp [delete?]

theorem delete_eq_some (sound : directory.Sound) (deleted : directory.delete? id = some remaining) :
    ∃ front user back, directory.users = front ++ user :: back ∧ user.id = id ∧
      remaining = ⟨front ++ back, directory.nextId⟩ := by
  simp only [delete?, Option.ite_none_right_eq_some, Option.some.injEq] at deleted
  obtain ⟨known, rfl⟩ := deleted
  obtain ⟨user, found⟩ := Option.isSome_iff_exists.1 known
  obtain ⟨member, rfl⟩ := (find_eq_some_iff sound).1 found
  obtain ⟨front, back, divided⟩ := List.append_of_mem member
  refine ⟨front, user, back, divided, rfl, ?_⟩
  have distinct := sound.distinct
  rw [divided, List.map_append, List.map_cons, List.nodup_middle, List.nodup_cons,
    ← List.map_append] at distinct
  have others : ∀ other ∈ front ++ back, other.id ≠ user.id := by
    intro other inside same
    exact distinct.1 (List.mem_map.2 ⟨other, inside, same⟩)
  rw [List.forall_mem_append] at others
  have before : front.filter (fun other => other.id ≠ user.id) = front := by
    rw [List.filter_eq_self]
    simpa using others.1
  have behind : back.filter (fun other => other.id ≠ user.id) = back := by
    rw [List.filter_eq_self]
    simpa using others.2
  rw [divided, List.filter_append, List.filter_cons, before, behind]
  simp

theorem next_of_create (room : directory.nextId.toInt + 1 < 2 ^ 63) :
    (directory.nextId + 1).toInt = directory.nextId.toInt + 1 := by
  have least := directory.nextId.le_toInt
  rw [Int64.toInt_add]
  change (directory.nextId.toInt + 1).bmod (2 ^ 64) = _
  apply Int.bmod_eq_of_le <;> omega

theorem perform_eq (call : DirectoryCall) (directory : UserDirectory) :
    call.perform directory =
      { users := (directory.users.filter fun user => call ≠ .delete user.id) ++
          (call.created? directory).toList
        nextId := if call.isCreate then directory.nextId + 1 else directory.nextId } := by
  cases call with
  | create name email => simp [perform, create, created?, isCreate]
  | delete id =>
      simp only [perform, delete?, created?, isCreate]
      cases found : directory.find? id with
      | some user => simp [eq_comm]
      | none =>
          rw [find_eq_none_iff] at found
          have others : ∀ user ∈ directory.users, id ≠ user.id := by
            intro user member same
            exact found (List.mem_map.2 ⟨user, member, same.symm⟩)
          have kept : (directory.users.filter fun user =>
              DirectoryCall.delete id ≠ .delete user.id) = directory.users := by
            rw [List.filter_eq_self]
            simpa using others
          rw [kept]
          simp
  | find id | list tags | search fields => simp [perform, created?, isCreate]

theorem mem_perform : user ∈ (call.perform directory).users ↔
    user ∈ directory.users ∧ call ≠ .delete user.id ∨ call.created? directory = some user := by
  simp [perform_eq]

theorem next_perform (room : directory.Room [call]) :
    (call.perform directory).nextId.toInt = directory.nextId.toInt + creations [call] := by
  unfold Room at room
  rw [perform_eq]
  cases call with
  | create name email => exact next_of_create room
  | _ => simp [creations, isCreate]

theorem created_next (added : call.created? directory = some user) :
    user.id = directory.nextId ∧ call.isCreate = true := by
  cases call with
  | create name email =>
      cases added
      exact ⟨rfl, rfl⟩
  | _ => cases added

theorem Room.first (room : directory.Room (call :: calls)) : directory.Room [call] := by
  simp only [Room, creations, List.countP_cons, List.countP_nil] at room ⊢
  omega

theorem Room.next (room : directory.Room (call :: calls)) :
    (call.perform directory).Room calls := by
  have next := next_perform room.first
  simp only [Room, creations, List.countP_cons, List.countP_nil] at room next ⊢
  omega

theorem Room.begins (room : directory.Room (earlier ++ later)) : directory.Room earlier := by
  simp only [Room, creations, List.countP_append] at room ⊢
  omega

theorem Room.run (room : directory.Room (earlier ++ later)) :
    (directory.run earlier).Room later := by
  induction earlier generalizing directory with
  | nil => exact room
  | cons call earlier ih => exact ih room.next

theorem perform_sound (sound : directory.Sound) (room : directory.Room [call]) :
    (call.perform directory).Sound := by
  have kept : ((directory.users.filter fun user => call ≠ .delete user.id).map User.id).Nodup :=
    sound.distinct.sublist (List.filter_sublist.map User.id)
  have next := next_perform room
  constructor
  · rw [perform_eq]
    cases added : call.created? directory with
    | none => simpa using kept
    | some user =>
        have fresh : ∀ other ∈ directory.users, other.id ≠ user.id := by
          intro other member
          rw [(created_next added).1]
          exact Int64.ne_of_lt (sound.below other member)
        simp only [Option.toList_some, List.map_append, List.map_cons, List.map_nil]
        rw [List.nodup_append]
        refine ⟨kept, List.nodup_singleton _, ?_⟩
        intro id inside other last
        obtain ⟨known, member, rfl⟩ := List.mem_map.1 inside
        cases List.mem_singleton.1 last
        exact fresh known (List.mem_filter.1 member).1
  · intro user member
    rw [Int64.lt_iff_toInt_lt, next]
    rcases mem_perform.1 member with ⟨known, -⟩ | added
    · have below := Int64.lt_iff_toInt_lt.1 (sound.below user known)
      omega
    · obtain ⟨own, create⟩ := created_next added
      rw [own, creations, List.countP_singleton, if_pos create]
      omega

theorem next_le_perform (room : directory.Room [call]) :
    directory.nextId ≤ (call.perform directory).nextId := by
  rw [Int64.le_iff_toInt_le, next_perform room]
  omega

theorem run_sound (sound : directory.Sound) (room : directory.Room calls) :
    (directory.run calls).Sound := by
  induction calls generalizing directory with
  | nil => exact sound
  | cons call calls ih => exact ih (perform_sound sound room.first) room.next

/-- A number that was given out and that no user has is not given out again. -/
theorem run_absent (below : id < directory.nextId) (absent : id ∉ directory.users.map User.id)
    (room : directory.Room calls) : id ∉ (directory.run calls).users.map User.id := by
  induction calls generalizing directory with
  | nil => exact absent
  | cons call calls ih =>
      apply ih (Int64.lt_of_lt_of_le below (next_le_perform room.first)) _ room.next
      intro present
      obtain ⟨user, member, rfl⟩ := List.mem_map.1 present
      rcases mem_perform.1 member with ⟨known, -⟩ | added
      · exact absent (List.mem_map_of_mem known)
      · exact absurd (created_next added).1 (Int64.ne_of_lt below)

/-- A user is found until there is a call to delete it. -/
theorem find_run (sound : directory.Sound) (room : directory.Room calls)
    (member : user ∈ directory.users) :
    (directory.run calls).find? user.id =
      if .delete user.id ∈ calls then none else some user := by
  induction calls generalizing directory with
  | nil => exact (find_eq_some_iff sound).2 ⟨member, rfl⟩
  | cons call calls ih =>
      by_cases deleted : .delete user.id = call
      · rw [if_pos (deleted ▸ List.mem_cons_self)]
        have below := Int64.lt_of_lt_of_le (sound.below user member) (next_le_perform room.first)
        have absent : user.id ∉ (call.perform directory).users.map User.id := by
          intro present
          obtain ⟨other, inside, same⟩ := List.mem_map.1 present
          rcases mem_perform.1 inside with ⟨-, kept⟩ | added
          · exact kept (same ▸ deleted.symm)
          · rw [← deleted] at added
            cases added
        have gone := run_absent below absent room.next
        exact find_eq_none_iff.2 gone
      · have kept : user ∈ (call.perform directory).users :=
          mem_perform.2 (.inl ⟨member, Ne.symm deleted⟩)
        simp only [List.mem_cons, deleted, false_or]
        exact ih (perform_sound sound room.first) room.next kept

theorem created_ascend (room : directory.Room calls) :
    ((directory.created calls).map User.id).Pairwise (· < ·) ∧
      ∀ user ∈ directory.created calls, directory.nextId ≤ user.id := by
  induction calls generalizing directory with
  | nil => exact ⟨.nil, by simp [created]⟩
  | cons call calls ih =>
      obtain ⟨ascend, above⟩ := ih room.next
      rw [created]
      cases added : call.created? directory with
      | none =>
          refine ⟨ascend, ?_⟩
          intro user member
          exact Int64.le_trans (next_le_perform room.first) (above user member)
      | some user =>
          obtain ⟨own, create⟩ := created_next added
          have next := next_perform room.first
          rw [creations, List.countP_singleton, if_pos create] at next
          have later : ∀ other ∈ created (call.perform directory) calls, user.id < other.id := by
            intro other member
            have least := Int64.le_iff_toInt_le.1 (above other member)
            rw [own, Int64.lt_iff_toInt_lt]
            omega
          simp only [Option.toList_some, List.singleton_append, List.map_cons,
            List.pairwise_cons, List.forall_mem_map, List.forall_mem_cons]
          refine ⟨⟨later, ascend⟩, own ▸ Int64.le_refl _, ?_⟩
          intro other member
          exact own ▸ Int64.le_of_lt (later other member)

/-- Calls take users out and put new ones behind the others. -/
theorem run_sublist (directory : UserDirectory) (calls : List DirectoryCall) :
    (directory.run calls).users.Sublist (directory.users ++ directory.created calls) := by
  induction calls generalizing directory with
  | nil => simp [run, created]
  | cons call calls ih =>
      refine (ih (call.perform directory)).trans ?_
      rw [created, ← List.append_assoc, perform_eq]
      exact (List.filter_sublist.append_right _).append_right _

theorem distinct_with_created (sound : directory.Sound) (room : directory.Room calls) :
    ((directory.users ++ directory.created calls).map User.id).Nodup := by
  obtain ⟨ascend, above⟩ := created_ascend room
  rw [List.map_append, List.nodup_append]
  refine ⟨sound.distinct, ascend.imp Int64.ne_of_lt, ?_⟩
  intro id inside other member same
  obtain ⟨user, known, rfl⟩ := List.mem_map.1 inside
  obtain ⟨added, new, rfl⟩ := List.mem_map.1 member
  have apart := Int64.lt_of_lt_of_le (sound.below user known) (above added new)
  exact Int64.ne_of_lt apart same

def after (calls : List DirectoryCall) : UserDirectory := samples.run calls

theorem samples_sound : samples.Sound := ⟨by decide, by decide⟩

theorem samples_room (few : creations calls < 2 ^ 63 - 3) : samples.Room calls := by
  have next : samples.nextId.toInt = 3 := by decide
  rw [Room, next]
  omega

theorem after_append (earlier later : List DirectoryCall) :
    after (earlier ++ later) = (after earlier).run later := by
  rw [after, run, List.foldl_append]
  rfl

end UserDirectory

open DirectoryCall in
/-- The directory that starts with the samples, after any calls that leave numbers for all users. The
numbers of its users are distinct and below the next one, and all users there ever were have numbers
of their own; those that are left stand in the order in which they came. A user who was added is
found under the number given until there is a call to delete it; from then on nobody is found under
it and it cannot be deleted. To delete a number takes out the one user who has it, or does nothing
if there is none. A list holds the users that bear one of its tags, or all if it has none, and a
search those who agree with all of its names and addresses, both in the order of the directory. -/
theorem directory_after_calls {calls : List DirectoryCall} (few : creations calls < 2 ^ 63 - 3) :
    let directory := UserDirectory.after calls
    let all := UserDirectory.samples.users ++ UserDirectory.samples.created calls
    (directory.users.map User.id).Nodup ∧
    (∀ user ∈ directory.users, user.id < directory.nextId) ∧
    (all.map User.id).Nodup ∧ directory.users.Sublist all ∧
    (∀ id user, directory.find? id = some user ↔ user ∈ directory.users ∧ user.id = id) ∧
    (∀ earlier name email later, calls = earlier ++ .create name email :: later →
      let user := ((UserDirectory.after earlier).create name email).1
      user.name = name ∧ user.email = email ∧ user.tags = [] ∧
      directory.find? user.id = (if .delete user.id ∈ later then none else some user) ∧
      (directory.delete? user.id = none ↔ .delete user.id ∈ later)) ∧
    (∀ id, match directory.delete? id with
      | some remaining => ∃ front user back, directory.users = front ++ user :: back ∧
        user.id = id ∧ remaining = ⟨front ++ back, directory.nextId⟩
      | none => ∀ user ∈ directory.users, user.id ≠ id) ∧
    (∀ tags, (directory.list tags).Sublist directory.users ∧
      ∀ user, user ∈ directory.list tags ↔
        user ∈ directory.users ∧ (tags = [] ∨ ∃ tag ∈ tags, tag ∈ user.tags)) ∧
    ∀ fields, (directory.search fields).Sublist directory.users ∧
      ∀ user, user ∈ directory.search fields ↔ user ∈ directory.users ∧
        ∀ field ∈ fields, (field.1 = "name" → user.name = field.2) ∧
          (field.1 = "email" → user.email = field.2) := by
  intro directory all
  have room := UserDirectory.samples_room few
  have sound : directory.Sound := UserDirectory.run_sound UserDirectory.samples_sound room
  refine ⟨sound.distinct, sound.below,
    UserDirectory.distinct_with_created UserDirectory.samples_sound room,
    UserDirectory.run_sublist UserDirectory.samples calls,
    fun id user => UserDirectory.find_eq_some_iff sound, ?created, ?deleted, ?listed, ?searched⟩
  case created =>
    rintro earlier name email later rfl user
    have start : (UserDirectory.after earlier).Sound :=
      UserDirectory.run_sound UserDirectory.samples_sound room.begins
    have left : (UserDirectory.after earlier).Room (.create name email :: later) := room.run
    have added : user ∈ (perform (UserDirectory.after earlier) (.create name email)).users :=
      UserDirectory.mem_perform.2 (.inr rfl)
    have found : directory.find? user.id = if .delete user.id ∈ later then none else some user := by
      rw [show directory = _ from UserDirectory.after_append _ _]
      exact UserDirectory.find_run (UserDirectory.perform_sound start left.first) left.next added
    refine ⟨rfl, rfl, rfl, found, ?_⟩
    rw [UserDirectory.delete_eq_none_iff, found]
    simp
  case deleted =>
    intro id
    cases result : directory.delete? id with
    | some remaining => exact UserDirectory.delete_eq_some sound result
    | none =>
        rw [UserDirectory.delete_eq_none_iff, UserDirectory.find_eq_none_iff] at result
        intro user member same
        exact result (List.mem_map.2 ⟨user, member, same⟩)
  case listed =>
    intro tags
    refine ⟨List.filter_sublist, ?_⟩
    intro user
    simp [UserDirectory.list]
  case searched =>
    intro fields
    refine ⟨List.filter_sublist, ?_⟩
    intro user
    simp only [UserDirectory.search, List.mem_filter, List.all_eq_true, User.has_field_iff]

/-- A user is deleted and another is added: the second gets a number of its own, and the first is
not found. -/
theorem numbers_are_not_reused :
    let calls : List DirectoryCall :=
      [.create "Carol" "carol@example.com", .delete 3, .create "Dave" "dave@example.com", .delete 1]
    DirectoryCall.creations calls < 2 ^ 63 - 3 ∧
      (UserDirectory.after calls).users.map User.id = [2, 4] ∧
      (UserDirectory.after calls).find? 3 = none ∧
      (UserDirectory.after calls).delete? 3 = none ∧
      (UserDirectory.after calls).find? 4 = some ⟨4, "Dave", "dave@example.com", []⟩ := by
  intro calls
  have few : DirectoryCall.creations calls < 2 ^ 63 - 3 := by decide
  obtain ⟨-, -, -, -, -, created, -⟩ := directory_after_calls few
  obtain ⟨-, -, -, carol, gone⟩ := created [] "Carol" "carol@example.com" _ rfl
  obtain ⟨-, -, -, dave, -⟩ :=
    created (calls.take 2) "Dave" "dave@example.com" [.delete 1] rfl
  exact ⟨few, by decide, carol, gone.2 (by decide), dave⟩

end RequestDispatch
