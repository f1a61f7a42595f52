import Mathlib.Data.List.Rotate
import SessionMonitor.Proofs.Console.Executor

/-!
# The chosen database

The databases are gone through in a circle, in which the one that the server chooses stands before
the first of the list. However often the list is replaced, the choice is on the circle of the list
that there is now, and it stays with its name as long as there is a database of that name.
-/

namespace SessionMonitor.Executor

variable {x : Executor}

/-! ### Places on the circle -/

/-- The place behind so many others: none behind no other, and then those of the list. -/
def placeAfter : Nat → Option Nat
  | 0 => none
  | k + 1 => some k

def atPlace (x : Executor) (k : Nat) : Executor :=
  { x with target := placeAfter k }

/-- How many places of the circle are before the chosen one. -/
def before (x : Executor) : Nat :=
  x.target.elim 0 (· + 1)

def OnCircle (x : Executor) : Prop :=
  x.before ≤ x.databases.length

@[simp]
theorem before_atPlace (x : Executor) (k : Nat) : (x.atPlace k).before = k := by
  cases k <;> rfl

theorem atPlace_before (x : Executor) : x.atPlace x.before = x := by
  obtain ⟨query, databases, target, output⟩ := x
  cases target <;> rfl

theorem database?_atPlace (x : Executor) (k : Nat) :
    (x.atPlace k).database? = (none :: x.databases.map some)[k]?.join := by
  cases k with
  | zero => rfl
  | succ k =>
    show x.databases[k]? = _
    rw [List.getElem?_cons_succ, List.getElem?_map]
    cases x.databases[k]? <;> rfl

theorem OnCircle.database?_eq_none_iff (on : OnCircle x) :
    x.database? = none ↔ x.target = none := by
  unfold OnCircle before at on
  unfold database?
  cases target : x.target with
  | none => exact ⟨fun _ => rfl, fun _ => rfl⟩
  | some place =>
    rw [target] at on
    have found : x.databases[place]? = some x.databases[place] := List.getElem?_eq_getElem on
    simp [found]

/-! ### Going on -/

theorem OnCircle.cycleDatabase_eq (on : OnCircle x) :
    x.cycleDatabase = x.atPlace ((x.before + 1) % (x.databases.length + 1)) := by
  unfold OnCircle at on
  have next : x.cycleDatabase = { x with
      target := if x.before < x.databases.length then some x.before else none } := by
    unfold cycleDatabase before
    cases x.target <;> rfl
  rw [next]
  split
  · rename_i more
    rw [Nat.mod_eq_of_lt (Nat.succ_lt_succ more)]
    rfl
  · rename_i last
    have whole : x.before = x.databases.length := by omega
    rw [whole, Nat.mod_self]
    rfl

theorem onCircle_atPlace (x : Executor) (k : Nat) :
    OnCircle (x.atPlace (k % (x.databases.length + 1))) := by
  unfold OnCircle
  rw [before_atPlace]
  exact Nat.lt_succ_iff.mp (Nat.mod_lt k (Nat.succ_pos _))

theorem OnCircle.iterate_eq (on : OnCircle x) (k : Nat) :
    cycleDatabase^[k] x = x.atPlace ((x.before + k) % (x.databases.length + 1)) := by
  induction k with
  | zero =>
    rw [Nat.add_zero, Nat.mod_eq_of_lt (Nat.lt_succ_iff.mpr on), atPlace_before]
    rfl
  | succ k ih =>
    rw [Function.iterate_succ_apply', ih, (x.onCircle_atPlace _).cycleDatabase_eq, before_atPlace]
    show x.atPlace (((x.before + k) % (x.databases.length + 1) + 1) % (x.databases.length + 1)) = _
    rw [Nat.mod_add_mod, Nat.add_assoc]

/-- What is seen of the circle from place to place, once round, is seen in its order. -/
theorem OnCircle.round_isRotated {α : Type} (on : OnCircle x) (see : Executor → α) :
    ((List.range (x.databases.length + 1)).map fun k => see (cycleDatabase^[k + 1] x)) ~r
      (List.range (x.databases.length + 1)).map fun k => see (x.atPlace k) := by
  -- The first step leads to the place behind the chosen one, so the circle is turned by as many.
  refine List.IsRotated.symm ⟨x.before + 1, List.ext_getElem (by simp) fun k left right => ?_⟩
  rw [List.getElem_rotate]
  simp only [List.getElem_map, List.getElem_range, List.length_map, List.length_range,
    on.iterate_eq]
  rw [Nat.add_left_comm]

theorem OnCircle.round (on : OnCircle x) : cycleDatabase^[x.databases.length + 1] x = x := by
  rw [on.iterate_eq, Nat.add_mod_right, Nat.mod_eq_of_lt (Nat.lt_succ_iff.mpr on), atPlace_before]

theorem map_placeAfter (n : Nat) :
    (List.range (n + 1)).map placeAfter = none :: (List.range n).map some := by
  rw [List.range_succ_eq_map, List.map_cons, List.map_map]
  rfl

theorem map_database?_atPlace (x : Executor) :
    ((List.range (x.databases.length + 1)).map fun k => (x.atPlace k).database?) =
      none :: x.databases.map some := by
  refine List.ext_getElem (by simp) fun k left right => ?_
  rw [List.getElem_map, List.getElem_range, database?_atPlace, List.getElem?_eq_getElem right]
  rfl

/-! ### Other databases -/

theorem onCircle_setDatabases (x : Executor) (databases : List String) :
    OnCircle (x.setDatabases databases) := by
  unfold OnCircle before setDatabases
  dsimp only
  cases place : x.database?.bind fun name => databases.findIdx? (· = name) with
  | none => exact Nat.zero_le _
  | some k =>
    obtain ⟨name, -, found⟩ := Option.bind_eq_some_iff.mp place
    obtain ⟨inside, -⟩ := List.findIdx?_eq_some_iff_getElem.mp found
    exact inside

theorem database?_setDatabases (x : Executor) (databases : List String) :
    (x.setDatabases databases).database? = x.database?.filter (· ∈ databases) := by
  show ((x.database?.bind fun name => databases.findIdx? (· = name)).bind
    fun place => databases[place]?) = _
  cases x.database? with
  | none => rfl
  | some name =>
    rw [Option.bind_some]
    cases place : databases.findIdx? (· = name) with
    | none =>
      have absent : name ∉ databases := fun member => by
        simpa using List.findIdx?_eq_none_iff.mp place name member
      rw [Option.filter_some, if_neg (by simpa using absent)]
      rfl
    | some k =>
      obtain ⟨inside, named, -⟩ := List.findIdx?_eq_some_iff_getElem.mp place
      have same : databases[k] = name := of_decide_eq_true named
      have member : name ∈ databases := same ▸ List.getElem_mem inside
      rw [Option.filter_some, if_pos (by simpa using member), Option.bind_some,
        List.getElem?_eq_getElem inside, same]

/-! ### Choices one after the other -/

/-- What becomes of the choice: the operator goes on to the next database, or the server names its
databases. -/
inductive Choice where
  | next
  | named (databases : List String)
deriving DecidableEq, Repr

def choose (x : Executor) : Choice → Executor
  | .next => x.cycleDatabase
  | .named databases => x.setDatabases databases

def chosen (x : Executor) (choices : List Choice) : Executor :=
  choices.foldl choose x

theorem OnCircle.choose (on : OnCircle x) (choice : Choice) : OnCircle (x.choose choice) := by
  cases choice with
  | next =>
    show OnCircle x.cycleDatabase
    rw [on.cycleDatabase_eq]
    exact x.onCircle_atPlace _
  | named databases => exact x.onCircle_setDatabases databases

theorem OnCircle.chosen (on : OnCircle x) (choices : List Choice) : OnCircle (x.chosen choices) := by
  induction choices generalizing x with
  | nil => exact on
  | cons choice rest ih => exact ih (on.choose choice)

/-- The chosen database is always one of those named last, or none. Going on leads round through all
of them in order, and a name that stays keeps the choice. -/
theorem databases_are_gone_round (choices : List Choice) :
    let x := initial.chosen choices
    let n := x.databases.length
    (∀ name, x.database? = some name → name ∈ x.databases) ∧
    (x.database? = none ↔ x.target = none) ∧
    cycleDatabase^[n + 1] x = x ∧
    ((List.range (n + 1)).map fun k => (cycleDatabase^[k + 1] x).target) ~r
      none :: (List.range n).map some ∧
    ((List.range (n + 1)).map fun k => (cycleDatabase^[k + 1] x).database?) ~r
      none :: x.databases.map some ∧
    ∀ databases, (x.setDatabases databases).databases = databases ∧
      (x.setDatabases databases).database? = x.database?.filter (· ∈ databases) := by
  intro x n
  have on : OnCircle x := OnCircle.chosen (Nat.zero_le _) choices
  refine ⟨fun name => mem_of_database?, on.database?_eq_none_iff, on.round, ?_, ?_,
    fun databases => ⟨rfl, x.database?_setDatabases databases⟩⟩
  · rw [← map_placeAfter]
    exact on.round_isRotated (·.target)
  · rw [← x.map_database?_atPlace]
    exact on.round_isRotated database?

/-- The second of two databases of one name is chosen, and the list gets shorter than its place. -/
theorem name_is_found_again :
    let x := initial.chosen [.named ["shop", "mail", "shop"], .next, .next, .next,
      .named ["mail", "shop"]]
    x.database? = some "shop" ∧ "shop" ∈ x.databases ∧ x.target = some 1 ∧
      cycleDatabase^[3] x = x ∧ (x.setDatabases ["mail"]).database? = none := by
  intro x
  have named : x.database? = some "shop" := by decide +kernel
  obtain ⟨among, -, round, -, -, renamed⟩ := databases_are_gone_round
    [.named ["shop", "mail", "shop"], .next, .next, .next, .named ["mail", "shop"]]
  refine ⟨named, among "shop" named, by decide +kernel, round, ?_⟩
  rw [(renamed ["mail"]).2]
  show x.database?.filter _ = none
  rw [named]
  decide +kernel

end SessionMonitor.Executor
