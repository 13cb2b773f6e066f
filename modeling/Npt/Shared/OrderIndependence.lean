import Npt.Core.TaskPool
import Npt.Shared.Sampling

/-!
Contract: the collector does not see how its callers interleave.

A workload is any number of connections, each with its own id and its own list
of calls, and the users, each of which increments and decrements the counter
once. Two interleavings of one workload, with any times, leave the same records,
totals, error details and user count, timestamps aside.

Owns: workloads, what is left of a record without its timestamps, and the user
count in every state.

Does not own: which calls a connection makes.
-/

namespace Npt.Shared

open Npt.Core

/-! ## Without timestamps -/

def ErrorDetail.timeless (detail : ErrorDetail) : ErrorDetail := { detail with timestamp := 0 }

/-- A record without its times; that it has an end stays. -/
def ConnectionMetrics.timeless (connection : ConnectionMetrics) : ConnectionMetrics :=
  { connection with
    startTime := 0
    endTime := connection.endTime.map (fun _ => 0)
    errorDetails := connection.errorDetails.map ErrorDetail.timeless }

/-- What the collector knows of a connection. -/
def MetricsCollector.seen (id : Uuid) (metrics : MetricsCollector) : Option ConnectionMetrics :=
  (metrics.connections.get? id).map ConnectionMetrics.timeless

/-- What a call writes does not depend on the time. -/
theorem timeless_change (now : Nat) (id : Uuid) (call : ConnectionCall)
    (connection : ConnectionMetrics) :
    (call.change now id connection).timeless =
      (call.change 0 id connection.timeless).timeless := by
  cases call <;>
    simp [ConnectionCall.change, ConnectionMetrics.timeless, ConnectionMetrics.withError,
      ErrorDetail.timeless, Function.comp_def]

/-! ## Workloads -/

/-- The life of a connection: how it is started, and the calls on it. -/
structure ConnectionTask where
  id : Uuid
  connectionType : ConnectionType
  activity : Option UserActivity
  calls : List ConnectionCall

def ConnectionTask.start (task : ConnectionTask) : Operation :=
  match task.activity with
  | none => .startConnection task.id task.connectionType
  | some activity => .startConnectionWithActivity task.id task.connectionType activity

def ConnectionTask.operations (task : ConnectionTask) : List Operation :=
  task.start :: task.calls.map (.record task.id)

/-- The two calls of `simulate_user_behavior`. -/
def userTask : List Operation := [.incrementActiveUsers, .decrementActiveUsers]

/-- Connections under different ids, and `concurrent_users` users. -/
structure Workload where
  connections : List ConnectionTask
  distinct : (connections.map ConnectionTask.id).Nodup
  concurrentUsers : UInt32

def Workload.tasks (workload : Workload) : List (List Operation) :=
  workload.connections.map ConnectionTask.operations ++
    List.replicate workload.concurrentUsers.toNat userTask

/-- The collector under an interleaving; a step is stamped with its time. -/
def interleaving : Machine (Pool Operation MetricsCollector) (Nat × Nat) :=
  Pool.machine (fun now operation metrics => operation.apply now metrics)

def Workload.begin (workload : Workload) : Pool Operation MetricsCollector :=
  ⟨workload.tasks, {}⟩

/-! ## Records -/

/-- What an operation of a connection leaves of its record. -/
def follow (id : Uuid) (seen : Option ConnectionMetrics) : Operation → Option ConnectionMetrics
  | .record _ call => seen.map (fun connection => (call.change 0 id connection).timeless)
  | operation => (operation.opened 0).map ConnectionMetrics.timeless

theorem seen_insert_ne {metrics : MetricsCollector} {id : Uuid} {connection : ConnectionMetrics}
    (different : id ≠ connection.id) : (metrics.insert connection).seen id = metrics.seen id := by
  rw [MetricsCollector.seen, MetricsCollector.insert, Table.get?_insert_ne _ different]
  rfl

/-- A connection's own operations. -/
theorem seen_own (task : ConnectionTask) (now : Nat) (metrics : MetricsCollector)
    {operation : Operation} (member : operation ∈ task.operations) :
    (operation.apply now metrics).seen task.id = follow task.id (metrics.seen task.id) operation := by
  rcases List.mem_cons.mp member with rfl | called
  · unfold ConnectionTask.start
    split <;>
      simp [Operation.apply, MetricsCollector.startConnection,
        MetricsCollector.startConnectionWithActivity, MetricsCollector.seen,
        MetricsCollector.insert, follow, Operation.opened, ConnectionMetrics.timeless,
        Table.get?_insert_self metrics.connections]
  · obtain ⟨call, _, rfl⟩ := List.mem_map.mp called
    rw [Operation.apply, MetricsCollector.seen, ConnectionCall.connections_apply,
      Table.get?_modify_self, follow, MetricsCollector.seen, Option.map_map, Option.map_map]
    congr 1
    funext connection
    exact timeless_change now task.id call connection

/-- The id that an operation touches. -/
def Operation.target : Operation → Option Uuid
  | .startConnection id _ | .startConnectionWithActivity id _ _ | .record id _ => some id
  | _ => none

theorem target_of_mem {task : ConnectionTask} {operation : Operation}
    (member : operation ∈ task.operations) : operation.target = some task.id := by
  rcases List.mem_cons.mp member with rfl | called
  · unfold ConnectionTask.start
    split <;> rfl
  · obtain ⟨call, _, rfl⟩ := List.mem_map.mp called
    rfl

theorem target_of_mem_user {operation : Operation} (member : operation ∈ userTask) :
    operation.target = none := by
  simp only [userTask, List.mem_cons, List.not_mem_nil, or_false] at member
  rcases member with rfl | rfl <;> rfl

/-- An operation leaves every record but its target's. -/
theorem seen_other {operation : Operation} {id : Uuid} (different : operation.target ≠ some id)
    (now : Nat) (metrics : MetricsCollector) :
    (operation.apply now metrics).seen id = metrics.seen id := by
  cases operation with
  | startConnection other | startConnectionWithActivity other =>
      exact seen_insert_ne (fun same => different (congrArg some same.symm))
  | record other call =>
      have apart : id ≠ other := fun same => different (congrArg some same.symm)
      rw [Operation.apply, MetricsCollector.seen, ConnectionCall.connections_apply,
        Table.get?_modify_ne _ apart]
      rfl
  | incrementActiveUsers => rfl
  | decrementActiveUsers =>
      simp only [Operation.apply, MetricsCollector.decrementActiveUsers]
      split <;> rfl

section Runs

variable {workload : Workload} {trace : List (Pool Operation MetricsCollector × (Nat × Nat))}
  {pool : Pool Operation MetricsCollector}

/-- A task of the workload is a connection's or a user's. -/
theorem task_cases {position : Nat} {operations : List Operation}
    (here : workload.tasks[position]? = some operations) :
    (∃ task, workload.connections[position]? = some task ∧ operations = task.operations) ∨
      workload.connections.length ≤ position ∧ operations = userTask := by
  unfold Workload.tasks at here
  by_cases below : position < workload.connections.length
  · rw [List.getElem?_append_left (by simpa using below), List.getElem?_map] at here
    obtain ⟨task, found, rfl⟩ := Option.map_eq_some_iff.mp here
    exact Or.inl ⟨task, found, rfl⟩
  · rw [List.getElem?_append_right (by simpa using below)] at here
    exact Or.inr ⟨Nat.not_lt.mp below, List.eq_of_mem_replicate (List.mem_of_getElem? here)⟩

theorem task_of_connection {position : Nat} {task : ConnectionTask}
    (here : workload.connections[position]? = some task) :
    workload.tasks[position]? = some task.operations := by
  have below := (List.getElem?_eq_some_iff.mp here).1
  rw [Workload.tasks, List.getElem?_append_left (by simpa using below), List.getElem?_map, here]
  rfl

/-- Connections under one id are one connection. -/
theorem position_of_id {left right : Nat} {first second : ConnectionTask}
    (leftHere : workload.connections[left]? = some first)
    (rightHere : workload.connections[right]? = some second) (same : first.id = second.id) :
    left = right := by
  have leftId : (workload.connections.map ConnectionTask.id)[left]? = some first.id := by
    simp [leftHere]
  have rightId : (workload.connections.map ConnectionTask.id)[right]? = some first.id := by
    simp [rightHere, same]
  have below := (List.getElem?_eq_some_iff.mp leftId).1
  exact (List.getElem?_inj below workload.distinct).mp (leftId.trans rightId.symm)

/-- What is known of a connection is what it has done so far. -/
theorem seen_of_run (run : interleaving.Run workload.begin trace pool) {position : Nat}
    {task : ConnectionTask} (here : workload.connections[position]? = some task) :
    ∃ done rest, pool.pending[position]? = some rest ∧ task.operations = done ++ rest ∧
      pool.state.seen task.id = done.foldl (follow task.id) none := by
  refine Pool.local_of_run (MetricsCollector.seen task.id) (follow task.id)
    (task_of_connection here) ?_ ?_ run
  · intro now metrics operation member
    exact seen_own task now metrics member
  · intro now metrics other operations found apart operation member
    refine seen_other (fun same => ?_) now metrics
    rcases task_cases found with ⟨second, there, rfl⟩ | ⟨_, rfl⟩
    · rw [target_of_mem member] at same
      exact apart (position_of_id there here (Option.some.inj same))
    · rw [target_of_mem_user member] at same
      simp at same

/-- Nothing is known of an id without a connection. -/
theorem unseen_of_run (run : interleaving.Run workload.begin trace pool) {id : Uuid}
    (absent : ∀ task ∈ workload.connections, task.id ≠ id) : pool.state.seen id = none := by
  refine Pool.untouched_of_run (MetricsCollector.seen id) ?_ run
  intro now metrics operations member operation inside
  refine seen_other (fun same => ?_) now metrics
  obtain ⟨position, found⟩ := List.getElem?_of_mem member
  rcases task_cases found with ⟨task, there, rfl⟩ | ⟨_, rfl⟩
  · rw [target_of_mem inside] at same
    exact absent task (List.mem_of_getElem? there) (Option.some.inj same)
  · rw [target_of_mem_user inside] at same
    simp at same

/-- The record that a finished workload leaves under an id. -/
theorem seen_of_finished (run : interleaving.Run workload.begin trace pool)
    (finished : pool.Finished) {position : Nat} {task : ConnectionTask}
    (here : workload.connections[position]? = some task) :
    pool.state.seen task.id = task.operations.foldl (follow task.id) none := by
  obtain ⟨done, rest, pending, split, seen⟩ := seen_of_run run here
  rw [finished rest (List.mem_of_getElem? pending), List.append_nil] at split
  rw [seen, split]

/-- A connection that has been started has a record. -/
theorem isSome_follow {id : Uuid} {seen : Option ConnectionMetrics} (started : seen.isSome)
    {operations : List Operation}
    (calls : ∀ operation ∈ operations, ∃ call, operation = .record id call) :
    (operations.foldl (follow id) seen).isSome := by
  induction operations generalizing seen with
  | nil => exact started
  | cons operation operations inductionHypothesis =>
      obtain ⟨call, rfl⟩ := calls operation (List.mem_cons_self ..)
      refine inductionHypothesis ?_ (fun other member => calls other (List.mem_cons_of_mem _ member))
      simpa [follow] using started

/-! ## Error details -/

/-- The details, without their time, that an operation reports. -/
def Operation.details : Operation → List ErrorDetail
  | .record id call => call.details 0 id
  | _ => []

theorem details_apply {operation : Operation} {now : Nat} {metrics : MetricsCollector}
    (registered : ∀ id call, operation = .record id call → metrics.Registered id) :
    (operation.apply now metrics).errorDetails.map ErrorDetail.timeless =
      metrics.errorDetails.map ErrorDetail.timeless ++ operation.details := by
  cases operation with
  | record id call =>
      rw [Operation.apply, ConnectionCall.errorDetails_apply, if_pos (registered id call rfl),
        List.map_append, Operation.details]
      congr 1
      cases call <;> rfl
  | startConnection | startConnectionWithActivity | incrementActiveUsers =>
      exact (List.append_nil _).symm
  | decrementActiveUsers =>
      simp only [Operation.apply, MetricsCollector.decrementActiveUsers, Operation.details,
        List.append_nil]
      split <;> rfl

/-- A call is made on a connection that has been started. -/
theorem registered_of_pending (run : interleaving.Run workload.begin trace pool) {position : Nat}
    {id : Uuid} {call : ConnectionCall} {rest : List Operation}
    (next : pool.pending[position]? = some (.record id call :: rest)) :
    pool.state.Registered id := by
  obtain ⟨_, whole⟩ := Pool.pending_of_run run position _ next
  rcases task_cases whole with ⟨task, here, shape⟩ | ⟨_, shape⟩
  · obtain ⟨done, left, pending, split, seen⟩ := seen_of_run run here
    obtain rfl := Option.some.inj (pending.symm.trans next)
    have own : Operation.record id call ∈ task.operations := by simp [split]
    obtain rfl : id = task.id := Option.some.inj (target_of_mem own)
    have started : (pool.state.seen task.id).isSome := by
      rw [seen]
      cases done with
      | nil =>
          have first : task.start = .record task.id call := (List.cons.inj split).1
          unfold ConnectionTask.start at first
          split at first <;> simp at first
      | cons first done =>
          obtain ⟨rfl, later⟩ := List.cons.inj split
          rw [List.foldl_cons]
          refine isSome_follow ?_ (fun operation member => ?_)
          · unfold ConnectionTask.start
            split <;> rfl
          · have called : operation ∈ task.calls.map (.record task.id) := by
              rw [later]
              exact List.mem_append_left _ member
            obtain ⟨call, _, rfl⟩ := List.mem_map.mp called
            exact ⟨call, rfl⟩
    simpa [MetricsCollector.seen, MetricsCollector.Registered] using started
  · have inside : Operation.record id call ∈ userTask := by simp [← shape]
    simp [userTask] at inside

/-- The global list holds what has been reported so far, and that is what all
operations report once the workload is finished. -/
theorem errorDetails_of_finished (run : interleaving.Run workload.begin trace pool)
    (finished : pool.Finished) :
    (pool.state.errorDetails.map ErrorDetail.timeless).Perm
      (workload.tasks.flatten.flatMap Operation.details) := by
  obtain ⟨executed, perm, holds⟩ := Pool.executed_of_run
    (fun executed metrics => metrics.errorDetails.map ErrorDetail.timeless =
      executed.flatMap Operation.details) rfl
    (fun executed before pool position now operation rest earlier next holds => by
      rw [details_apply, holds, List.flatMap_append, List.flatMap_singleton]
      rintro id call rfl
      exact registered_of_pending earlier next) run
  rw [finished.flatten, List.append_nil] at perm
  rw [holds]
  exact perm.flatMap_right _

/-! ## Users -/

/-- A user between its increment and its decrement. -/
def Inside (rest : List Operation) : Bool := rest = [.decrementActiveUsers]

/-- A user that has not made its decrement. -/
def Using (rest : List Operation) : Bool := rest = userTask || Inside rest

/-- The user counter and what is left of the tasks. -/
structure Counted (users : Nat) (pending : List (List Operation)) (activeUsers : UInt32) :
    Prop where
  shapes : ∀ rest ∈ pending, Using rest = true ∨ ∀ operation ∈ rest, operation.target ≠ none
  bound : pending.countP Using ≤ users
  count : activeUsers.toNat = pending.countP Inside

theorem not_using {rest : List Operation} (targets : ∀ operation ∈ rest, operation.target ≠ none) :
    Using rest = false ∧ Inside rest = false := by
  constructor
  · by_contra using'
    have shape : rest = userTask ∨ rest = [.decrementActiveUsers] := by
      simpa [Using, Inside, or_iff_not_imp_left] using using'
    refine targets .decrementActiveUsers ?_ rfl
    rcases shape with rfl | rfl <;> simp [userTask]
  · by_contra inside
    have shape : rest = [.decrementActiveUsers] := by simpa [Inside] using inside
    exact targets .decrementActiveUsers (by simp [shape]) rfl

theorem activeUsers_apply_of_target {operation : Operation} (target : operation.target ≠ none)
    (now : Nat) (metrics : MetricsCollector) :
    (operation.apply now metrics).activeUsers = metrics.activeUsers := by
  cases operation with
  | record id call => exact call.activeUsers_apply now metrics id
  | startConnection | startConnectionWithActivity => rfl
  | incrementActiveUsers | decrementActiveUsers => exact absurd rfl target

/-- A task that is pending in the workload. -/
theorem shape_of_task {operations : List Operation} (member : operations ∈ workload.tasks) :
    operations = userTask ∨ ∀ operation ∈ operations, operation.target ≠ none := by
  obtain ⟨position, found⟩ := List.getElem?_of_mem member
  rcases task_cases found with ⟨task, _, rfl⟩ | ⟨_, rfl⟩
  · exact Or.inr (fun operation inside => by simp [target_of_mem inside])
  · exact Or.inl rfl

theorem counted_begin (workload : Workload) :
    Counted workload.concurrentUsers.toNat workload.tasks 0 where
  shapes := fun rest member => (shape_of_task member).imp (fun same => by simp [Using, same]) id
  bound := by
    have connections : (workload.connections.map ConnectionTask.operations).countP Using = 0 := by
      refine List.countP_eq_zero.mpr (fun rest member => ?_)
      obtain ⟨task, _, rfl⟩ := List.mem_map.mp member
      have targets : ∀ operation ∈ task.operations, operation.target ≠ none :=
        fun operation inside => by simp [target_of_mem inside]
      simp [(not_using targets).1]
    rw [Workload.tasks, List.countP_append, connections, Nat.zero_add]
    exact List.countP_le_length.trans (List.length_replicate ..).le
  count := by
    symm
    refine List.countP_eq_zero.mpr (fun rest member => ?_)
    rcases shape_of_task member with rfl | targets
    · simp [Inside, userTask]
    · simp [(not_using targets).2]

section Counter

variable {users index : Nat} {pending : List (List Operation)} {activeUsers : UInt32}
  {old new : List Operation}

theorem Counted.shapes_set (counted : Counted users pending activeUsers)
    (fits : Using new = true ∨ ∀ operation ∈ new, operation.target ≠ none) :
    ∀ rest ∈ pending.set index new,
      Using rest = true ∨ ∀ operation ∈ rest, operation.target ≠ none := by
  intro rest member
  rcases List.mem_or_eq_of_mem_set member with before | rfl
  · exact counted.shapes rest before
  · exact fits

/-- A user comes in. -/
theorem Counted.comes (counted : Counted users pending activeUsers) (width : users < 2 ^ 32)
    (here : pending[index]? = some userTask) :
    Counted users (pending.set index [.decrementActiveUsers]) (activeUsers + 1) := by
  have inside := countP_set_add Inside here [.decrementActiveUsers]
  have using' := countP_set_add Using here [.decrementActiveUsers]
  rw [show Inside userTask = false from rfl, show Inside [.decrementActiveUsers] = true from rfl,
    Bool.toNat_false, Bool.toNat_true] at inside
  rw [show Using userTask = true from rfl, show Using [.decrementActiveUsers] = true from rfl] at using'
  have part : (pending.set index [.decrementActiveUsers]).countP Inside ≤
      (pending.set index [.decrementActiveUsers]).countP Using :=
    List.countP_mono_left (fun other _ inside => by simp [Using, inside])
  have bound := counted.bound
  refine ⟨counted.shapes_set (Or.inl rfl), by omega, ?_⟩
  rw [UInt32.toNat_add, counted.count, UInt32.toNat_one, Nat.mod_eq_of_lt (by omega)]
  omega

/-- A user that is inside is counted, so the guard of its decrement passes. -/
theorem Counted.positive (counted : Counted users pending activeUsers)
    (here : pending[index]? = some [.decrementActiveUsers]) : 0 < activeUsers := by
  have some : 0 < pending.countP Inside :=
    List.countP_pos_iff.mpr ⟨_, List.mem_of_getElem? here, rfl⟩
  rw [UInt32.lt_iff_toNat_lt, UInt32.toNat_zero, counted.count]
  exact some

/-- A user leaves. -/
theorem Counted.leaves (counted : Counted users pending activeUsers)
    (here : pending[index]? = some [.decrementActiveUsers]) :
    Counted users (pending.set index []) (activeUsers - 1) := by
  have inside := countP_set_add Inside here []
  have using' := countP_set_add Using here []
  rw [show Inside [.decrementActiveUsers] = true from rfl, show Inside [] = false from rfl,
    Bool.toNat_false, Bool.toNat_true] at inside
  rw [show Using [.decrementActiveUsers] = true from rfl, show Using [] = false from rfl,
    Bool.toNat_false, Bool.toNat_true] at using'
  have bound := counted.bound
  have least : (1 : UInt32) ≤ activeUsers := by
    have positive := UInt32.lt_iff_toNat_lt.mp (counted.positive here)
    rw [UInt32.le_iff_toNat_le, UInt32.toNat_one]
    exact positive
  refine ⟨counted.shapes_set (Or.inr (by simp)), by omega, ?_⟩
  rw [UInt32.toNat_sub_of_le _ _ least, counted.count, UInt32.toNat_one]
  omega

/-- A connection's task goes on. -/
theorem Counted.passes (counted : Counted users pending activeUsers)
    (here : pending[index]? = some old) (before : ∀ operation ∈ old, operation.target ≠ none)
    (after : ∀ operation ∈ new, operation.target ≠ none) :
    Counted users (pending.set index new) activeUsers := by
  have inside := countP_set_add Inside here new
  have using' := countP_set_add Using here new
  rw [(not_using before).2, (not_using after).2] at inside
  rw [(not_using before).1, (not_using after).1] at using'
  have bound := counted.bound
  have count := counted.count
  exact ⟨counted.shapes_set (Or.inr after), by omega, by omega⟩

end Counter

theorem counted_step {users : Nat} (width : users < 2 ^ 32) {label : Nat × Nat}
    {next : Pool Operation MetricsCollector}
    (counted : Counted users pool.pending pool.state.activeUsers)
    (step : interleaving.step pool label = some next) :
    Counted users next.pending next.state.activeUsers := by
  obtain ⟨operation, rest, here, rfl⟩ := Pool.exists_of_step step
  rcases counted.shapes _ (List.mem_of_getElem? here) with user | targets
  · have shape : operation :: rest = userTask ∨ operation :: rest = [.decrementActiveUsers] := by
      simpa [Using, Inside, or_iff_not_imp_left] using user
    rcases shape with coming | leaving
    · obtain ⟨rfl, rfl⟩ := List.cons.inj coming
      exact counted.comes width here
    · obtain ⟨rfl, rfl⟩ := List.cons.inj leaving
      have left : (pool.state.decrementActiveUsers).activeUsers = pool.state.activeUsers - 1 := by
        rw [MetricsCollector.decrementActiveUsers, if_pos (counted.positive here)]
      show Counted users _ (pool.state.decrementActiveUsers).activeUsers
      rw [left]
      exact counted.leaves here
  · show Counted users _ (operation.apply label.2 pool.state).activeUsers
    rw [activeUsers_apply_of_target (targets operation (List.mem_cons_self ..))]
    exact counted.passes here targets
      (fun other member => targets other (List.mem_cons_of_mem _ member))

theorem counted_of_run (run : interleaving.Run workload.begin trace pool) :
    Counted workload.concurrentUsers.toNat pool.pending pool.state.activeUsers :=
  run.invariant
    (fun pool => Counted workload.concurrentUsers.toNat pool.pending pool.state.activeUsers)
    (counted_begin workload)
    (fun _ _ _ counted step => counted_step workload.concurrentUsers.toNat_lt counted step)

/-! ## Two interleavings -/

/-- Collectors that differ in their timestamps and in the order of records and
details only. -/
structure MetricsCollector.Agrees (left right : MetricsCollector) : Prop where
  records : ∀ id, left.seen id = right.seen id
  bytes : left.byteTotals = right.byteTotals
  errors : ∀ protocol, left.errorTotal protocol = right.errorTotal protocol
  details : (left.errorDetails.map ErrorDetail.timeless).Perm
    (right.errorDetails.map ErrorDetail.timeless)
  users : left.activeUsers = right.activeUsers

/-- The sums that the samplers take see a record without its timestamps. -/
theorem sum_of_seen {left right : MetricsCollector}
    (records : ∀ id, left.seen id = right.seen id) (weight : ConnectionMetrics → UInt64)
    (timeless : ∀ connection, weight connection.timeless = weight connection) :
    (left.connections.records.map weight).sum = (right.connections.records.map weight).sum := by
  have perm := left.connections.perm_of_get? ConnectionMetrics.timeless (fun _ => rfl) records
  have untimed : ∀ metrics : MetricsCollector, metrics.connections.records.map weight =
      (metrics.connections.records.map ConnectionMetrics.timeless).map weight := by
    intro metrics
    rw [List.map_map]
    exact List.map_congr_left (fun connection _ => (timeless connection).symm)
  rw [untimed left, untimed right]
  exact (perm.map weight).sum_eq

/-- The records of two finished interleavings. -/
theorem seen_agrees {leftTrace rightTrace : List (Pool Operation MetricsCollector × (Nat × Nat))}
    {left right : Pool Operation MetricsCollector}
    (leftRun : interleaving.Run workload.begin leftTrace left) (leftDone : left.Finished)
    (rightRun : interleaving.Run workload.begin rightTrace right) (rightDone : right.Finished)
    (id : Uuid) : left.state.seen id = right.state.seen id := by
  by_cases known : ∃ task ∈ workload.connections, task.id = id
  · obtain ⟨task, member, rfl⟩ := known
    obtain ⟨position, here⟩ := List.getElem?_of_mem member
    rw [seen_of_finished leftRun leftDone here, seen_of_finished rightRun rightDone here]
  · push Not at known
    rw [unseen_of_run leftRun known, unseen_of_run rightRun known]

theorem activeUsers_of_finished (run : interleaving.Run workload.begin trace pool)
    (finished : pool.Finished) : pool.state.activeUsers = 0 := by
  rw [← UInt32.toNat_inj, (counted_of_run run).count, UInt32.toNat_zero]
  refine List.countP_eq_zero.mpr (fun rest member => ?_)
  simp [finished rest member, Inside]

/-- In every state of every interleaving the counter is the number of users
inside and its guard passes; any two finished interleavings agree. -/
theorem order_independence (workload : Workload) :
    (∀ trace pool, interleaving.Run workload.begin trace pool →
      pool.state.activeUsers.toNat = pool.pending.countP Inside ∧
      ∀ entry ∈ trace, ∀ rest,
        entry.1.pending[entry.2.1]? = some (.decrementActiveUsers :: rest) →
          0 < entry.1.state.activeUsers) ∧
    ∀ leftTrace left rightTrace right,
      interleaving.Run workload.begin leftTrace left → left.Finished →
      interleaving.Run workload.begin rightTrace right → right.Finished →
        left.state.Agrees right.state := by
  constructor
  · intro trace pool run
    refine ⟨(counted_of_run run).count, fun entry member rest here => ?_⟩
    obtain ⟨_, _, before⟩ := run.before member
    have counted := counted_of_run before
    rcases counted.shapes _ (List.mem_of_getElem? here) with user | targets
    · have shape : Operation.decrementActiveUsers :: rest = userTask ∨
          Operation.decrementActiveUsers :: rest = [.decrementActiveUsers] := by
        simpa [Using, Inside, or_iff_not_imp_left] using user
      rcases shape with coming | leaving
      · simp [userTask] at coming
      · rw [leaving] at here
        exact counted.positive here
    · exact absurd rfl (targets _ (List.mem_cons_self ..))
  · intro leftTrace left rightTrace right leftRun leftDone rightRun rightDone
    have records := seen_agrees leftRun leftDone rightRun rightDone
    exact
      { records := records
        bytes := Streams.ext_get (fun protocol direction => by
          rw [MetricsCollector.get_byteTotals, MetricsCollector.get_byteTotals]
          exact sum_of_seen records _ (fun connection => by cases direction <;> rfl))
        errors := fun protocol => sum_of_seen records _ (fun _ => rfl)
        details := (errorDetails_of_finished leftRun leftDone).trans
          (errorDetails_of_finished rightRun rightDone).symm
        users := by
          rw [activeUsers_of_finished leftRun leftDone, activeUsers_of_finished rightRun rightDone] }

end Runs

/-- Two connections, one with an error, and one user. -/
def pairWorkload : Workload where
  connections :=
    [⟨⟨1⟩, .tcp, none, [.recordBytesSent 7, .recordErrorWithDetail .ioError "reset" none,
      .endConnection]⟩,
      ⟨⟨2⟩, .quic, none, [.recordErrorWithDetail .networkTimeout "timeout" none, .endConnection]⟩]
  distinct := by decide
  concurrentUsers := 1

/-- The second connection's error is reported first. -/
theorem order_independence_pair :
    ∃ leftTrace left rightTrace right,
      interleaving.Run pairWorkload.begin leftTrace left ∧
      interleaving.Run pairWorkload.begin rightTrace right ∧
      left.state.errorDetails.map ErrorDetail.connectionId = [⟨1⟩, ⟨2⟩] ∧
      right.state.errorDetails.map ErrorDetail.connectionId = [⟨2⟩, ⟨1⟩] ∧
      left.state.Agrees right.state := by
  let inOrder : List (Nat × Nat) :=
    [(0, 1), (0, 2), (0, 3), (0, 4), (1, 5), (1, 6), (1, 7), (2, 8), (2, 9)]
  let mixed : List (Nat × Nat) :=
    [(1, 1), (2, 1), (1, 2), (0, 2), (0, 3), (2, 4), (0, 5), (1, 6), (0, 7)]
  obtain ⟨left, leftPlayed, leftFacts⟩ := Option.map_eq_some_iff.mp (show
    (interleaving.play pairWorkload.begin inOrder).map (fun pool =>
      (pool.pending, pool.state.errorDetails.map ErrorDetail.connectionId)) =
      some ([[], [], []], [⟨1⟩, ⟨2⟩]) by decide +kernel)
  obtain ⟨right, rightPlayed, rightFacts⟩ := Option.map_eq_some_iff.mp (show
    (interleaving.play pairWorkload.begin mixed).map (fun pool =>
      (pool.pending, pool.state.errorDetails.map ErrorDetail.connectionId)) =
      some ([[], [], []], [⟨2⟩, ⟨1⟩]) by decide +kernel)
  obtain ⟨leftPending, leftDetails⟩ := Prod.mk.inj leftFacts
  obtain ⟨rightPending, rightDetails⟩ := Prod.mk.inj rightFacts
  have leftRun := Machine.run_of_play leftPlayed
  have rightRun := Machine.run_of_play rightPlayed
  exact ⟨_, left, _, right, leftRun, rightRun, leftDetails, rightDetails,
    (order_independence pairWorkload).2 _ _ _ _ leftRun (by simp [Pool.Finished, leftPending])
      rightRun (by simp [Pool.Finished, rightPending])⟩

end Npt.Shared
