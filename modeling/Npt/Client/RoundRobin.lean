import Npt.Client.HealthHistory
import Npt.Core.Rotation
import Npt.Core.TransitionSystem

/-!
Contract: the round-robin rotation under concurrent callers.

`get_server` first collects the healthy servers and then draws an index; other
callers may do the same, and anything else to the pool, in between.

Owns: the two halves of `get_server` as steps of a machine, the servers that a
window of draws returns, and their fair shares.

Does not own: the other strategies, which draw no index.
-/

namespace Npt.Client

open Npt.Core
open Npt.Shared

/-! ## The two halves of `get_server` -/

/-- The pool, with the list that each user inside `get_server` has collected. -/
structure Selecting where
  pool : ServerPool
  collected : List (Option (List ServerInfo))

inductive SelectLabel where
  | collect (user : Nat)
  /-- The `fetch_add` of `round_robin_select` and its choice. -/
  | draw (user : Nat)
  /-- Any other call on the pool. -/
  | call (call : PoolCall)
deriving DecidableEq, Repr

def selectStep (state : Selecting) : SelectLabel → Option Selecting
  | .collect user =>
      match state.collected[user]? with
      | some none =>
          let healthy := state.pool.healthyServers
          -- Without a healthy server, `get_server` returns `None` here.
          if healthy.isEmpty then some state
          else some { state with collected := state.collected.set user (some healthy) }
      | _ => none
  | .draw user =>
      match state.pool.config.strategy, state.collected[user]? with
      | .roundRobin, some (some servers) =>
          some { pool := (state.pool.roundRobinSelect servers).2
                 collected := state.collected.set user none }
      | _, _ => none
  | .call call =>
      match call with
      | .getServer _ => none
      | call => some { state with pool := call.apply state.pool }

def selectMachine : Machine Selecting SelectLabel := ⟨selectStep⟩

/-- What a draw returns. -/
def selected (state : Selecting) : SelectLabel → Option (Option SocketAddr)
  | .draw user =>
      match state.collected[user]? with
      | some (some servers) => some (state.pool.roundRobinSelect servers).1
      | _ => none
  | _ => none

/-- What the draws of a trace return, in order. -/
def returned (steps : List (Selecting × SelectLabel)) : List (Option SocketAddr) :=
  steps.filterMap (fun entry => selected entry.1 entry.2)

def healthyAddresses (pool : ServerPool) : List SocketAddr :=
  pool.healthyServers.map ServerInfo.address

@[simp] theorem returned_nil : returned [] = [] := rfl

theorem returned_snoc (steps : List (Selecting × SelectLabel)) (state : Selecting)
    (label : SelectLabel) :
    returned (steps ++ [(state, label)]) = returned steps ++ (selected state label).toList := by
  cases choice : selected state label <;> simp [returned, choice]

theorem nodup_healthyAddresses (pool : ServerPool) : (healthyAddresses pool).Nodup :=
  pool.servers.distinct.sublist (List.filter_sublist.map _)

/-- Undisturbed, the two halves make the call. -/
theorem getServer_of_halves {state : Selecting} {user : Nat} (draw : Nat)
    (strategy : state.pool.config.strategy = .roundRobin) (outside : state.collected[user]? = some none)
    (healthy : state.pool.healthyServers ≠ []) :
    ∃ inside, selectStep state (.collect user) = some inside ∧
      selected inside (.draw user) = some (state.pool.getServer draw).1 ∧
      selectStep inside (.draw user) =
        some { state with pool := (state.pool.getServer draw).2 } := by
  have filled : state.pool.healthyServers.isEmpty = false := by simpa using healthy
  obtain ⟨inRange, here⟩ := List.getElem?_eq_some_iff.mp outside
  have same : (state.collected.set user (some state.pool.healthyServers)).set user none =
      state.collected := by
    rw [List.set_set, ← here, List.set_getElem_self]
  refine ⟨_, by simp only [selectStep, outside, filled]; rfl, ?_, ?_⟩
  · simp [selected, ServerPool.getServer, filled, strategy, inRange]
  · simp [selectStep, ServerPool.getServer, filled, strategy, inRange, same]

/-! ## Shares -/

/-- Every list collected and not yet used names the servers in `members`. -/
def Collected (members : List SocketAddr) (state : Selecting) : Prop :=
  ∀ servers, some servers ∈ state.collected → servers.map ServerInfo.address = members

section Steps

variable {members : List SocketAddr} {state next : Selecting} {label : SelectLabel}

theorem collected_of_step (collected : Collected members state)
    (fixed : healthyAddresses state.pool = members)
    (taken : selectMachine.step state label = some next) : Collected members next := by
  intro servers member
  cases label with
  | collect user =>
      simp only [selectMachine, selectStep] at taken
      split at taken
      · split at taken
        · obtain rfl := Option.some.inj taken
          exact collected servers member
        · obtain rfl := Option.some.inj taken
          rcases List.mem_or_eq_of_mem_set member with earlier | new
          · exact collected servers earlier
          · obtain rfl := Option.some.inj new
            exact fixed
      · cases taken
  | draw user =>
      simp only [selectMachine, selectStep] at taken
      split at taken
      · obtain rfl := Option.some.inj taken
        rcases List.mem_or_eq_of_mem_set member with earlier | new
        · exact collected servers earlier
        · cases new
      · cases taken
  | call call =>
      simp only [selectMachine, selectStep] at taken
      split at taken
      · cases taken
      · obtain rfl := Option.some.inj taken
        exact collected servers member

/-- A draw returns the server its index falls on and moves the index on; nothing
else moves it. -/
theorem selected_of_step (collected : Collected members state)
    (taken : selectMachine.step state label = some next) :
    (selected state label = none ∧
        next.pool.roundRobinIndex = state.pool.roundRobinIndex) ∨
      (selected state label =
          some members[state.pool.roundRobinIndex.toNat % members.length]? ∧
        next.pool.roundRobinIndex = state.pool.roundRobinIndex + 1) := by
  cases label with
  | collect user =>
      simp only [selectMachine, selectStep] at taken
      split at taken
      · split at taken <;> obtain rfl := Option.some.inj taken <;> exact Or.inl ⟨rfl, rfl⟩
      · cases taken
  | draw user =>
      simp only [selectMachine, selectStep] at taken
      split at taken
      · rename_i servers _ inside
        obtain rfl := Option.some.inj taken
        have names := collected servers (List.mem_of_getElem? inside)
        refine Or.inr ⟨?_, rfl⟩
        simp only [selected, inside, ServerPool.roundRobinSelect]
        rw [← names, List.getElem?_map, List.length_map]
      · cases taken
  | call call =>
      cases call with
      | getServer draw => cases taken
      | _ =>
          obtain rfl := Option.some.inj taken
          exact Or.inl ⟨rfl, rfl⟩

end Steps

section Runs

variable {members : List SocketAddr} {start last : Selecting}
  {steps : List (Selecting × SelectLabel)}

theorem collected_of_run (run : selectMachine.Run start steps last)
    (collected : Collected members start)
    (fixed : ∀ entry ∈ steps, healthyAddresses entry.1.pool = members) :
    Collected members last :=
  run.invariant_under (fun state _ => healthyAddresses state.pool = members) _ fixed collected
    (fun _ _ _ collected fixed taken => collected_of_step collected fixed taken)

/-- The draws of a window return consecutive choices of the rotation. -/
theorem returned_eq_rotation (run : selectMachine.Run start steps last)
    (collected : Collected members start)
    (fixed : ∀ entry ∈ steps, healthyAddresses entry.1.pool = members)
    (unwrapped : start.pool.roundRobinIndex.toNat + (returned steps).length ≤ 2 ^ 64) :
    returned steps =
      rotation members start.pool.roundRobinIndex.toNat (returned steps).length := by
  have follows : returned steps =
        rotation members start.pool.roundRobinIndex.toNat (returned steps).length ∧
      last.pool.roundRobinIndex =
        start.pool.roundRobinIndex + UInt64.ofNat (returned steps).length := by
    induction run with
    | nil => simp
    | @snoc steps state next label before taken inductionHypothesis =>
        rw [returned_snoc] at unwrapped ⊢
        have earlier : ∀ entry ∈ steps, healthyAddresses entry.1.pool = members :=
          fun entry member => fixed entry (List.mem_append_left _ member)
        have bound : start.pool.roundRobinIndex.toNat + (returned steps).length ≤ 2 ^ 64 := by
          rw [List.length_append] at unwrapped
          omega
        obtain ⟨choices, index⟩ := inductionHypothesis earlier bound
        have inside := collected_of_run before collected earlier
        rcases selected_of_step inside taken with ⟨none, same⟩ | ⟨drawn, moved⟩
        · rw [none, Option.toList_none, List.append_nil, same]
          exact ⟨choices, index⟩
        · rw [drawn, Option.toList_some, List.length_append, List.length_singleton] at unwrapped ⊢
          have drawnIndex : state.pool.roundRobinIndex.toNat =
              start.pool.roundRobinIndex.toNat + (returned steps).length := by
            rw [index, UInt64.toNat_add, UInt64.toNat_ofNat', Nat.mod_eq_of_lt (by omega),
              Nat.mod_eq_of_lt (by omega)]
          constructor
          · rw [Rotation.rotation_succ, ← choices, drawnIndex]
          · rw [moved, index, UInt64.ofNat_add, UInt64.add_assoc]
            rfl
  exact follows.1

/-- Fair shares: as long as the healthy servers stay the same, a window of draws
returns no other server, any two of them equally often up to one, and each
exactly once a round. -/
theorem round_robin_fair {middle : Selecting} {before window : List (Selecting × SelectLabel)}
    (outside : ∀ list ∈ start.collected, list = none)
    (nonempty : healthyAddresses start.pool ≠ [])
    (earlier : selectMachine.Run start before middle)
    (run : selectMachine.Run middle window last)
    (fixed : ∀ entry ∈ before ++ window,
      healthyAddresses entry.1.pool = healthyAddresses start.pool)
    (unwrapped : middle.pool.roundRobinIndex.toNat + (returned window).length ≤ 2 ^ 64) :
    (∀ choice ∈ returned window, ∃ server ∈ healthyAddresses start.pool, choice = some server) ∧
      (∀ server ∈ healthyAddresses start.pool, ∀ other ∈ healthyAddresses start.pool,
        (returned window).count (some server) ≤ (returned window).count (some other) + 1) ∧
      ∀ rounds, (returned window).length = (healthyAddresses start.pool).length * rounds →
        ∀ server ∈ healthyAddresses start.pool,
          (returned window).count (some server) = rounds := by
  have distinct := nodup_healthyAddresses start.pool
  have collected : Collected (healthyAddresses start.pool) start := by
    intro servers member
    cases outside _ member
  have inside := collected_of_run earlier collected
    (fun entry member => fixed entry (List.mem_append_left _ member))
  have choices := returned_eq_rotation run inside
    (fun entry member => fixed entry (List.mem_append_right _ member)) unwrapped
  refine ⟨?_, ?_, ?_⟩
  · intro choice member
    rw [choices] at member
    exact Rotation.mem_rotation nonempty member
  · intro server member other otherMember
    obtain ⟨here, inRange, rfl⟩ := List.getElem_of_mem member
    obtain ⟨there, otherInRange, rfl⟩ := List.getElem_of_mem otherMember
    rw [choices]
    exact Rotation.count_le_succ distinct inRange otherInRange
  · intro rounds whole server member
    obtain ⟨here, inRange, rfl⟩ := List.getElem_of_mem member
    rw [choices, whole]
    exact Rotation.count_rounds distinct inRange rounds

end Runs

/-! ## Two users at the last indices -/

/-- Three servers, of which the second is down. -/
def partlyDown : ServerPool :=
  { ServerPool.markConnectionFailed
      (.new [⟨"127.0.0.1:8001"⟩, ⟨"127.0.0.1:8002"⟩, ⟨"127.0.0.1:8003"⟩] (.asGiven _ (by decide))
        { healthCheck := { failureThreshold := 1 } })
      ⟨"127.0.0.1:8002"⟩ with
    roundRobinIndex := 7 }

def partlyDownStart : Selecting := { pool := partlyDown, collected := [none, none] }

/-- Both users are inside `get_server` at once, and a connection starts meanwhile. -/
def crossedDraws : List SelectLabel :=
  [.collect 0, .collect 1, .draw 1, .call (.markConnectionStart ⟨"127.0.0.1:8003"⟩), .draw 0]

theorem round_robin_fair_crossedDraws :
    (returned (selectMachine.trace partlyDownStart crossedDraws)).count
        (some ⟨"127.0.0.1:8001"⟩) = 1 ∧
      (returned (selectMachine.trace partlyDownStart crossedDraws)).count
        (some ⟨"127.0.0.1:8003"⟩) = 1 := by
  obtain ⟨last, played⟩ := Option.isSome_iff_exists.mp
    (show (selectMachine.play partlyDownStart crossedDraws).isSome = true by decide +kernel)
  have fixed : ∀ entry ∈ selectMachine.trace partlyDownStart crossedDraws,
      healthyAddresses entry.1.pool = healthyAddresses partlyDownStart.pool := by
    decide +kernel
  have fair := (round_robin_fair (by decide) (by decide +kernel) Machine.Run.nil
    (Machine.run_of_play played) fixed (by decide +kernel)).2.2 1 (by decide +kernel)
  exact ⟨fair _ (by decide +kernel), fair _ (by decide +kernel)⟩

end Npt.Client
