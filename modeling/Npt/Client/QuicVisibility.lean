import Mathlib.Algebra.BigOperators.Group.List.Basic
import Npt.Client.QuicClient
import Npt.Core.TransitionSystem

/-!
Contract: what a QUIC session shows of its failed requests.

`browse_page` folds the outcomes of a page into one result, and the session
folds those into its totals. Both keep the successes of a page only if all of
its resources succeeded, and a failed resource is not an error to either.

Owns: a session with the local totals of its code and the outcomes of its
requests, and when the totals and the error count tell these outcomes.

Does not own: the requests themselves.
-/

namespace Npt.Client

open Npt.Core
open Npt.Shared

/-! ## A session with its totals -/

/-- What the requests of a page came to. -/
structure PageOutcomes where
  main : Bool := false
  succeeded : Nat := 0
  failed : Nat := 0
  /-- The time over all resources of the page ran out. -/
  timedOut : Bool := false
deriving DecidableEq, Repr

structure Browsing where
  shared : SharedState
  outcome : QuicOutcome
  /-- `num_resources` of the page. -/
  numResources : Nat := 0
  totalRequests : UInt32 := 0
  successfulResponses : UInt32 := 0
  /-- The requests of the page under way, and of the pages before it. -/
  page : PageOutcomes := {}
  pages : List PageOutcomes := []

/-- Whether a request that ends in the event ends well. -/
def requestEnds (id : Uuid) (request : Request) (event : RequestEvent) : Option Bool :=
  match requestStep id request event with
  | some (_, .ok) => some true
  | some (_, .error _) => some false
  | _ => none

/-- The outcomes of the page under way after a step. -/
def PageOutcomes.after (page : PageOutcomes) (call : QuicCall) (label : QuicLabel) : PageOutcomes :=
  match call.stage, label with
  | .mainPage _ _ request, .mainRequest event =>
      match requestEnds call.connectionId request event with
      | some ok => { main := ok }
      | none => page
  | .resources _ _ inFlight _, .resource index event =>
      match inFlight[index]?.bind (requestEnds call.connectionId · event) with
      | some true => { page with succeeded := page.succeeded + 1 }
      | some false => { page with failed := page.failed + 1 }
      | none => page
  | .resources _ _ _ _, .resourcesTimedOut => { page with timedOut := true }
  | _, _ => page

/-- The end of `browse_page` over its collected results. -/
def successfulRequests (numResources : Nat) (allSuccessful : Bool) : UInt32 :=
  let successfulRequests : UInt32 := 1
  if allSuccessful then successfulRequests + UInt32.ofNat numResources else successfulRequests

/-- `browse_page` returns `Ok` in a step that leaves its last wait. -/
def browsed (call : QuicCall) (numResources : Nat) (label : QuicLabel) : Option UInt32 :=
  match call.stage, label with
  | .mainPage _ _ request, .mainRequest event =>
      match requestEnds call.connectionId request event with
      | some true => some (successfulRequests numResources true)
      | _ => none
  | .resources _ _ inFlight allSuccessful, .resource index event =>
      (inFlight[index]?.bind (requestEnds call.connectionId · event)).map (fun ok =>
        successfulRequests numResources (allSuccessful && ok))
  | _, _ => none

/-- The page under way is over. -/
def pageOver : QuicOutcome → Bool
  | .running call =>
      match call.stage with
      | .thinking _ => true
      | _ => false
  | _ => false

/-- `num_resources`, drawn at the head of the page loop. -/
def drawnResources (numResources : Nat) : QuicOutcome → Nat
  | .running call =>
      match call.stage with
      | .mainPage _ resources _ => resources
      | _ => numResources
  | _ => numResources

def browsingStep (now : Nat) (state : Browsing) (label : QuicLabel) : Option Browsing :=
  match state.outcome with
  | .running call =>
      (quicStep call label).map (fun result =>
        let page := state.page.after call label
        let shared := Effect.applyAll now state.shared result.1
        if pageOver result.2 then
          let requestsMade := (browsed call state.numResources label).getD 0
          { state with
            shared := shared
            outcome := result.2
            totalRequests := state.totalRequests + requestsMade
            successfulResponses := state.successfulResponses + requestsMade
            page := {}
            pages := state.pages ++ [page] }
        else
          { state with
            shared := shared
            outcome := result.2
            numResources := drawnResources state.numResources result.2
            page := page })
  | _ => none

def browsingMachine (now : Nat) : Machine Browsing QuicLabel := ⟨browsingStep now⟩

/-- A session that is connecting, its connection registered. -/
def startBrowsing (shared : SharedState) (call : QuicCall) : Browsing :=
  { shared := shared, outcome := .running { call with stage := .connecting } }

/-! ## What the outcomes come to -/

namespace PageOutcomes

/-- Some request of the page failed or did not finish. -/
def fails (page : PageOutcomes) : Bool := !page.main || decide (0 < page.failed) || page.timedOut

def successes (page : PageOutcomes) : Nat := (if page.main then 1 else 0) + page.succeeded

/-- `browse_page` returns `Err`. -/
def recorded (page : PageOutcomes) : Bool := !page.main || page.timedOut

/-- The successes that `browse_page` returns. -/
def counted (page : PageOutcomes) : Nat :=
  if page.recorded then 0 else if page.failed = 0 then 1 + page.succeeded else 1

/-- All of the page's resources succeed or none does, and in time. -/
def Uniform (page : PageOutcomes) : Prop :=
  page.timedOut = false ∧ (page.failed = 0 ∨ page.succeeded = 0)

end PageOutcomes

/-- The session shows its requests: some error if one of them failed, and the number
of those that succeeded. -/
def Visible (id : Uuid) (state : Browsing) : Prop :=
  ((∃ page ∈ state.pages, page.fails = true) →
      ∃ errors, state.shared.metrics.errorCount id = some errors ∧ 1 ≤ errors.toNat) ∧
    state.successfulResponses.toNat = (state.pages.map PageOutcomes.successes).sum

/-- The outcomes that the session shows: on every page all of the resources succeed or
none does, in time, and a failed resource is not the only kind of failure. -/
structure Shown (pages : List PageOutcomes) : Prop where
  uniform : ∀ page ∈ pages, page.Uniform
  accompanied : (∃ page ∈ pages, 0 < page.failed) → ∃ page ∈ pages, page.main = false
  few : (pages.map PageOutcomes.successes).sum < 2 ^ 32

namespace PageOutcomes

/-- Without its main resource a page requests nothing. -/
def Lawful (page : PageOutcomes) : Prop :=
  page.main = false → page.succeeded = 0 ∧ page.failed = 0 ∧ page.timedOut = false

variable {page : PageOutcomes} {pages : List PageOutcomes}

theorem counted_le (page : PageOutcomes) : page.counted ≤ page.successes := by
  unfold counted successes recorded
  cases page.main with
  | false => simp
  | true =>
      simp only [Bool.not_true, Bool.false_or, if_true]
      split
      · exact Nat.zero_le _
      · split <;> omega

theorem counted_eq_iff (lawful : page.Lawful) : page.counted = page.successes ↔ page.Uniform := by
  unfold Lawful at lawful
  unfold counted successes recorded Uniform
  cases main : page.main with
  | false =>
      obtain ⟨none, alone, inTime⟩ := lawful main
      simp [none, alone, inTime]
  | true =>
      cases timedOut : page.timedOut with
      | true =>
          simp only [Bool.or_true, if_true]
          refine iff_of_false ?_ (by simp)
          omega
      | false =>
          by_cases none : page.failed = 0
          · simp [none]
          · simp [none]

theorem sum_counted_le (pages : List PageOutcomes) :
    (pages.map counted).sum ≤ (pages.map successes).sum := by
  induction pages with
  | nil => simp
  | cons page rest inductionHypothesis =>
      simpa using Nat.add_le_add (counted_le page) inductionHypothesis

theorem sum_counted_eq_iff (lawful : ∀ page ∈ pages, page.Lawful) :
    (pages.map counted).sum = (pages.map successes).sum ↔ ∀ page ∈ pages, page.Uniform := by
  induction pages with
  | nil => simp
  | cons page rest inductionHypothesis =>
      have restLawful : ∀ page ∈ rest, page.Lawful := fun page member => lawful page (by simp [member])
      have here := counted_le page
      have later := sum_counted_le rest
      rw [List.forall_mem_cons, ← counted_eq_iff (lawful page List.mem_cons_self),
        ← inductionHypothesis restLawful, List.map_cons, List.map_cons, List.sum_cons,
        List.sum_cons]
      omega

end PageOutcomes

/-- What the totals of a session and its error count say of the pages done. -/
structure Tells (id : Uuid) (bound : Nat) (state : Browsing) : Prop where
  errors : state.shared.metrics.errorCount id =
    some (UInt64.ofNat (state.pages.countP PageOutcomes.recorded))
  counted : state.successfulResponses =
    UInt32.ofNat ((state.pages.map PageOutcomes.counted).sum)
  lawful : ∀ page ∈ state.pages, page.Lawful
  length_le : state.pages.length ≤ bound

section Tells

variable {id : Uuid} {bound : Nat} {state : Browsing}

/-- The total is right when every page is uniform, as far as its width goes. -/
theorem Tells.total_iff (tells : Tells id bound state) :
    state.successfulResponses.toNat = (state.pages.map PageOutcomes.successes).sum ↔
      (∀ page ∈ state.pages, page.Uniform) ∧
        (state.pages.map PageOutcomes.successes).sum < 2 ^ 32 := by
  have below := PageOutcomes.sum_counted_le state.pages
  rw [tells.counted, UInt32.toNat_ofNat', ← PageOutcomes.sum_counted_eq_iff tells.lawful]
  constructor
  · intro same
    have width := Nat.mod_lt (state.pages.map PageOutcomes.counted).sum (show 0 < 2 ^ 32 by decide)
    have wrapped := Nat.mod_le (state.pages.map PageOutcomes.counted).sum (2 ^ 32)
    omega
  · rintro ⟨same, few⟩
    rw [same, Nat.mod_eq_of_lt few]

/-- There is an error exactly if a page returned one. -/
theorem Tells.errors_iff (tells : Tells id bound state) (few : bound < 2 ^ 32) :
    (∃ errors, state.shared.metrics.errorCount id = some errors ∧ 1 ≤ errors.toNat) ↔
      ∃ page ∈ state.pages, page.recorded = true := by
  have atMost := (List.countP_le_length (p := PageOutcomes.recorded)).trans tells.length_le
  have exact : (UInt64.ofNat (state.pages.countP PageOutcomes.recorded)).toNat =
      state.pages.countP PageOutcomes.recorded := by
    rw [UInt64.toNat_ofNat', Nat.mod_eq_of_lt (by omega)]
  rw [← List.countP_pos_iff, tells.errors]
  simp only [Option.some.injEq, exists_eq_left', exact]
  rfl

theorem Tells.visible_iff (tells : Tells id bound state) (few : bound < 2 ^ 32) :
    Visible id state ↔ Shown state.pages := by
  rw [Visible, tells.errors_iff few, tells.total_iff]
  have split : (∀ page ∈ state.pages, page.Uniform) →
      (((∃ page ∈ state.pages, page.fails = true) →
          ∃ page ∈ state.pages, page.recorded = true) ↔
        ((∃ page ∈ state.pages, 0 < page.failed) → ∃ page ∈ state.pages, page.main = false)) := by
    intro uniform
    have recorded : (∃ page ∈ state.pages, page.recorded = true) ↔
        ∃ page ∈ state.pages, page.main = false := by
      refine exists_congr (fun page => and_congr_right (fun member => ?_))
      simp [PageOutcomes.recorded, (uniform page member).1]
    have fails : (∃ page ∈ state.pages, page.fails = true) ↔
        (∃ page ∈ state.pages, page.main = false) ∨ ∃ page ∈ state.pages, 0 < page.failed := by
      rw [← exists_or]
      refine exists_congr (fun page => ?_)
      rw [← and_or_left]
      refine and_congr_right (fun member => ?_)
      simp [PageOutcomes.fails, (uniform page member).1]
    rw [recorded, fails]
    exact ⟨fun all failed => all (Or.inr failed),
      fun accompanied either => either.elim (fun main => main) accompanied⟩
  constructor
  · rintro ⟨errors, uniform, width⟩
    exact ⟨uniform, (split uniform).mp errors, width⟩
  · rintro ⟨uniform, accompanied, width⟩
    exact ⟨(split uniform).mpr accompanied, uniform, width⟩

end Tells

/-! ## The totals along a run -/

/-- Where a session stands, by its stage. -/
def Stands (id : Uuid) (bound : Nat) (state : Browsing) : Prop :=
  match state.outcome with
  | .running call =>
      call.connectionId = id ∧ call.pagesToVisit.toNat = bound ∧
        match call.stage with
        | .connecting => state.pages = [] ∧ state.page = {}
        | .mainPage page resources _ =>
            state.pages.length = page ∧ page < bound ∧ state.page = {} ∧
              state.numResources = resources
        | .resources page waiting inFlight allSuccessful =>
            state.pages.length = page ∧ page < bound ∧ state.page.main = true ∧
              state.page.timedOut = false ∧
              state.page.succeeded + state.page.failed + inFlight.length + waiting =
                state.numResources ∧
              (allSuccessful = true ↔ state.page.failed = 0)
        | .thinking page => state.pages.length = page + 1 ∧ page < bound ∧ state.page = {}
  | .returned => state.pages.length = bound
  | .panicked _ _ => True

section Steps

variable {id : Uuid} {bound now : Nat} {state next : Browsing} {call : QuicCall}
  {label : QuicLabel} {effects : List Effect} {outcome : QuicOutcome}

theorem quiet_requestStep (id : Uuid) {request : Request} {event : RequestEvent}
    {result : List Effect × RequestResult} {own : Uuid}
    (taken : requestStep own request event = some result) :
    (result.1.map (Effect.errors id)).sum = 0 ∧ Effect.registrations result.1 = [] := by
  cases event <;> simp only [requestStep] at taken <;> (repeat' split at taken) <;>
    simp only [Option.some.injEq, reduceCtorEq] at taken <;> subst taken <;>
    simp [Effect.errors, Effect.registers]

/-- Effects that record no error of the connection keep what the totals tell. -/
theorem Tells.keep (tells : Tells id bound state)
    (silent : (effects.map (Effect.errors id)).sum = 0)
    (unregistered : id ∉ Effect.registrations effects)
    (shared : next.shared = Effect.applyAll now state.shared effects)
    (responses : next.successfulResponses = state.successfulResponses)
    (pages : next.pages = state.pages) : Tells id bound next where
  errors := by
    rw [shared, Effect.errorCount_applyAll now state.shared id unregistered, tells.errors, silent,
      pages]
    simp
  counted := by rw [responses, pages, tells.counted]
  lawful := by rw [pages]; exact tells.lawful
  length_le := by rw [pages]; exact tells.length_le

/-- A page that is over adds its error or its successes. -/
theorem Tells.extend {page : PageOutcomes} {made : UInt32} (tells : Tells id bound state)
    (recorded : (effects.map (Effect.errors id)).sum = if page.recorded then 1 else 0)
    (unregistered : id ∉ Effect.registrations effects) (lawful : page.Lawful)
    (added : made = UInt32.ofNat page.counted) (room : state.pages.length < bound)
    (shared : next.shared = Effect.applyAll now state.shared effects)
    (responses : next.successfulResponses = state.successfulResponses + made)
    (pages : next.pages = state.pages ++ [page]) : Tells id bound next where
  errors := by
    rw [shared, Effect.errorCount_applyAll now state.shared id unregistered, tells.errors,
      recorded, pages, List.countP_append, UInt64.ofNat_add]
    cases here : page.recorded <;> simp [here]
  counted := by
    rw [responses, pages, tells.counted, added, List.map_append, List.sum_append,
      UInt32.ofNat_add]
    simp
  lawful := by
    rw [pages]
    intro other member
    rcases List.mem_append.mp member with earlier | new
    · exact tells.lawful other earlier
    · rw [List.mem_singleton.mp new]
      exact lawful
  length_le := by
    rw [pages, List.length_append]
    exact room

/-- A step within a page, or from one page to the next. -/
theorem next_of_inside (running : state.outcome = .running call)
    (taken : quicStep call label = some (effects, outcome)) (inside : pageOver outcome = false)
    (step : browsingStep now state label = some next) :
    next = { state with
      shared := Effect.applyAll now state.shared effects
      outcome := outcome
      numResources := drawnResources state.numResources outcome
      page := state.page.after call label } := by
  simp only [browsingStep, running, taken, Option.map_some, inside, Bool.false_eq_true, if_false,
    Option.some.injEq] at step
  exact step.symm

/-- A step that ends a page. -/
theorem next_of_over (running : state.outcome = .running call)
    (taken : quicStep call label = some (effects, outcome)) (ended : pageOver outcome = true)
    (step : browsingStep now state label = some next) :
    next = { state with
      shared := Effect.applyAll now state.shared effects
      outcome := outcome
      totalRequests := state.totalRequests + (browsed call state.numResources label).getD 0
      successfulResponses :=
        state.successfulResponses + (browsed call state.numResources label).getD 0
      page := {}
      pages := state.pages ++ [state.page.after call label] } := by
  simp only [browsingStep, running, taken, Option.map_some, ended, if_true,
    Option.some.injEq] at step
  exact step.symm

theorem requestEnds_of_requestStep {request : Request} {event : RequestEvent} {own : Uuid}
    {result : List Effect × RequestResult} (taken : requestStep own request event = some result) :
    requestEnds own request event =
      match result.2 with
      | .ok => some true
      | .error _ => some false
      | .pending _ => none := by
  obtain ⟨made, outcome⟩ := result
  rw [requestEnds, taken]
  cases outcome <;> rfl

section Pages

variable {page : Nat} (tells : Tells id bound state) (running : state.outcome = .running call)
  (own : call.connectionId = id) (pages : call.pagesToVisit.toNat = bound)

include tells running own pages

/-- The head of the page loop. -/
theorem tells_of_nextPage {draw : Nat} (length : state.pages.length = page)
    (blank : state.page.after call label = {})
    (taken : quicStep call label = some (nextPage call page draw))
    (step : browsingStep now state label = some next) :
    Tells id bound next ∧ Stands id bound next := by
  by_cases more : page < call.pagesToVisit.toNat
  · cases drawn : genRange call.resourcesPerPage draw with
    | some resources =>
        simp only [nextPage, if_pos more, drawn] at taken
        obtain rfl := next_of_inside running taken rfl step
        refine ⟨tells.keep rfl (by simp) rfl rfl rfl, ?_⟩
        exact ⟨own, pages, length, pages ▸ more, blank, rfl⟩
    | none =>
        simp only [nextPage, if_pos more, drawn] at taken
        obtain rfl := next_of_inside running taken rfl step
        exact ⟨tells.keep rfl (by simp) rfl rfl rfl, trivial⟩
  · simp only [nextPage, if_neg more] at taken
    obtain rfl := next_of_inside running taken rfl step
    refine ⟨tells.keep rfl (by simp [Effect.registers]) rfl rfl rfl, ?_⟩
    have done := tells.length_le
    simp only [Stands]
    omega

/-- `browse_page` returns `Err`. -/
theorem tells_of_pageFailed {message : String} (length : state.pages.length = page)
    (room : page < bound) (silent : (effects.map (Effect.errors id)).sum = 0)
    (unregistered : Effect.registrations effects = [])
    (recorded : (state.page.after call label).recorded = true)
    (lawful : (state.page.after call label).Lawful)
    (unbrowsed : browsed call state.numResources label = none)
    (taken : quicStep call label =
      some (effects ++ (pageFailed call page message).1, (pageFailed call page message).2))
    (step : browsingStep now state label = some next) :
    Tells id bound next ∧ Stands id bound next := by
  obtain rfl := next_of_over running taken rfl step
  refine ⟨tells.extend ?_ ?_ lawful ?_ (length ▸ room) rfl rfl rfl, ?_⟩
  · simp [silent, pageFailed, Effect.errors, own, recorded]
  · have later : Effect.registrations (pageFailed call page message).1 = [] := by
      simp [pageFailed, Effect.registers]
    rw [Effect.registrations, List.filterMap_append]
    rw [Effect.registrations] at unregistered later
    rw [unregistered, later]
    simp
  · simp [unbrowsed, PageOutcomes.counted, recorded]
  · exact ⟨own, pages, by simp [length], room, rfl⟩

/-- A request of the page succeeded or was a failed resource: the page is over if it was
the last one. -/
theorem tells_of_collect {waiting : Nat} {inFlight : List Request} {allSuccessful : Bool}
    (length : state.pages.length = page) (room : page < bound)
    (silent : (effects.map (Effect.errors id)).sum = 0)
    (unregistered : Effect.registrations effects = [])
    (main : (state.page.after call label).main = true)
    (inTime : (state.page.after call label).timedOut = false)
    (total : (state.page.after call label).succeeded + (state.page.after call label).failed +
      inFlight.length + waiting = state.numResources)
    (successful : allSuccessful = true ↔ (state.page.after call label).failed = 0)
    (returned : browsed call state.numResources label =
      some (successfulRequests state.numResources allSuccessful))
    (taken : quicStep call label =
      some (effects, collectResources call page waiting inFlight allSuccessful))
    (step : browsingStep now state label = some next) :
    Tells id bound next ∧ Stands id bound next := by
  have unknown : id ∉ Effect.registrations effects := by simp [unregistered]
  by_cases ended : 0 < call.concurrentRequests.toNat ∧ waiting = 0 ∧ inFlight = []
  · simp only [collectResources, if_pos ended] at taken
    obtain rfl := next_of_over running taken rfl step
    have unrecorded : (state.page.after call label).recorded = false := by
      simp [PageOutcomes.recorded, main, inTime]
    refine ⟨tells.extend ?_ unknown ?_ ?_ (length ▸ room) rfl rfl rfl, ?_⟩
    · rw [silent, unrecorded]
      rfl
    · intro absent
      rw [main] at absent
      cases absent
    · rw [returned, Option.getD_some, PageOutcomes.counted, unrecorded]
      rw [ended.2.1, ended.2.2, List.length_nil] at total
      cases all : allSuccessful with
      | true =>
          have none := successful.mp all
          simp only [successfulRequests, Bool.false_eq_true, if_false, if_true, none]
          rw [none, Nat.add_zero] at total
          rw [← total, UInt32.ofNat_add]
          rfl
      | false =>
          have some' : ¬(state.page.after call label).failed = 0 := by
            rw [← successful, all]
            exact Bool.false_ne_true
          simp [successfulRequests, some']
    · exact ⟨own, pages, by simp [length], room, rfl⟩
  · simp only [collectResources, if_neg ended] at taken
    obtain rfl := next_of_inside running taken rfl step
    exact ⟨tells.keep silent unknown rfl rfl rfl,
      own, pages, length, room, main, inTime, total, successful⟩

/-- The main request of a page takes a step. -/
theorem tells_of_mainRequest {resources : Nat} {request : Request} {event : RequestEvent}
    (stage : call.stage = .mainPage page resources request)
    (length : state.pages.length = page) (room : page < bound) (blank : state.page = {})
    (drawn : state.numResources = resources)
    (taken : quicStep call (.mainRequest event) = some (effects, outcome))
    (step : browsingStep now state (.mainRequest event) = some next) :
    Tells id bound next ∧ Stands id bound next := by
  have moved := taken
  simp only [quicStep, stage] at moved
  obtain ⟨⟨made, came⟩, requested, same⟩ := Option.map_eq_some_iff.mp moved
  obtain ⟨silent, unregistered⟩ := quiet_requestStep id requested
  have ends := requestEnds_of_requestStep requested
  cases came with
  | pending later =>
      obtain ⟨rfl, rfl⟩ := Prod.mk.inj same
      obtain rfl := next_of_inside running taken rfl step
      refine ⟨tells.keep silent (by simp [unregistered]) rfl rfl rfl, own, pages, length, room, ?_,
        rfl⟩
      simp [PageOutcomes.after, stage, ends, blank]
  | ok =>
      obtain ⟨rfl, rfl⟩ := Prod.mk.inj same
      have after : state.page.after call (.mainRequest event) = { main := true } := by
        simp [PageOutcomes.after, stage, ends]
      refine tells_of_collect tells running own pages length room silent unregistered ?_ ?_ ?_ ?_ ?_
        taken step
      · rw [after]
      · rw [after]
      · rw [after, drawn]
        simp
      · rw [after]
        simp
      · simp [browsed, stage, ends]
  | error message =>
      obtain ⟨rfl, rfl⟩ := Prod.mk.inj same
      have after : state.page.after call (.mainRequest event) = {} := by
        simp [PageOutcomes.after, stage, ends]
      refine tells_of_pageFailed tells running own pages length room silent unregistered ?_ ?_ ?_
        taken step
      · rw [after]
        rfl
      · rw [after]
        exact fun _ => ⟨rfl, rfl, rfl⟩
      · simp [browsed, stage, ends]

section Resources

variable {waiting : Nat} {inFlight : List Request} {allSuccessful : Bool}
  (stage : call.stage = .resources page waiting inFlight allSuccessful)
  (length : state.pages.length = page) (room : page < bound) (main : state.page.main = true)

include stage length room main

/-- The time over all resources of a page runs out. -/
theorem tells_of_resourcesTimedOut
    (taken : quicStep call .resourcesTimedOut =
      some (pageFailed call page "deadline has elapsed"))
    (step : browsingStep now state .resourcesTimedOut = some next) :
    Tells id bound next ∧ Stands id bound next := by
  have after : state.page.after call .resourcesTimedOut = { state.page with timedOut := true } := by
    simp [PageOutcomes.after, stage]
  refine tells_of_pageFailed tells running own pages length room
    (show (([] : List Effect).map (Effect.errors id)).sum = 0 from rfl) rfl ?_ ?_ ?_ taken step
  · rw [after]
    simp [PageOutcomes.recorded]
  · rw [after]
    intro absent
    exact absurd (main.symm.trans absent) (by decide)
  · simp [browsed, stage]

variable (inTime : state.page.timedOut = false)
  (total : state.page.succeeded + state.page.failed + inFlight.length + waiting =
    state.numResources)
  (successful : allSuccessful = true ↔ state.page.failed = 0)

include inTime total successful

/-- Another resource of a page is requested. -/
theorem tells_of_startResource {draw : Nat}
    (taken : quicStep call (.startResource draw) = some (effects, outcome))
    (step : browsingStep now state (.startResource draw) = some next) :
    Tells id bound next ∧ Stands id bound next := by
  have after : state.page.after call (.startResource draw) = state.page := by
    simp [PageOutcomes.after, stage]
  have moved := taken
  simp only [quicStep, stage] at moved
  split at moved
  · rename_i startable
    obtain ⟨rfl, rfl⟩ := Prod.mk.inj (Option.some.inj moved)
    obtain rfl := next_of_inside running taken rfl step
    refine ⟨tells.keep rfl (by simp) rfl rfl rfl, own, pages, length, room, ?_⟩
    simp only [after, List.length_append, List.length_singleton]
    refine ⟨main, inTime, ?_, successful⟩
    simp only [drawnResources]
    omega
  · cases moved

/-- A resource of a page takes a step. -/
theorem tells_of_resource {index : Nat} {event : RequestEvent}
    (taken : quicStep call (.resource index event) = some (effects, outcome))
    (step : browsingStep now state (.resource index event) = some next) :
    Tells id bound next ∧ Stands id bound next := by
  have moved := taken
  simp only [quicStep, stage] at moved
  split at moved
  · cases moved
  · rename_i request found
    obtain ⟨inRange, -⟩ := List.getElem?_eq_some_iff.mp found
    obtain ⟨⟨made, came⟩, requested, same⟩ := Option.map_eq_some_iff.mp moved
    obtain ⟨silent, unregistered⟩ := quiet_requestStep id requested
    have ends := requestEnds_of_requestStep requested
    have left := List.length_eraseIdx_of_lt inRange
    cases came with
    | pending later =>
        obtain ⟨rfl, rfl⟩ := Prod.mk.inj same
        have after : state.page.after call (.resource index event) = state.page := by
          simp [PageOutcomes.after, stage, found, ends]
        obtain rfl := next_of_inside running taken rfl step
        refine ⟨tells.keep silent (by simp [unregistered]) rfl rfl rfl, own, pages, length, room,
          ?_⟩
        simp only [after, List.length_set]
        exact ⟨main, inTime, total, successful⟩
    | ok =>
        obtain ⟨rfl, rfl⟩ := Prod.mk.inj same
        have after : state.page.after call (.resource index event) =
            { state.page with succeeded := state.page.succeeded + 1 } := by
          simp [PageOutcomes.after, stage, found, ends]
        refine tells_of_collect tells running own pages length room silent unregistered ?_ ?_ ?_ ?_
          ?_ taken step
        · rw [after, main]
        · rw [after, inTime]
        · rw [after, left]
          simp only
          omega
        · rw [after]
          exact successful
        · simp [browsed, stage, found, ends]
    | error message =>
        obtain ⟨rfl, rfl⟩ := Prod.mk.inj same
        have after : state.page.after call (.resource index event) =
            { state.page with failed := state.page.failed + 1 } := by
          simp [PageOutcomes.after, stage, found, ends]
        refine tells_of_collect tells running own pages length room silent unregistered ?_ ?_ ?_ ?_
          ?_ taken step
        · rw [after, main]
        · rw [after, inTime]
        · rw [after, left]
          simp only
          omega
        · rw [after]
          simp
        · simp [browsed, stage, found, ends]

end Resources

end Pages

/-- Every step of a connected session keeps what the totals tell. -/
theorem tells_of_step (tells : Tells id bound state) (stands : Stands id bound state)
    (connects : label.failsConnect = false)
    (step : (browsingMachine now).step state label = some next) :
    Tells id bound next ∧ Stands id bound next := by
  change browsingStep now state label = some next at step
  cases running : state.outcome with
  | returned | panicked => simp [browsingStep, running] at step
  | running call =>
      rw [Stands, running] at stands
      obtain ⟨own, pages, place⟩ := stands
      cases taken : quicStep call label with
      | none => simp [browsingStep, running, taken] at step
      | some result =>
          have moved := taken
          unfold quicStep at moved
          split at moved
          · rename_i draw stage
            rw [stage] at place
            obtain ⟨none, blank⟩ := place
            refine tells_of_nextPage tells running own pages (by simp [none]) ?_
              (taken.trans moved.symm) step
            simp [PageOutcomes.after, stage, blank]
          · cases connects
          · cases connects
          · rename_i page resources request event stage
            rw [stage] at place
            obtain ⟨length, room, blank, drawn⟩ := place
            exact tells_of_mainRequest tells running own pages stage length room blank drawn taken
              step
          · rename_i page waiting inFlight allSuccessful draw stage
            rw [stage] at place
            obtain ⟨length, room, main, inTime, total, successful⟩ := place
            exact tells_of_startResource tells running own pages stage length room main inTime
              total successful taken step
          · rename_i page waiting inFlight allSuccessful index event stage
            rw [stage] at place
            obtain ⟨length, room, main, inTime, total, successful⟩ := place
            exact tells_of_resource tells running own pages stage length room main inTime total
              successful taken step
          · rename_i page waiting inFlight allSuccessful stage
            rw [stage] at place
            obtain ⟨length, room, main, -⟩ := place
            exact tells_of_resourcesTimedOut tells running own pages stage length room main
              (taken.trans moved.symm) step
          · rename_i page draw stage
            rw [stage] at place
            obtain ⟨length, room, blank⟩ := place
            refine tells_of_nextPage tells running own pages length ?_
              (taken.trans moved.symm) step
            simp [PageOutcomes.after, stage, blank]
          · cases moved

end Steps

section Runs

variable {shared : SharedState} {call : QuicCall} {now : Nat} {last : Browsing}
  {steps : List (Browsing × QuicLabel)}

theorem tells_of_run (run : (browsingMachine now).Run (startBrowsing shared call) steps last)
    (fresh : shared.metrics.errorCount call.connectionId = some 0)
    (connects : ∀ entry ∈ steps, entry.2.failsConnect = false) :
    Tells call.connectionId call.pagesToVisit.toNat last ∧
      Stands call.connectionId call.pagesToVisit.toNat last :=
  run.invariant_under (fun _ label => label.failsConnect = false)
    (fun state => Tells call.connectionId call.pagesToVisit.toNat state ∧
      Stands call.connectionId call.pagesToVisit.toNat state) connects
    ⟨⟨fresh, rfl, by simp [startBrowsing], Nat.zero_le _⟩, rfl, rfl, rfl, rfl⟩
    (fun _ _ _ holds connects step => tells_of_step holds.1 holds.2 connects step)

/-- A session that connects and comes to its end shows the requests of all its pages
exactly if on every page all of the resources succeed or none does, in time, and
failed resources come with a failed main request. -/
theorem visible_iff_shown (run : (browsingMachine now).Run (startBrowsing shared call) steps last)
    (fresh : shared.metrics.errorCount call.connectionId = some 0)
    (connects : ∀ entry ∈ steps, entry.2.failsConnect = false)
    (ended : last.outcome = .returned) :
    last.pages.length = call.pagesToVisit.toNat ∧
      (Visible call.connectionId last ↔ Shown last.pages) := by
  obtain ⟨tells, stands⟩ := tells_of_run run fresh connects
  rw [Stands, ended] at stands
  exact ⟨stands, tells.visible_iff call.pagesToVisit.toNat_lt⟩

end Runs

/-! ## One page with two resources -/

def onePage : QuicCall :=
  { pagesToVisit := 1, resourcesPerPage := (2, 2), concurrentRequests := 2, connectionId := ⟨1⟩
    server := ⟨"127.0.0.1:8080"⟩, stage := .connecting }

/-- The collector with the connection of the session. -/
def registered : SharedState :=
  { pool := .new [⟨"127.0.0.1:8080"⟩] (.asGiven _ (by decide)) {}
    metrics := MetricsCollector.startConnection 0 {} ⟨1⟩ .quic }

def mainSucceeds : List QuicLabel :=
  [.connected 0, .mainRequest .sent, .mainRequest (.responded 1024 5), .startResource 3,
    .startResource 3, .resource 0 .sent, .resource 0 (.responded 512 5)]

def bothSucceed : List QuicLabel :=
  mainSucceeds ++ [.resource 0 .sent, .resource 0 (.responded 512 5), .thinkOver 0]

/-- The second resource comes back empty. -/
def oneFails : List QuicLabel :=
  mainSucceeds ++ [.resource 0 .sent, .resource 0 (.responded 0 5), .thinkOver 0]

theorem visible_iff_shown_bothSucceed :
    ∃ last, (browsingMachine 0).play (startBrowsing registered onePage) bothSucceed = some last ∧
      Visible ⟨1⟩ last := by
  obtain ⟨last, played, same⟩ := Option.map_eq_some_iff.mp
    (show ((browsingMachine 0).play (startBrowsing registered onePage) bothSucceed).map
        (fun last => (last.outcome, last.pages)) =
      some (.returned, [{ main := true, succeeded := 2 }]) by decide +kernel)
  obtain ⟨ended, pages⟩ := Prod.mk.inj same
  have connects : ∀ entry ∈ (browsingMachine 0).trace (startBrowsing registered onePage) bothSucceed,
      entry.2.failsConnect = false := by
    intro entry member
    have all : ∀ label ∈ bothSucceed, label.failsConnect = false := by decide
    exact all entry.2 (Machine.label_mem_of_trace member)
  refine ⟨last, played, (visible_iff_shown (Machine.run_of_play played) rfl connects ended).2.mpr ?_⟩
  rw [pages]
  exact ⟨by simp [PageOutcomes.Uniform], by simp, by decide⟩

/-- Three requests are made, two succeed, one is counted, and there is no error. -/
theorem failed_resource_hidden :
    ∃ last, (browsingMachine 0).play (startBrowsing registered onePage) oneFails = some last ∧
      last.outcome = .returned ∧
      last.pages = [{ main := true, succeeded := 1, failed := 1 }] ∧
      last.successfulResponses = 1 ∧ last.shared.metrics.errorCount ⟨1⟩ = some 0 ∧
      ¬Visible ⟨1⟩ last := by
  obtain ⟨last, played, same⟩ := Option.map_eq_some_iff.mp
    (show ((browsingMachine 0).play (startBrowsing registered onePage) oneFails).map
        (fun last => (last.outcome, last.pages, last.successfulResponses,
          last.shared.metrics.errorCount ⟨1⟩)) =
      some (.returned, [{ main := true, succeeded := 1, failed := 1 }], 1, some 0) by
      decide +kernel)
  obtain ⟨ended, rest⟩ := Prod.mk.inj same
  obtain ⟨pages, rest⟩ := Prod.mk.inj rest
  obtain ⟨responses, errors⟩ := Prod.mk.inj rest
  refine ⟨last, played, ended, pages, responses, errors, ?_⟩
  rintro ⟨shows, -⟩
  obtain ⟨count, same, positive⟩ := shows ⟨_, by rw [pages]; exact List.mem_singleton_self _, rfl⟩
  obtain rfl := Option.some.inj (errors.symm.trans same)
  exact absurd positive (by decide)

end Npt.Client
