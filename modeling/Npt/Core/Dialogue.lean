import Mathlib.Data.List.Basic

/-!
Contract: programs that talk to their surroundings: a program asks, is given a
reply, and goes on with it.

What a program does is the list of its exchanges, which may depend on every reply
given before. Nothing is assumed of the replies.

Owns: dialogues, their sequential composition and their loops over a list, the
exchanges and the result that a dialogue may have, the rule for what every
exchange of a dialogue may ask, and the rule for a loop.

Does not own: what is asked, or what the surroundings are.
-/

namespace Npt.Core

inductive Dialogue (Request : Type) (Reply : Request → Type) (Result : Type) where
  | done (result : Result)
  | ask (request : Request) (next : Reply request → Dialogue Request Reply Result)

/-- A request with the reply that it was given. -/
structure Exchange (Request : Type) (Reply : Request → Type) where
  request : Request
  reply : Reply request

namespace Dialogue

variable {Request : Type} {Reply : Request → Type} {Item Result Other : Type}

def bind (first : Dialogue Request Reply Result) (rest : Result → Dialogue Request Reply Other) :
    Dialogue Request Reply Other :=
  match first with
  | .done result => rest result
  | .ask request next => .ask request (fun reply => (next reply).bind rest)

/-- A dialogue for each item, one after the other. -/
def collect (talk : Item → Dialogue Request Reply Result) :
    List Item → Dialogue Request Reply (List Result)
  | [] => .done []
  | item :: rest =>
      (talk item).bind fun result => (collect talk rest).bind fun results =>
        .done (result :: results)

/-- The same for what the dialogues do. -/
def forEach (items : List Item) (talk : Item → Dialogue Request Reply Unit) :
    Dialogue Request Reply Unit :=
  (collect talk items).bind fun _ => .done ()

/-! ## What may be said -/

/-- A dialogue's exchanges and its result. -/
inductive Yields : Dialogue Request Reply Result → List (Exchange Request Reply) → Result → Prop where
  | done (result : Result) : Yields (.done result) [] result
  | ask {request : Request} {next : Reply request → Dialogue Request Reply Result}
      {reply : Reply request} {later : List (Exchange Request Reply)} {result : Result}
      (goesOn : Yields (next reply) later result) :
      Yields (.ask request next) (⟨request, reply⟩ :: later) result

variable {exchanges : List (Exchange Request Reply)}

@[simp] theorem yields_done_iff {value result : Result} :
    (done value : Dialogue Request Reply Result).Yields exchanges result ↔
      exchanges = [] ∧ result = value := by
  constructor
  · intro yields
    cases yields
    exact ⟨rfl, rfl⟩
  · rintro ⟨rfl, rfl⟩
    exact .done result

@[simp] theorem yields_ask_iff {request : Request}
    {next : Reply request → Dialogue Request Reply Result} {result : Result} :
    (ask request next).Yields exchanges result ↔
      ∃ reply later, exchanges = ⟨request, reply⟩ :: later ∧ (next reply).Yields later result := by
  constructor
  · intro yields
    cases yields with
    | ask goesOn => exact ⟨_, _, rfl, goesOn⟩
  · rintro ⟨reply, later, rfl, goesOn⟩
    exact .ask goesOn

/-- A composition says what its parts say. -/
@[simp] theorem yields_bind_iff {first : Dialogue Request Reply Result}
    {rest : Result → Dialogue Request Reply Other} {result : Other} :
    (first.bind rest).Yields exchanges result ↔
      ∃ before value after, exchanges = before ++ after ∧ first.Yields before value ∧
        (rest value).Yields after result := by
  induction first generalizing exchanges with
  | done value =>
      constructor
      · intro yields
        exact ⟨[], value, exchanges, rfl, .done value, yields⟩
      · rintro ⟨before, other, after, rfl, first, yields⟩
        obtain ⟨rfl, rfl⟩ := yields_done_iff.mp first
        exact yields
  | ask request next inductionHypothesis =>
      rw [bind, yields_ask_iff]
      constructor
      · rintro ⟨reply, later, rfl, goesOn⟩
        obtain ⟨before, value, after, rfl, first, last⟩ := (inductionHypothesis reply).mp goesOn
        exact ⟨⟨request, reply⟩ :: before, value, after, rfl, .ask first, last⟩
      · rintro ⟨before, value, after, rfl, first, last⟩
        obtain ⟨reply, later, rfl, goesOn⟩ := yields_ask_iff.mp first
        exact ⟨reply, later ++ after, rfl,
          (inductionHypothesis reply).mpr ⟨later, value, after, rfl, goesOn, last⟩⟩

/-- The rule for a loop: what holds of no exchanges, and is kept by each item's
exchanges before the others', holds of the loop. -/
theorem Yields.collect {talk : Item → Dialogue Request Reply Result} {items : List Item}
    {results : List Result} (yields : (collect talk items).Yields exchanges results)
    (motive : List (Exchange Request Reply) → List Item → List Result → Prop)
    (nil : motive [] [] [])
    (cons : ∀ item here result items later results, (talk item).Yields here result →
      motive later items results → motive (here ++ later) (item :: items) (result :: results)) :
    motive exchanges items results := by
  induction items generalizing exchanges results with
  | nil =>
      obtain ⟨rfl, rfl⟩ := yields_done_iff.mp yields
      exact nil
  | cons item items inductionHypothesis =>
      simp only [Dialogue.collect, yields_bind_iff, yields_done_iff] at yields
      obtain ⟨here, result, -, rfl, first, later, results, -, rfl, rest, rfl, rfl⟩ := yields
      rw [List.append_nil]
      exact cons item here result items later results first (inductionHypothesis rest)

theorem Yields.forEach {talk : Item → Dialogue Request Reply Unit} {items : List Item}
    {result : Unit} (yields : (forEach items talk).Yields exchanges result)
    (motive : List (Exchange Request Reply) → List Item → Prop) (nil : motive [] [])
    (cons : ∀ item here items later, (talk item).Yields here () → motive later items →
      motive (here ++ later) (item :: items)) :
    motive exchanges items := by
  simp only [Dialogue.forEach, yields_bind_iff, yields_done_iff] at yields
  obtain ⟨before, results, -, rfl, all, rfl, -⟩ := yields
  rw [List.append_nil]
  exact all.collect (fun log items _ => motive log items) nil
    (fun item here result items later _ => cons item here items later)

/-! ## What may be asked -/

/-- Whatever the replies, only such requests are made. -/
def Within (allowed : Request → Prop) : Dialogue Request Reply Result → Prop
  | .done _ => True
  | .ask request next => allowed request ∧ ∀ reply, (next reply).Within allowed

variable {allowed : Request → Prop}

theorem Within.bind {first : Dialogue Request Reply Result}
    {rest : Result → Dialogue Request Reply Other} (begins : first.Within allowed)
    (goesOn : ∀ result, (rest result).Within allowed) : (first.bind rest).Within allowed := by
  induction first with
  | done result => exact goesOn result
  | ask request next inductionHypothesis =>
      exact ⟨begins.1, fun reply => inductionHypothesis reply (begins.2 reply)⟩

theorem Within.collect {talk : Item → Dialogue Request Reply Result} {items : List Item}
    (each : ∀ item ∈ items, (talk item).Within allowed) :
    (Dialogue.collect talk items).Within allowed := by
  induction items with
  | nil => trivial
  | cons item items inductionHypothesis =>
      rw [List.forall_mem_cons] at each
      exact each.1.bind fun result => (inductionHypothesis each.2).bind fun results => trivial

theorem Within.forEach {talk : Item → Dialogue Request Reply Unit} {items : List Item}
    (each : ∀ item ∈ items, (talk item).Within allowed) :
    (Dialogue.forEach items talk).Within allowed :=
  (Within.collect each).bind fun _ => trivial

theorem Within.of_yields {dialogue : Dialogue Request Reply Result} {result : Result}
    (within : dialogue.Within allowed) (yields : dialogue.Yields exchanges result) :
    ∀ exchange ∈ exchanges, allowed exchange.request := by
  induction yields with
  | done => simp
  | ask goesOn inductionHypothesis =>
      rw [List.forall_mem_cons]
      exact ⟨within.1, inductionHypothesis (within.2 _)⟩

/-! ## Given surroundings -/

/-- The dialogue with surroundings whose replies may depend on all that was said. -/
def talk (surroundings : List (Exchange Request Reply) → (request : Request) → Reply request)
    (said : List (Exchange Request Reply)) :
    Dialogue Request Reply Result → List (Exchange Request Reply) × Result
  | .done result => ([], result)
  | .ask request next =>
      let reply := surroundings said request
      let later := talk surroundings (said ++ [⟨request, reply⟩]) (next reply)
      (⟨request, reply⟩ :: later.1, later.2)

theorem yields_talk
    (surroundings : List (Exchange Request Reply) → (request : Request) → Reply request)
    (said : List (Exchange Request Reply)) (dialogue : Dialogue Request Reply Result) :
    dialogue.Yields (talk surroundings said dialogue).1 (talk surroundings said dialogue).2 := by
  induction dialogue generalizing said with
  | done result => exact .done result
  | ask request next inductionHypothesis => exact .ask (inductionHypothesis _ _)

end Dialogue

end Npt.Core
