import Mathlib.Data.List.Basic

/-!
Contract: reliable first-in first-out channels with their history.

Owns: sending, receiving, and what has been sent.

Does not own: who sends or receives, or how many messages may be in flight.
-/

namespace Npt.Core

/-- The messages that were received, and those that are on their way. -/
structure Channel (Message : Type) where
  delivered : List Message := []
  inFlight : List Message := []
deriving DecidableEq, Repr

namespace Channel

variable {Message : Type} (channel : Channel Message) (message : Message)

def sent : List Message := channel.delivered ++ channel.inFlight

def send : Channel Message := { channel with inFlight := channel.inFlight ++ [message] }

/-- The next message, and the channel without it. -/
def receive? : Option (Message × Channel Message) :=
  match channel.inFlight with
  | [] => none
  | message :: rest => some (message, ⟨channel.delivered ++ [message], rest⟩)

/-- The channel as a function of its messages shows it. -/
def map {Image : Type} (image : Message → Image) : Channel Image where
  delivered := channel.delivered.map image
  inFlight := channel.inFlight.map image

@[simp] theorem sent_mk (delivered inFlight : List Message) :
    sent ⟨delivered, inFlight⟩ = delivered ++ inFlight := rfl

@[simp] theorem receive?_nil (delivered : List Message) :
    receive? ⟨delivered, []⟩ = none := rfl

@[simp] theorem receive?_cons (delivered rest : List Message) :
    receive? ⟨delivered, message :: rest⟩ = some (message, ⟨delivered ++ [message], rest⟩) := rfl

section Map

variable {Image : Type} (image : Message → Image)

theorem sent_map : (channel.map image).sent = channel.sent.map image := by
  simp [map, sent]

@[simp] theorem map_send : (channel.send message).map image =
    (channel.map image).send (image message) := by
  simp [map, send]

/-- What arrives is what the image of the channel holds next. -/
theorem receive?_map {rest : Channel Message} (arrived : channel.receive? = some (message, rest)) :
    (channel.map image).receive? = some (image message, rest.map image) := by
  obtain ⟨delivered, inFlight⟩ := channel
  cases inFlight with
  | nil => simp at arrived
  | cons next later =>
      obtain ⟨rfl, rfl⟩ := Prod.mk.inj (Option.some.inj arrived)
      simp [map, receive?]

theorem isSome_receive?_map : ((channel.map image).receive?).isSome = channel.receive?.isSome := by
  obtain ⟨delivered, inFlight⟩ := channel
  cases inFlight <;> rfl

end Map

/-- What arrives was in flight, and what is left still is. -/
theorem inFlight_of_receive? {channel rest : Channel Message} {message : Message}
    (arrived : channel.receive? = some (message, rest)) :
    channel.inFlight = message :: rest.inFlight := by
  obtain ⟨delivered, inFlight⟩ := channel
  cases inFlight with
  | nil => simp at arrived
  | cons next later =>
      obtain ⟨rfl, rfl⟩ := Prod.mk.inj (Option.some.inj arrived)
      rfl

/-- What arrives is delivered, and was sent before. -/
theorem delivered_of_receive? {channel rest : Channel Message} {message : Message}
    (arrived : channel.receive? = some (message, rest)) :
    rest.delivered = channel.delivered ++ [message] ∧ rest.sent = channel.sent := by
  obtain ⟨delivered, inFlight⟩ := channel
  cases inFlight with
  | nil => simp at arrived
  | cons next later =>
      obtain ⟨rfl, rfl⟩ := Prod.mk.inj (Option.some.inj arrived)
      simp

@[simp] theorem sent_send : (channel.send message).sent = channel.sent ++ [message] := by
  simp [send, sent]

end Channel

end Npt.Core
