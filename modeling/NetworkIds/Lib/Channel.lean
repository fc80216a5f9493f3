import Mathlib.Data.List.Perm.Basic
import Mathlib.Tactic.Common

set_option autoImplicit false

-- A first-in first-out channel of a fixed size between a sender that does not wait
-- and a receiver: an item that finds the channel full is lost.
structure Channel (α : Type) (capacity : Nat) where
  items : List α
  bounded : items.length ≤ capacity

namespace Channel

variable {α : Type} {capacity : Nat}

def empty : Channel α capacity := ⟨[], Nat.zero_le capacity⟩

theorem room_for_one (items : List α) (item : α) (room : items.length < capacity) :
    (items ++ [item]).length ≤ capacity := by
  rw [List.length_append]
  exact room

def trySend (channel : Channel α capacity) (item : α) : Channel α capacity × Bool :=
  if room : channel.items.length < capacity then
    (⟨channel.items ++ [item], room_for_one channel.items item room⟩, true)
  else (channel, false)

def recv (channel : Channel α capacity) : Option (α × Channel α capacity) :=
  match channel with
  | ⟨[], _⟩ => none
  | ⟨item :: rest, bounded⟩ => some (item, ⟨rest, Nat.le_of_succ_le bounded⟩)

theorem try_send_room (channel : Channel α capacity) (item : α) (room : channel.items.length < capacity) :
    (channel.trySend item).1.items = channel.items ++ [item] ∧ (channel.trySend item).2 = true := by
  rw [trySend, dif_pos room]
  exact ⟨rfl, rfl⟩

theorem try_send_full (channel : Channel α capacity) (item : α) (full : ¬channel.items.length < capacity) :
    channel.trySend item = (channel, false) := dif_neg full

theorem recv_items (channel rest : Channel α capacity) (item : α) (received : channel.recv = some (item, rest)) :
    channel.items = item :: rest.items := by
  obtain ⟨items, bounded⟩ := channel
  cases items with
  | nil => cases received
  | cons first others =>
      cases received
      rfl

theorem recv_ready (channel : Channel α capacity) (waiting : channel.items ≠ []) :
    ∃ item rest, channel.recv = some (item, rest) := by
  obtain ⟨items, bounded⟩ := channel
  cases items with
  | nil => exact absurd rfl waiting
  | cons first others => exact ⟨first, _, rfl⟩

structure Traffic (α : Type) where
  offered : List α
  lost : List α
  received : List α

def Traffic.empty : Traffic α := ⟨[], [], []⟩

def Traffic.send (traffic : Traffic α) (channel : Channel α capacity) (item : α) : Traffic α where
  offered := traffic.offered ++ [item]
  lost := if (channel.trySend item).2 then traffic.lost else traffic.lost ++ [item]
  received := traffic.received

def Traffic.recv (traffic : Traffic α) (channel : Channel α capacity) : Traffic α where
  offered := traffic.offered
  lost := traffic.lost
  received := traffic.received ++ (channel.recv.map Prod.fst).toList

structure Carries (traffic : Traffic α) (channel : Channel α capacity) : Prop where
  inOrder : (traffic.received ++ channel.items).Sublist traffic.offered
  conserved : (traffic.received ++ channel.items ++ traffic.lost).Perm traffic.offered

variable {traffic : Traffic α} {channel : Channel α capacity}

theorem carries_empty : Carries (.empty : Traffic α) (empty : Channel α capacity) :=
  ⟨List.Sublist.refl _, List.Perm.refl _⟩

theorem Carries.sent (carries : Carries traffic channel) (item : α) :
    Carries (traffic.send channel item) (channel.trySend item).1 := by
  by_cases room : channel.items.length < capacity
  · obtain ⟨stored, accepted⟩ := try_send_room channel item room
    constructor
    · rw [stored, Traffic.send, ← List.append_assoc]
      exact carries.inOrder.append (List.Sublist.refl _)
    · rw [stored, Traffic.send, accepted, if_pos rfl]
      have moved : (traffic.received ++ (channel.items ++ [item]) ++ traffic.lost).Perm
          (traffic.received ++ channel.items ++ traffic.lost ++ [item]) := by
        rw [← List.append_assoc, List.append_assoc _ [item], List.append_assoc _ traffic.lost]
        exact List.Perm.append_left _ List.perm_append_comm
      exact moved.trans (carries.conserved.append_right [item])
  · rw [try_send_full channel item room]
    constructor
    · exact carries.inOrder.trans (List.sublist_append_left _ _)
    · rw [Traffic.send, try_send_full channel item room, if_neg Bool.false_ne_true, ← List.append_assoc]
      exact carries.conserved.append_right [item]

theorem Carries.taken (carries : Carries traffic channel) (item : α) (rest : Channel α capacity)
    (received : channel.recv = some (item, rest)) : Carries (traffic.recv channel) rest := by
  have content : traffic.received ++ channel.items = traffic.received ++ [item] ++ rest.items := by
    rw [recv_items channel rest item received, List.append_assoc, List.singleton_append]
  obtain ⟨inOrder, conserved⟩ := carries
  rw [content] at inOrder conserved
  rw [Traffic.recv, received]
  exact ⟨inOrder, conserved⟩

theorem Carries.offered_length (carries : Carries traffic channel) :
    traffic.offered.length = traffic.received.length + channel.items.length + traffic.lost.length := by
  rw [← carries.conserved.length_eq, List.length_append, List.length_append]

theorem Carries.lossless (carries : Carries traffic channel) (none : traffic.lost = []) :
    traffic.received ++ channel.items = traffic.offered := by
  apply carries.inOrder.eq_of_length
  rw [carries.offered_length, none, List.length_append]
  rfl

end Channel
