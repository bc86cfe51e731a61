/-
Module: LiveRelay.ChannelSet
Purpose: The fixed set of channels that a topic accepts, kept in the order of their bytes.
Main exports: Channel, ChannelSet, ChannelSet.insert, ChannelSet.ofList, ChannelSet.numbered,
  ChannelSet.mem_ofList, ChannelSet.ofList_channels
-/
import LiveRelay.Text.Decimal
import LiveRelay.Text.Utf8

namespace LiveRelay

open Text

/-- The name of one logical stream within a topic. Nothing about it is normalized. -/
abbrev Channel := String

/-- Channels without repetition, in increasing order of their bytes. -/
structure ChannelSet where
  channels : List Channel
  increasing : channels.Pairwise BytesBefore
deriving DecidableEq, Repr

namespace ChannelSet

/-- The set with no channels. -/
def empty : ChannelSet := ⟨[], .nil⟩

instance : Inhabited ChannelSet := ⟨empty⟩

/-- Put a channel at its place in an increasing list, unless it is there already. -/
def insertOrdered (channel : Channel) : List Channel → List Channel
  | [] => [channel]
  | first :: others =>
    if BytesBefore channel first then channel :: first :: others
    else if channel = first then first :: others
    else first :: insertOrdered channel others

theorem mem_insertOrdered {channel other : Channel} {channels : List Channel} :
    other ∈ insertOrdered channel channels ↔ other = channel ∨ other ∈ channels := by
  induction channels with
  | nil => simp [insertOrdered]
  | cons first others ih =>
    simp only [insertOrdered]
    split
    · simp
    · split
      · next same => subst same; simp
      · simp only [List.mem_cons, ih]
        exact or_left_comm

theorem pairwise_insertOrdered {channel : Channel} {channels : List Channel}
    (increasing : channels.Pairwise BytesBefore) :
    (insertOrdered channel channels).Pairwise BytesBefore := by
  induction channels with
  | nil => simp [insertOrdered]
  | cons first others ih =>
    obtain ⟨below, rest⟩ := List.pairwise_cons.1 increasing
    simp only [insertOrdered]
    split
    · next before =>
      refine List.pairwise_cons.2 ⟨fun other member => ?_, increasing⟩
      rcases List.mem_cons.1 member with rfl | member
      · exact before
      · exact before.trans (below other member)
    · next not_before =>
      split
      · exact increasing
      · next different =>
        refine List.pairwise_cons.2 ⟨fun other member => ?_, ih rest⟩
        rcases mem_insertOrdered.1 member with rfl | member
        · exact BytesBefore.of_not not_before different
        · exact below other member

/-- Add a channel. -/
def insert (set : ChannelSet) (channel : Channel) : ChannelSet :=
  ⟨insertOrdered channel set.channels, pairwise_insertOrdered set.increasing⟩

/-- The set of the channels in a list. -/
def ofList (channels : List Channel) : ChannelSet :=
  channels.foldr (fun channel set => set.insert channel) empty

/-- Whether a channel belongs to the set. -/
def contains (set : ChannelSet) (channel : Channel) : Bool := set.channels.contains channel

/-- The number of channels. -/
def size (set : ChannelSet) : Nat := set.channels.length

/-- Whether the set has no channels. -/
def isEmpty (set : ChannelSet) : Bool := set.channels.isEmpty

/-- The channels named by the numbers of a range, both ends included, each padded with zeros to a
width. -/
def numbered (first last : UInt32) (width : Nat) : ChannelSet :=
  ofList ((List.range' first.toNat (last.toNat + 1 - first.toNat)).map fun n =>
    String.ofList (zeroPadded width n))

/-- Channels `01` to `16`, which a topic accepts unless it is configured otherwise. -/
def standard : ChannelSet := numbered 1 16 2

theorem mem_insert {set : ChannelSet} {channel other : Channel} :
    other ∈ (set.insert channel).channels ↔ other = channel ∨ other ∈ set.channels :=
  mem_insertOrdered

/-- A set built from a list holds exactly the channels of the list. -/
theorem mem_ofList {channels : List Channel} {channel : Channel} :
    channel ∈ (ofList channels).channels ↔ channel ∈ channels := by
  induction channels with
  | nil => simp [ofList, empty]
  | cons first others ih =>
    simp only [ofList, List.foldr_cons, List.mem_cons] at ih ⊢
    rw [mem_insert, ih]

/-- A channel that stands before all others is put in front of them. -/
theorem insertOrdered_of_before {channel : Channel} {channels : List Channel}
    (before : ∀ other ∈ channels, BytesBefore channel other) :
    insertOrdered channel channels = channel :: channels := by
  cases channels with
  | nil => rfl
  | cons first others => rw [insertOrdered, if_pos (before first List.mem_cons_self)]

/-- A list that is in order already is the list of the set built from it. -/
theorem channels_ofList {channels : List Channel} (increasing : channels.Pairwise BytesBefore) :
    (ofList channels).channels = channels := by
  induction channels with
  | nil => rfl
  | cons first others ih =>
    obtain ⟨before, rest⟩ := List.pairwise_cons.1 increasing
    have step : (ofList (first :: others)).channels =
        insertOrdered first (ofList others).channels := rfl
    rw [step, ih rest, insertOrdered_of_before before]

/-- A set is built again from its own channels. -/
theorem ofList_channels (set : ChannelSet) : ofList set.channels = set := by
  have same : (ofList set.channels).channels = set.channels := channels_ofList set.increasing
  obtain ⟨channels, increasing⟩ := set
  exact (ChannelSet.mk.injEq ..).mpr same

theorem contains_iff {set : ChannelSet} {channel : Channel} :
    set.contains channel = true ↔ channel ∈ set.channels := by
  simp [contains]

end ChannelSet

end LiveRelay
