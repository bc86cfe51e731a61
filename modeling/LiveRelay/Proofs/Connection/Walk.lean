/-
Module: LiveRelay.Proofs.Connection.Walk
Purpose: Acting on connections one after another: what it leaves of each of them, and what it
  counts.
Main exports: Connections.eq_update, Connections.updateEach,
  Connections.getElem?_updateEach_of_mem, snd_sendEach, snd_probeEach, terminateEach_eq,
  terminated_probeEach
-/
import LiveRelay.Proofs.Connection.Bond

namespace LiveRelay

namespace Connections

variable {conns : Connections} {ref other : ConnRef} {refs : List ConnRef}
  {f : Connection → Connection}

/-! ### One connection -/

theorem getElem?_update_self : (conns.update ref f)[ref]? = conns[ref]?.map f := by
  simp [update]

theorem getElem?_update_of_ne (different : ref ≠ other) :
    (conns.update ref f)[other]? = conns[other]? := by
  simp [update, different]

/-- Connections of which one was done something to and all others are as they were. -/
theorem eq_update {after : Connections} (self : after[ref]? = conns[ref]?.map f)
    (others : ∀ other, ref ≠ other → after[other]? = conns[other]?) :
    after = conns.update ref f := by
  apply List.ext_getElem?
  intro other
  by_cases same : ref = other
  · subst same
    rw [getElem?_update_self, self]
  · rw [getElem?_update_of_ne same, others other same]

theorem update_append_length (conn : Connection) :
    Connections.update (conns ++ [conn]) conns.length f = conns ++ [f conn] := by
  symm
  apply eq_update
  · rw [List.getElem?_concat_length, List.getElem?_concat_length]
    rfl
  · intro other different
    rcases Nat.lt_or_gt_of_ne different with after | before
    · simp [List.getElem?_append_right (Nat.le_of_lt after), Nat.sub_ne_zero_of_lt after]
    · rw [List.getElem?_append_left before, List.getElem?_append_left before]

/-- What acting on a connection leaves does not depend on the answer. -/
theorem snd_act {α : Type} (f : Connection → α × Connection) :
    (conns.act ref f).2 = conns.update ref fun conn => (f conn).2 := by
  apply eq_update
  · unfold act
    split
    · next absent => rw [absent]; rfl
    · next conn present =>
      have within : ref < conns.length := (List.getElem?_eq_some_iff.1 present).1
      rw [present, List.getElem?_set_self within]
      rfl
  · intro other different
    unfold act
    split
    · rfl
    · rw [List.getElem?_set_ne different]

theorem fst_act {α : Type} (f : Connection → α × Connection) :
    (conns.act ref f).1 = conns[ref]?.map fun conn => (f conn).1 := by
  unfold act
  split
  · next absent => rw [absent]; rfl
  · next conn present => rw [present]; rfl

theorem map_bond_update (kept : ∀ conn, (f conn).bond = conn.bond) :
    (conns.update ref f).map Connection.bond = conns.map Connection.bond := by
  apply List.ext_getElem?
  intro i
  by_cases same : ref = i
  · subst same
    simp [getElem?_update_self, Function.comp_def, kept]
  · simp [getElem?_update_of_ne same]

theorem map_bond_update_close (ref : ConnRef) :
    (conns.update ref fun conn => conn.beginClose.finishClose).map Connection.bond =
      (conns.map Connection.bond).modify ref Bond.gone := by
  apply List.ext_getElem?
  intro i
  rw [List.getElem?_map]
  by_cases same : ref = i
  · subst same
    rw [getElem?_update_self, List.getElem?_modify_eq, List.getElem?_map]
    cases conns[ref]? with
    | none => rfl
    | some conn => exact congrArg some conn.bond_close
  · rw [getElem?_update_of_ne same, List.getElem?_modify_ne _ _ same, List.getElem?_map]

/-! ### Several connections -/

/-- Do something to each of some connections; the others stay as they are. -/
def updateEach (conns : Connections) (refs : List ConnRef) (f : Connection → Connection) :
    Connections :=
  refs.foldl (fun conns ref => conns.update ref f) conns

theorem updateEach_cons :
    conns.updateEach (ref :: refs) f = (conns.update ref f).updateEach refs f := rfl

theorem getElem?_updateEach_of_not_mem (absent : other ∉ refs) :
    (conns.updateEach refs f)[other]? = conns[other]? := by
  induction refs generalizing conns with
  | nil => rfl
  | cons ref others ih =>
      have different : ref ≠ other := fun same => absent (same ▸ List.mem_cons_self)
      have rest : other ∉ others := fun member => absent (List.mem_cons_of_mem ref member)
      rw [updateEach_cons, ih rest, getElem?_update_of_ne different]

/-- A connection that is named once is acted on once. -/
theorem getElem?_updateEach_of_mem (distinct : refs.Nodup) (member : other ∈ refs) :
    (conns.updateEach refs f)[other]? = conns[other]?.map f := by
  induction refs generalizing conns with
  | nil => cases member
  | cons ref others ih =>
      obtain ⟨absent, rest⟩ := List.nodup_cons.1 distinct
      rw [updateEach_cons]
      rcases List.mem_cons.1 member with rfl | member
      · rw [getElem?_updateEach_of_not_mem absent, getElem?_update_self]
      · have different : ref ≠ other := fun same => absent (same ▸ member)
        rw [ih rest member, getElem?_update_of_ne different]

theorem map_bond_updateEach (kept : ∀ conn, (f conn).bond = conn.bond) :
    (conns.updateEach refs f).map Connection.bond = conns.map Connection.bond := by
  induction refs generalizing conns with
  | nil => rfl
  | cons ref others ih => rw [updateEach_cons, ih, map_bond_update kept]

end Connections

open Connections

/-! ### The walks of a topic -/

theorem snd_sendEach (payload : Payload) (refs : List ConnRef) (conns : Connections) :
    (sendEach payload refs conns).2 =
      conns.updateEach refs fun conn => (conn.trySend payload).2 := by
  induction refs generalizing conns with
  | nil => rfl
  | cons ref others ih => rw [updateEach_cons, ← ih, ← snd_act]; rfl

theorem snd_probeEach (refs : List ConnRef) (conns : Connections) :
    (probeEach refs conns).2 = conns.updateEach refs fun conn => conn.probe.2 := by
  induction refs generalizing conns with
  | nil => rfl
  | cons ref others ih => rw [updateEach_cons, ← ih, ← snd_act]; rfl

theorem terminateEach_eq (refs : List ConnRef) (conns : Connections) :
    terminateEach refs conns = conns.updateEach refs Connection.terminate := by
  induction refs generalizing conns with
  | nil => rfl
  | cons ref others ih => rw [updateEach_cons, ← ih]; rfl

theorem ProbeReport.terminated_add (report : ProbeReport) (finding : ProbeFinding) :
    (report.add finding).terminated = report.terminated + if finding = .silent then 1 else 0 := by
  cases finding <;> rfl

/-- Whether a probe would find a connection silent. -/
def Connections.isSilent (conns : Connections) (ref : ConnRef) : Bool :=
  conns[ref]?.any fun conn => conn.probe.1 = .silent

/-- A round over different connections terminates those that it finds silent. -/
theorem terminated_probeEach {refs : List ConnRef} (distinct : refs.Nodup) (conns : Connections) :
    (probeEach refs conns).1.terminated = refs.countP conns.isSilent := by
  induction refs generalizing conns with
  | nil => rfl
  | cons ref others ih =>
      obtain ⟨absent, rest⟩ := List.nodup_cons.1 distinct
      have later : others.countP (conns.act ref Connection.probe).2.isSilent =
          others.countP conns.isSilent := by
        apply List.countP_congr
        intro other member
        have different : ref ≠ other := fun same => absent (same ▸ member)
        rw [isSilent, isSilent, snd_act, getElem?_update_of_ne different]
      have counted : (probeEach (ref :: others) conns).1 =
          (probeEach others (conns.act ref Connection.probe).2).1.add
            ((conns.act ref Connection.probe).1.getD .terminatedBefore) := rfl
      rw [counted, ProbeReport.terminated_add, List.countP_cons, ← later, ← ih rest, fst_act,
        isSilent]
      cases conns[ref]? with
      | none => rfl
      | some conn => simp

end LiveRelay
