import RegisterMachine.Machine.Workstation
import RegisterMachine.Proofs.Machine.History
import RegisterMachine.Proofs.Machine.Service
import RegisterMachine.Proofs.Memory.Cells

/-! # Restarts

A front end keeps its workstation with nothing installed, lends memory and console to it for some cycles,
and restarts it from time to time. No cycle changes the choice of special registers, the number of cells
or what the console says when there is no input left (`SameEquipment`). A restart takes over nothing
else: it leaves every workstation of one make in the same state, whatever happened before
(`OfMake.restart_eq`).
-/

namespace RegisterMachine

/-! ## Lending -/

namespace Machine

variable {capacity : Nat} {μ δ : Type}

def install (m : Machine capacity μ δ) : Machine capacity μ δ :=
  { m with memoryInstalled := true, devicesInstalled := true }

theorem lend_eq {α : Type} (m : Machine capacity μ δ)
    (action : Machine capacity μ δ → α × Machine capacity μ δ) :
    m.lend action = ((action m.install).1, (action m.install).2.detach) := rfl

theorem install_detach_step [MemoryBus μ] [DeviceBus δ] [StringsEnd μ δ] (m : Machine capacity μ δ) :
    m.install.step.2.detach.install = m.install.step.2 := by
  rcases stepped : m.install.step with ⟨outcome, m'⟩
  obtain ⟨reachable, connected⟩ := installed_of_step stepped
  obtain ⟨processor, memory, devices, memoryInstalled, devicesInstalled⟩ := m'
  cases reachable
  cases connected
  rfl

end Machine

/-! ## What no cycle changes -/

namespace Machine

variable {capacity : Nat} {m m' m'' served : Machine capacity Memory Console}

structure SameEquipment (m m' : Machine capacity Memory Console) : Prop where
  roles : m'.processor.roles = m.processor.roles
  size : m'.memory.size = m.memory.size
  atEnd : m'.devices.atEnd = m.devices.atEnd

theorem SameEquipment.refl (m : Machine capacity Memory Console) : SameEquipment m m := ⟨rfl, rfl, rfl⟩

theorem SameEquipment.trans (first : SameEquipment m m') (second : SameEquipment m' m'') :
    SameEquipment m m'' where
  roles := second.roles.trans first.roles
  size := second.size.trans first.size
  atEnd := second.atEnd.trans first.atEnd

theorem equipment_of_served {request : Request} {result : Except Fault Effect}
    (outcome : Served m request result served) :
    served.memory.size = m.memory.size ∧ served.devices.atEnd = m.devices.atEnd := by
  cases outcome with
  | finished | loaded _ | unloaded _ | unstored _ => exact ⟨rfl, rfl⟩
  | stored inside => exact ⟨Memory.size_write _ _ _, rfl⟩
  | transferred transfer =>
    cases transfer with
    | absent _ | sent _ _ _ => exact ⟨rfl, rfl⟩
    | received _ _ _ _ => exact ⟨Memory.size_write _ _ _, rfl⟩
  | untransferred transfer =>
    cases transfer with
    | unresolved _ _ _ | exhausted _ _ _ | misplaced _ _ _ _ | unterminated _ _ _ => exact ⟨rfl, rfl⟩

theorem sameEquipment_of_step {outcome : Outcome} (installed : m.memoryInstalled = true)
    (stepped : m.step = (outcome, m')) : SameEquipment m m' := by
  have roles := roles_of_step stepped
  cases cycle_of_step stepped with
  | idle _ => exact .refl m
  | unfetched _ fetch =>
    obtain rfl := unfetched_flat fetch
    exact ⟨roles, rfl, rfl⟩
  | refused _ fetch _ | misnamed _ fetch _ =>
    obtain ⟨rfl, _⟩ := fetch_flat fetch
    exact ⟨roles, rfl, rfl⟩
  | unserved _ fetch _ serve | completed _ fetch _ serve =>
    obtain ⟨rfl, _⟩ := fetch_flat fetch
    obtain ⟨size, atEnd⟩ := equipment_of_served (served_of_serve installed serve)
    exact ⟨roles, size, atEnd⟩

theorem sameEquipment_cyclesFor (installed : m.memoryInstalled = true) (budget : Nat) :
    SameEquipment m (cyclesFor budget m).2 := by
  induction budget generalizing m with
  | zero => exact .refl m
  | succ budget inductionHypothesis =>
    cases running : m.running with
    | false =>
      rw [cyclesFor_of_stopped running]
      exact .refl m
    | true =>
      rcases stepped : m.step with ⟨outcome, m₁⟩
      have first := sameEquipment_of_step installed stepped
      have reachable := (installed_of_step stepped).1.trans installed
      rw [cyclesFor_succ running stepped]
      cases outcome.error? with
      | some error => exact first
      | none => exact first.trans (inductionHypothesis reachable)

end Machine

/-! ## Cleared memory -/

namespace Memory

theorem size_zeroed (size : Word) : (zeroed size).size = size.toNat :=
  Array.size_replicate

theorem clear_eq {m : Memory} {size : Word} (sized : m.size = size.toNat) :
    m.clear = zeroed size := by
  have cells : m.cells.size = size.toNat := sized
  simp only [clear, zeroed, cells]

theorem toList_loadProgram_zeroed {size start : Word} {program : List Word}
    (fits : start.toNat + program.length ≤ size.toNat) :
    ((zeroed size).loadProgram start program).1 = .ok () ∧
      ((zeroed size).loadProgram start program).2.toList =
        List.replicate start.toNat 0 ++ program ++
          List.replicate (size.toNat - (start.toNat + program.length)) 0 := by
  have sized : (zeroed size).cells.size = size.toNat := size_zeroed size
  have room : program.length ≤ (zeroed size).available start := by
    rw [available, sized]
    omega
  have zeros : (zeroed size).cells.toList = List.replicate size.toNat 0 := Array.toList_replicate
  have within : start.toNat + program.length ≤ (zeroed size).cells.size := sized ▸ fits
  rw [loadProgram, if_pos room]
  refine ⟨rfl, ?_⟩
  show (overwrite (zeroed size).cells start.toNat program).toList = _
  rw [toList_overwrite within, zeros, List.take_replicate, List.drop_replicate,
    Nat.min_eq_left (by omega)]

end Memory

/-! ## Workstations of one make -/

namespace Workstation

variable {w : Workstation} {roles : Roles} {size : Word}

/-- A workstation that was made with these roles and this amount of memory, with nothing installed. -/
structure OfMake (roles : Roles) (size : Word) (w : Workstation) : Prop where
  roles : w.processor.roles = roles
  size : w.memory.size = size.toNat
  atEnd : w.devices.atEnd = Console.atEnd {}
  unreachable : w.memoryInstalled = false
  disconnected : w.devicesInstalled = false

theorem ofMake_make (roles : Roles) (size : Word) : OfMake roles size (make roles size).detach where
  roles := rfl
  size := Memory.size_zeroed size
  atEnd := rfl
  unreachable := rfl
  disconnected := rfl

def prepared (roles : Roles) (size : Word) (program : List Word) (start : Word) (running : Bool) :
    Workstation :=
  restart (make roles size).detach program start running

namespace OfMake

theorem detach_eq (made : OfMake roles size w) : w.detach = w := by
  obtain ⟨processor, memory, devices, memoryInstalled, devicesInstalled⟩ := w
  obtain ⟨_, _, _, rfl, rfl⟩ := made
  rfl

theorem same {w' : Workstation} (made : OfMake roles size w) (same : Machine.SameEquipment w w')
    (memory : w'.memoryInstalled = w.memoryInstalled)
    (devices : w'.devicesInstalled = w.devicesInstalled) : OfMake roles size w' where
  roles := same.roles.trans made.roles
  size := same.size.trans made.size
  atEnd := same.atEnd.trans made.atEnd
  unreachable := memory.trans made.unreachable
  disconnected := devices.trans made.disconnected

theorem own (made : OfMake roles size w) : OfMake w.processor.roles size w where
  roles := rfl
  size := made.size
  atEnd := made.atEnd
  unreachable := made.unreachable
  disconnected := made.disconnected

theorem lend {α : Type} {action : Workstation → α × Workstation} (made : OfMake roles size w)
    (keeps : Machine.SameEquipment w.install (action w.install).2) :
    OfMake roles size (w.lend action).2 where
  roles := keeps.roles.trans made.roles
  size := keeps.size.trans made.size
  atEnd := keeps.atEnd.trans made.atEnd
  unreachable := rfl
  disconnected := rfl

theorem lend_step (made : OfMake roles size w) : OfMake roles size (w.lend Machine.step).2 :=
  made.lend (Machine.sameEquipment_of_step rfl rfl)

theorem lend_runFor (made : OfMake roles size w) (budget : Nat) :
    OfMake roles size (w.lend (Machine.runFor budget)).2 :=
  made.lend (Machine.sameEquipment_cyclesFor rfl budget)

theorem restart (made : OfMake roles size w) (program : List Word) (start : Word) (running : Bool) :
    OfMake roles size (w.restart program start running) :=
  made.same ⟨rfl, (Memory.size_loadProgram _ _ _).trans Array.size_replicate, rfl⟩ rfl rfl

/-- What a restart leaves behind depends on the make of the workstation only. -/
theorem restart_eq (made : OfMake roles size w) (program : List Word) (start : Word)
    (running : Bool) : w.restart program start running = prepared roles size program start running := by
  obtain ⟨processor, memory, ⟨input, output, atEnd⟩, memoryInstalled, devicesInstalled⟩ := w
  obtain ⟨rfl, sized, rfl, rfl, rfl⟩ := made
  have cleared : memory.clear = (Memory.zeroed size).clear :=
    (Memory.clear_eq sized).trans (Memory.clear_eq (Memory.size_zeroed size)).symm
  simp only [Workstation.restart, cleared]
  rfl

end OfMake

end Workstation

end RegisterMachine
