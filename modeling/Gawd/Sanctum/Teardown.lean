import Gawd.Logic.TransitionSystem

/-!
Who releases the last strong reference to the kernel, and for which threads its `Drop` then waits.
-/

namespace Gawd.Sanctum

open Gawd.Logic

/-- The owner, the kernel's control listener, and the worker and the drain thread of the omni control creature. -/
inductive Thread where
  | owner
  | listener
  | worker
  | drain
  deriving DecidableEq

/-- The holders of strong references, the threads whose handles are kept, and on which thread `Drop` ran, with the
threads that it waited for. -/
structure Kernel where
  strong : List Thread
  loaded : Bool
  working : Bool
  listening : Bool
  dropped : Option (Thread × List Thread)

inductive Step where
  | clone
  | upgrade (thread : Thread)
  | release (thread : Thread)
  | unload

namespace Kernel

/-- Unloading the control creature waits for its drain thread, which joins the worker in the creature's `shutdown`. -/
def shutdownAll (kernel : Kernel) : List Thread :=
  if kernel.loaded then .drain :: if kernel.working then [.worker] else [] else []

def drop (kernel : Kernel) : List Thread :=
  kernel.shutdownAll ++ if kernel.listening then [.listener] else []

/-- A weak reference upgrades while there is a strong one; a thread borrows one at a time, the owner clones its own.
An unloaded creature is off the table even if its threads run on. -/
def perform (kernel : Kernel) : Step → Kernel
  | .clone => if .owner ∈ kernel.strong then { kernel with strong := .owner :: kernel.strong } else kernel
  | .upgrade thread =>
    if kernel.strong = [] ∨ thread ∈ kernel.strong then kernel else { kernel with strong := thread :: kernel.strong }
  | .release thread =>
    if thread ∉ kernel.strong then kernel
    else if kernel.strong.erase thread = [] then { kernel with strong := [], dropped := some (thread, kernel.drop) }
    else { kernel with strong := kernel.strong.erase thread }
  | .unload => if kernel.strong = [] then kernel else { kernel with loaded := false }

def system : TransitionSystem Kernel Step where
  start kernel := kernel.strong = [.owner] ∧ kernel.dropped = none
  step before step after := after = before.perform step

/-- A thread that borrowed a reference does not return the last one. -/
def Outlived (before : Kernel) : Step → Prop
  | .release thread => thread = .owner ∨ before.strong.erase thread ≠ []
  | _ => True

/-- `Drop` has not waited for the thread that ran it. -/
def DropsElsewhere (kernel : Kernel) : Prop :=
  ∀ ran ∈ kernel.dropped, ran.1 ∉ ran.2

theorem owner_not_mem_drop (kernel : Kernel) : .owner ∉ kernel.drop := by
  unfold drop shutdownAll
  split_ifs <;> simp

theorem DropsElsewhere.perform {kernel : Kernel} (elsewhere : kernel.DropsElsewhere) (outlived : Outlived kernel step) :
    (kernel.perform step).DropsElsewhere := by
  cases step with
  | release thread =>
    simp only [Kernel.perform]
    split_ifs with held last
    · rintro _ ⟨rfl⟩
      obtain rfl := outlived.resolve_right (not_not_intro last)
      exact owner_not_mem_drop kernel
    · exact elsewhere
    · exact elsewhere
  | _ =>
    simp only [Kernel.perform]
    split_ifs <;> exact elsewhere

/-- As long as the last reference is the owner's, `Drop` never waits for the thread that runs it. -/
theorem drop_elsewhere {kernel : Kernel} (reached : (system.restrict Outlived).Reachable kernel) :
    kernel.DropsElsewhere := by
  refine reached.invariant ?_ ?_
  · rintro first ⟨-, none⟩ _ ran
    simp [none] at ran
  · rintro before step _ elsewhere ⟨rfl, outlived⟩
    exact elsewhere.perform outlived

/-- A kernel whose control creature is loaded. -/
def controlled : Kernel := ⟨[.owner], true, true, true, none⟩

theorem drop_elsewhere_owner :
    (controlled.perform (.release .owner)).dropped = some (.owner, [.drain, .worker, .listener]) ∧
      (controlled.perform (.release .owner)).DropsElsewhere := by
  have start : (system.restrict Outlived).Reachable controlled := .start ⟨rfl, rfl⟩
  have outlived : Outlived controlled (.release .owner) := .inl rfl
  exact ⟨rfl, drop_elsewhere (start.step ⟨rfl, outlived⟩)⟩

/-- The owner lets go of the kernel while another thread has borrowed it. -/
def returned (thread : Thread) : Kernel :=
  [.upgrade thread, .release .owner, .release thread].foldl perform controlled

/-- Each of the other threads may return the last reference, and then `Drop` waits for it. -/
theorem drop_awaits_itself : (system.Reachable (returned .listener) ∧ ¬ (returned .listener).DropsElsewhere) ∧
    (system.Reachable (returned .worker) ∧ ¬ (returned .worker).DropsElsewhere) ∧
    system.Reachable (returned .drain) ∧ ¬ (returned .drain).DropsElsewhere := by
  have start : system.Reachable controlled := .start ⟨rfl, rfl⟩
  have reached (thread) : system.Reachable (returned thread) := start.foldl (fun _ _ => rfl) _
  exact ⟨⟨reached _, fun elsewhere => elsewhere _ rfl (by decide)⟩,
    ⟨reached _, fun elsewhere => elsewhere _ rfl (by decide)⟩, reached _, fun elsewhere => elsewhere _ rfl (by decide)⟩

end Kernel

end Gawd.Sanctum
