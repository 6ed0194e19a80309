import Gawd.Logic.TransitionSystem

/-!
The dirty flag of the Bestiary daemon, shared by its drain thread and its maintenance worker.
-/

namespace Gawd.Bestiary

open Gawd.Logic

inductive Write where
  | put
  | attest
  | quarantine
  | mergePush
  deriving DecidableEq

/-- Whether `mark_dirty` follows: a write that failed may still have reached the store. -/
def Write.marks : Write → Except String Bool → Bool
  | .attest, .ok false | .quarantine, .ok false => false
  | _, _ => true

/-- What a thread does next with the store or the flag. -/
inductive Point where
  | writing (rest : List Write)
  | marking (rest : List Write)
  | claiming
  | curating
  | compacting
  | finishing (started : Nat)
  | restoring
  deriving DecidableEq

/-- A thread between two messages, or two cadences. -/
abbrev Point.idle : Point := .writing []

/-- The flag and, in numbers of steps, when the store was written and when the compactions of it that succeeded
started. -/
structure Shared where
  dirty : Bool
  clock : Nat
  mutations : List Nat
  compactions : List Nat

namespace Shared

/-- One access of a thread, given the store's answer. A maintenance pass leaves a clean catalog alone and
curates before it compacts; a `Compact` request does neither. -/
def access (shared : Shared) (maintains : Bool) (answer : Except String Bool) : Point → Shared × Point
  | .writing [] => (shared, .idle)
  | .writing (write :: rest) =>
    if write.marks answer then ({ shared with mutations := shared.clock :: shared.mutations }, .marking rest)
    else (shared, .writing rest)
  | .marking rest => ({ shared with dirty := true }, .writing rest)
  | .claiming =>
    ({ shared with dirty := false }, if maintains then if shared.dirty then .curating else .idle else .compacting)
  | .curating => (shared, if answer.isOk then .compacting else .restoring)
  | .compacting => (shared, .finishing shared.clock)
  | .finishing started =>
    if answer.isOk then ({ shared with compactions := started :: shared.compactions }, .idle)
    else (shared, .restoring)
  | .restoring => ({ shared with dirty := true }, .idle)

def tick (shared : Shared) : Shared := { shared with clock := shared.clock + 1 }

end Shared

structure BestiaryDaemon where
  shared : Shared
  drain : Point
  worker : Point

/-- A message that passes its size and shape checks asks for the writes of its registry operation, for those of the
entries that it pushes, or for a compaction. -/
inductive Step where
  | write (operations : List Write)
  | compact
  | cadence
  | drain (answer : Except String Bool)
  | worker (answer : Except String Bool)

namespace BestiaryDaemon

/-- The recovered history counts as a write that no compaction has followed yet. -/
def bind (recovered : Except String Nat) : BestiaryDaemon :=
  ⟨⟨recovered.isOk, 1, [0], []⟩, .idle, .idle⟩

/-- A step of either thread; an idle one takes up the next message or cadence. -/
def perform (daemon : BestiaryDaemon) : Step → BestiaryDaemon
  | .write operations => if daemon.drain = .idle then { daemon with drain := .writing operations } else daemon
  | .compact => if daemon.drain = .idle then { daemon with drain := .claiming } else daemon
  | .cadence => if daemon.worker = .idle then { daemon with worker := .claiming } else daemon
  | .drain answer =>
    let (shared, drain) := daemon.shared.access false answer daemon.drain
    { daemon with shared := shared.tick, drain }
  | .worker answer =>
    let (shared, worker) := daemon.shared.access true answer daemon.worker
    { daemon with shared := shared.tick, worker }

/-- The runs after a successful bind. -/
def system (records : Nat) : TransitionSystem BestiaryDaemon Step where
  start daemon := daemon = bind (.ok records)
  step before label after := after = before.perform label

end BestiaryDaemon

/-- The thread has yet to set the flag, or to finish a compaction that started after the write. -/
def Point.Answers (mutation : Nat) : Point → Prop
  | .writing _ | .claiming => False
  | .marking _ | .curating | .compacting | .restoring => True
  | .finishing started => mutation < started

/-- Every write is answered for by the flag, by a thread or by a compaction. -/
def Shared.Accounted (shared : Shared) (answers : Nat → Prop) : Prop :=
  ∀ mutation ∈ shared.mutations, mutation < shared.clock ∧
    (shared.dirty = true ∨ answers mutation ∨ ∃ started ∈ shared.compactions, mutation < started)

namespace Shared.Accounted

variable {shared : Shared} {answers others : Nat → Prop}

theorem mono (accounted : shared.Accounted answers) (more : ∀ mutation, answers mutation → others mutation) :
    shared.Accounted others :=
  fun mutation member => (accounted mutation member).imp_right fun answered => answered.imp_right (.imp_left (more mutation))

/-- An access of one thread leaves no write unanswered, whatever the other one answers for. -/
theorem access {point : Point} (accounted : shared.Accounted fun mutation => point.Answers mutation ∨ others mutation) :
    (shared.access maintains answer point).1.tick.Accounted fun mutation =>
      (shared.access maintains answer point).2.Answers mutation ∨ others mutation := by
  unfold Accounted at *
  cases point with
  | writing rest =>
    cases rest with
    | nil => grind [Shared.access, tick]
    | cons write rest =>
      -- the mark that follows a write that counts answers for it
      by_cases counts : write.marks answer = true <;> grind [Shared.access, tick, Point.Answers]
  | marking | restoring => grind [Shared.access, tick]
  | claiming | curating => grind [Shared.access, tick, Point.Answers]
  | compacting =>
    -- the start is later than every write
    simp only [Shared.access, tick, Point.Answers] at *
    grind
  | finishing started =>
    simp only [Shared.access, tick, Point.Answers] at *
    by_cases done : answer.isOk = true
    · simp only [done, if_true, List.mem_cons, exists_eq_or_imp]
      grind
    · grind [Point.Answers]

end Shared.Accounted

namespace BestiaryDaemon

def Accounted (daemon : BestiaryDaemon) : Prop :=
  daemon.shared.Accounted fun mutation => daemon.drain.Answers mutation ∨ daemon.worker.Answers mutation

theorem Accounted.perform (accounted : Accounted daemon) (step : Step) : Accounted (daemon.perform step) := by
  cases step with
  | write | compact =>
    simp only [BestiaryDaemon.perform]
    split
    · exact accounted.mono fun mutation answered => .inr (answered.resolve_left (by simp_all [Point.Answers]))
    · exact accounted
  | cadence =>
    simp only [BestiaryDaemon.perform]
    split
    · exact accounted.mono fun mutation answered => .inl (answered.resolve_right (by simp_all [Point.Answers]))
    · exact accounted
  | drain answer => exact Shared.Accounted.access accounted
  | worker answer => exact (Shared.Accounted.mono accounted fun _ => .symm).access.mono fun _ => .symm

/-- While the flag is down and both threads are idle, every write came before the start of a compaction that
succeeded. -/
theorem clean_compacted {daemon : BestiaryDaemon} (reached : (system records).Reachable daemon)
    (clean : daemon.shared.dirty = false) (idle : daemon.drain = .idle ∧ daemon.worker = .idle) :
    ∀ mutation ∈ daemon.shared.mutations, ∃ started ∈ daemon.shared.compactions, mutation < started := by
  have accounted : Accounted daemon := by
    refine reached.invariant ?_ ?_
    · rintro _ rfl
      simp [bind, Accounted, Shared.Accounted, Except.isOk, Except.toBool]
    · rintro before step _ accounted rfl
      exact accounted.perform step
  intro mutation written
  simpa [clean, idle, Point.Answers] using (accounted mutation written).2

/-- A publication, and the maintenance pass after it. -/
def published : BestiaryDaemon :=
  [.write [.put], .drain (.ok true), .drain (.ok true), .cadence, .worker (.ok true),
    .worker (.ok true), .worker (.ok true), .worker (.ok true)].foldl perform (bind (.ok 0))

theorem clean_compacted_published : published.shared.mutations = [1, 0] ∧
    ∀ mutation ∈ published.shared.mutations, ∃ started ∈ published.shared.compactions, mutation < started := by
  have reached : (system 0).Reachable published := .foldl (.start rfl) (fun _ _ => rfl) _
  exact ⟨rfl, clean_compacted reached rfl ⟨rfl, rfl⟩⟩

end BestiaryDaemon

end Gawd.Bestiary
