import Gawd.Home.Indexing
import Gawd.Home.Reservations

/-!
The causal lineage of the Jobs of a Home: parents form a forest, and each child was spawned once.
-/

namespace Gawd.Home

open Gawd.Logic Gawd.Wire Gawd.Journal

/-- The event names the child as spawned. -/
def Spawns (event : SignedRecord JobEvent) (child : JobHandle) : Prop :=
  ∃ parentAttempt parentEventHash spawnKey root childRequestHash,
    event.payload.kind = .childSpawned parentAttempt parentEventHash spawnKey child root childRequestHash

/-- The event stands in the history of its Job. -/
def Held (state : HomeState) (event : SignedRecord JobEvent) : Prop :=
  ∃ record, state.jobs.get? event.payload.handle.job = some record ∧ event ∈ record.events

/-- One Job is the parent of the other. -/
def ParentOf (state : HomeState) (child up : JobHandle) : Prop :=
  ∃ record, state.jobs.get? child.job = some record ∧ record.snapshot.spec.handle = child ∧
    record.snapshot.spec.parent = some up

/-- A Job, its parent, and so on up to a Job that has none. It is the root of all of them. -/
structure Descent (state : HomeState) (path : List JobHandle) : Prop where
  links : path.IsChain (ParentOf state)
  distinct : path.Nodup
  rooted : ∃ root, path.getLast? = some root ∧
    (∃ record, state.jobs.get? root.job = some record ∧ record.snapshot.spec.handle = root ∧
      record.snapshot.spec.parent = none) ∧
    ∀ handle ∈ path, ∃ record, state.jobs.get? handle.job = some record ∧ record.snapshot.spec.handle = handle ∧
      record.snapshot.spec.root = root

theorem SpecKept.handle {before after : JobSpec} (kept : SpecKept before after) : after.handle = before.handle := by
  rw [kept]

theorem SpecKept.parent {before after : JobSpec} (kept : SpecKept before after) : after.parent = before.parent := by
  rw [kept]

theorem SpecKept.root {before after : JobSpec} (kept : SpecKept before after) : after.root = before.root := by
  rw [kept]

theorem ParentOf.remembered (remembers : Remembers before after)
    (parent : ParentOf before child up) : ParentOf after child up := by
  obtain ⟨record, held, handle, named⟩ := parent
  obtain ⟨next, held', _, kept⟩ := remembers.jobs _ record held
  exact ⟨next, held', kept.handle.trans handle, kept.parent.trans named⟩

theorem Descent.remembered (remembers : Remembers before after) (descent : Descent before path) :
    Descent after path where
  links := descent.links.imp fun _ _ => ParentOf.remembered remembers
  distinct := descent.distinct
  rooted := by
    obtain ⟨root, last, ⟨record, held, handle, orphan⟩, all⟩ := descent.rooted
    obtain ⟨next, held', _, kept⟩ := remembers.jobs _ record held
    refine ⟨root, last, ⟨next, held', kept.handle.trans handle, kept.parent.trans orphan⟩, fun handle member => ?_⟩
    obtain ⟨record, held, named, rooted⟩ := all handle member
    obtain ⟨next, held', _, kept⟩ := remembers.jobs _ record held
    exact ⟨next, held', kept.handle.trans named, kept.root.trans rooted⟩

/-- The histories grow by one event. -/
theorem EventApplied.held_iff (applied : EventApplied event before after) :
    Held after other ↔ Held before other ∨ other = event := by
  obtain ⟨next, step, lookup⟩ := applied.stepped
  unfold Held
  rw [lookup]
  by_cases hit : other.payload.handle.job = event.payload.handle.job
  · rw [if_pos hit, hit]
    cases found : before.jobs.get? event.payload.handle.job with
    | none =>
      rw [found] at step
      cases step with
      | submitted _ _ _ => simp
    | some record =>
      rw [found] at step
      cases step with
      | advanced _ _ => simp
  · rw [if_neg hit]
    refine ⟨.inl, fun either => either.resolve_right ?_⟩
    rintro rfl
    exact hit rfl

theorem spawns_of_indexed {event : SignedRecord JobEvent} (indexed : (indexedSpawn event.payload).isSome = true) :
    ∃ child, Spawns event child := by
  unfold indexedSpawn at indexed
  split at indexed
  · rename_i kind
    exact ⟨_, _, _, _, _, _, kind⟩
  · cases indexed

section

variable [Crypto]

variable {before after : HomeState}

theorem EventsFiled.held_iff (filed : EventsFiled events before after) :
    Held after other ↔ Held before other ∨ other ∈ events := by
  induction filed with
  | nil => simp
  | cons applied _ _ ih => rw [ih, applied.held_iff, List.mem_cons, or_assoc]

theorem RecordFiled.held_iff {record : HomeLedgerRecord} (filed : RecordFiled record before after) :
    Held after other ↔ Held before other ∨ other ∈ record.events := by
  obtain ⟨settled, jobs, _, events⟩ := filed.filed
  rw [events.held_iff, Held, jobs, ← Held]

/-- A Job that was not there before was submitted by one of the events. -/
theorem EventsFiled.submitted {record : JobRecord} (filed : EventsFiled events before after)
    (absent : before.jobs.get? job = none) (found : after.jobs.get? job = some record) :
    ∃ event ∈ events, ∃ spec middle, event.payload.kind = .submitted spec ∧ event.payload.handle.job = job ∧
      SpecKept spec record.snapshot.spec ∧ record.events.head? = some event ∧ Inherits middle spec ∧
      Remembers before middle ∧ Remembers middle after := by
  induction filed with
  | nil =>
    rw [absent] at found
    cases found
  | @cons event before middle rest after applied files later ih =>
    obtain ⟨next, step, lookup⟩ := applied.stepped
    by_cases hit : job = event.payload.handle.job
    · subst hit
      rw [absent] at step
      cases step with
      | @submitted spec kind _ _ =>
        obtain ⟨last, held, longer, kept⟩ := later.remembers.jobs _ _ ((lookup _).trans (if_pos rfl))
        rw [found] at held
        obtain ⟨⟩ := held
        obtain ⟨more, same⟩ := longer
        refine ⟨event, List.mem_cons_self, spec, before, kind, rfl, kept, ?_, files.inherits spec kind, .refl before,
          .trans _ _ _ (files.remembers applied) later.remembers⟩
        rw [← same]
        rfl
    · have absent' : middle.jobs.get? job = none := by rw [lookup, if_neg hit, absent]
      obtain ⟨other, member, spec, between, kind, named, kept, first, inherits, early, late⟩ := ih absent' found
      exact ⟨other, List.mem_cons_of_mem _ member, spec, between, kind, named, kept, first, inherits,
        .trans _ _ _ (files.remembers applied) early, late⟩

/-- What the events of a record do to the forest. -/
inductive Lodged (before : HomeState) : List (SignedRecord JobEvent) → Prop where
  | quiet : (∀ spec, event.payload.kind ≠ .submitted spec) → (∀ child, ¬ Spawns event child) → Lodged before [event]
  | rooted : event.payload.kind = .submitted spec → spec.parent = none → Lodged before [event]
  | born : Spawns parent spec.handle → child.payload.kind = .submitted spec →
      spec.parent = some parent.payload.handle → before.jobs.get? parent.payload.handle.job = some record →
      record.snapshot.spec.handle = parent.payload.handle → before.jobs.get? spec.handle.job = none →
      Lodged before [parent, child]

omit [Crypto] in
/-- A spawn comes with the submission of its child. -/
theorem requireChildren_spawns {event : SignedRecord JobEvent}
    (required : requireChildren (event :: rest) = .ok ()) (spawns : Spawns event child) :
    ∃ candidate ∈ rest, ∃ spec, candidate.payload.kind = .submitted spec ∧ spec.handle = child ∧
      spec.parent = some event.payload.handle := by
  obtain ⟨_, _, _, root, hash, kind⟩ := spawns
  simp only [requireChildren, kind, bind_eq_ok, reject_eq_ok, List.all_eq_true, decide_eq_true_eq, not_forall] at required
  obtain ⟨_, ⟨candidate, member, submits⟩, _⟩ := required
  refine ⟨candidate, member, ?_⟩
  unfold submitsChild at submits
  split at submits
  · rename_i spec submitted
    simp only [decide_eq_false_iff_not, not_not] at submits
    exact ⟨spec, submitted, submits.2.1, submits.2.2.1⟩
  · exact absurd rfl submits

/-- The records that carry no receipt come from requests. -/
def FromRequests (_ : HomeState) (record : HomeLedgerRecord) : Prop :=
  record.receipt = none → Sourced record

theorem fromRequests_free : Unobserved FromRequests := fun _ _ _ sourced _ => sourced

theorem fromRequests_every (state : HomeState) (record : HomeLedgerRecord) (carries : record.receipt ≠ none) :
    FromRequests state record := fun absent => absurd absent carries

theorem Produced.lodged {record : HomeLedgerRecord} (catalogued : Catalogued before)
    (produced : Produced before record) (sources : FromRequests before record)
    (filed : RecordFiled record before after) : Lodged before record.events := by
  have barren : ∀ event child, record.events = [event] → ¬ Spawns event child := by
    intro event child single spawns
    have required := filed.children
    rw [single] at required
    obtain ⟨_, ⟨⟩, _⟩ := requireChildren_spawns required spawns
  cases produced with
  | submission kind => exact .rooted kind ((sources rfl).alone _ _ rfl kind).1
  | dispatch dispatches =>
    refine .quiet (fun spec => ?_) fun child => barren _ child rfl
    rw [dispatches.kind]
    nofun
  | observation found handle outcome =>
    exact .quiet (Produced.observation found handle outcome).observed.1 fun child => barren _ child rfl
  | continuation _ continues => exact .quiet continues.kind fun child => barren _ child rfl
  | @spawn parent child job record spec found continues kind absent =>
    obtain ⟨indexed, _⟩ := (sources rfl).paired parent child rfl
    obtain ⟨named, spawns⟩ := spawns_of_indexed indexed
    obtain ⟨candidate, member, spec', kind', rfl, parent'⟩ := requireChildren_spawns filed.children spawns
    rw [List.mem_singleton.mp member, kind] at kind'
    obtain ⟨⟩ := kind'
    refine .born spawns kind parent' ?_ continues.handle.symm ?_
    · rw [continues.handle, (catalogued.founded job record found).handle]
      exact found
    · rw [(JobEvent.submitted_of_valid (verifyJobEvent_valid (filed.verified child (by simp))) kind).1]
      exact absent

/-- The forest of a Home: every Job descends from its root, every child was spawned by one event of its parent, in the
record that submitted it, and every spawn has its child. -/
structure Forest (ledger : List HomeLedgerRecord) (state : HomeState) : Prop where
  descent : ∀ job record, state.jobs.get? job = some record →
    ∃ above, Descent state (record.snapshot.spec.handle :: above)
  spawned : ∀ job record parent, state.jobs.get? job = some record → record.snapshot.spec.parent = some parent →
    ∃ event first, Held state event ∧ event.payload.handle = parent ∧ Spawns event record.snapshot.spec.handle ∧
      record.events.head? = some first ∧ ∃ entry ∈ ledger, entry.events = [event, first]
  children : ∀ event child, Held state event → Spawns event child →
    ∃ record, state.jobs.get? child.job = some record
  once : ∀ event event' child, Held state event → Held state event' → Spawns event child → Spawns event' child →
    event = event'

omit [Crypto] in
/-- A submission that comes in such a record is one of a root, or of the child of a spawn. -/
theorem Lodged.submission (lodged : Lodged before events) (member : event ∈ events)
    (kind : event.payload.kind = .submitted spec) : spec.parent = none ∨ ∃ parent record, events = [parent, event] ∧
      Spawns parent spec.handle ∧ spec.parent = some parent.payload.handle ∧
      before.jobs.get? parent.payload.handle.job = some record ∧ record.snapshot.spec.handle = parent.payload.handle := by
  cases lodged with
  | quiet other _ =>
    rw [List.mem_singleton.mp member] at kind
    exact absurd kind (other spec)
  | rooted submits orphan =>
    rw [List.mem_singleton.mp member, submits] at kind
    obtain ⟨⟩ := kind
    exact .inl orphan
  | born spawns submits inherited held same _ =>
    rcases List.mem_pair.mp member with rfl | rfl
    · obtain ⟨_, _, _, _, _, other⟩ := spawns
      rw [kind] at other
      cases other
    · rw [submits] at kind
      obtain ⟨⟩ := kind
      exact .inr ⟨_, _, rfl, spawns, inherited, held, same⟩

/-- A Job that a record brings, as the record submitted it. -/
theorem RecordFiled.submitted {entry : HomeLedgerRecord} {record : JobRecord}
    (filed : RecordFiled entry before after) (absent : before.jobs.get? job = none)
    (found : after.jobs.get? job = some record) :
    ∃ event ∈ entry.events, ∃ spec, event.payload.kind = .submitted spec ∧ spec.handle.job = job ∧
      SpecKept spec record.snapshot.spec ∧ record.events.head? = some event ∧
      ∃ middle, Inherits middle spec ∧ Remembers before middle := by
  obtain ⟨settled, jobs, ⟨requests, controls, spawns⟩, events⟩ := filed.filed
  obtain ⟨event, member, spec, middle, kind, named, kept, first, inherits, early, _⟩ :=
    events.submitted (by rw [jobs]; exact absent) found
  have handle := (JobEvent.submitted_of_valid (verifyJobEvent_valid (filed.verified event member)) kind).1
  refine ⟨event, member, spec, kind, by rw [handle]; exact named, kept, first, middle, inherits, ?_⟩
  have settles : Remembers before settled := by
    refine ⟨fun job record found => ⟨record, jobs ▸ found, List.prefix_rfl, rfl⟩, fun _ _ _ => by rw [requests],
      fun key hash held => controls ▸ held, fun key spawn held => spawns ▸ held⟩
  exact .trans _ _ _ settles early

/-- The spawns of a record are of one new child, which is there afterwards. -/
theorem Lodged.fresh {before after : HomeState} {entry : HomeLedgerRecord} {child : JobHandle}
    (lodged : Lodged before entry.events) (filed : RecordFiled entry before after) (member : event ∈ entry.events)
    (spawns : Spawns event child) :
    before.jobs.get? child.job = none ∧ (∃ record, after.jobs.get? child.job = some record) ∧
      ∀ other ∈ entry.events, Spawns other child → other = event := by
  have single : ∀ {first : SignedRecord JobEvent}, entry.events = [first] → False := by
    intro first single
    have required := filed.children
    rw [single] at required member
    rw [List.mem_singleton.mp member] at spawns
    obtain ⟨_, ⟨⟩, _⟩ := requireChildren_spawns required spawns
  generalize events : entry.events = all at lodged
  cases lodged with
  | quiet _ _ | rooted _ _ => exact (single events).elim
  | @born parent _ born _ spawning kind _ _ _ absent =>
    have childless : ∀ name, ¬ Spawns born name := by
      rintro name ⟨_, _, _, _, _, other⟩
      rw [kind] at other
      cases other
    rw [events] at member
    have only : ∀ other ∈ [parent, born], Spawns other child → other = parent := by
      intro other among names
      rcases List.mem_pair.mp among with rfl | rfl
      · rfl
      · exact absurd names (childless child)
    obtain rfl := only event member spawns
    obtain ⟨_, _, _, _, _, one⟩ := spawns
    obtain ⟨_, _, _, _, _, two⟩ := spawning
    rw [one] at two
    obtain ⟨⟩ := two
    have handle := (JobEvent.submitted_of_valid (verifyJobEvent_valid (filed.verified born (by simp [events]))) kind).1
    obtain ⟨found, there, _⟩ := filed.held_iff.mpr (.inr (by simp [events] : born ∈ entry.events))
    exact ⟨absent, ⟨found, by rw [handle]; exact there⟩, only⟩

omit [Crypto] in
/-- A Job without a parent descends from itself. -/
theorem Descent.single {state : HomeState} {record : JobRecord} (found : state.jobs.get? job = some record)
    (named : record.snapshot.spec.handle.job = job) (orphan : record.snapshot.spec.parent = none)
    (root : record.snapshot.spec.root = record.snapshot.spec.handle) :
    Descent state [record.snapshot.spec.handle] where
  links := .singleton _
  distinct := List.nodup_singleton _
  rooted := by
    rw [← named] at found
    refine ⟨_, rfl, ⟨record, found, rfl, orphan⟩, fun handle member => ?_⟩
    rw [List.mem_singleton] at member
    subst member
    exact ⟨record, found, rfl, root⟩

omit [Crypto] in
/-- A new child descends from what its parent descends from. -/
theorem Descent.child {record up : JobRecord} (descent : Descent before (up.snapshot.spec.handle :: above))
    (remembers : Remembers before after) (absent : before.jobs.get? job = none)
    (found : after.jobs.get? job = some record) (named : record.snapshot.spec.handle.job = job)
    (parent : record.snapshot.spec.parent = some up.snapshot.spec.handle)
    (held : before.jobs.get? up.snapshot.spec.handle.job = some up)
    (root : record.snapshot.spec.root = up.snapshot.spec.root) :
    Descent after (record.snapshot.spec.handle :: up.snapshot.spec.handle :: above) := by
  rw [← named] at absent found
  have later := descent.remembered remembers
  obtain ⟨origin, last, orphan, all⟩ := later.rooted
  refine ⟨?_, ?_, origin, ?_, orphan, ?_⟩
  · exact later.links.cons_cons ⟨record, found, rfl, parent⟩
  · refine List.nodup_cons.mpr ⟨fun member => ?_, later.distinct⟩
    obtain ⟨_, _, _, old⟩ := descent.rooted
    obtain ⟨_, there, _⟩ := old _ member
    rw [absent] at there
    cases there
  · rw [List.getLast?_cons_cons]
    exact last
  · intro handle member
    rcases List.mem_cons.mp member with rfl | above
    · obtain ⟨next, there, _, kept⟩ := remembers.jobs _ up held
      obtain ⟨next', there', _, rooted⟩ := all _ List.mem_cons_self
      rw [there] at there'
      obtain ⟨⟩ := there'
      exact ⟨record, found, rfl, by rw [root, ← kept.root, rooted]⟩
    · exact all handle above

theorem Forest.step {entry : HomeLedgerRecord} (forest : Forest ledger before) (lodged : Lodged before entry.events)
    (filed : RecordFiled entry before after) : Forest (ledger ++ [entry]) after where
  descent := by
    intro job record found
    cases known : before.jobs.get? job with
    | some old =>
      obtain ⟨next, found', _, kept⟩ := filed.remembers.jobs job old known
      rw [found] at found'
      obtain ⟨⟩ := found'
      obtain ⟨above, descent⟩ := forest.descent job old known
      rw [← kept.handle] at descent
      exact ⟨above, descent.remembered filed.remembers⟩
    | none =>
      obtain ⟨event, member, spec, kind, named, kept, _, middle, inherits, early⟩ := filed.submitted known found
      have named : record.snapshot.spec.handle.job = job := by rw [kept.handle, named]
      rcases lodged.submission member kind with orphan | ⟨parent, up, _, _, inherited, held, same⟩
      · simp only [Inherits, orphan] at inherits
        refine ⟨[], .single found named (kept.parent.trans orphan) ?_⟩
        rw [kept.root, kept.handle, inherits]
      · simp only [Inherits, inherited] at inherits
        obtain ⟨between, there, root⟩ := inherits
        obtain ⟨next, there', _, kept'⟩ := early.jobs _ up held
        rw [there] at there'
        obtain ⟨⟩ := there'
        obtain ⟨above, descent⟩ := forest.descent _ up held
        refine ⟨_, descent.child filed.remembers known found named ?_ ?_ ?_⟩
        · rw [kept.parent, inherited, same]
        · rw [same]
          exact held
        · rw [kept.root, root, kept'.root]
  spawned := by
    intro job record parent found named
    cases known : before.jobs.get? job with
    | some old =>
      obtain ⟨next, found', longer, kept⟩ := filed.remembers.jobs job old known
      rw [found] at found'
      obtain ⟨⟩ := found'
      obtain ⟨event, first, held, handle, spawns, head, entry', among, pair⟩ :=
        forest.spawned job old parent known (kept.parent.symm.trans named)
      refine ⟨event, first, filed.held_iff.mpr (.inl held), handle, kept.handle ▸ spawns, ?_, entry',
        List.mem_append_left _ among, pair⟩
      obtain ⟨more, same⟩ := longer
      rw [← same, List.head?_append, head, Option.some_or]
    | none =>
      obtain ⟨event, member, spec, kind, _, kept, head, _⟩ := filed.submitted known found
      have named := kept.parent.symm.trans named
      rcases lodged.submission member kind with orphan | ⟨spawner, _, events, spawns, inherited, _, _⟩
      · rw [orphan] at named
        cases named
      · rw [inherited] at named
        obtain ⟨⟩ := named
        exact ⟨spawner, event, filed.held_iff.mpr (.inr (by simp [events])), rfl, kept.handle ▸ spawns, head, entry, by simp,
          events⟩
  children := by
    intro event child held spawns
    rcases filed.held_iff.mp held with old | new
    · obtain ⟨record, found⟩ := forest.children event child old spawns
      obtain ⟨next, found', _⟩ := filed.remembers.jobs _ record found
      exact ⟨next, found'⟩
    · exact (lodged.fresh filed new spawns).2.1
  once := by
    intro event event' child held held' spawns spawns'
    have apart : ∀ {old new : SignedRecord JobEvent}, Held before old → Spawns old child → new ∈ entry.events →
        Spawns new child → False := by
      intro old new held spawns member spawns'
      obtain ⟨record, found⟩ := forest.children old child held spawns
      rw [(lodged.fresh filed member spawns').1] at found
      cases found
    rcases filed.held_iff.mp held with old | new <;> rcases filed.held_iff.mp held' with old' | new'
    · exact forest.once event event' child old old' spawns spawns'
    · exact (apart old spawns new' spawns').elim
    · exact (apart old' spawns' new spawns).elim
    · exact ((lodged.fresh filed new spawns).2.2 event' new' spawns').symm

theorem Grown.forest (grown : Grown FromRequests ledger state) : Catalogued state ∧ Forest ledger state := by
  induction grown with
  | nil =>
    refine ⟨catalogued_initial, fun _ _ found => (nomatch found), fun _ _ _ found => (nomatch found), ?_, ?_⟩
    · rintro _ _ ⟨_, ⟨⟩, _⟩
    · rintro _ _ _ ⟨_, ⟨⟩, _⟩
  | snoc _ produced sources run ih =>
    have filed := recordFiled_of_run run
    exact ⟨filed.catalogued ih.1, ih.2.step (produced.lodged ih.1 sources filed) filed⟩

namespace Fleet

variable {ι : Type} [DecidableEq ι] {fleet : Fleet ι} {world : World ι} {root : ι}

end Fleet

end

namespace Fleet

attribute [local instance] Wire.Sample.collisionFree

end Fleet

end Gawd.Home
