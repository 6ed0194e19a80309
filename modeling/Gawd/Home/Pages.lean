import Gawd.Home.ControlReplay

/-!
Reading the history of a Job page by page, while its Home goes on.
-/

namespace Gawd.Home

open Gawd.Logic Gawd.Wire

def maxPrivateReadMessageBytes : Nat := maxJobMessageBytes - 64 * 1024

structure EventQuery where
  handle : JobHandle
  afterSequence : Option Nat
  limit : Nat
  nonce : String

instance : Validate EventQuery where
  validate query := do
    validate query.handle
    validateText "job event-read nonce" query.nonce maxIdBytes
    reject (query.limit = 0 ∨ maxEventPageItems < query.limit)
      (.invalid s!"event query limit must be in 1..={maxEventPageItems}")

abbrev Events := List (SignedRecord JobEvent)

structure EventPage where
  handle : JobHandle
  events : Events
  nextAfterSequence : Option Nat

structure EventPageResponse where
  requestHash : Text
  homeEpoch : Nat
  authority : HomeAuthority
  page : EventPage

structure EventPageMessage where
  response : SignedRecord EventPageResponse

/-- Events that are numbered without gaps. -/
def Counts (start : Nat) (events : Events) : Prop :=
  events.map (fun event => event.payload.sequence) = List.range' start events.length

theorem Counts.split (counts : Counts start (first ++ second)) : Counts start first ∧ Counts (start + first.length) second := by
  rw [Counts, List.map_append, List.length_append, ← List.range'_append_1] at counts
  exact List.append_inj counts (by simp)

theorem Counts.bounds (counts : Counts start events) (among : event ∈ events) :
    start ≤ event.payload.sequence ∧ event.payload.sequence < start + events.length := by
  have listed : event.payload.sequence ∈ events.map fun event => event.payload.sequence := List.mem_map_of_mem among
  rwa [counts, List.mem_range'_1] at listed

section

variable [Crypto]

instance : Validate EventPage where
  validate page := do
    validate page.handle
    let count := page.events.length
    reject (maxEventPageItems < count) (.limit s!"event page has {count} items, exceeds {maxEventPageItems}")
    page.events.forM fun event => do
      verifyJobEvent event
      reject (event.payload.handle ≠ page.handle) (.invalid "event page contains an event for a different job")
    ensureMessageBound page

/-- Events as long as they fit and the limit lasts, and whether some are left. -/
def fillPage (encodedBytes : Nat) (events : Events) : Nat → Events → Events × Bool
  | _, [] => (events, false)
  | 0, _ => (events, true)
  | limit + 1, event :: eligible =>
    let encodedBytes := encodedBytes + (if events = [] then 0 else 1) + Crypto.encodedLen event
    if maxPrivateReadMessageBytes < encodedBytes then (events, true)
    else fillPage encodedBytes (events ++ [event]) limit eligible

def FunctionHome.eventsFromState (home : FunctionHome) (host : Host) (query : EventQuery) : Except HomeError EventPage := do
  let job ← orError (.notFound query.handle.job.text.render) (home.state.jobs.get? query.handle.job)
  let eligible := job.events.filter fun event => query.afterSequence.getD 0 < event.payload.sequence
  let sizing : EventPageResponse := ⟨.sha256 0, home.config.epoch, home.config.authority, ⟨query.handle, [], none⟩⟩
  let sizing ← ofSigning (SignedRecord.sign .job sizing host.signer)
  let baseBytes := Crypto.encodedLen (EventPageMessage.mk sizing)
  let (events, more) := fillPage (baseBytes + 64) [] (min query.limit maxEventPageItems) eligible
  reject (events = [] ∧ more) (.capacity "one validated job event cannot fit the bounded event-page response")
  let next := if more then events.getLast?.map fun event => event.payload.sequence else none
  let page : EventPage := ⟨query.handle, events, next⟩
  ofInvalid (validate page)
  return page

def FunctionHome.events (home : FunctionHome) (host : Host) (query : EventQuery) : Except HomeError EventPage := do
  ofInvalid (validate query)
  reject (query.handle.home ≠ home.config.home) (.notFound query.handle.job.text.render)
  home.authoritative
  home.eventsFromState host query

theorem fillPage_split (filled : fillPage encodedBytes events limit eligible = result) :
    ∃ taken rest, eligible = taken ++ rest ∧ result.1 = events ++ taken ∧ (result.2 = false → rest = []) := by
  subst filled
  fun_induction fillPage encodedBytes events limit eligible with
  | case1 => exact ⟨[], [], rfl, by simp, by simp⟩
  | case2 | case3 => exact ⟨[], _, rfl, by simp, by simp⟩
  | case4 _ _ _ event _ _ _ ih =>
    obtain ⟨taken, rest, rfl, filled, all⟩ := ih
    exact ⟨event :: taken, rest, rfl, by simp [filled], all⟩

/-- A page goes on where its cursor stands, up to where the next one will. -/
theorem FunctionHome.events_reads {home : FunctionHome} (numbered : EachJob Sequenced home.state)
    (ran : home.events host query = .ok page) : ∃ record, home.state.jobs.get? query.handle.job = some record ∧
      ∀ seen, seen <+: record.events → query.afterSequence.getD 0 = seen.length →
        seen ++ page.events <+: record.events ∧ (page.nextAfterSequence = none → seen ++ page.events = record.events) ∧
          ∀ cursor ∈ page.nextAfterSequence, cursor = (seen ++ page.events).length ∧ seen.length < cursor := by
  simp only [FunctionHome.events, FunctionHome.eventsFromState, bind_eq_ok, orError_eq_ok, reject_eq_ok] at ran
  obtain ⟨_, _, _, _, _, _, record, found, _, _, _, fits, _, _, made⟩ := ran
  cases made
  refine ⟨record, found, ?_⟩
  rintro seen ⟨more, whole⟩ after
  have counts : Counts 1 (seen ++ more) := whole ▸ (numbered _ record found).1
  have eligible : record.events.filter (fun event => query.afterSequence.getD 0 < event.payload.sequence) = more := by
    rw [after, ← whole, List.filter_append, List.filter_eq_nil_iff.mpr, List.filter_eq_self.mpr, List.nil_append]
    · exact fun event among => decide_eq_true (by have := counts.split.2.bounds among; omega)
    · exact fun event among => by have := counts.split.1.bounds among; simp; omega
  rw [eligible] at fits ⊢
  generalize filled : fillPage _ [] _ more = result at fits ⊢
  obtain ⟨taken, rest, rfl, same, all⟩ := fillPage_split filled
  obtain ⟨events, more⟩ := result
  obtain rfl : events = taken := same
  rw [← List.append_assoc] at whole
  refine ⟨⟨rest, whole⟩, ?_⟩
  cases more with
  | false => simp [← whole, all rfl]
  | true =>
    have filled : 0 < events.length := List.length_pos_iff.mpr (by simpa using fits)
    have counted := counts.split.2.split.1
    rw [Counts] at counted
    have last : events.getLast?.map (fun event => event.payload.sequence) = some (seen ++ events).length := by
      rw [← List.getLast?_map, counted, List.getLast?_range', if_neg (by omega), List.length_append]
      exact congrArg some (by omega)
    simp [last, filled]

/-- Pages that a reader gets by following the cursor, each from the root's Home as it is by then. -/
inductive Followed [DecidableEq ι] (fleet : Fleet ι) (root : ι) (job : JobId) : World ι → Nat → Events → Option Nat → Prop where
  | first : fleet.system.Reachable world → Followed fleet root job world 0 [] (some 0)
  | page : Followed fleet root job world count seen (some after) → fleet.system.Leads world later →
      (later root).process? = some home → home.events host query = .ok page → query.handle.job = job →
      query.afterSequence.getD 0 = after →
      Followed fleet root job later (count + 1) (seen ++ page.events) page.nextAfterSequence

/-- A reader that follows the cursor gets each event once and in order, whatever happens to the root between its pages.
What it has stays the beginning of the history, is all of it when a page has no cursor, and grows with every page. -/
theorem pages_complete [DecidableEq ι] {fleet : Fleet ι} (identified : HandoffsIdentified)
    (followed : Followed fleet root job world count seen next) : fleet.system.Reachable world ∧
      ∀ later home record, fleet.system.Leads world later → (later root).process? = some home →
        home.state.jobs.get? job = some record → seen <+: record.events ∧
          (next = none → later = world → seen = record.events) ∧ ∀ cursor ∈ next, cursor = seen.length ∧ count ≤ cursor := by
  induction followed with
  | first reached => exact ⟨reached, by simp⟩
  | @page _ _ seen _ middle now _ _ page _ run answered ran own after ih =>
    obtain ⟨reached, before⟩ := ih
    have reached := reached.leads run
    obtain ⟨old, known, reads⟩ := FunctionHome.events_reads (sequenced_of_reachable reached root now answered) ran
    rw [own] at known
    obtain ⟨starts, -, cursor⟩ := before _ _ _ run answered known
    obtain ⟨length, few⟩ := cursor _ rfl
    obtain ⟨starts, ends, next⟩ := reads seen starts (after.trans length)
    refine ⟨reached, fun later home record run running held => ?_⟩
    obtain ⟨_, kept, longer, -⟩ := (Fleet.remembers_of_leads identified reached run answered running).jobs _ _ known
    obtain rfl := Option.some.inj (held.symm.trans kept)
    refine ⟨starts.trans longer, ?_, fun cursor among => ?_⟩
    · rintro none rfl
      obtain rfl := Option.some.inj (answered.symm.trans running)
      rw [ends none, Option.some.inj (known.symm.trans held)]
    · obtain ⟨same, longer⟩ := next cursor among
      exact ⟨same, by omega⟩

/-- Histories are numbered from one, begin with the submission of their Job and name no other, and the indexes agree. -/
theorem histories_indexed [DecidableEq ι] {fleet : Fleet ι} (reached : fleet.system.Reachable world)
    (running : (world root).process? = some home) : EachJob Sequenced home.state ∧ Catalogued home.state :=
  ⟨sequenced_of_reachable reached root home running, catalogued_of_reachable reached root home running⟩

end

namespace Sample

open Wire.Sample

attribute [local instance] collisionFree

theorem pages_complete_submitted : ∃ seen, Followed fleet () job (world submitted) 1 seen none ∧
    ∃ home ∈ (world submitted ()).process?, ∃ record ∈ home.state.jobs.get? job, seen = record.events := by
  obtain ⟨now, running, record, held, page, ran, last⟩ : ∃ now ∈ (world submitted ()).process?,
      ∃ record ∈ now.state.jobs.get? job, ∃ page ∈ (now.events host ⟨⟨home, job⟩, none, 1, "n"⟩).toOption,
        page.nextAfterSequence = none := by decide +kernel
  generalize answered : now.events host _ = result at ran
  cases result with
  | error => cases ran
  | ok =>
    cases ran
    have followed := (Followed.first submitted_reachable).page .refl running answered rfl rfl
    rw [last] at followed
    obtain ⟨_, whole, _⟩ := (pages_complete handoffsIdentified followed).2 _ now record .refl running held
    exact ⟨_, followed, now, running, record, held, whole rfl rfl⟩

theorem histories_indexed_submitted : ∃ home ∈ (world submitted ()).process?, Catalogued home.state := by
  obtain ⟨now, running, _⟩ := submitted_runs
  exact ⟨now, running, (histories_indexed submitted_reachable running).2⟩

end Sample

end Gawd.Home
