import Mathlib

/-!
Length-prefixed frames on the byte stream of a peer: what the writer puts on it, and what the reader hands to the parser.
-/

namespace Gawd.Transport

def maxFrameBytes : Nat := 128 * 1024 * 1024

/-- The four bytes of a length, the low one first. -/
def toLeBytes (length : Nat) : List UInt8 :=
  [.ofNat length, .ofNat (length / 256), .ofNat (length / 65536), .ofNat (length / 16777216)]

def fromLeBytes : List UInt8 → Nat
  | [] => 0
  | byte :: rest => byte.toNat + 256 * fromLeBytes rest

theorem fromLeBytes_toLeBytes (small : length < 2 ^ 32) : fromLeBytes (toLeBytes length) = length := by
  simp only [fromLeBytes, toLeBytes, UInt8.toNat_ofNat']
  omega

/-! The writer. -/

/-- What one call to write a socket does. -/
inductive WriteCall where
  | accepted (count : Nat)
  | timedOut
  | failed

/-- What was put on the stream, and the calls that are left if that was all there was to write. -/
inductive Written where
  | whole (sent : List UInt8) (left : List WriteCall)
  | broken (sent : List UInt8)

def Written.after (sent : List UInt8) : Written → Written
  | .whole more left => .whole (sent ++ more) left
  | .broken more => .broken (sent ++ more)

/-- Write a buffer; the calls decide how it is cut up. -/
def writeAllWithStop : List UInt8 → List WriteCall → Written
  | [], calls => .whole [] calls
  | _ :: _, [] => .broken []
  | byte :: rest, .timedOut :: calls => writeAllWithStop (byte :: rest) calls
  | _ :: _, .failed :: _ => .broken []
  | byte :: rest, .accepted count :: calls =>
    -- a call that takes nothing is an error
    if count = 0 then .broken []
    else (writeAllWithStop ((byte :: rest).drop count) calls).after ((byte :: rest).take count)

/-- Write frames with their lengths until a write fails. -/
def writerLoop : List (List UInt8) → List WriteCall → Written
  | [], calls => .whole [] calls
  | frame :: frames, calls =>
    match writeAllWithStop (toLeBytes frame.length) calls with
    | .broken sent => .broken sent
    | .whole sent calls =>
      match writeAllWithStop frame calls with
      | .broken body => .broken (sent ++ body)
      | .whole body calls => (writerLoop frames calls).after (sent ++ body)

/-- The bytes of frames on the stream. -/
def wireBytes (frames : List (List UInt8)) : List UInt8 :=
  frames.flatMap fun frame => toLeBytes frame.length ++ frame

theorem wireBytes_cons {frame : List UInt8} :
    wireBytes (frame :: frames) = toLeBytes frame.length ++ (frame ++ wireBytes frames) := by
  rw [wireBytes, List.flatMap_cons, List.append_assoc]
  rfl

variable {sent : List UInt8} {left : List WriteCall}

theorem Written.after_eq_whole {written : Written} :
    written.after first = .whole sent left ↔ ∃ more, written = .whole more left ∧ sent = first ++ more := by
  cases written <;> simp [Written.after, and_comm, eq_comm]

variable {calls : List WriteCall}

theorem writeAllWithStop_whole (written : writeAllWithStop buffer calls = .whole sent left) : sent = buffer := by
  induction calls generalizing buffer sent with
  | nil =>
    cases buffer with
    | nil => exact (Written.whole.inj written).1.symm
    | cons => cases written
  | cons call calls ih =>
    cases buffer with
    | nil => exact (Written.whole.inj written).1.symm
    | cons byte rest =>
      cases call with
      | timedOut => exact ih written
      | failed => cases written
      | accepted count =>
        rw [writeAllWithStop] at written
        split at written
        · cases written
        · obtain ⟨more, whole, rfl⟩ := Written.after_eq_whole.mp written
          rw [ih whole, List.take_append_drop]

variable {frames : List (List UInt8)}

/-- A writer that comes to its end has put exactly the frames on the stream, however the socket cut them up. -/
theorem writerLoop_whole (written : writerLoop frames calls = .whole sent left) : sent = wireBytes frames := by
  induction frames generalizing calls sent with
  | nil => exact (Written.whole.inj written).1.symm
  | cons frame frames ih =>
    rw [writerLoop] at written
    split at written
    · cases written
    rename_i length
    split at written
    · cases written
    rename_i body
    obtain ⟨more, whole, rfl⟩ := Written.after_eq_whole.mp written
    rw [writeAllWithStop_whole length, writeAllWithStop_whole body, ih whole, wireBytes_cons, List.append_assoc]

/-! The reader. -/

/-- What the socket has for its reader, in order: some bytes, or nothing until the read times out. At the end of the arrivals the
stream has ended. -/
inductive Arrival where
  | segment (bytes : List UInt8)
  | timeout
deriving DecidableEq

/-- What a read of a number of bytes comes to, and the arrivals that are left. -/
inductive Read where
  | done (bytes : List UInt8) (left : List Arrival)
  | timedOut (left : List Arrival)
  | eof

def Read.after (bytes : List UInt8) : Read → Read
  | .done more left => .done (bytes ++ more) left
  | .timedOut left => .timedOut left
  | .eof => .eof

/-- Read a number of bytes. A timeout is an error, and what was read before it is lost. -/
def readExact : Nat → List Arrival → Read
  | 0, arrivals => .done [] arrivals
  | _ + 1, [] => .eof
  | _ + 1, .timeout :: rest => .timedOut rest
  | count + 1, .segment bytes :: rest =>
    if bytes.length < count + 1 then (readExact (count + 1 - bytes.length) rest).after bytes
    else .done (bytes.take (count + 1)) (.segment (bytes.drop (count + 1)) :: rest)

/-- Read a number of bytes, over any timeouts. -/
def readExactWithStop : Nat → List Arrival → Read
  | 0, arrivals => .done [] arrivals
  | _ + 1, [] => .eof
  | count + 1, .timeout :: rest => readExactWithStop (count + 1) rest
  | count + 1, .segment bytes :: rest =>
    if bytes.length < count + 1 then (readExactWithStop (count + 1 - bytes.length) rest).after bytes
    else .done (bytes.take (count + 1)) (.segment (bytes.drop (count + 1)) :: rest)

/-- The arrivals byte by byte; a timeout carries none. -/
def ticks (arrivals : List Arrival) : List (Option UInt8) :=
  arrivals.flatMap fun
    | .segment bytes => bytes.map some
    | .timeout => [none]

@[simp] theorem ticks_segment (bytes : List UInt8) (rest : List Arrival) :
    ticks (.segment bytes :: rest) = bytes.map some ++ ticks rest :=
  rfl

@[simp] theorem ticks_timeout (rest : List Arrival) : ticks (.timeout :: rest) = none :: ticks rest :=
  rfl

/-- What an exact read did with the ticks. -/
def Read.Exact (count : Nat) (whole : List (Option UInt8)) : Read → Prop
  | .done bytes left => bytes.length = count ∧ whole = bytes.map some ++ ticks left
  | .timedOut left => ∃ lost : List UInt8, lost.length < count ∧ whole = lost.map some ++ none :: ticks left
  | .eof => ∃ lost : List UInt8, lost.length < count ∧ whole = lost.map some

/-- What a read over timeouts did with the ticks. -/
def Read.Patient (count : Nat) (whole : List (Option UInt8)) : Read → Prop
  | .done bytes left => bytes.length = count ∧ ∃ used, used.reduceOption = bytes ∧ whole = used ++ ticks left
  | .timedOut _ => False
  | .eof => whole.reduceOption.length < count

/-- The part of a segment that a read leaves. -/
theorem ticks_split {bytes : List UInt8} :
    ticks (.segment bytes :: rest) = (bytes.take count).map some ++ ticks (.segment (bytes.drop count) :: rest) := by
  rw [ticks_segment, ticks_segment, ← List.append_assoc, ← List.map_append, List.take_append_drop]

theorem Read.Exact.after {read : Read} (exact : read.Exact (count - bytes.length) (ticks rest)) (short : bytes.length < count) :
    (read.after bytes).Exact count (ticks (.segment bytes :: rest)) := by
  cases read with
  | done more left =>
    obtain ⟨length, same⟩ := exact
    refine ⟨?_, by rw [ticks_segment, same, List.map_append, List.append_assoc]⟩
    rw [List.length_append]
    omega
  | timedOut | eof =>
    obtain ⟨lost, length, same⟩ := exact
    refine ⟨bytes ++ lost, ?_, by simp [same]⟩
    rw [List.length_append]
    omega

theorem readExact_exact (count : Nat) (arrivals : List Arrival) : (readExact count arrivals).Exact count (ticks arrivals) := by
  induction arrivals generalizing count with
  | nil =>
    cases count with
    | zero => exact ⟨rfl, rfl⟩
    | succ => exact ⟨[], Nat.succ_pos _, rfl⟩
  | cons arrival rest ih =>
    cases count with
    | zero => exact ⟨rfl, rfl⟩
    | succ count =>
      cases arrival with
      | timeout => exact ⟨[], Nat.succ_pos _, rfl⟩
      | segment bytes =>
        rw [readExact]
        split
        · rename_i short
          exact (ih (count + 1 - bytes.length)).after short
        · exact ⟨List.length_take_of_le (by omega), ticks_split⟩

theorem reduceOption_map_some {items : List α} : (items.map some).reduceOption = items := by
  rw [List.reduceOption, List.filterMap_map]
  exact List.filterMap_some

theorem Read.Patient.after {read : Read} (patient : read.Patient (count - bytes.length) (ticks rest))
    (short : bytes.length < count) : (read.after bytes).Patient count (ticks (.segment bytes :: rest)) := by
  cases read with
  | done more left =>
    obtain ⟨length, used, reduced, same⟩ := patient
    refine ⟨?_, bytes.map some ++ used, ?_, ?_⟩
    · rw [List.length_append]
      omega
    · rw [List.reduceOption_append, reduceOption_map_some, reduced]
    · rw [ticks_segment, same, List.append_assoc]
  | timedOut => exact patient
  | eof =>
    change (ticks _).reduceOption.length < _
    change (ticks rest).reduceOption.length < _ at patient
    rw [ticks_segment, List.reduceOption_append, reduceOption_map_some, List.length_append]
    omega

theorem readExactWithStop_patient (count : Nat) (arrivals : List Arrival) :
    (readExactWithStop count arrivals).Patient count (ticks arrivals) := by
  induction arrivals generalizing count with
  | nil =>
    cases count with
    | zero => exact ⟨rfl, [], rfl, rfl⟩
    | succ => exact Nat.succ_pos _
  | cons arrival rest ih =>
    cases count with
    | zero => exact ⟨rfl, [], rfl, rfl⟩
    | succ count =>
      cases arrival with
      | timeout =>
        have later := ih (count + 1)
        rw [readExactWithStop, ticks_timeout]
        cases read : readExactWithStop (count + 1) rest with
        | done more left =>
          rw [read] at later
          obtain ⟨length, used, bytes, same⟩ := later
          exact ⟨length, none :: used, bytes, by rw [same, List.cons_append]⟩
        | timedOut =>
          rw [read] at later
          exact later.elim
        | eof =>
          rw [read] at later
          exact later
      | segment bytes =>
        rw [readExactWithStop]
        split
        · rename_i short
          exact (ih (count + 1 - bytes.length)).after short
        · refine ⟨List.length_take_of_le (by omega), (bytes.take (count + 1)).map some, reduceOption_map_some, ?_⟩
          exact ticks_split

/-- The frames that the reader hands to the parser. -/
def readerLoop (arrivals : List Arrival) : List (List UInt8) :=
  match _read : readExact 4 arrivals with
  | .timedOut left => readerLoop left
  | .eof => []
  | .done length left =>
    let size := fromLeBytes length
    if size = 0 ∨ maxFrameBytes < size then []
    else
      match _body : readExactWithStop size left with
      | .done payload later => payload :: readerLoop later
      | _ => []
termination_by (ticks arrivals).length
decreasing_by
  · have exact := readExact_exact 4 arrivals
    rw [_read] at exact
    obtain ⟨lost, _, same⟩ := exact
    rw [same, List.length_append, List.length_cons]
    omega
  · have exact := readExact_exact 4 arrivals
    rw [_read] at exact
    have patient := readExactWithStop_patient size left
    rw [_body] at patient
    obtain ⟨four, same⟩ := exact
    obtain ⟨_, used, _, whole⟩ := patient
    rw [same, whole]
    simp only [List.length_append, List.length_map]
    omega

/-- The bytes that frames take on the stream. -/
def wireLength (frames : List (List UInt8)) : Nat :=
  (wireBytes frames).length

theorem wireLength_cons {frame : List UInt8} : wireLength (frame :: frames) = 4 + frame.length + wireLength frames := by
  simp only [wireLength, wireBytes_cons, List.length_append, toLeBytes, List.length_cons, List.length_nil]
  omega

/-- What one round of the reader does. -/
inductive Round (arrivals : List Arrival) : List (List UInt8) → Prop where
  | timedOut {lost : List UInt8} {left : List Arrival} : lost.length < 4 →
      ticks arrivals = lost.map some ++ none :: ticks left → Round arrivals (readerLoop left)
  | eof {lost : List UInt8} : lost.length < 4 → ticks arrivals = lost.map some → Round arrivals []
  | refused {length : List UInt8} {left : List Arrival} : length.length = 4 → ticks arrivals = length.map some ++ ticks left →
      fromLeBytes length = 0 ∨ maxFrameBytes < fromLeBytes length → Round arrivals []
  | cut {length : List UInt8} {left : List Arrival} : length.length = 4 → ticks arrivals = length.map some ++ ticks left →
      (ticks left).reduceOption.length < fromLeBytes length → Round arrivals []
  | frame {length : List UInt8} {used : List (Option UInt8)} {left : List Arrival} : length.length = 4 →
      ticks arrivals = length.map some ++ (used ++ ticks left) → used.reduceOption.length = fromLeBytes length →
      Round arrivals (used.reduceOption :: readerLoop left)

theorem readerLoop_round (arrivals : List Arrival) : Round arrivals (readerLoop arrivals) := by
  have exact := readExact_exact 4 arrivals
  rw [readerLoop]
  split
  · rename_i read
    rw [read] at exact
    obtain ⟨lost, few, same⟩ := exact
    exact .timedOut few same
  · rename_i read
    rw [read] at exact
    obtain ⟨lost, few, same⟩ := exact
    exact .eof few same
  · rename_i length left read
    rw [read] at exact
    obtain ⟨four, same⟩ := exact
    dsimp only
    split
    · rename_i bad
      exact .refused four same bad
    have patient := readExactWithStop_patient (fromLeBytes length) left
    split
    · rename_i body
      rw [body] at patient
      obtain ⟨count, used, rfl, whole⟩ := patient
      rw [whole] at same
      exact .frame four same count
    · rename_i other
      cases body : readExactWithStop (fromLeBytes length) left with
      | done => exact absurd body (other _ _)
      | timedOut =>
        rw [body] at patient
        exact patient.elim
      | eof =>
        rw [body] at patient
        exact .cut four same patient

/-- The frames that are handed over fit what has arrived. -/
theorem wireLength_readerLoop_le (arrivals : List Arrival) :
    wireLength (readerLoop arrivals) ≤ (ticks arrivals).reduceOption.length := by
  induction size : (ticks arrivals).length using Nat.strongRecOn generalizing arrivals with
  | ind size ih =>
    subst size
    have round := readerLoop_round arrivals
    generalize readerLoop arrivals = result at round
    cases round with
    | timedOut few same =>
      rename_i lost left
      have later := ih (ticks left).length (by rw [same, List.length_append, List.length_cons]; omega) left rfl
      rw [same, List.reduceOption_append, List.reduceOption_cons_of_none, List.length_append]
      omega
    | eof | refused | cut => exact Nat.zero_le _
    | frame four same count =>
      rename_i length used left
      have later := ih (ticks left).length
        (by rw [same, List.length_append, List.length_append, List.length_map]; omega) left rfl
      rw [same, wireLength_cons, List.reduceOption_append, reduceOption_map_some, List.reduceOption_append, List.length_append,
        List.length_append]
      omega

/-! When the frames come through. -/

/-- A number of bytes of the stream that ends inside the length of a frame. -/
def InsideLength (frames : List (List UInt8)) (offset : Nat) : Prop :=
  ∃ earlier frame later, frames = earlier ++ frame :: later ∧ wireLength earlier < offset ∧ offset < wireLength earlier + 4

variable {frame : List UInt8} {offset : Nat}

theorem insideLength_cons : InsideLength (frame :: frames) offset ↔
      (0 < offset ∧ offset < 4) ∨ ∃ inner, offset = 4 + frame.length + inner ∧ InsideLength frames inner := by
  constructor
  · rintro ⟨earlier, found, later, split, above, below⟩
    cases earlier with
    | nil => exact .inl ⟨above, below⟩
    | cons first rest =>
      obtain ⟨rfl, rest⟩ := List.cons.inj split
      rw [wireLength_cons] at above below
      exact .inr ⟨offset - (4 + frame.length), by omega, _, found, later, rest, by omega, by omega⟩
  · rintro (⟨above, below⟩ | ⟨inner, rfl, earlier, found, later, rfl, above, below⟩)
    · exact ⟨[], frame, frames, rfl, above, below⟩
    · refine ⟨frame :: earlier, found, later, rfl, ?_, ?_⟩
      · rw [wireLength_cons]
        omega
      · rw [wireLength_cons]
        omega

theorem not_insideLength_zero : ¬ InsideLength frames 0 := by
  rintro ⟨_, _, _, _, above, _⟩
  exact Nat.not_lt_zero _ above

/-- How many bytes have come before each timeout, from a given number on. -/
def tickOffsets (start : Nat) : List (Option UInt8) → List Nat
  | [] => []
  | none :: rest => start :: tickOffsets start rest
  | some _ :: rest => tickOffsets (start + 1) rest

/-- Some timeout comes while the length of a frame has come in part. -/
def Interrupted (frames : List (List UInt8)) (whole : List (Option UInt8)) : Prop :=
  ∃ offset ∈ tickOffsets 0 whole, InsideLength frames offset

theorem tickOffsets_append {first : List (Option UInt8)} :
    tickOffsets start (first ++ rest) = tickOffsets start first ++ tickOffsets (start + first.reduceOption.length) rest := by
  induction first generalizing start with
  | nil => rfl
  | cons tick first ih =>
    cases tick with
    | none => simp [tickOffsets, ih, List.reduceOption_cons_of_none]
    | some =>
      simp only [List.cons_append, tickOffsets, ih, List.reduceOption_cons_of_some, List.length_cons]
      rw [Nat.add_assoc, Nat.add_comm 1]

theorem tickOffsets_map_some (start : Nat) (bytes : List UInt8) : tickOffsets start (bytes.map some) = [] := by
  induction bytes generalizing start with
  | nil => rfl
  | cons byte bytes ih => exact ih (start + 1)

theorem tickOffsets_add (start offset : Nat) (whole : List (Option UInt8)) :
    tickOffsets (start + offset) whole = (tickOffsets offset whole).map (start + ·) := by
  induction whole generalizing offset with
  | nil => rfl
  | cons tick whole ih =>
    cases tick with
    | none => simp [tickOffsets, ih]
    | some => exact ih (offset + 1)

variable {whole : List (Option UInt8)}

theorem bounds_of_mem_tickOffsets (member : offset ∈ tickOffsets start whole) :
    start ≤ offset ∧ offset ≤ start + whole.reduceOption.length := by
  induction whole generalizing start with
  | nil => cases member
  | cons tick whole ih =>
    cases tick with
    | none =>
      rw [List.reduceOption_cons_of_none]
      rcases List.mem_cons.mp member with rfl | later
      · omega
      · exact ih later
    | some =>
      have later := ih member
      rw [List.reduceOption_cons_of_some, List.length_cons]
      omega

theorem interrupted_timeout : Interrupted frames (none :: whole) ↔ Interrupted frames whole := by
  simp [Interrupted, tickOffsets, not_insideLength_zero]

variable {length : List UInt8}

/-- Only timeouts after a frame that was read can interrupt the frames after it. -/
theorem interrupted_frame {used : List (Option UInt8)} (four : length.length = 4)
    (body : used.reduceOption.length = frame.length) :
    Interrupted (frame :: frames) (length.map some ++ (used ++ rest)) ↔ Interrupted frames rest := by
  have offsets : tickOffsets 0 (length.map some ++ (used ++ rest)) =
      tickOffsets 4 used ++ (tickOffsets 0 rest).map (4 + frame.length + ·) := by
    rw [tickOffsets_append, tickOffsets_map_some, reduceOption_map_some, four, List.nil_append, tickOffsets_append, body,
      ← tickOffsets_add, Nat.zero_add, Nat.add_zero]
  rw [Interrupted, offsets]
  constructor
  · rintro ⟨offset, member, inside⟩
    rcases List.mem_append.mp member with within | later
    · -- such a timeout comes after the length of the frame and before its last byte
      have bounds := bounds_of_mem_tickOffsets within
      rcases insideLength_cons.mp inside with ⟨_, below⟩ | ⟨inner, same, inside⟩
      · omega
      · obtain rfl : inner = 0 := by omega
        exact absurd inside not_insideLength_zero
    · obtain ⟨inner, after, rfl⟩ := List.mem_map.mp later
      rcases insideLength_cons.mp inside with ⟨_, below⟩ | ⟨number, same, inside⟩
      · omega
      · obtain rfl : inner = number := by omega
        exact ⟨inner, after, inside⟩
  · rintro ⟨inner, member, inside⟩
    exact ⟨_, List.mem_append_right _ (List.mem_map_of_mem member), insideLength_cons.mpr (.inr ⟨inner, rfl, inside⟩)⟩

section

variable (bounded : ∀ frame ∈ frames, 1 ≤ frame.length ∧ frame.length ≤ maxFrameBytes)

include bounded

/-- The first four bytes of the stream are the length of its first frame. -/
theorem wireBytes_eq_append (four : length.length = 4) (same : length ++ rest = wireBytes frames) :
    ∃ frame later, frames = frame :: later ∧ fromLeBytes length = frame.length ∧ rest = frame ++ wireBytes later := by
  cases frames with
  | nil =>
    obtain ⟨rfl, _⟩ := List.append_eq_nil_iff.mp same
    cases four
  | cons frame later =>
    rw [wireBytes_cons] at same
    obtain ⟨rfl, rest⟩ := List.append_inj same (by rw [four]; rfl)
    refine ⟨frame, later, rfl, fromLeBytes_toLeBytes ?_, rest⟩
    have small := (bounded frame List.mem_cons_self).2
    rw [maxFrameBytes] at small
    omega

/-- The frames come through exactly if no timeout interrupts the length of one. -/
theorem readerLoop_eq_iff (arrived : (ticks arrivals).reduceOption = wireBytes frames) :
    readerLoop arrivals = frames ↔ ¬ Interrupted frames (ticks arrivals) := by
  induction size : (ticks arrivals).length using Nat.strongRecOn generalizing arrivals frames with
  | ind size ih =>
    subst size
    have round := readerLoop_round arrivals
    generalize readerLoop arrivals = result at round
    cases round with
    | timedOut few same =>
      rename_i lost left
      rw [same] at arrived ⊢
      rw [List.reduceOption_append, reduceOption_map_some, List.reduceOption_cons_of_none] at arrived
      rcases lost with _ | ⟨byte, lost⟩
      · -- between two frames, a timeout is waited out
        have smaller : (ticks left).length < (ticks arrivals).length := by
          rw [same, List.length_append, List.length_cons]
          omega
        rw [ih _ smaller bounded arrived rfl]
        exact not_congr interrupted_timeout.symm
      · -- the bytes that were read are lost, so less is left than the frames take
        refine iff_of_false (fun through => ?_) (not_not.mpr ?_)
        · have fits := wireLength_readerLoop_le left
          have total := congrArg List.length arrived
          rw [through, wireLength] at fits
          rw [List.length_append, List.length_cons] at total
          omega
        · cases frames with
          | nil => cases arrived
          | cons frame frames =>
            refine ⟨(byte :: lost).length, ?_, insideLength_cons.mpr (.inl ⟨Nat.succ_pos _, few⟩)⟩
            rw [tickOffsets_append, reduceOption_map_some, Nat.zero_add]
            exact List.mem_append_right _ List.mem_cons_self
    | eof few same =>
      rw [same, reduceOption_map_some] at arrived
      cases frames with
      | nil =>
        refine iff_of_true rfl ?_
        rintro ⟨_, _, _, _, _, split, _⟩
        simp at split
      | cons frame frames =>
        have total := congrArg List.length arrived
        rw [wireBytes_cons, List.length_append, toLeBytes] at total
        simp only [List.length_cons] at total
        omega
    | refused four same bad =>
      rw [same, List.reduceOption_append, reduceOption_map_some] at arrived
      obtain ⟨frame, later, rfl, size, _⟩ := wireBytes_eq_append bounded four arrived
      have fits := bounded frame List.mem_cons_self
      omega
    | cut four same less =>
      rw [same, List.reduceOption_append, reduceOption_map_some] at arrived
      obtain ⟨frame, later, rfl, size, rest⟩ := wireBytes_eq_append bounded four arrived
      rw [rest, List.length_append] at less
      omega
    | frame four same count =>
      rename_i length used left
      rw [same, List.reduceOption_append, reduceOption_map_some, List.reduceOption_append] at arrived
      obtain ⟨frame, later, rfl, size, rest⟩ := wireBytes_eq_append bounded four arrived
      obtain ⟨body, others⟩ := List.append_inj rest (by rw [count, size])
      have smaller : (ticks left).length < (ticks arrivals).length := by
        rw [same, List.length_append, List.length_append, List.length_map]
        omega
      rw [same, interrupted_frame four (congrArg List.length body), body, List.cons.injEq, eq_self, true_and]
      exact ih _ smaller (fun other member => bounded other (List.mem_cons_of_mem _ member)) others rfl

end

/-- The bytes of the arrivals. -/
def received : List Arrival → List UInt8
  | [] => []
  | .segment bytes :: rest => bytes ++ received rest
  | .timeout :: rest => received rest

/-- How many bytes have arrived before each timeout, from a given number on. -/
def timeoutOffsets (start : Nat) : List Arrival → List Nat
  | [] => []
  | .segment bytes :: rest => timeoutOffsets (start + bytes.length) rest
  | .timeout :: rest => start :: timeoutOffsets start rest

theorem reduceOption_ticks : (ticks arrivals).reduceOption = received arrivals := by
  induction arrivals with
  | nil => rfl
  | cons arrival rest ih =>
    cases arrival with
    | segment bytes => rw [ticks_segment, List.reduceOption_append, reduceOption_map_some, ih, received]
    | timeout => rw [ticks_timeout, List.reduceOption_cons_of_none, ih, received]

theorem tickOffsets_ticks (start : Nat) (arrivals : List Arrival) :
    tickOffsets start (ticks arrivals) = timeoutOffsets start arrivals := by
  induction arrivals generalizing start with
  | nil => rfl
  | cons arrival rest ih =>
    cases arrival with
    | segment bytes =>
      rw [ticks_segment, tickOffsets_append, tickOffsets_map_some, reduceOption_map_some, List.nil_append, ih, timeoutOffsets]
    | timeout => rw [ticks_timeout, tickOffsets, ih, timeoutOffsets]

/-- Whatever the writer puts on the stream, and however it is cut into segments and timeouts: the reader hands exactly the frames
that were written to the parser if and only if no timeout falls inside the four bytes of a length. -/
theorem framing_transparent_iff {frames : List (List UInt8)} {calls left : List WriteCall} {sent : List UInt8}
    {arrivals : List Arrival} (bounded : ∀ frame ∈ frames, 1 ≤ frame.length ∧ frame.length ≤ maxFrameBytes)
    (written : writerLoop frames calls = .whole sent left) (arrived : received arrivals = sent) :
    readerLoop arrivals = frames ↔ ∀ offset ∈ timeoutOffsets 0 arrivals, ¬ InsideLength frames offset := by
  rw [writerLoop_whole written, ← reduceOption_ticks] at arrived
  rw [readerLoop_eq_iff bounded arrived, Interrupted, tickOffsets_ticks]
  simp only [not_exists, not_and]

/-- A timeout between the length of a frame and its last byte does no harm. -/
theorem framing_transparent_iff_patient : readerLoop [.segment [2, 0, 0, 0, 7], .timeout, .segment [8]] = [[7, 8]] := by
  have written : writerLoop [[7, 8]] [.accepted 3, .timedOut, .accepted 1, .accepted 2] = .whole [2, 0, 0, 0, 7, 8] [] := rfl
  refine (framing_transparent_iff (by decide) written rfl).mpr fun offset member inside => ?_
  obtain rfl : offset = 5 := List.mem_singleton.mp member
  rcases insideLength_cons.mp inside with ⟨_, below⟩ | ⟨inner, same, _⟩
  · omega
  · simp only [List.length_cons, List.length_nil] at same
    omega

/-- A timeout after the first byte of a length: the byte is lost, and the frame with it. -/
theorem interrupted_length_loses_frame :
    writerLoop [[7, 8]] [.accepted 4, .accepted 2] = .whole [2, 0, 0, 0, 7, 8] [] ∧
      received [.segment [2], .timeout, .segment [0, 0, 0, 7, 8]] = [2, 0, 0, 0, 7, 8] ∧
      readerLoop [.segment [2], .timeout, .segment [0, 0, 0, 7, 8]] ≠ [[7, 8]] := by
  refine ⟨rfl, rfl, ?_⟩
  have arrived : (ticks [.segment [2], .timeout, .segment [0, 0, 0, 7, 8]]).reduceOption = wireBytes [[7, 8]] := rfl
  rw [Ne, readerLoop_eq_iff (by decide) arrived, not_not]
  exact ⟨1, by decide, [], [7, 8], [], rfl, by decide, by decide⟩

end Gawd.Transport
