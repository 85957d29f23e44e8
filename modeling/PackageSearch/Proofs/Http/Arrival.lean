import Mathlib.Algebra.GroupWithZero.Nat
import PackageSearch.Proofs.Http.Head

/-!
# Heads that come in time

A reader with patience gets a head, or learns that there is none, exactly if enough has come in time
to tell. It then gets what a reader gets that waits for ever.
-/

namespace PackageSearch.Http

variable {received bytes chunk : List UInt8} {arrivals front later : List Arrival}
  {delay left : Nat}

/-- The bytes that an arrival brings. -/
def Arrival.content (arrival : Arrival) : List UInt8 :=
  match arrival.read with
  | .bytes chunk => chunk
  | .failed _ => []

/-- The client sends the bytes, as many at a time and as late as it likes, and then closes the
connection. -/
inductive Sends : List Arrival → List UInt8 → Prop where
  | closes {delay : Nat} {later : List Arrival} : Sends (⟨delay, .bytes []⟩ :: later) []
  | more {delay : Nat} {chunk bytes : List UInt8} {later : List Arrival} :
      chunk ≠ [] → Sends later bytes → Sends (⟨delay, .bytes chunk⟩ :: later) (chunk ++ bytes)

theorem Sends.delivers (sends : Sends arrivals bytes) :
    Delivers (arrivals.map Arrival.read) bytes := by
  induction sends with
  | closes => exact .closed
  | more some _ inductionHypothesis => exact .more some inductionHypothesis

/-- What has come tells what the head is, or that there is none. -/
inductive Decides (received : List UInt8) (front : List Arrival) : Prop where
  | complete {head : List UInt8} : HasHead (received ++ front.flatMap Arrival.content) head →
      Decides received front
  | overlong : maxHeadBytes < (received ++ front.flatMap Arrival.content).length →
      Decides received front
  | closed {arrival : Arrival} : arrival ∈ front → arrival.read = .bytes [] →
      Decides received front

/-- Before the patience is over, enough comes to tell what the head is. -/
def IsTimely (patience : Nat) (received : List UInt8) (arrivals : List Arrival) : Prop :=
  ∃ front, front <+: arrivals ∧ (front.map Arrival.delay).sum ≤ patience ∧ Decides received front

theorem decides_nil_iff : Decides received [] ↔
    (∃ head, beforeEmptyLine? received = some head) ∨ maxHeadBytes < received.length := by
  simp only [beforeEmptyLine?_eq_some_iff]
  constructor
  · intro decides
    cases decides with
    | complete hasHead => exact .inl ⟨_, by simpa using hasHead⟩
    | overlong long => exact .inr (by simpa using long)
    | closed membership => exact absurd membership List.not_mem_nil
  · rintro (⟨head, hasHead⟩ | long)
    · exact .complete (by simpa using hasHead)
    · exact .overlong (by simpa using long)

theorem unknown_of_undecided (undecided : ¬Decides received []) :
    beforeEmptyLine? received = none ∧ ¬maxHeadBytes < received.length := by
  rw [decides_nil_iff, not_or, ← Option.isSome_iff_exists, Option.not_isSome_iff_eq_none]
    at undecided
  exact undecided

theorem decides_cons_iff (some : chunk ≠ []) :
    Decides received (⟨delay, .bytes chunk⟩ :: front) ↔ Decides (received ++ chunk) front := by
  have same : received ++ (Arrival.mk delay (.bytes chunk) :: front).flatMap Arrival.content =
      received ++ chunk ++ front.flatMap Arrival.content := by
    rw [List.flatMap_cons, List.append_assoc]
    rfl
  constructor
  · intro decides
    cases decides with
    | complete hasHead => exact .complete (same ▸ hasHead)
    | overlong long => exact .overlong (same ▸ long)
    | closed membership isClose =>
        rcases List.mem_cons.mp membership with rfl | among
        · exact absurd (Read.bytes.inj isClose) some
        · exact .closed among isClose
  · intro decides
    cases decides with
    | complete hasHead => exact .complete (same.symm ▸ hasHead)
    | overlong long => exact .overlong (same.symm ▸ long)
    | closed among isClose => exact .closed (List.mem_cons_of_mem _ among) isClose

/-- What is known stays so when more comes. -/
theorem Decides.append (decides : Decides received []) (more : List UInt8) :
    Decides (received ++ more) [] := by
  cases decides with
  | complete hasHead =>
      rw [List.flatMap_nil, List.append_nil] at hasHead
      have extended : HasHead (received ++ more) _ :=
        (HasHead.append_iff hasHead.length_le).mpr hasHead
      exact .complete (by simpa using extended)
  | overlong long =>
      rw [List.flatMap_nil, List.append_nil] at long
      exact .overlong (by simpa using Nat.lt_add_right more.length long)
  | closed membership => exact absurd membership List.not_mem_nil

/-- If nothing can be told yet, the next arrival is waited for. -/
theorem isTimely_cons_iff {arrival : Arrival} (undecided : ¬Decides received []) :
    IsTimely left received (arrival :: later) ↔ arrival.delay ≤ left ∧
      ∃ front, front <+: later ∧ (front.map Arrival.delay).sum ≤ left - arrival.delay ∧
        Decides received (arrival :: front) := by
  constructor
  · rintro ⟨front, isFront, soon, decides⟩
    cases front with
    | nil => exact absurd decides undecided
    | cons first front =>
        obtain ⟨rfl, rest⟩ := List.cons_prefix_cons.mp isFront
        rw [List.map_cons, List.sum_cons] at soon
        exact ⟨by omega, front, rest, by omega, decides⟩
  · rintro ⟨soon, front, isFront, rest, decides⟩
    refine ⟨arrival :: front, List.cons_prefix_cons.mpr ⟨rfl, isFront⟩, ?_, decides⟩
    rw [List.map_cons, List.sum_cons]
    omega

theorem isTimely_closes_iff (undecided : ¬Decides received []) :
    IsTimely left received (⟨delay, .bytes []⟩ :: later) ↔ delay ≤ left := by
  rw [isTimely_cons_iff undecided]
  exact and_iff_left
    ⟨[], List.nil_prefix, Nat.zero_le _, .closed List.mem_cons_self rfl⟩

theorem isTimely_more_iff (undecided : ¬Decides received []) (some : chunk ≠ []) :
    IsTimely left received (⟨delay, .bytes chunk⟩ :: later) ↔
      delay ≤ left ∧ IsTimely (left - delay) (received ++ chunk) later := by
  rw [isTimely_cons_iff undecided]
  simp only [decides_cons_iff some, IsTimely]

theorem take_ne_nil (long : ¬chunk.length ≤ readBytes) : chunk.take readBytes ≠ [] := by
  rw [Ne, List.take_eq_nil_iff, not_or]
  refine ⟨by decide, ?_⟩
  rintro rfl
  exact long (Nat.zero_le _)

theorem drop_ne_nil (long : ¬chunk.length ≤ readBytes) : chunk.drop readBytes ≠ [] := by
  rwa [Ne, List.drop_eq_nil_iff]

theorem Sends.readsOf (sends : Sends later bytes) (delay : Nat) (some : chunk ≠ []) :
    Sends (readsOf delay chunk ++ later) (chunk ++ bytes) := by
  induction delay, chunk using readsOf.induct with
  | case1 delay chunk short =>
      rw [Http.readsOf, if_pos short]
      exact .more some sends
  | case2 delay chunk long inductionHypothesis =>
      rw [Http.readsOf, if_neg long, List.cons_append]
      conv => rhs; rw [← List.take_append_drop readBytes chunk, List.append_assoc]
      exact .more (take_ne_nil long) (inductionHypothesis (drop_ne_nil long))

theorem reads_bytes (delay : Nat) (chunk : List UInt8) :
    (Arrival.mk delay (.bytes chunk)).reads = readsOf delay chunk := rfl

theorem reads_closes (delay : Nat) :
    (Arrival.mk delay (.bytes [])).reads = [⟨delay, .bytes []⟩] := by
  rw [reads_bytes, readsOf]
  exact if_pos (Nat.zero_le readBytes)

theorem Sends.reads (sends : Sends arrivals bytes) :
    Sends (arrivals.flatMap Arrival.reads) bytes := by
  induction sends with
  | closes =>
      rw [List.flatMap_cons, reads_closes]
      exact .closes
  | more some _ inductionHypothesis =>
      rw [List.flatMap_cons]
      exact inductionHypothesis.readsOf _ some

theorem awaitHead_cons (undecided : ¬Decides received []) (patience elapsed delay : Nat)
    (chunk : List UInt8) (later : List Arrival) :
    awaitHead patience elapsed received (⟨delay, .bytes chunk⟩ :: later) =
      if patience < elapsed + delay then .late
      else if chunk.isEmpty then .received (elapsed + delay) none
      else awaitHead patience (elapsed + delay) (received ++ chunk) later := by
  obtain ⟨unknown, short⟩ := unknown_of_undecided undecided
  rw [awaitHead.eq_def, unknown]
  exact if_neg short

theorem receiveHead_cons (undecided : ¬Decides received []) (chunk : List UInt8)
    (reads : List Read) :
    receiveHead received (.bytes chunk :: reads) =
      if chunk.isEmpty then .ok none else receiveHead (received ++ chunk) reads := by
  obtain ⟨unknown, short⟩ := unknown_of_undecided undecided
  rw [receiveHead.eq_def, unknown]
  exact if_neg short

/-- With the patience that is left, a reader gets what one gets that waits for ever, or nothing if
it is not told in time. -/
structure AwaitsInTime (elapsed left : Nat) (received : List UInt8) (arrivals : List Arrival) :
    Prop where
  inTime : IsTimely left received arrivals → ∃ time found, time ≤ elapsed + left ∧
    awaitHead (elapsed + left) elapsed received arrivals = .received time found ∧
      receiveHead received (arrivals.map Arrival.read) = .ok found
  late : ¬IsTimely left received arrivals →
    awaitHead (elapsed + left) elapsed received arrivals = .late

theorem AwaitsInTime.closes (undecided : ¬Decides received []) (elapsed left delay : Nat)
    (later : List Arrival) :
    AwaitsInTime elapsed left received (⟨delay, .bytes []⟩ :: later) := by
  constructor
  all_goals rw [isTimely_closes_iff undecided, awaitHead_cons undecided]
  · intro soon
    rw [List.map_cons, receiveHead_cons undecided]
    exact ⟨elapsed + delay, none, by omega, if_neg (by omega), rfl⟩
  · intro late
    exact if_pos (by omega)

/-- What a reader does after an arrival, it does with the patience that is left then. -/
theorem AwaitsInTime.more (undecided : ¬Decides received []) (some : chunk ≠ []) {elapsed : Nat}
    (rest : AwaitsInTime (elapsed + delay) (left - delay) (received ++ chunk) later) :
    AwaitsInTime elapsed left received (⟨delay, .bytes chunk⟩ :: later) := by
  have full : chunk.isEmpty = false := List.isEmpty_eq_false_iff.mpr some
  by_cases soon : delay ≤ left
  · have sameEnd : elapsed + left = elapsed + delay + (left - delay) := by omega
    have onTime : ¬elapsed + left < elapsed + delay := by omega
    constructor
    all_goals
      rw [isTimely_more_iff undecided some, awaitHead_cons undecided, full, and_iff_right soon,
        if_neg onTime, sameEnd]
    · rw [List.map_cons, receiveHead_cons undecided, full]
      exact rest.inTime
    · exact rest.late
  · constructor
    · intro timely
      exact absurd ((isTimely_more_iff undecided some).mp timely).1 soon
    · intro _
      rw [awaitHead_cons undecided]
      exact if_pos (by omega)

end PackageSearch.Http
