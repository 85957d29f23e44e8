import PackageSearch.Proofs.Server.Contents
import PackageSearch.Server.Schedule

/-!
# One detection at a time

Whoever detects is inside the gate, and the gate holds one task. So the detections of a run follow
one another: when one starts, none is under way.
-/

namespace PackageSearch.Server

variable {settings : Settings} {world : World} {state : State} {task other : TaskId}
  {before after : State × Point} {events : List Event} {journal : List JournalEntry} {time : Nat}

/-! ### The line before the gate -/

@[simp]
theorem State.leaveGate_gate (state : State) : state.leaveGate.gate = state.gate.tail := by
  unfold leaveGate
  split
  · rename_i first next waiting isGate
    simp [renumber, isGate]
  · rename_i short
    rcases isGate : state.gate with _ | ⟨first, _ | ⟨next, waiting⟩⟩
    · rfl
    · rfl
    · exact absurd isGate (short first next waiting)

/-- The place of a task in the line: inside the gate, waiting for it, or nowhere. -/
def Point.HasPlace (gate : List TaskId) (task : TaskId) : Point → Prop
  | .entering _ _ | .trying _ _ _ | .hearing _ _ _ _ _ | .concluding _ _ _
  | .resting (.probing _ _ _ _ _ _) => gate.head? = some task
  | .resting (.queued _ _) => task ∈ gate
  | _ => task ∉ gate

theorem not_mem_tail_of_head? {gate : List TaskId} (distinct : gate.Nodup)
    (first : gate.head? = some task) : task ∉ gate.tail := by
  obtain ⟨waiting, rfl⟩ := List.head?_eq_some_iff.mp first
  exact (List.nodup_cons.mp distinct).1

/-- A task that moves has the place that belongs to the point to which it comes. -/
theorem Move.hasPlace (move : Move settings world task before events after)
    (distinct : before.1.gate.Nodup) (place : before.2.HasPlace before.1.gate task) :
    after.2.HasPlace after.1.gate task := by
  cases move with
  | @goOn state stage allowed =>
      cases stage with
      | queued demand purpose =>
          have first : state.gate.head? = some task := by simpa [State.allows] using allowed
          exact first
      | _ => exact place
  | @gateFree state demand purpose free =>
      have noGate : state.gate = [] := List.isEmpty_iff.mp free
      simp [Point.HasPlace, State.lined, noGate]
  | gateTaken => exact List.mem_append_right _ (List.mem_singleton_self _)
  | broughtMeanwhile | kept | discarded =>
      refine (?_ : task ∉ State.gate (State.leaveGate _))
      rw [State.leaveGate_gate]
      exact not_mem_tail_of_head? distinct place
  | _ => exact place

/-! ### Detections under way -/

/-- The task has started a detection that has not ended. -/
structure IsUnderWay (journal : List JournalEntry) (task : TaskId) : Prop where
  started : .refreshing ∈ eventsOf journal task
  unended : ∀ found, .detected found ∉ eventsOf journal task

/-- Whenever a detection starts, it is the first one of its task, and no other is under way. -/
def NeverOverlap (journal : List JournalEntry) : Prop :=
  ∀ earlier time task later, journal = earlier ++ ⟨time, task, .refreshing⟩ :: later →
    .refreshing ∉ eventsOf earlier task ∧ ∀ other, ¬IsUnderWay earlier other

/-- An entry of a journal that has grown is an old one or a new one. -/
theorem exists_split_of_append {entry : JournalEntry} {more earlier later : List JournalEntry}
    (split : journal ++ more = earlier ++ entry :: later) :
    (∃ rest, journal = earlier ++ entry :: rest) ∨
      ∃ between, earlier = journal ++ between ∧ more = between ++ entry :: later := by
  rcases List.append_eq_append_iff.mp split with ⟨between, isEarlier, isMore⟩ |
    ⟨between, isJournal, isLater⟩
  · exact .inr ⟨between, isEarlier, isMore⟩
  · cases between with
    | nil => exact .inr ⟨[], by simpa using isJournal.symm, by simpa using isLater.symm⟩
    | cons first rest =>
        obtain ⟨rfl, -⟩ := List.cons.inj isLater
        exact .inl ⟨rest, isJournal⟩

theorem NeverOverlap.append (apart : NeverOverlap journal)
    (alone : .refreshing ∈ events →
      events = [.refreshing] ∧ .refreshing ∉ eventsOf journal task ∧
        ∀ other, ¬IsUnderWay journal other) :
    NeverOverlap (journal ++ entriesOf time task events) := by
  intro earlier moment author later split
  rcases exists_split_of_append split with ⟨rest, old⟩ | ⟨between, rfl, new⟩
  · exact apart _ _ _ _ old
  · have membership : (⟨moment, author, .refreshing⟩ : JournalEntry) ∈
        entriesOf time task events := by
      rw [new]
      exact List.mem_append_cons_self
    obtain ⟨event, left, same⟩ := mem_entriesOf.mp membership
    cases same
    obtain ⟨rfl, first, none⟩ := alone left
    cases between with
    | nil =>
        rw [List.append_nil]
        exact ⟨first, none⟩
    | cons entry between => cases between <;> simp [entriesOf] at new

theorem IsUnderWay.of_append (underWay : IsUnderWay (journal ++ entriesOf time task events) other)
    (different : other ≠ task) : IsUnderWay journal other := by
  rcases underWay with ⟨started, unended⟩
  rw [eventsOf_append_other different] at started unended
  exact ⟨started, unended⟩

theorem IsUnderWay.of_append_self
    (underWay : IsUnderWay (journal ++ entriesOf time task events) task)
    (unstarted : .refreshing ∉ events) : IsUnderWay journal task := by
  rcases underWay with ⟨started, unended⟩
  simp only [eventsOf_append_self, List.mem_append] at started unended
  exact ⟨started.resolve_right unstarted, fun found ended => unended found (.inl ended)⟩

theorem not_isUnderWay_of_ended {found : Snapshot} (ended : .detected found ∈ events) :
    ¬IsUnderWay (journal ++ entriesOf time task events) task :=
  fun underWay => underWay.unended found (by simp [ended])

/-- What a move does to the line: nothing, or its task joins the end, or its task leaves the gate
and has no detection under way. -/
theorem Move.gate_cases (move : Move settings world task before events after)
    (stands : Stands before.1.journal before.1.generation task before.2)
    (place : before.2.HasPlace before.1.gate task) :
    after.1.gate = before.1.gate ∨
      task ∉ before.1.gate ∧ after.1.gate = before.1.gate ++ [task] ∨
      before.1.gate.head? = some task ∧ after.1.gate = before.1.gate.tail ∧
        ¬IsUnderWay (before.1.journal ++ entriesOf before.1.now task events) task := by
  cases move with
  | gateFree | gateTaken => exact .inr (.inl ⟨place, rfl⟩)
  | broughtMeanwhile =>
      refine .inr (.inr ⟨place, State.leaveGate_gate _, fun underWay => ?_⟩)
      exact stands.2.unstarted (underWay.of_append_self List.not_mem_nil).started
  | kept | discarded =>
      refine .inr (.inr ⟨place, State.leaveGate_gate _, ?_⟩)
      exact not_isUnderWay_of_ended List.mem_cons_self
  | _ => exact .inl rfl

/-- Other tasks keep their places. -/
theorem Move.hasPlace_other {stage : Stage} (move : Move settings world task before events after)
    (different : other ≠ task)
    (stands : Stands before.1.journal before.1.generation task before.2)
    (moving : before.2.HasPlace before.1.gate task)
    (place : (Point.resting stage).HasPlace before.1.gate other) :
    (Point.resting stage).HasPlace after.1.gate other := by
  rcases move.gate_cases stands moving with same | ⟨-, joined⟩ | ⟨first, left, -⟩
  · rw [same]
    exact place
  · rw [joined]
    cases stage with
    | probing detection name wake outcome remaining purpose =>
        exact (List.head?_append_of_ne_nil _ (List.ne_nil_of_mem
          (List.mem_of_mem_head? place))).trans place
    | queued demand purpose => exact List.mem_append_left _ place
    | _ =>
        refine fun membership => (List.mem_append.mp membership).elim place ?_
        exact fun isTask => different (List.mem_singleton.mp isTask)
  · rw [left]
    obtain ⟨waiting, isGate⟩ := List.head?_eq_some_iff.mp first
    rw [isGate] at place ⊢
    cases stage with
    | probing detection name wake outcome remaining purpose =>
        exact absurd (Option.some.inj place).symm different
    | queued demand purpose => exact (List.mem_cons.mp place).resolve_left different
    | _ => exact fun membership => place (List.mem_cons_of_mem _ membership)

/-- The gate is in order, and a detection is under way only inside it. -/
structure Orderly (state : State) : Prop where
  distinct : state.gate.Nodup
  present : ∀ task ∈ state.gate, task < state.tasks.length
  inside : ∀ task, IsUnderWay state.journal task → state.gate.head? = some task
  apart : NeverOverlap state.journal

/-- A detection starts inside the gate, as the first one of its task. -/
theorem Move.alone_of_started (move : Move settings world task before events after)
    (started : .refreshing ∈ events)
    (stands : Stands before.1.journal before.1.generation task before.2)
    (place : before.2.HasPlace before.1.gate task) :
    events = [.refreshing] ∧ .refreshing ∉ eventsOf before.1.journal task ∧
      before.1.gate.head? = some task ∧ after.1.gate = before.1.gate := by
  cases move with
  | refreshDemanded | stillStale => exact ⟨rfl, stands.2.unstarted, place, rfl⟩
  | _ => simp at started

/-- Whoever has a detection under way after a move is inside the gate then. -/
theorem Move.inside (move : Move settings world task before events after)
    (orderly : Orderly before.1)
    (stands : Stands before.1.journal before.1.generation task before.2)
    (place : before.2.HasPlace before.1.gate task)
    (underWay : IsUnderWay after.1.journal other) : after.1.gate.head? = some other := by
  rw [move.journal_eq] at underWay
  by_cases starts : other = task ∧ .refreshing ∈ events
  · obtain ⟨rfl, started⟩ := starts
    obtain ⟨-, -, first, same⟩ := move.alone_of_started started stands place
    rw [same]
    exact first
  · have earlier : IsUnderWay before.1.journal other := by
      by_cases own : other = task
      · subst own
        exact underWay.of_append_self fun started => starts ⟨rfl, started⟩
      · exact underWay.of_append own
    have head := orderly.inside other earlier
    rcases move.gate_cases stands place with same | ⟨-, joined⟩ | ⟨first, -, ended⟩
    · rw [same]
      exact head
    · rw [joined, List.head?_append_of_ne_nil _ (List.ne_nil_of_mem (List.mem_of_mem_head? head))]
      exact head
    · obtain rfl : other = task := Option.some.inj (head.symm.trans first)
      exact absurd underWay ended

theorem Move.orderly (move : Move settings world task before events after)
    (present : task < before.1.tasks.length) (orderly : Orderly before.1)
    (stands : Stands before.1.journal before.1.generation task before.2)
    (place : before.2.HasPlace before.1.gate task) : Orderly after.1 where
  distinct := by
    rcases move.gate_cases stands place with same | ⟨absent, joined⟩ | ⟨-, left, -⟩
    · exact same ▸ orderly.distinct
    · rw [joined, ← List.concat_eq_append]
      exact orderly.distinct.concat absent
    · exact left ▸ orderly.distinct.tail
  present := by
    intro member membership
    rw [move.length_tasks_eq]
    rcases move.gate_cases stands place with same | ⟨-, joined⟩ | ⟨-, left, -⟩
    · exact orderly.present member (same ▸ membership)
    · rw [joined] at membership
      rcases List.mem_append.mp membership with before | isTask
      · exact orderly.present member before
      · exact List.mem_singleton.mp isTask ▸ present
    · exact orderly.present member (List.mem_of_mem_tail (left ▸ membership))
  inside other underWay := move.inside orderly stands place underWay
  apart := by
    rw [move.journal_eq]
    refine orderly.apart.append fun started => ?_
    obtain ⟨only, first, head, -⟩ := move.alone_of_started started stands place
    refine ⟨only, first, fun other underWay => ?_⟩
    obtain rfl : other = task :=
      Option.some.inj ((orderly.inside other underWay).symm.trans head)
    exact first underWay.started

/-! ### The gate in all runs -/

def gating (settings : Settings) (world : World) : Layer (sound settings world) where
  common := Orderly
  standing state task point := point.HasPlace state.gate task
  common_withTasks grown orderly :=
    ⟨orderly.distinct, fun task membership => Nat.lt_of_lt_of_le (orderly.present task membership)
      grown, orderly.inside, orderly.apart⟩
  standing_withTasks place := place
  common_pass _ _ _ orderly := ⟨orderly.distinct, orderly.present, orderly.inside, orderly.apart⟩
  standing_pass _ _ _ _ place := place
  announced _ _ orderly := fun membership => Nat.lt_irrefl _ (orderly.present _ membership)
  move move present _ _ standing orderly place :=
    ⟨move.orderly present orderly standing.1 place, move.hasPlace orderly.distinct place⟩
  undisturbed move different _ standing _ _ moving place :=
    move.hasPlace_other different standing.1 moving place

/-- The journal is sound and accounts for both caches and all tasks, and the gate is in order. -/
abbrev gated (settings : Settings) (world : World) : Invariant settings world :=
  (gating settings world).invariant

theorem Reachable.gated (reachable : Reachable settings world state) :
    (gated settings world).Holds state := by
  have orderly : Orderly State.initial := by
    refine ⟨List.nodup_nil, by simp [State.initial], ?_, ?_⟩
    · intro task underWay
      cases underWay.started
    · intro earlier time task later split
      simp [State.initial] at split
  have started : (Server.gated settings world).Holds State.initial :=
    Layer.holds Reachable.initial.sound orderly
      fun waits => by simp [State.stage?, State.initial] at waits
  exact started.leads reachable.leads

/-- No operation is in flight. -/
def State.IsIdle (state : State) : Prop :=
  ∀ task ∈ state.tasks, State.hasEnded task = true

instance (state : State) : Decidable state.IsIdle :=
  inferInstanceAs (Decidable (∀ task ∈ state.tasks, State.hasEnded task = true))

theorem State.IsIdle.exists_answer {stage : Stage} (idle : state.IsIdle)
    (waits : state.stage? task = some stage) : ∃ answer time, stage = .finished answer time := by
  obtain ⟨⟨found, ticket⟩, present, rfl⟩ := Option.map_eq_some_iff.mp waits
  have ended := idle _ (List.mem_of_getElem? present)
  cases found with
  | finished answer time => exact ⟨answer, time, rfl⟩
  | _ => cases ended

theorem State.IsIdle.wakes_eq_nil (idle : state.IsIdle) :
    (state.tasks.filterMap fun waiting => waiting.stage.wake?) = [] := by
  refine List.filterMap_eq_nil_iff.mpr fun waiting membership => ?_
  have ended := idle waiting membership
  rcases waiting with ⟨stage, ticket⟩
  cases stage with
  | finished => rfl
  | _ => cases ended

theorem State.IsIdle.countP_eq_zero (idle : state.IsIdle) :
    state.tasks.countP (fun waiting => !State.hasEnded waiting) = 0 :=
  List.countP_eq_zero.mpr fun waiting membership => by simp [idle waiting membership]

theorem State.IsIdle.gate_eq_nil (idle : state.IsIdle)
    (holds : (gated settings world).Holds state) : state.gate = [] := by
  have orderly : Orderly state := holds.common.2
  refine List.eq_nil_iff_forall_not_mem.mpr fun task membership => ?_
  obtain ⟨stage, waits⟩ := State.exists_stage? (orderly.present task membership)
  obtain ⟨answer, time, rfl⟩ := idle.exists_answer waits
  have absent : task ∉ state.gate := (holds.standing waits).2
  exact absent membership

end PackageSearch.Server
