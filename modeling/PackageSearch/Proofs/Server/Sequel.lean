import PackageSearch.Proofs.Server.Gate
import PackageSearch.Proofs.Server.Schedule

/-!
# Servers that take over from others

What a fresh server does can be told as what an older one goes on to do: its tasks are numbered
after the older tasks, its tickets and generations are counted on, and so are the calls of the
package query and of the probes, which the world has to answer accordingly. Every function of a run
commutes with this retelling.
-/

namespace PackageSearch.Server

open Relation

variable {settings : Settings} {world : World} {past next last : State} {task : TaskId}

/-! ### The world after some calls -/

/-- A probe as it answers from the given number of calls on. -/
def Probe.since (probe : Probe) (calls : Nat) : Probe :=
  { probe with reply := fun call => probe.reply (calls + call) }

/-- The world as it answers a server that takes over. -/
def World.since (world : World) (past : State) : World :=
  { world with
    search := fun query call => world.search query (past.asked.count query + call)
    probes := world.probes.mapIdx fun place probe => probe.since (past.probed.count place) }

/-- A call with the probe that the world has at its place. -/
def World.recall (world : World) (call : Nat × Probe) : Nat × Probe :=
  (call.1, world.probes[call.1]?.getD call.2)

theorem World.calls_since (world : World) (past : State) :
    (world.since past).calls =
      world.calls.map fun call => (call.1, call.2.since (past.probed.count call.1)) := by
  apply List.ext_getElem
  · simp [World.calls, World.since]
  · intro place _ _
    simp [World.calls, World.since]

/-- A call that the fresh server has yet to make, as the older one makes it. -/
theorem World.exists_recall {place : Nat} {later : Probe}
    (called : (place, later) ∈ (world.since past).calls) :
    ∃ probe, world.recall (place, later) = (place, probe) ∧
      later = probe.since (past.probed.count place) := by
  rw [World.calls_since] at called
  obtain ⟨⟨_, probe⟩, known, same⟩ := List.mem_map.mp called
  cases same
  refine ⟨probe, ?_, rfl⟩
  rw [World.recall, getElem?_of_mem_zip_range known]
  rfl

theorem World.map_recall_calls (world : World) (past : State) :
    (world.since past).calls.map world.recall = world.calls := by
  rw [World.calls_since, List.map_map]
  refine (List.map_congr_left fun call called => ?_).trans (List.map_id _)
  simp [World.recall, getElem?_of_mem_zip_range called]

/-! ### Taking over -/

def Detection.following (past : State) (detection : Detection) : Detection :=
  { detection with generation := past.generation + detection.generation }

def Stage.following (world : World) (past : State) : Stage → Stage
  | .probing detection name wake outcome remaining purpose =>
      .probing (detection.following past) name wake outcome (remaining.map world.recall) purpose
  | stage => stage

def Task.following (world : World) (past : State) (task : Task) : Task where
  stage := task.stage.following world past
  ticket := past.nextTicket + task.ticket

def JournalEntry.following (past : State) (entry : JournalEntry) : JournalEntry :=
  { entry with task := past.tasks.length + entry.task }

namespace State

/-- An older server that has gone on to do what a fresh one does. -/
def followedBy (past : State) (world : World) (next : State) : State where
  now := next.now
  cache := next.cache
  snapshot := next.snapshot
  generation := past.generation + next.generation
  gate := next.gate.map (past.tasks.length + ·)
  tasks := past.tasks ++ next.tasks.map (Task.following world past)
  nextTicket := past.nextTicket + next.nextTicket
  asked := past.asked ++ next.asked
  probed := past.probed ++ next.probed
  journal := past.journal ++ next.journal.map (JournalEntry.following past)

theorem followedBy_note (event : Event) :
    (past.followedBy world next).note (past.tasks.length + task) event =
      past.followedBy world (next.note task event) := by
  simp [note, followedBy, JournalEntry.following]

theorem followedBy_noteAll (events : List Event) :
    (past.followedBy world next).noteAll (past.tasks.length + task) events =
      past.followedBy world (next.noteAll task events) := by
  simp [noteAll, followedBy, JournalEntry.following]

theorem followedBy_noteQuery (query : String) (commands : List Host.Command) :
    (past.followedBy world next).noteQuery (past.tasks.length + task) query commands =
      past.followedBy world (next.noteQuery task query commands) := by
  simp [noteQuery, note, noteAll, followedBy, JournalEntry.following]

theorem followedBy_noteProbe (place : Nat) (name : String) (commands : List Host.Command) :
    (past.followedBy world next).noteProbe (past.tasks.length + task) place name commands =
      past.followedBy world (next.noteProbe task place name commands) := by
  simp [noteProbe, note, noteAll, followedBy, JournalEntry.following]

theorem followedBy_resetSnapshot :
    (past.followedBy world next).resetSnapshot (past.tasks.length + task) =
      past.followedBy world (next.resetSnapshot task) := by
  simp [resetSnapshot, note, followedBy, JournalEntry.following, Nat.add_assoc]

theorem followedBy_clear :
    (past.followedBy world next).clear (past.tasks.length + task) =
      past.followedBy world (next.clear task) := by
  simp [clear, resetSnapshot, note, followedBy, JournalEntry.following, Nat.add_assoc]

theorem followedBy_store (query : String) (response : SearchResponse) :
    (past.followedBy world next).store settings (past.tasks.length + task) query response =
      past.followedBy world (next.store settings task query response) := by
  simp [store, note, noteAll, followedBy, JournalEntry.following]

theorem followedBy_keep (detection : Detection) (snapshot : Snapshot) :
    (past.followedBy world next).keep (past.tasks.length + task) (detection.following past)
        snapshot =
      past.followedBy world (next.keep task detection snapshot) := by
  unfold keep
  rw [followedBy_note]
  simp only [followedBy, Detection.following, Nat.add_left_cancel_iff]
  split <;> rfl

theorem modify_append_length {Entry : Type} (earlier later : List Entry) (place : Nat)
    (change : Entry → Entry) :
    (earlier ++ later).modify (earlier.length + place) change =
      earlier ++ later.modify place change := by
  induction earlier with
  | nil => simp
  | cons first rest inductionHypothesis =>
      rw [List.length_cons, Nat.succ_add, List.cons_append, List.modify_succ_cons,
        inductionHypothesis, List.cons_append]

theorem modify_map {Entry Image : Type} {image : Entry → Image} {change : Entry → Entry}
    {changeImage : Image → Image}
    (commutes : ∀ entry, changeImage (image entry) = image (change entry))
    (entries : List Entry) (place : Nat) :
    (entries.map image).modify place changeImage = (entries.modify place change).map image := by
  induction entries generalizing place with
  | nil => simp
  | cons first rest inductionHypothesis =>
      cases place with
      | zero => simp [commutes]
      | succ place => simp [inductionHypothesis]

theorem followedBy_renumber :
    (past.followedBy world next).renumber (past.tasks.length + task) =
      past.followedBy world (next.renumber task) := by
  simp only [renumber, followedBy, modify_append_length, Nat.add_assoc]
  congr 2
  apply modify_map
  intro entry
  rfl

theorem followedBy_leaveGate :
    (past.followedBy world next).leaveGate = past.followedBy world next.leaveGate := by
  match isGate : next.gate with
  | [] | [_] => simp [leaveGate, followedBy, isGate]
  | first :: second :: waiting =>
      have left : (past.followedBy world next).gate = _ := congrArg (List.map _) isGate
      simp only [leaveGate, isGate, left, List.map_cons]
      exact @followedBy_renumber world past { next with gate := second :: waiting } second

theorem followedBy_settle (progress : Progress) :
    settle (past.followedBy world progress.1, progress.2.following world past)
        (past.tasks.length + task) =
      past.followedBy world (settle progress task) := by
  simp [settle, followedBy, Task.following, Nat.add_assoc, List.map_set]

end State

/-! ### Runs of one task -/

/-- What a task of the fresh server has come to, as a task of the older one. -/
def Progress.followedBy (past : State) (world : World) (progress : Progress) : Progress :=
  (past.followedBy world progress.1, progress.2.following world past)

theorem finish_followedBy (answer : Answer) :
    finish (past.followedBy world next) answer =
      Progress.followedBy past world (finish next answer) :=
  rfl

theorem failSearch_followedBy (query : String) (error : SearchError) :
    failSearch (past.followedBy world next) (past.tasks.length + task) query error =
      Progress.followedBy past world (failSearch next task query error) := by
  rw [failSearch, State.followedBy_note, finish_followedBy]
  rfl

theorem deliver_followedBy (snapshot : Snapshot) (purpose : Purpose) :
    deliver settings world (past.followedBy world next) (past.tasks.length + task) snapshot
        purpose =
      Progress.followedBy past world
        (deliver settings (world.since past) next task snapshot purpose) := by
  cases purpose with
  | report | debug => rfl
  | assemble query listing =>
      unfold deliver
      dsimp only
      split
      · exact failSearch_followedBy query _
      · rw [State.followedBy_store]
        rfl

theorem conclude_followedBy (detection : Detection) (names : NameSet) (purpose : Purpose) :
    conclude settings world (past.followedBy world next) (past.tasks.length + task)
        (detection.following past) names purpose =
      Progress.followedBy past world
        (conclude settings (world.since past) next task detection names purpose) := by
  unfold conclude
  dsimp only
  rw [State.followedBy_note, State.followedBy_keep, State.followedBy_leaveGate]
  exact deliver_followedBy _ _

/-- The induction is on the probes that have not been tried. -/
theorem tryProbes_followedBy (detection : Detection) (purpose : Purpose)
    {remaining : List (Nat × Probe)} (known : remaining ⊆ (world.since past).calls) :
    tryProbes settings world (past.followedBy world next) (past.tasks.length + task)
        (detection.following past) purpose (remaining.map world.recall) =
      Progress.followedBy past world
        (tryProbes settings (world.since past) next task detection purpose remaining) := by
  induction remaining generalizing next with
  | nil =>
      rw [List.map_nil, tryProbes, State.followedBy_note]
      exact conclude_followedBy _ _ _
  | cons call remaining inductionHypothesis =>
      rcases call with ⟨place, later⟩
      obtain ⟨probe, recalled, rfl⟩ := World.exists_recall (known List.mem_cons_self)
      have others := List.subset_of_cons_subset known
      have sameReply : probe.reply ((past.followedBy world next).probed.count place) =
          (probe.since (past.probed.count place)).reply (next.probed.count place) := by
        simp [State.followedBy, Probe.since]
      rw [List.map_cons, recalled]
      unfold tryProbes
      dsimp only
      rw [sameReply, State.followedBy_noteProbe]
      by_cases atOnce : ((probe.since (past.probed.count place)).reply
          (next.probed.count place)).wait settings.probeTimeout = 0
      · rw [if_pos atOnce, if_pos atOnce]
        have sameName : (probe.since (past.probed.count place)).name = probe.name := rfl
        rw [sameName]
        split
        · rw [State.followedBy_note]
          exact conclude_followedBy _ _ _
        · rw [State.followedBy_note]
          exact inductionHypothesis others
      · rw [if_neg atOnce, if_neg atOnce]
        rfl

theorem resumeDetection_followedBy (detection : Detection) (name : String)
    (outcome : Option (Except ProbeError NameSet)) (purpose : Purpose)
    {remaining : List (Nat × Probe)} (known : remaining ⊆ (world.since past).calls) :
    resumeDetection settings world (past.followedBy world next) (past.tasks.length + task)
        (detection.following past) name outcome (remaining.map world.recall) purpose =
      Progress.followedBy past world
        (resumeDetection settings (world.since past) next task detection name outcome remaining
          purpose) := by
  unfold resumeDetection
  split
  · rw [State.followedBy_note]
    exact conclude_followedBy _ _ _
  · rw [State.followedBy_note]
    exact tryProbes_followedBy _ _ known

theorem startDetection_followedBy (purpose : Purpose) :
    startDetection settings world (past.followedBy world next) (past.tasks.length + task)
        purpose =
      Progress.followedBy past world
        (startDetection settings (world.since past) next task purpose) := by
  have tried : tryProbes settings world (past.followedBy world (next.note task .refreshing))
      (past.tasks.length + task) (next.detection.following past) purpose
        ((world.since past).calls.map world.recall) = _ :=
    tryProbes_followedBy _ _ (List.Subset.refl _)
  rw [World.map_recall_calls, ← State.followedBy_note] at tried
  exact tried

theorem enterGate_followedBy (demand : Demand) (purpose : Purpose) :
    enterGate settings world (past.followedBy world next) (past.tasks.length + task) demand
        purpose =
      Progress.followedBy past world
        (enterGate settings (world.since past) next task demand purpose) := by
  cases demand with
  | refresh => exact startDetection_followedBy purpose
  | current askedAt =>
      have sameSnapshot : (past.followedBy world next).snapshot = next.snapshot := rfl
      unfold enterGate
      dsimp only
      rw [State.followedBy_leaveGate, sameSnapshot]
      split
      · exact startDetection_followedBy purpose
      · exact deliver_followedBy _ _

theorem comeToGate_followedBy (demand : Demand) (purpose : Purpose) :
    comeToGate settings world (past.followedBy world next) (past.tasks.length + task) demand
        purpose =
      Progress.followedBy past world
        (comeToGate settings (world.since past) next task demand purpose) := by
  have lined : (past.followedBy world next).lined (past.tasks.length + task) =
      past.followedBy world (next.lined task) := by
    simp [State.lined, State.followedBy]
  have sameEmpty : (past.followedBy world next).gate.isEmpty = next.gate.isEmpty := by
    simp [State.followedBy]
  unfold comeToGate
  dsimp only
  rw [sameEmpty]
  split
  · exact (congrArg (enterGate settings world · _ demand purpose) lined).trans
      (enterGate_followedBy demand purpose)
  · exact congrArg (·, Stage.queued demand purpose) lined

theorem askCurrent_followedBy (purpose : Purpose) :
    askCurrent settings world (past.followedBy world next) (past.tasks.length + task) purpose =
      Progress.followedBy past world
        (askCurrent settings (world.since past) next task purpose) := by
  have sameSnapshot : (past.followedBy world next).snapshot = next.snapshot := rfl
  have sameTime : (past.followedBy world next).now = next.now := rfl
  unfold askCurrent
  rw [sameSnapshot, sameTime]
  split
  · exact comeToGate_followedBy _ purpose
  · exact deliver_followedBy _ purpose

theorem resumeSearch_followedBy (query : String) (outcome : Option (Except SearchError Listing))
    (notes : List LogLine) :
    resumeSearch settings world (past.followedBy world next) (past.tasks.length + task) query
        outcome notes =
      Progress.followedBy past world
        (resumeSearch settings (world.since past) next task query outcome notes) := by
  unfold resumeSearch
  dsimp only
  rw [State.followedBy_noteAll]
  split
  · exact failSearch_followedBy _ _
  · exact failSearch_followedBy _ _
  · exact askCurrent_followedBy _

theorem sendQuery_followedBy (query : String) :
    sendQuery settings world (past.followedBy world next) (past.tasks.length + task) query =
      Progress.followedBy past world
        (sendQuery settings (world.since past) next task query) := by
  have sameReply : world.search query ((past.followedBy world next).asked.count query) =
      (world.since past).search query (next.asked.count query) := by
    simp [State.followedBy, World.since]
  unfold sendQuery
  dsimp only
  rw [sameReply, State.followedBy_noteQuery]
  split
  · exact resumeSearch_followedBy _ _ _
  · rfl

theorem search_followedBy (text : String) :
    search settings world (past.followedBy world next) (past.tasks.length + task) text =
      Progress.followedBy past world
        (search settings (world.since past) next task text) := by
  have sameCache : (past.followedBy world next).cache = next.cache := rfl
  have sameTime : (past.followedBy world next).now = next.now := rfl
  unfold search
  dsimp only
  rw [sameCache, sameTime]
  split
  · rfl
  · split
    · exact failSearch_followedBy _ _
    · split
      · rw [State.followedBy_note]
        rfl
      · exact sendQuery_followedBy _

theorem begin_followedBy (operation : Operation) :
    begin settings world (past.followedBy world next) (past.tasks.length + task) operation =
      Progress.followedBy past world
        (begin settings (world.since past) next task operation) := by
  cases operation with
  | search text => exact search_followedBy text
  | clear => exact congrArg (finish · _) State.followedBy_clear
  | debug => exact congrArg (·, Stage.inspecting) (State.followedBy_noteAll _)
  | current => exact askCurrent_followedBy .report
  | refresh => exact comeToGate_followedBy .refresh .report
  | reset => exact congrArg (finish · _) State.followedBy_resetSnapshot
  | health | stats | refuse | snapshot => rfl

/-- The probes that a task has yet to try are those of the world. -/
def Stage.KnowsProbes (world : World) : Stage → Prop
  | .probing _ _ _ _ remaining _ => remaining ⊆ world.calls
  | _ => True

theorem proceed_followedBy {stage : Stage} (known : stage.KnowsProbes (world.since past)) :
    proceed settings world (past.followedBy world next) (past.tasks.length + task)
        (stage.following world past) =
      Progress.followedBy past world
        (proceed settings (world.since past) next task stage) := by
  cases stage with
  | scheduled operation start => exact begin_followedBy operation
  | searching query wake outcome notes => exact resumeSearch_followedBy query outcome notes
  | inspecting => exact askCurrent_followedBy .debug
  | queued demand purpose => exact enterGate_followedBy demand purpose
  | probing detection name wake outcome remaining purpose =>
      exact resumeDetection_followedBy detection name outcome purpose known
  | finished answer time => rfl

/-! ### Steps -/

namespace State

theorem length_tasks_followedBy :
    (past.followedBy world next).tasks.length = past.tasks.length + next.tasks.length := by
  simp [followedBy]

theorem getElem?_tasks_followedBy (task : TaskId) :
    (past.followedBy world next).tasks[past.tasks.length + task]? =
      (next.tasks[task]?).map (Task.following world past) := by
  rw [followedBy, List.getElem?_append_right (Nat.le_add_right _ _), Nat.add_sub_cancel_left,
    List.getElem?_map]

theorem stage?_followedBy (task : TaskId) :
    (past.followedBy world next).stage? (past.tasks.length + task) =
      (next.stage? task).map (Stage.following world past) := by
  rw [stage?, getElem?_tasks_followedBy, Option.map_map, stage?, Option.map_map]
  rfl

theorem stage?_followedBy_of_lt (old : task < past.tasks.length) :
    (past.followedBy world next).stage? task = past.stage? task := by
  simp [stage?, followedBy, List.getElem?_append_left old]

theorem allows_followedBy (stage : Stage) :
    (past.followedBy world next).allows (past.tasks.length + task) (stage.following world past) =
      next.allows task stage := by
  cases stage with
  | queued demand purpose =>
      cases isGate : next.gate with
      | nil => simp [allows, Stage.following, followedBy, isGate]
      | cons first waiting =>
          have same : (past.tasks.length + first == past.tasks.length + task) =
              (first == task) := Bool.eq_iff_iff.mpr (by simp)
          simp [allows, Stage.following, followedBy, isGate, same]
  | _ => rfl

theorem spawn_followedBy (operation : Operation) :
    (past.followedBy world next).spawn settings world operation =
      past.followedBy world (next.spawn settings (world.since past) operation) := by
  let arrived := next.withTasks
    (next.tasks ++ [{ stage := .scheduled operation next.now, ticket := next.nextTicket }])
    next.nextTicket
  have added : (past.followedBy world next).withTasks
      ((past.followedBy world next).tasks ++ [{
        stage := .scheduled operation next.now
        ticket := (past.followedBy world next).nextTicket }])
      (past.followedBy world next).nextTicket = past.followedBy world arrived := by
    simp [withTasks, followedBy, arrived, Task.following, Stage.following]
  have begun : begin settings world _ (past.tasks.length + next.tasks.length) operation =
      Progress.followedBy past world
        (begin settings (world.since past) arrived next.tasks.length operation) :=
    begin_followedBy operation
  rw [← added, ← length_tasks_followedBy] at begun
  refine (congrArg (settle · _) begun).trans ?_
  rw [length_tasks_followedBy]
  exact followedBy_settle _

theorem schedule_followedBy (operation : Operation) (start : Nat) :
    (past.followedBy world next).schedule operation start =
      past.followedBy world (next.schedule operation start) := by
  simp [schedule, followedBy, Task.following, Stage.following, Nat.add_assoc]

theorem resume_followedBy
    (known : ∀ stage, next.stage? task = some stage → stage.KnowsProbes (world.since past)) :
    (past.followedBy world next).resume settings world (past.tasks.length + task) =
      past.followedBy world (next.resume settings (world.since past) task) := by
  unfold resume
  rw [getElem?_tasks_followedBy]
  cases present : next.tasks[task]? with
  | none => rfl
  | some waiting =>
      have knows := known _ (stage?_of_getElem? present)
      rw [← followedBy_settle]
      exact congrArg (settle · _) (proceed_followedBy knows)

end State

/-- The probes that a task has yet to try are those of the world. -/
def Point.KnowsProbes (world : World) : Point → Prop
  | .resting stage => stage.KnowsProbes world
  | .trying _ _ remaining | .hearing _ _ _ remaining _ => remaining ⊆ world.calls
  | _ => True

def knowing (settings : Settings) (world : World) : Invariant settings world where
  common _ := True
  standing _ _ point := point.KnowsProbes world
  common_withTasks _ _ := trivial
  standing_withTasks known := known
  common_pass _ _ _ := trivial
  standing_pass _ _ _ known := known
  announced _ _ := trivial
  move move _ _ _ known := by
    refine ⟨trivial, ?_⟩
    cases move with
    | @goOn state stage allowed => cases stage <;> exact known
    | refreshDemanded | stillStale => exact List.Subset.refl _
    | probeAnswered | probeWaits => exact List.subset_of_cons_subset known
    | probeFailed => exact known
    | _ => trivial
  undisturbed _ _ _ _ known := known

theorem Reachable.knowing (reachable : Reachable settings world next) :
    (knowing settings world).Holds next := by
  have started : (Server.knowing settings world).Holds State.initial :=
    ⟨trivial, fun waits => by simp [State.stage?, State.initial] at waits⟩
  exact started.leads reachable.leads

/-- What the fresh server does next, the older one can do. -/
theorem Step.followedBy (known : (knowing settings (world.since past)).Holds next)
    (step : Step settings (world.since past) next last) :
    Step settings world (past.followedBy world next) (past.followedBy world last) := by
  cases step with
  | arrive operation =>
      rw [← State.spawn_followedBy]
      exact .arrive operation
  | announce operation start =>
      rw [← State.schedule_followedBy]
      exact .announce operation start
  | pass ordered => exact .pass ordered
  | @resume task ready =>
      obtain ⟨stage, waits, allowed⟩ := State.isReady_iff.mp ready
      rw [← State.resume_followedBy fun _ waits => known.standing waits]
      refine .resume (State.isReady_iff.mpr ⟨stage.following world past, ?_, ?_⟩)
      · rw [State.stage?_followedBy, waits, Option.map_some]
      · rw [State.allows_followedBy]
        exact allowed

/-- What the older server does next, the fresh one can do, because no older task can go on. -/
theorem exists_step_of_followedBy (idle : past.IsIdle)
    (known : (knowing settings (world.since past)).Holds next)
    (step : Step settings world (past.followedBy world next) last) :
    ∃ later, Step settings (world.since past) next later ∧ last = past.followedBy world later := by
  cases step with
  | arrive operation => exact ⟨_, .arrive operation, State.spawn_followedBy operation⟩
  | announce operation start =>
      exact ⟨_, .announce operation start, State.schedule_followedBy operation start⟩
  | @pass later ordered => exact ⟨{ next with now := later }, .pass ordered, rfl⟩
  | @resume task ready =>
      obtain ⟨found, waits, allowed⟩ := State.isReady_iff.mp ready
      by_cases old : task < past.tasks.length
      · rw [State.stage?_followedBy_of_lt old] at waits
        obtain ⟨answer, time, rfl⟩ := idle.exists_answer waits
        simp [State.allows] at allowed
      · obtain ⟨place, rfl⟩ := Nat.exists_eq_add_of_le (Nat.le_of_not_lt old)
        rw [State.stage?_followedBy] at waits
        obtain ⟨stage, waiting, rfl⟩ := Option.map_eq_some_iff.mp waits
        rw [State.allows_followedBy] at allowed
        exact ⟨_, .resume (State.isReady_iff.mpr ⟨stage, waiting, allowed⟩),
          State.resume_followedBy fun _ waits => known.standing waits⟩

/-- The runs of the older server are those of the fresh one. -/
theorem leads_followedBy_iff (idle : past.IsIdle)
    (known : (knowing settings (world.since past)).Holds next) :
    Leads settings world (past.followedBy world next) last ↔
      ∃ later, Leads settings (world.since past) next later ∧
        last = past.followedBy world later := by
  constructor
  · intro leads
    induction leads with
    | refl => exact ⟨next, .refl, rfl⟩
    | tail _ step inductionHypothesis =>
        obtain ⟨middle, led, rfl⟩ := inductionHypothesis
        obtain ⟨later, next, rfl⟩ := exists_step_of_followedBy idle (known.leads led) step
        exact ⟨later, led.tail next, rfl⟩
  · rintro ⟨later, leads, rfl⟩
    induction leads with
    | refl => exact .refl
    | tail led step inductionHypothesis =>
        exact inductionHypothesis.tail (step.followedBy (known.leads led))

end PackageSearch.Server
