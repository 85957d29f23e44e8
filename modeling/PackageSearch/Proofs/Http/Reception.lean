import PackageSearch.Proofs.Http.Head
import PackageSearch.Proofs.Text.Utf8

/-!
# Heads are received however their bytes are cut up

A connection need not end, so the reading of a head is written here for connections that always
have another read. On connections that give finitely many reads and then end it is the reading of
`receiveHead`. It always comes to an end, and where the bytes are cut makes no difference to a head
that is not too long.
-/

namespace PackageSearch.Http

variable {bytes head received : List UInt8} {chunks : List (List UInt8)} {reads : List Read}
  {source : Nat → Read} {performed : Nat}

/-! ### Connections without an end -/

/-- How the reading of a head has ended, with all the bytes that were buffered for it and the number
of reads that were performed. -/
structure Reception where
  outcome : Except Host.Fault (Option (List UInt8))
  received : List UInt8
  performed : Nat

/-- Reads a head from a connection of which each read is given by its number. -/
def receiveFrom (source : Nat → Read) (performed : Nat) (received : List UInt8) : Reception :=
  match beforeEmptyLine? received with
  | some head => ⟨.ok (some head), received, performed⟩
  | none =>
      if maxHeadBytes < received.length then ⟨.ok none, received, performed⟩
      else
        match source performed with
        | .failed fault => ⟨.error fault, received, performed + 1⟩
        | .bytes [] => ⟨.ok none, received, performed + 1⟩
        | .bytes (byte :: chunk) => receiveFrom source (performed + 1) (received ++ byte :: chunk)
termination_by maxHeadBytes + 1 - received.length
decreasing_by simp only [List.length_append, List.length_cons] at *; omega

namespace Reception

def ofSource (source : Nat → Read) : Reception :=
  receiveFrom source 0 []

/-- The head as text. -/
def text (reception : Reception) : Except Host.Fault (Option (List Char)) :=
  reception.outcome.map (Option.map Text.decodeLossy)

theorem text_of_head {reception : Reception} (outcome : reception.outcome = .ok (some head)) :
    reception.text = .ok (some (Text.decodeLossy head)) := by
  rw [text, outcome]
  rfl

theorem text_of_none {reception : Reception} (outcome : reception.outcome = .ok none) :
    reception.text = .ok none := by
  rw [text, outcome]
  rfl

end Reception

/-- The connection that gives the listed reads and is at its end then. -/
def sourceOf (reads : List Read) (number : Nat) : Read :=
  reads.getD number (.bytes [])

/-! ### One round -/

theorem receiveFrom_of_found (found : beforeEmptyLine? received = some head) :
    receiveFrom source performed received = ⟨.ok (some head), received, performed⟩ := by
  rw [receiveFrom, found]

theorem receiveFrom_of_full (absent : beforeEmptyLine? received = none)
    (full : maxHeadBytes < received.length) :
    receiveFrom source performed received = ⟨.ok none, received, performed⟩ := by
  rw [receiveFrom, absent]
  exact if_pos full

/-- No head is there yet, and there is room for more bytes. -/
structure IsWaiting (received : List UInt8) : Prop where
  absent : beforeEmptyLine? received = none
  room : received.length ≤ maxHeadBytes

theorem IsWaiting.receiveFrom_of_ended (waiting : IsWaiting received)
    (ended : source performed = .bytes []) :
    receiveFrom source performed received = ⟨.ok none, received, performed + 1⟩ := by
  rw [receiveFrom, waiting.absent]
  simp only [Nat.not_lt.mpr waiting.room, if_false, ended]

theorem IsWaiting.receiveFrom_of_failed {fault : Host.Fault} (waiting : IsWaiting received)
    (failed : source performed = .failed fault) :
    receiveFrom source performed received = ⟨.error fault, received, performed + 1⟩ := by
  rw [receiveFrom, waiting.absent]
  simp only [Nat.not_lt.mpr waiting.room, if_false, failed]

theorem IsWaiting.receiveFrom_of_more {chunk : List UInt8} (waiting : IsWaiting received)
    (more : source performed = .bytes chunk) (some : chunk ≠ []) :
    receiveFrom source performed received =
      receiveFrom source (performed + 1) (received ++ chunk) := by
  obtain ⟨byte, rest, rfl⟩ := List.exists_cons_of_ne_nil some
  rw [receiveFrom, waiting.absent]
  simp only [Nat.not_lt.mpr waiting.room, if_false, more]

/-- What holds in each of the three situations at the beginning of a round always holds. -/
theorem round_cases (received : List UInt8) :
    (∃ head, beforeEmptyLine? received = some head) ∨
      (beforeEmptyLine? received = none ∧ maxHeadBytes < received.length) ∨
      IsWaiting received := by
  cases found : beforeEmptyLine? received with
  | some head => exact .inl ⟨head, rfl⟩
  | none =>
      rcases Nat.lt_or_ge maxHeadBytes received.length with full | room
      · exact .inr (.inl ⟨rfl, full⟩)
      · exact .inr (.inr ⟨found, room⟩)

/-! ### Connections that end -/

/-- A head that is there and one that is too long are the same for both readings. -/
theorem receiveHead_eq_receiveFrom_of
    (goesOn : IsWaiting received →
      receiveHead received reads = (receiveFrom source performed received).outcome) :
    receiveHead received reads = (receiveFrom source performed received).outcome := by
  rcases round_cases received with ⟨head, found⟩ | ⟨absent, full⟩ | waiting
  · rw [receiveFrom_of_found found, receiveHead.eq_def, found]
  · rw [receiveFrom_of_full absent full, receiveHead.eq_def, absent]
    exact if_pos full
  · exact goesOn waiting

theorem receiveHead_eq_receiveFrom
    (same : ∀ number, source (performed + number) = sourceOf reads number) :
    receiveHead received reads = (receiveFrom source performed received).outcome := by
  induction reads generalizing performed received with
  | nil =>
      apply receiveHead_eq_receiveFrom_of
      intro waiting
      have ended : source performed = .bytes [] := same 0
      rw [waiting.receiveFrom_of_ended ended, receiveHead.eq_def, waiting.absent]
      exact if_neg (Nat.not_lt.mpr waiting.room)
  | cons read rest inductionHypothesis =>
      apply receiveHead_eq_receiveFrom_of
      intro waiting
      have later : ∀ number, source (performed + 1 + number) = sourceOf rest number := by
        intro number
        rw [Nat.add_assoc, Nat.add_comm 1]
        exact same (number + 1)
      have first : source performed = read := same 0
      rw [receiveHead.eq_def, waiting.absent]
      refine (if_neg (Nat.not_lt.mpr waiting.room)).trans ?_
      cases read with
      | failed fault => rw [waiting.receiveFrom_of_failed first]
      | bytes bytes =>
          cases bytes with
          | nil =>
              rw [waiting.receiveFrom_of_ended first]
              rfl
          | cons byte chunk =>
              rw [waiting.receiveFrom_of_more first (List.cons_ne_nil _ _)]
              exact inductionHypothesis later

theorem readHead_eq_text (reads : List Read) :
    readHead reads = (Reception.ofSource (sourceOf reads)).text := by
  have same : receiveHead [] reads = (receiveFrom (sourceOf reads) 0 []).outcome := by
    apply receiveHead_eq_receiveFrom
    intro number
    rw [Nat.zero_add]
  rw [readHead, same, Reception.text, Reception.ofSource]
  rcases (receiveFrom (sourceOf reads) 0 []).outcome with fault | (_ | head) <;> rfl

/-! ### Bounds -/

/-- One read gives at most so many bytes. -/
def IsPiecemeal (source : Nat → Read) : Prop :=
  ∀ number chunk, source number = .bytes chunk → chunk.length ≤ readBytes

/-- A read is performed only while no more than the allowed bytes are there, and each read before it
has given one. -/
theorem receiveFrom_bounds (piecemeal : IsPiecemeal source) (earlier : performed ≤ received.length)
    (bounded : received.length ≤ maxHeadBytes + readBytes) (few : performed ≤ maxHeadBytes + 1) :
    (receiveFrom source performed received).performed ≤ maxHeadBytes + 1 ∧
      (receiveFrom source performed received).received.length ≤ maxHeadBytes + readBytes := by
  induction performed, received using receiveFrom.induct source with
  | case1 performed received head found =>
      rw [receiveFrom_of_found found]
      exact ⟨few, bounded⟩
  | case2 performed received absent full =>
      rw [receiveFrom_of_full absent full]
      exact ⟨few, bounded⟩
  | case3 performed received absent room fault failed =>
      have waiting : IsWaiting received := ⟨absent, Nat.le_of_not_lt room⟩
      rw [waiting.receiveFrom_of_failed failed]
      exact ⟨Nat.succ_le_succ (Nat.le_trans earlier waiting.room), bounded⟩
  | case4 performed received absent room ended =>
      have waiting : IsWaiting received := ⟨absent, Nat.le_of_not_lt room⟩
      rw [waiting.receiveFrom_of_ended ended]
      exact ⟨Nat.succ_le_succ (Nat.le_trans earlier waiting.room), bounded⟩
  | case5 performed received absent room byte chunk more inductionHypothesis =>
      have waiting : IsWaiting received := ⟨absent, Nat.le_of_not_lt room⟩
      have short := piecemeal performed _ more
      rw [waiting.receiveFrom_of_more more (List.cons_ne_nil _ _)]
      apply inductionHypothesis
      · rw [List.length_append, List.length_cons]
        omega
      · rw [List.length_append]
        exact Nat.add_le_add waiting.room short
      · exact Nat.succ_le_succ (Nat.le_trans earlier waiting.room)

/-! ### What is received -/

/-- From the read with the given number on, the connection delivers the chunks one after the other.
What comes after them is left open. -/
inductive DeliversFrom (source : Nat → Read) : Nat → List (List UInt8) → Prop where
  | nil {number : Nat} : DeliversFrom source number []
  | cons {number : Nat} {chunk : List UInt8} {chunks : List (List UInt8)} :
      source number = .bytes chunk → chunk ≠ [] → DeliversFrom source (number + 1) chunks →
        DeliversFrom source number (chunk :: chunks)

theorem eq_of_found {more head' : List UInt8} (found : beforeEmptyLine? received = some head)
    (hasHead : HasHead (received ++ more) head') : head' = head := by
  have early := beforeEmptyLine?_eq_some_iff.mp found
  have whole := beforeEmptyLine?_eq_some_iff.mpr hasHead
  rw [beforeEmptyLine?_eq_some_iff.mpr ((HasHead.append_iff early.length_le).mpr early)] at whole
  exact (Option.some.inj whole).symm

/-- The head of the delivered bytes is received or, if it is too long, possibly given up. The
induction is on the chunks, with what has been received before them. -/
theorem DeliversFrom.outcome_of_hasHead (delivers : DeliversFrom source performed chunks)
    (hasHead : HasHead (received ++ chunks.flatten) head) :
    (receiveFrom source performed received).outcome = .ok (some head) ∨
      (receiveFrom source performed received).outcome = .ok none ∧
        maxHeadBytes + 1 < head.length + emptyLine.length := by
  induction delivers generalizing received with
  | nil =>
      rw [List.flatten_nil, List.append_nil] at hasHead
      rw [receiveFrom_of_found (beforeEmptyLine?_eq_some_iff.mpr hasHead)]
      exact .inl rfl
  | @cons number chunk chunks more some delivers inductionHypothesis =>
      rcases round_cases received with ⟨head', found⟩ | ⟨absent, full⟩ | waiting
      · rw [receiveFrom_of_found found, eq_of_found found hasHead]
        exact .inl rfl
      · rw [receiveFrom_of_full absent full]
        exact .inr ⟨rfl, Nat.lt_of_le_of_lt full (hasHead.length_lt absent)⟩
      · rw [waiting.receiveFrom_of_more more some]
        apply inductionHypothesis
        rwa [List.append_assoc]

/-- All bytes that are ever buffered are too few for the head. -/
def IsBeyond (bytes : List UInt8) : Prop :=
  ∀ head, HasHead bytes head → maxHeadBytes + readBytes < head.length + emptyLine.length

theorem IsBeyond.not_found {more : List UInt8} (beyond : IsBeyond (received ++ more))
    (bounded : received.length ≤ maxHeadBytes + readBytes) :
    beforeEmptyLine? received ≠ some head := by
  intro found
  have early := beforeEmptyLine?_eq_some_iff.mp found
  have late := beyond head ((HasHead.append_iff early.length_le).mpr early)
  exact absurd (Nat.le_trans early.length_le bounded) (Nat.not_le.mpr late)

/-- Where no head is there in time, none is received, once the bytes end or are too many. -/
theorem DeliversFrom.outcome_of_isBeyond (piecemeal : IsPiecemeal source)
    (delivers : DeliversFrom source performed chunks)
    (bounded : received.length ≤ maxHeadBytes + readBytes)
    (beyond : IsBeyond (received ++ chunks.flatten))
    (ends : source (performed + chunks.length) = .bytes [] ∨
      maxHeadBytes + readBytes < (received ++ chunks.flatten).length) :
    (receiveFrom source performed received).outcome = .ok none := by
  induction delivers generalizing received with
  | @nil number =>
      rcases round_cases received with ⟨head, found⟩ | ⟨absent, full⟩ | waiting
      · exact absurd found (beyond.not_found bounded)
      · rw [receiveFrom_of_full absent full]
      · rcases ends with ended | longer
        · have last : source number = .bytes [] := ended
          rw [waiting.receiveFrom_of_ended last]
        · rw [List.flatten_nil, List.append_nil] at longer
          exact absurd bounded (Nat.not_le.mpr longer)
  | @cons number chunk chunks more some delivers inductionHypothesis =>
      rw [List.flatten_cons, ← List.append_assoc] at beyond ends
      rcases round_cases received with ⟨head, found⟩ | ⟨absent, full⟩ | waiting
      · rw [List.append_assoc] at beyond
        exact absurd found (beyond.not_found bounded)
      · rw [receiveFrom_of_full absent full]
      · rw [waiting.receiveFrom_of_more more some]
        refine inductionHypothesis ?_ beyond ?_
        · rw [List.length_append]
          exact Nat.add_le_add waiting.room (piecemeal number chunk more)
        · rwa [List.length_cons, Nat.add_comm chunks.length, ← Nat.add_assoc] at ends

/-- However the bytes of a head are cut up, this head is received if it and its empty line come to
no more than 8193 bytes, and nothing else than this head or none up to 9216 bytes. Without a head in
the first 9216 bytes none is received. -/
theorem head_received_however_delivered :
    (∀ reads, readHead reads = (Reception.ofSource (sourceOf reads)).text) ∧
      ∀ source, IsPiecemeal source →
        let reception := Reception.ofSource source
        reception.performed ≤ 8193 ∧ reception.received.length ≤ 9216 ∧
          ∀ chunks, DeliversFrom source 0 chunks →
            (∀ head, HasHead chunks.flatten head →
              (head.length + 4 ≤ 8193 → reception.text = .ok (some (Text.decodeLossy head)) ∧
                ∀ text, Text.encode text = head → reception.text = .ok (some text)) ∧
              (8193 < head.length + 4 → head.length + 4 ≤ 9216 →
                reception.text = .ok (some (Text.decodeLossy head)) ∨
                  reception.text = .ok none)) ∧
            ((∀ head, HasHead chunks.flatten head → 9216 < head.length + 4) →
              source chunks.length = .bytes [] ∨ 9216 < chunks.flatten.length →
                reception.text = .ok none) := by
  refine ⟨readHead_eq_text, ?_⟩
  intro source piecemeal reception
  have bounds : reception.performed ≤ maxHeadBytes + 1 ∧
      reception.received.length ≤ maxHeadBytes + readBytes := by
    apply receiveFrom_bounds piecemeal <;> exact Nat.zero_le _
  refine ⟨bounds.1, bounds.2, ?_⟩
  intro chunks delivers
  refine ⟨?_, ?_⟩
  · intro head hasHead
    have outcomes : reception.outcome = .ok (some head) ∨ reception.outcome = .ok none ∧
        maxHeadBytes + 1 < head.length + emptyLine.length :=
      delivers.outcome_of_hasHead hasHead
    refine ⟨?_, ?_⟩
    · intro short
      have outcome : reception.outcome = .ok (some head) := by
        rcases outcomes with outcome | ⟨_, long⟩
        · exact outcome
        · exact absurd short (Nat.not_le.mpr long)
      refine ⟨Reception.text_of_head outcome, ?_⟩
      rintro text rfl
      rw [Reception.text_of_head outcome, Text.decodeLossy_encode]
    · intro _ _
      rcases outcomes with outcome | ⟨outcome, _⟩
      · exact .inl (Reception.text_of_head outcome)
      · exact .inr (Reception.text_of_none outcome)
  · intro beyond ends
    apply Reception.text_of_none
    refine delivers.outcome_of_isBeyond piecemeal (Nat.zero_le _) ?_ ?_
    · exact beyond
    · rwa [Nat.zero_add]

/-! ### Delivered in unfortunate pieces -/

/-- A two byte character and the empty line are cut up, and a failure follows. -/
def cutUp : Nat → Read
  | 0 => .bytes [0x47, 0xC3]
  | 1 => .bytes [0xA9, 13]
  | 2 => .bytes [10, 13]
  | 3 => .bytes [10, 0x2F]
  | _ => .failed (.numbered 104)

/-- The same byte for ever. -/
def endless (_ : Nat) : Read :=
  .bytes [0x47]

theorem endless_deliversFrom (number count : Nat) :
    DeliversFrom endless number (List.replicate count [0x47]) := by
  induction count generalizing number with
  | zero => exact .nil
  | succ count inductionHypothesis =>
      exact .cons rfl (List.cons_ne_nil _ _) (inductionHypothesis (number + 1))

theorem length_endless (count : Nat) :
    (List.replicate count ([0x47] : List UInt8)).flatten.length = count := by
  simp

theorem endless_not_hasHead (count : Nat) :
    ¬HasHead (List.replicate count ([0x47] : List UInt8)).flatten head := by
  intro hasHead
  have ended : (13 : UInt8) ∈ head ++ emptyLine := by simp [emptyLine]
  have delivered := hasHead.complete.subset ended
  simp at delivered

/-- A head of three bytes is received although a failure follows it, and the reading of a connection
without an end comes to an end. -/
theorem cutUp_received_and_endless_given_up :
    let chunks : List (List UInt8) := [[0x47, 0xC3], [0xA9, 13], [10, 13], [10, 0x2F]]
    let many : List (List UInt8) := List.replicate 9217 [0x47]
    (IsPiecemeal cutUp ∧ DeliversFrom cutUp 0 chunks ∧
      HasHead chunks.flatten [0x47, 0xC3, 0xA9] ∧ Text.encode ['G', 'é'] = [0x47, 0xC3, 0xA9] ∧
      (Reception.ofSource cutUp).text = .ok (some ['G', 'é'])) ∧
    (IsPiecemeal endless ∧ DeliversFrom endless 0 many ∧
      (∀ head, ¬HasHead many.flatten head) ∧ 9216 < many.flatten.length ∧
      (Reception.ofSource endless).text = .ok none) := by
  intro chunks many
  have cutUpPiecemeal : IsPiecemeal cutUp := by
    intro number chunk given
    match number, given with
    | 0, given | 1, given | 2, given | 3, given =>
        cases given
        decide
    | _ + 4, given => cases given
  have cutUpDelivers : DeliversFrom cutUp 0 chunks :=
    .cons rfl (by decide) (.cons rfl (by decide) (.cons rfl (by decide)
      (.cons rfl (by decide) .nil)))
  have cutUpHead : HasHead chunks.flatten [0x47, 0xC3, 0xA9] :=
    beforeEmptyLine?_eq_some_iff.mp rfl
  have written : Text.encode ['G', 'é'] = [0x47, 0xC3, 0xA9] := by decide
  have endlessPiecemeal : IsPiecemeal endless := by
    intro number chunk given
    cases given
    decide
  have without : ∀ head, ¬HasHead many.flatten head := fun _ => endless_not_hasHead _
  have longer : 9216 < many.flatten.length :=
    Nat.lt_of_lt_of_eq (Nat.lt_succ_self 9216) (length_endless 9217).symm
  obtain ⟨_, received⟩ := head_received_however_delivered
  obtain ⟨_, _, cutUpReceived⟩ := received cutUp cutUpPiecemeal
  obtain ⟨_, _, endlessReceived⟩ := received endless endlessPiecemeal
  refine ⟨⟨cutUpPiecemeal, cutUpDelivers, cutUpHead, written, ?_⟩,
    ⟨endlessPiecemeal, endless_deliversFrom 0 _, without, longer, ?_⟩⟩
  · obtain ⟨short, _⟩ := (cutUpReceived chunks cutUpDelivers).1 _ cutUpHead
    exact (short (by decide)).2 _ written
  · apply (endlessReceived many (endless_deliversFrom 0 _)).2
    · exact fun head hasHead => absurd hasHead (without head)
    · exact .inr longer

end PackageSearch.Http
