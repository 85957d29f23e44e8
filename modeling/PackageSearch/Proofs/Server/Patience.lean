import Mathlib.Algebra.GroupWithZero.Nat
import PackageSearch.Server.World

/-!
# The first timely success

Replies are waited for one after the other, and for each only so long. `FirstTimely` says what comes
of this; it is determined by the replies.
-/

namespace PackageSearch.Server

variable {names : NameSet} {patience called took : Nat}

namespace Reply

/-- The reply comes in time, and it consists of the names. -/
structure Brings (patience : Nat) (reply : Reply ProbeError NameSet) (names : NameSet) : Prop where
  timely : reply.delay ≤ patience
  result : reply.result = .ok names

/-- The reply is a failure, or comes too late. -/
def IsUseless (patience : Nat) (reply : Reply ProbeError NameSet) : Prop :=
  ∀ names, ¬reply.Brings patience names

theorem Brings.unique {reply : Reply ProbeError NameSet} {others : NameSet}
    (brings : reply.Brings patience names) (bringsToo : reply.Brings patience others) :
    names = others :=
  Except.ok.inj (brings.result.symm.trans bringsToo.result)

theorem brings_or_isUseless (patience : Nat) (reply : Reply ProbeError NameSet) :
    (∃ names, reply.Brings patience names) ∨ reply.IsUseless patience := by
  by_cases brings : ∃ names, reply.Brings patience names
  · exact .inl brings
  · exact .inr fun names bringsNames => brings ⟨names, bringsNames⟩

end Reply

/-- The time that is spent on replies of which each is waited for only so long. -/
def spent (patience : Nat) (replies : List (Reply ProbeError NameSet)) : Nat :=
  (replies.map fun reply => min reply.delay patience).sum

/-- What comes of waiting for one reply after the other until one brings names in time: how many
are called for, what they bring, and how long it takes. If no reply is of use all are called for. -/
inductive FirstTimely (patience : Nat) (replies : List (Reply ProbeError NameSet)) :
    Nat → NameSet → Nat → Prop where
  | found {earlier later : List (Reply ProbeError NameSet)} {reply : Reply ProbeError NameSet}
      {names : NameSet} :
      replies = earlier ++ reply :: later → (∀ other ∈ earlier, other.IsUseless patience) →
        reply.Brings patience names →
          FirstTimely patience replies (earlier.length + 1) names
            (spent patience earlier + reply.delay)
  | nothing :
      (∀ reply ∈ replies, reply.IsUseless patience) →
        FirstTimely patience replies replies.length NameSet.empty (spent patience replies)

namespace FirstTimely

variable {replies : List (Reply ProbeError NameSet)} {reply : Reply ProbeError NameSet}

theorem of_brings (brings : reply.Brings patience names) :
    FirstTimely patience (reply :: replies) 1 names reply.delay := by
  have first : FirstTimely patience (reply :: replies) _ names (spent patience [] + reply.delay) :=
    .found (List.nil_append _).symm (by simp) brings
  simpa [spent] using first

theorem of_isUseless (useless : reply.IsUseless patience)
    (first : FirstTimely patience replies called names took) :
    FirstTimely patience (reply :: replies) (called + 1) names
      (min reply.delay patience + took) := by
  cases first with
  | @found earlier later success _ split failed brings =>
      have longer : reply :: replies = (reply :: earlier) ++ success :: later := by simp [split]
      have both : ∀ other ∈ reply :: earlier, other.IsUseless patience :=
        List.forall_mem_cons.mpr ⟨useless, failed⟩
      have first := FirstTimely.found longer both brings
      simpa [spent, Nat.add_assoc] using first
  | nothing failed =>
      have all : ∀ other ∈ reply :: replies, other.IsUseless patience :=
        List.forall_mem_cons.mpr ⟨useless, failed⟩
      have first := FirstTimely.nothing all
      simpa [spent] using first

/-- The induction is on the replies: the first one brings names in time or is of no use. -/
theorem exists_of (patience : Nat) (replies : List (Reply ProbeError NameSet)) :
    ∃ called names took, FirstTimely patience replies called names took := by
  induction replies with
  | nil => exact ⟨_, _, _, .nothing (by simp)⟩
  | cons reply replies inductionHypothesis =>
      rcases reply.brings_or_isUseless patience with ⟨names, brings⟩ | useless
      · exact ⟨_, _, _, .of_brings brings⟩
      · obtain ⟨called, names, took, first⟩ := inductionHypothesis
        exact ⟨_, _, _, first.of_isUseless useless⟩

theorem eq_of_brings {found : NameSet} (brings : reply.Brings patience found)
    (first : FirstTimely patience (reply :: replies) called names took) :
    called = 1 ∧ names = found ∧ took = reply.delay := by
  cases first with
  | @found earlier later success _ split failed bringsNames =>
      cases earlier with
      | nil =>
          obtain ⟨rfl, rfl⟩ := List.cons.inj split
          exact ⟨rfl, bringsNames.unique brings, by simp [spent]⟩
      | cons first earlier =>
          obtain ⟨rfl, -⟩ := List.cons.inj split
          exact absurd brings (failed _ List.mem_cons_self found)
  | nothing failed => exact absurd brings (failed _ List.mem_cons_self found)

theorem exists_of_isUseless (useless : reply.IsUseless patience)
    (first : FirstTimely patience (reply :: replies) called names took) :
    ∃ calledLater tookLater, FirstTimely patience replies calledLater names tookLater ∧
      called = calledLater + 1 ∧ took = min reply.delay patience + tookLater := by
  cases first with
  | @found earlier later success _ split failed brings =>
      cases earlier with
      | nil =>
          obtain ⟨rfl, -⟩ := List.cons.inj split
          exact absurd brings (useless names)
      | cons first earlier =>
          obtain ⟨rfl, rest⟩ := List.cons.inj split
          have fewer : ∀ other ∈ earlier, other.IsUseless patience :=
            fun other membership => failed other (List.mem_cons_of_mem _ membership)
          exact ⟨_, _, .found rest fewer brings, rfl, by simp [spent, Nat.add_assoc]⟩
  | nothing failed =>
      have fewer : ∀ other ∈ replies, other.IsUseless patience :=
        fun other membership => failed other (List.mem_cons_of_mem _ membership)
      exact ⟨_, _, .nothing fewer, rfl, by simp [spent]⟩

theorem unique {calledToo tookToo : Nat} {namesToo : NameSet}
    (first : FirstTimely patience replies called names took)
    (firstToo : FirstTimely patience replies calledToo namesToo tookToo) :
    called = calledToo ∧ names = namesToo ∧ took = tookToo := by
  induction replies generalizing called took calledToo tookToo with
  | nil =>
      cases first with
      | found split => simp at split
      | nothing =>
          cases firstToo with
          | found split => simp at split
          | nothing => exact ⟨rfl, rfl, rfl⟩
  | cons reply replies inductionHypothesis =>
      rcases reply.brings_or_isUseless patience with ⟨found, brings⟩ | useless
      · obtain ⟨rfl, rfl, rfl⟩ := first.eq_of_brings brings
        obtain ⟨rfl, rfl, rfl⟩ := firstToo.eq_of_brings brings
        exact ⟨rfl, rfl, rfl⟩
      · obtain ⟨_, _, rest, rfl, rfl⟩ := first.exists_of_isUseless useless
        obtain ⟨_, _, restToo, rfl, rfl⟩ := firstToo.exists_of_isUseless useless
        obtain ⟨rfl, rfl, rfl⟩ := inductionHypothesis rest restToo
        exact ⟨rfl, rfl, rfl⟩

end FirstTimely

end PackageSearch.Server
