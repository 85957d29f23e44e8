import PackageSearch.Proofs.Cache.Log

/-!
# Sequences of calls to a cache

The same calls are carried out twice: by a cache that sweeps, and by a history that only writes
down what is put. The main statement compares the two after any sequence of calls.
-/

namespace PackageSearch

/-- What a user of a cache may do. -/
inductive CacheCall where
  | put (key : Fingerprint) (payload : SearchResponse)
  | get (key : Fingerprint)
  | stats
  | clear
  /-- Lets time pass. -/
  | advance (milliseconds : Nat)

structure TimedCache where
  cache : Cache
  now : Nat

/-- What was put since the last clear, and the clock. -/
structure CacheHistory where
  log : CacheLog
  now : Nat

namespace TimedCache

def start (now : Nat) : TimedCache := ⟨Cache.empty, now⟩

variable (policy : CachePolicy)

def get? (timed : TimedCache) (key : Fingerprint) : Option CacheEntry :=
  timed.cache.lookup? policy.ttl timed.now key

def call (timed : TimedCache) : CacheCall → TimedCache
  | .put key payload =>
      { timed with cache := (timed.cache.put policy timed.now key payload).1 }
  | .get _ => timed
  | .stats => timed
  | .clear => { timed with cache := Cache.empty }
  | .advance milliseconds => { timed with now := timed.now + milliseconds }

def calls (timed : TimedCache) (sequence : List CacheCall) : TimedCache :=
  sequence.foldl (call policy) timed

/-- The answers to the lookups among some calls, in their order. -/
def answers : TimedCache → List CacheCall → List (Option CacheEntry)
  | _, [] => []
  | timed, .get key :: rest => timed.get? policy key :: answers timed rest
  | timed, first :: rest => answers (timed.call policy first) rest

end TimedCache

namespace CacheHistory

def start (now : Nat) : CacheHistory := ⟨[], now⟩

def call (history : CacheHistory) : CacheCall → CacheHistory
  | .put key payload =>
      { history with log := history.log ++ [{ key, payload, createdAt := history.now }] }
  | .get _ => history
  | .stats => history
  | .clear => { history with log := [] }
  | .advance milliseconds => { history with now := history.now + milliseconds }

def calls (history : CacheHistory) (sequence : List CacheCall) : CacheHistory :=
  sequence.foldl call history

/-- What a lookup finds if nothing is ever removed but by clearing. -/
def served? (history : CacheHistory) (ttl : Nat) (key : Fingerprint) : Option CacheEntry :=
  (history.log.latest? key).filter fun entry => history.now < entry.createdAt + ttl

/-- Nothing is put in the future. -/
def Dated (history : CacheHistory) : Prop :=
  ∀ entry ∈ history.log, entry.createdAt ≤ history.now

theorem Dated.call {history : CacheHistory} (dated : history.Dated) (next : CacheCall) :
    (history.call next).Dated := by
  cases next with
  | put key payload =>
      intro entry membership
      rcases List.mem_append.mp membership with earlier | newest
      · exact dated entry earlier
      · rw [List.mem_singleton.mp newest]
        exact Nat.le_refl _
  | get key => exact dated
  | stats => exact dated
  | clear => exact fun entry membership => absurd membership List.not_mem_nil
  | advance milliseconds =>
      exact fun entry membership => Nat.le_add_right_of_le (dated entry membership)

end CacheHistory

/-- A cache and a history that stand for the same calls. -/
structure Simulates (policy : CachePolicy) (timed : TimedCache) (history : CacheHistory) :
    Prop where
  now : timed.now = history.now
  dated : history.Dated
  reflects : timed.cache.Reflects history.log policy.ttl history.now

namespace Simulates

variable {policy : CachePolicy} {timed : TimedCache} {history : CacheHistory}

theorem start (now : Nat) : Simulates policy (.start now) (.start now) :=
  ⟨rfl, fun _ membership => absurd membership List.not_mem_nil, Cache.Reflects.empty⟩

theorem call (simulates : Simulates policy timed history) (next : CacheCall) :
    Simulates policy (timed.call policy next) (history.call next) := by
  rcases simulates with ⟨sameTime, dated, reflects⟩
  have nextDated := dated.call next
  cases next with
  | put key payload =>
      refine ⟨sameTime, nextDated, ?_⟩
      simp only [TimedCache.call, CacheHistory.call, sameTime]
      exact reflects.put key payload
  | get key => exact ⟨sameTime, nextDated, reflects⟩
  | stats => exact ⟨sameTime, nextDated, reflects⟩
  | clear => exact ⟨sameTime, nextDated, Cache.Reflects.empty⟩
  | advance milliseconds =>
      refine ⟨congrArg (· + milliseconds) sameTime, nextDated, ?_⟩
      exact reflects.later (Nat.le_add_right _ _)

theorem calls (simulates : Simulates policy timed history) (sequence : List CacheCall) :
    Simulates policy (timed.calls policy sequence) (history.calls sequence) := by
  induction sequence generalizing timed history with
  | nil => exact simulates
  | cons first rest inductionHypothesis => exact inductionHypothesis (simulates.call first)

theorem get?_eq_some_iff (simulates : Simulates policy timed history) {key : Fingerprint}
    {entry : CacheEntry} :
    timed.get? policy key = some entry ↔
      history.log.latest? key = some entry ∧ history.now < entry.createdAt + policy.ttl := by
  unfold TimedCache.get?
  rw [simulates.now, simulates.reflects.lookup?_eq_some_iff]
  refine and_congr_right fun latest => ?_
  have past := simulates.dated entry (CacheLog.mem_of_latest? latest).1
  unfold CacheEntry.age
  omega

theorem get?_eq_served? (simulates : Simulates policy timed history) (key : Fingerprint) :
    timed.get? policy key = history.served? policy.ttl key := by
  apply Option.ext
  intro entry
  rw [simulates.get?_eq_some_iff, CacheHistory.served?, Option.filter_eq_some_iff,
    decide_eq_true_eq]

/-- Caches that share their time to live and their history answer all further lookups alike. -/
theorem answers_eq {other : CachePolicy} {otherTimed : TimedCache}
    (simulates : Simulates policy timed history)
    (otherSimulates : Simulates other otherTimed history) (sameTtl : policy.ttl = other.ttl)
    (sequence : List CacheCall) :
    timed.answers policy sequence = otherTimed.answers other sequence := by
  induction sequence generalizing timed otherTimed history with
  | nil => rfl
  | cons first rest inductionHypothesis =>
      have remaining := inductionHypothesis (simulates.call first) (otherSimulates.call first)
      cases first with
      | get key =>
          unfold TimedCache.answers
          rw [simulates.get?_eq_served?, otherSimulates.get?_eq_served?, sameTtl]
          exact congrArg _ remaining
      | put key payload => exact remaining
      | stats => exact remaining
      | clear => exact remaining
      | advance milliseconds => exact remaining

end Simulates

/-- After any calls, a lookup finds exactly the entry last put under its key since the last clear,
provided that it is younger than the time to live. So lookups do not depend on the threshold, and
the cache holds no fewer entries than may still be served and no more than were put. -/
theorem lookups_refine_put_log (ttl start : Nat) (sequence : List CacheCall) :
    let history := (CacheHistory.start start).calls sequence
    (∀ threshold key entry,
      ((TimedCache.start start).calls ⟨ttl, threshold⟩ sequence).get? ⟨ttl, threshold⟩ key =
          some entry ↔
        history.log.latest? key = some entry ∧ history.now < entry.createdAt + ttl) ∧
    (∀ threshold other,
      (TimedCache.start start).answers ⟨ttl, threshold⟩ sequence =
        (TimedCache.start start).answers ⟨ttl, other⟩ sequence) ∧
    (∀ threshold,
      let size := ((TimedCache.start start).calls ⟨ttl, threshold⟩ sequence).cache.size
      (history.log.servableKeys ttl history.now).length ≤ size ∧
        size ≤ history.log.keys.length) := by
  intro history
  have simulates (threshold : Nat) : Simulates ⟨ttl, threshold⟩
      ((TimedCache.start start).calls ⟨ttl, threshold⟩ sequence) history :=
    (Simulates.start start).calls sequence
  refine ⟨?_, ?_, ?_⟩
  · intro threshold key entry
    exact (simulates threshold).get?_eq_some_iff
  · intro threshold other
    have first : Simulates ⟨ttl, threshold⟩ (.start start) (.start start) := .start start
    have second : Simulates ⟨ttl, other⟩ (.start start) (.start start) := .start start
    exact first.answers_eq second rfl sequence
  · intro threshold size
    have reflects := (simulates threshold).reflects
    exact ⟨reflects.servableKeys_le_size, reflects.size_le_keys⟩

end PackageSearch
