import PackageSearch.Proofs.Text.Excerpt
import PackageSearch.Search.NixQuery

/-!
# What a package query comes to

Of the output of the command only so much is read that it can be told whether the output is too
long. Whenever it is not, all of it has been read, so no listing comes from a part of an output.
-/

namespace PackageSearch.NixQuery

open Host

variable {service : NixQuery} {machine : Machine} {query : String} {output : List UInt8}
  {completion : Completion}

/-! ### What is read -/

section Read

variable (bounded : service.maxOutput < 0x8000000000000000)

include bounded

theorem toNat_readLimit : service.readLimit.toNat = service.maxOutput + 1 := by
  rw [readLimit, UInt64.toNat_add, UInt64.toNat_ofNat']
  simp only [UInt64.reduceToNat]
  omega

theorem received_eq_self (short : output.length ≤ service.maxOutput) :
    service.received output = output := by
  rw [received, toNat_readLimit bounded]
  exact List.take_of_length_le (Nat.le_succ_of_le short)

/-- One byte more than allowed is enough to notice that an output is too long. -/
theorem lt_length_received_iff :
    service.maxOutput < (service.received output).length ↔
      service.maxOutput < output.length := by
  rw [received, toNat_readLimit bounded, List.length_take]
  omega

/-! ### What is made of it -/

theorem interpret_of_long (long : service.maxOutput < completion.stdout.length) :
    service.interpret completion = .error (.queryFailure
      ("output exceeded " ++ toString service.maxOutput ++
        " bytes. Try a more specific query.")) :=
  if_pos ((lt_length_received_iff bounded).mpr long)

theorem interpret_of_short (short : completion.stdout.length ≤ service.maxOutput) :
    service.interpret completion =
      if completion.code = some 0 then
        (Listing.parse completion.output).mapError fun problem =>
          .parse (problem.message completion.output)
      else .error (.queryFailure (String.ofList (Text.excerpt completion.complaint 200))) := by
  have notLong : ¬service.maxOutput < completion.stdout.length := Nat.not_lt.mpr short
  simp only [interpret, received_eq_self bounded short, if_neg notLong, Completion.succeeded,
    beq_iff_eq, Completion.output]
  split
  · cases Listing.parse (Text.decodeLossy completion.stdout) <;> rfl
  · rfl

end Read

theorem search_of_started (started : run machine (service.command query) = .ok completion) :
    service.search machine query = service.interpret completion := by
  rw [search, started]

theorem search_of_fault {fault : Fault}
    (notStarted : run machine (service.command query) = .error fault) :
    service.search machine query = .error (.unexpected fault.message) := by
  rw [search, notStarted]
  rfl

/-- A listing is what the whole output of a successful command stands for. -/
theorem search_eq_ok_iff (bounded : service.maxOutput < 0x8000000000000000) {listing : Listing} :
    service.search machine query = .ok listing ↔
      ∃ completion, run machine (service.command query) = .ok completion ∧
        completion.stdout.length ≤ service.maxOutput ∧ completion.code = some 0 ∧
        Listing.parse completion.output = .ok listing := by
  cases answer : run machine (service.command query) with
  | error fault => simp [search_of_fault answer]
  | ok completion =>
      rw [search_of_started answer]
      rcases Nat.lt_or_ge service.maxOutput completion.stdout.length with long | short
      · simp [interpret_of_long bounded long, Nat.not_le.mpr long]
      · rw [interpret_of_short bounded short]
        by_cases succeeded : completion.code = some 0
        · cases parsed : Listing.parse completion.output <;>
            simp [Except.mapError, parsed, succeeded, short]
        · simp [succeeded]

/-- A command that does not start is an unexpected failure. An output that is longer than allowed
is refused whatever it holds and however the command ends. Otherwise a command without success
fails with an excerpt of its complaint, and one with success is answered with what its whole output
stands for. So there is a listing only for the whole output of a successful command. -/
theorem search_judges_whole_output (bounded : service.maxOutput < 0x8000000000000000)
    (machine : Machine) (query : String) :
    (∀ fault, run machine (service.command query) = .error fault →
      service.search machine query = .error (.unexpected fault.message)) ∧
    (∀ completion, run machine (service.command query) = .ok completion →
      (service.maxOutput < completion.stdout.length →
        service.search machine query = .error (.queryFailure
          ("output exceeded " ++ toString service.maxOutput ++
            " bytes. Try a more specific query."))) ∧
      (completion.stdout.length ≤ service.maxOutput → completion.code ≠ some 0 →
        ∃ shown, Text.IsExcerpt 200 completion.complaint shown ∧
          service.search machine query = .error (.queryFailure (String.ofList shown))) ∧
      (completion.stdout.length ≤ service.maxOutput → completion.code = some 0 →
        service.search machine query = (Listing.parse completion.output).mapError fun problem =>
          .parse (problem.message completion.output))) ∧
    (∀ listing, service.search machine query = .ok listing ↔
      ∃ completion, run machine (service.command query) = .ok completion ∧
        completion.stdout.length ≤ service.maxOutput ∧ completion.code = some 0 ∧
        Listing.parse completion.output = .ok listing) := by
  refine ⟨fun fault => search_of_fault, ?_, fun listing => search_eq_ok_iff bounded⟩
  intro completion started
  rw [search_of_started started]
  refine ⟨interpret_of_long bounded, ?_, ?_⟩
  · intro short failed
    refine ⟨_, Text.isExcerpt_iff.mpr rfl, ?_⟩
    rw [interpret_of_short bounded short, if_neg failed]
  · intro short succeeded
    rw [interpret_of_short bounded short, if_pos succeeded]

/-- Every command prints an empty listing with a space behind it, complains, and ends with the
code. -/
def spacious (code : Option Int) : Machine := fun _ =>
  .ok { stdout := Text.encode "{} ".toList, stderr := Text.encode " no\n".toList, code }

/-- The listing alone is within the first limit, but the space is not. -/
theorem spacious_judged :
    (⟨"nix-env", 2⟩ : NixQuery).search (spacious (some 0)) "x" = .error (.queryFailure
      "output exceeded 2 bytes. Try a more specific query.") ∧
    (⟨"nix-env", 3⟩ : NixQuery).search (spacious none) "x" = .error (.queryFailure "no") ∧
    (⟨"nix-env", 3⟩ : NixQuery).search (spacious (some 0)) "x" = .ok Listing.empty := by
  have overLimit := @search_judges_whole_output ⟨"nix-env", 2⟩ (by decide)
    (spacious (some 0)) "x"
  have failed := @search_judges_whole_output ⟨"nix-env", 3⟩ (by decide)
    (spacious none) "x"
  have listed := @search_judges_whole_output ⟨"nix-env", 3⟩ (by decide)
    (spacious (some 0)) "x"
  refine ⟨?_, ?_, ?_⟩
  · exact (overLimit.2.1 _ rfl).1 (by decide +kernel)
  · obtain ⟨shown, isExcerpt, result⟩ :=
      (failed.2.1 _ rfl).2.1 (by decide +kernel) (by decide +kernel)
    rw [result, ← Text.isExcerpt_iff.mp isExcerpt]
    rfl
  · exact (listed.2.1 _ rfl).2.2 (by decide +kernel) rfl

end PackageSearch.NixQuery
