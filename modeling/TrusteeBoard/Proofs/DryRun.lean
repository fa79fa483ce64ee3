import TrusteeBoard.Proofs.CommandLine.Directory
import TrusteeBoard.Proofs.Layout.RoundTrip
import TrusteeBoard.Proofs.Operation.Roster
import TrusteeBoard.Proofs.Outcome.Votes
import TrusteeBoard.Proofs.Program.Exchange
import TrusteeBoard.Proofs.Sample
import TrusteeBoard.Proofs.World.History

/-!
# Dry runs

A dry run takes every option of a tally for a candidate, and the end of an election those who are
registered. Where nobody else has weight the votes are the same (`Tally.votes_contest`), so that the
election comes to the outcome of the dry run (`outcome_of_path`), which prints it (`votes_decide`).
-/

namespace TrusteeBoard

open Program Sample CommandLine

/-- A tally with votes for `candidates` only is decided by its options as by them. -/
theorem Tally.votes_contest (t : Tally) {candidates : List Account}
    (registered : ∀ name, t.weightOf name ≠ 0 → name ∈ candidates) (seats divisor : UInt32)
    (policy : TiePolicy) : (t.contest seats divisor policy).votes =
      ({ t.contest seats divisor policy with candidates := candidates } : Contest).votes := by
  ext x
  rw [Contest.mem_votes, Contest.mem_votes]
  refine and_congr_left fun ⟨weight, cast⟩ => iff_of_true ?_ ?_
  · -- what is no option has no weight
    refine List.mem_toFinset.2 (OrderedMap.mem_keys_iff.2 ?_)
    rw [weight] at cast
    cases found : t.weights.find? x.1 with
    | some w => exact ⟨w, rfl⟩
    | none => exact (cast (by show (t.weights.find? x.1).getD 0 = 0; rw [found]; rfl)).elim
  · rw [weight] at cast
    exact List.mem_toFinset.2 (registered x.1 cast)

/-- A commit is pushes and a write. -/
theorem RosterChange.loud_commit (change : RosterChange) :
    change.commit.OnlyAsks fun c => ¬c.IsQuiet := by
  unfold commit
  split
  · refine ⟨id, fun pushed => ?_⟩
    cases pushed with
    | error e => trivial
    | ok u =>
      refine ⟨id, fun written => ?_⟩
      cases written with
      | ok u => trivial
      | error e => exact ⟨id, fun _ => trivial⟩
  · refine ⟨id, fun written => ?_⟩
    cases written <;> trivial

/-- A closed election has come to the outcome of the contest that was read from the store and the
ballot service. -/
theorem resolved_of_path {settings : Settings} {holder : Account} {xs : List Exchange}
    {report : ElectionReport} {stored : Config} {tally : Tally} {candidates : List Candidate}
    (path : (endElection settings holder).Path xs (.ok report))
    (configured : ⟨.config, .ok (some stored)⟩ ∈ xs)
    (counted : ⟨.tally report.ballot, .ok tally⟩ ∈ xs)
    (registered : ⟨.candidates, .ok candidates⟩ ∈ xs) : report.outcome = Contest.outcome
      { tally.contest stored.openSeats stored.holderQuorumDivisor settings.tiePolicy with
        candidates := (candidates.map (·.name)).mergeSort fun a b => (compare a b).isLE } := by
  unfold endElection at path
  simp at path
  obtain ⟨read, time, ballot, c, tally', listed, members, ys, ⟨begun, after, -, committed, commit,
    rfl⟩, rfl⟩ := path
  have loud (c : Call) (a : c.Answer) (quiet : c.IsQuiet) : ⟨c, a⟩ ∉ ys := fun h =>
    (RosterChange.loud_commit _).of_mem commit h quiet
  have hread : stored = read := by simpa [loud .config _ trivial] using configured
  have hlisted : candidates = listed := by simpa [loud .candidates _ trivial] using registered
  have htally : tally = tally' := by simpa [loud (.tally _) _ trivial] using counted
  obtain ⟨-, -, -, -, rfl⟩ := Config.beginResolving_eq_ok_iff.1 begun.symm
  subst hread hlisted htally
  rfl

/-- Where only registered candidates have weight, a closed election has come to the outcome of the
tally alone. -/
theorem outcome_of_path {settings : Settings} {holder : Account} {xs : List Exchange}
    {report : ElectionReport} {stored : Config} {tally : Tally} {candidates : List Candidate}
    (path : (endElection settings holder).Path xs (.ok report))
    (configured : ⟨.config, .ok (some stored)⟩ ∈ xs)
    (counted : ⟨.tally report.ballot, .ok tally⟩ ∈ xs)
    (registered : ⟨.candidates, .ok candidates⟩ ∈ xs)
    (own : ∀ name, tally.weightOf name ≠ 0 → name ∈ candidates.map (·.name)) : report.outcome =
      (tally.contest stored.openSeats stored.holderQuorumDivisor settings.tiePolicy).outcome := by
  rw [resolved_of_path path configured counted registered]
  refine Contest.outcome_congr (tally.votes_contest (fun name cast => ?_) _ _ _).symm
    rfl rfl rfl rfl
  exact List.mem_mergeSort.2 (own name cast)

/-! ### Votes decide -/

/-- An outcome depends on the votes for registered candidates and the terms only. So where only
registered candidates have weight, the end of the election has come to the outcome of the tally
alone, and this is what the dry run of the tally prints. -/
theorem votes_decide :
    (∀ c c' : Contest, c'.votes = c.votes → c'.tally.totalWeight = c.tally.totalWeight →
      c'.seats = c.seats → c'.quorumDivisor = c.quorumDivisor → c'.tiePolicy = c.tiePolicy →
      c'.outcome = c.outcome) ∧
    ∀ (settings : Settings) (holder : Account) (xs : List Exchange) (report : ElectionReport)
      (stored : Config) (tally : Tally) (candidates : List Candidate),
      (endElection settings holder).Path xs (.ok report) → ⟨.config, .ok (some stored)⟩ ∈ xs →
      ⟨.tally report.ballot, .ok tally⟩ ∈ xs → ⟨.candidates, .ok candidates⟩ ∈ xs →
      (∀ name, tally.weightOf name ≠ 0 → name ∈ candidates.map (·.name)) →
      report.outcome =
          (tally.contest stored.openSeats stored.holderQuorumDivisor settings.tiePolicy).outcome ∧
        ∀ (σ : Type) (around : Surroundings (StateM σ)) (cli : Settings) (policy : Option String)
          (file : String) (s s' : σ), tiePolicy cli policy = .ok settings.tiePolicy →
          (readTally around file).run.run s = (.ok tally, s') →
          ((Command.resolve file stored.openSeats stored.holderQuorumDivisor policy).run
              around cli).run.run s =
            (.ok (printed (.record
              [("quorum", (requiredQuorum tally.totalWeight stored.holderQuorumDivisor).toJson),
                ("outcome", report.outcome.toJson)])), s') := by
  refine ⟨fun c c' votes total seats divisor policy =>
    Contest.outcome_congr votes total seats divisor policy, ?_⟩
  intro settings holder xs report stored tally candidates path configured counted registered own
  have outcome := outcome_of_path path configured counted registered own
  refine ⟨outcome, fun σ around cli policy file s s' chosen read => ?_⟩
  rw [Command.run_resolve chosen read, outcome]
  rfl

/-- A contest with candidates in another order, one of them without weight and one twice, and with
an option that is no candidate; and the end of an election with a dry run of its tally. -/
theorem votes_decide_succession :
    let erin : Account := ⟨['e', 'r', 'i', 'n'], rfl⟩
    let frank : Account := ⟨['f', 'r', 'a', 'n', 'k'], rfl⟩
    let c' : Contest := { straddling with
      tally := { straddling.tally with weights := straddling.tally.weights.insert frank 9 }
      candidates := [publisher, erin, bob, alice, carol, bob] }
    let w := world.afterAll {} succession
    let xs := (endElection {} carol).exchanges World.answer w
    let stored := w.store.records.config.getD { publisher }
    let tally : Tally := { weights := OrderedMap.empty.insert alice 5, totalWeight := 20 }
    let report : ElectionReport :=
      { ballot := ⟨1⟩, kind := .term, outcome := .pass [alice], seated := [alice],
        unseated := [bob], openSeats := 2 }
    let text := "\x7b\"per_option_weight\": \x7b\"alice\": 5\x7d, " ++
      "\"total_raw_weight\": 20, \"total_voters\": 0\x7d"
    let around := Directory.surroundings ⟨0⟩
    let files := ({} : Directory).withFile "tally.json" (Layout.utf8Bytes text)
    c'.votes = straddling.votes ∧ c'.outcome = straddling.outcome ∧
      (endElection {} carol).Path xs (.ok report) ∧ ⟨.config, .ok (some stored)⟩ ∈ xs ∧
      ⟨.tally ⟨1⟩, .ok tally⟩ ∈ xs ∧ ⟨.candidates, .ok [⟨alice, ⟨14516200⟩⟩]⟩ ∈ xs ∧
      (∀ name, tally.weightOf name ≠ 0 → name ∈ [alice]) ∧
      report.outcome =
        (tally.contest stored.openSeats stored.holderQuorumDivisor .excludeTied).outcome ∧
      (readTally around "tally.json").run.run files = (.ok tally, files) ∧
      ((Command.resolve "tally.json" stored.openSeats stored.holderQuorumDivisor
          (some "exclude_tied")).run around {}).run.run files =
        (.ok (printed (.record
          [("quorum", (requiredQuorum 20 stored.holderQuorumDivisor).toJson),
            ("outcome", report.outcome.toJson)])), files) := by
  intro erin frank c' w xs stored tally report text around files
  have votes : c'.votes = straddling.votes := by decide +kernel
  have path : (endElection {} carol).Path xs (.ok report) :=
    World.path_perform (by decide +kernel)
  have configured : ⟨.config, .ok (some stored)⟩ ∈ xs := by decide +kernel
  have counted : ⟨.tally ⟨1⟩, .ok tally⟩ ∈ xs := by decide +kernel
  have registered : ⟨.candidates, .ok [⟨alice, ⟨14516200⟩⟩]⟩ ∈ xs := by decide +kernel
  have own (name : Account) (cast : tally.weightOf name ≠ 0) : name ∈ [alice] := by
    by_contra other
    refine cast ?_
    show ((OrderedMap.empty.insert alice (5 : Weight)).find? name).getD 0 = 0
    rw [OrderedMap.find?_insert, if_neg (by simpa using other)]
    rfl
  have single : Directory.parts "tally.json" = ["tally.json"] :=
    (Directory.parts_of_relative (by simp)).trans (by decide)
  have plain : Directory.Plain "tally.json" :=
    ⟨by simp [Directory.isName]; decide, by decide, by decide, by decide⟩
  have found : (around.readText "tally.json").run files = (some text, files) := by
    show ((Directory.readFile "tally.json" files).bind Layout.ofUtf8Bytes?, files) = _
    rw [Directory.readFile_withFile single plain, Option.bind_some,
      Layout.ofUtf8Bytes?_utf8Bytes]
  have read : (readTally around "tally.json").run.run files = (.ok tally, files) :=
    readTally_of_readText found (by decide +kernel)
  obtain ⟨outcome, prints⟩ := votes_decide.2 {} carol xs report stored tally
    [⟨alice, ⟨14516200⟩⟩] path configured counted registered own
  exact ⟨votes, votes_decide.1 _ _ votes rfl rfl rfl rfl, path, configured, counted, registered,
    own, outcome, read, prints _ around {} (some "exclude_tied") "tally.json" files files (by rfl)
      read⟩

end TrusteeBoard
