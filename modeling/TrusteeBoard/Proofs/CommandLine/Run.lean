import TrusteeBoard.CommandLine.Run

/-!
# What commands print

A command that only reads prints what follows from what it has read: the status of the store that it
has opened (`Command.run_status`), or the contest of a tally (`Command.run_resolve`).
-/

namespace TrusteeBoard.CommandLine

variable {σ α β : Type} {around : Surroundings (StateM σ)} {cli : Settings} {s s' s'' : σ}

/-- What is done in the surroundings comes first. -/
theorem run_liftM_bind {x : StateM σ α} {f : α → ExceptT Failure (StateM σ) β} {a : α}
    (first : x.run s = (a, s')) :
    ((liftM x : ExceptT Failure (StateM σ) α) >>= f).run.run s = (f a).run.run s' := by
  have lifted : (liftM x : ExceptT Failure (StateM σ) α).run.run s = pure (.ok a, s') := by
    show ((Except.ok <$> x).run s : Except Failure α × σ) = _
    rw [StateT.run_map, first]
    rfl
  rw [ExceptT.run_bind, StateT.run_bind, lifted]
  rfl

theorem readTally_of_readText {file text : String} {tally : Tally}
    (found : (around.readText file).run s = (some text, s'))
    (parsed : (Json.parse? text).bind Tally.ofJson? = some tally) :
    (readTally around file).run.run s = (.ok tally, s') := by
  refine (run_liftM_bind found).trans ?_
  simp [parsed]
  rfl

namespace Command

/-- The status command prints the report on the store that it has opened. -/
theorem run_status {store : ByteStore} {now : Timestamp}
    (opened : (openStore around cli).run.run s = (.ok store, s'))
    (asked : around.now.run s' = (now, s'')) : (Command.status.run around cli).run.run s =
      (((Status.ofStore store now).map fun report => printed report.toJson).mapError .store,
        s'') := by
  unfold Command.run
  rw [ExceptT.run_bind, StateT.run_bind, opened]
  refine (run_liftM_bind asked).trans ?_
  cases Status.ofStore store now <;> rfl

/-- The dry run of a tally prints its contest. -/
theorem run_resolve {raw : Option String} {policy : TiePolicy}
    (chosen : tiePolicy cli raw = .ok policy) {file : String} {tally : Tally}
    (read : (readTally around file).run.run s = (.ok tally, s')) (seats divisor : UInt32) :
    ((Command.resolve file seats divisor raw).run around cli).run.run s =
      (.ok (printed (tally.contest seats divisor policy).toJson), s') := by
  have command : (Command.resolve file seats divisor raw).run around cli = (do
    let policy ← liftExcept (tiePolicy cli raw)
    let tally ← readTally around file
    return printed (tally.contest seats divisor policy).toJson) := rfl
  rw [command, chosen]
  simp [liftExcept, read]
  rfl

end Command

end TrusteeBoard.CommandLine
