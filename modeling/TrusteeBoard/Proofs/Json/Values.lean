import TrusteeBoard.Json.Values
import TrusteeBoard.Proofs.Json.Reader
import TrusteeBoard.Proofs.Names
import TrusteeBoard.Proofs.OrderedMap

/-!
# Exchanged values survive as text

A `Json.Codec` says how the values of a type are written in JSON and read back, and which names they
carry. All those of the exchanged types are sound (`Json.exchanged_values_sound`): every value is
read back from its text, and whatever text a value is read from, the names in the value are well
formed and stand in the text, apart from the names that the settings have by default.
-/

namespace TrusteeBoard

namespace Json

/-- How the values of a type are exchanged, and the names in them. -/
structure Codec (α : Type) where
  write : α → Json
  read : Json → Option α
  accounts : α → List Account := fun _ => []
  symbols : α → List TreasurySymbol := fun _ => []
  /-- The names that a value has where nothing is written. -/
  defaults : List String := []

namespace Codec

variable {α : Type}

/-- The text of a value. -/
def encode (c : Codec α) (a : α) : String :=
  (c.write a).compact

/-- The value that a text stands for. -/
def decode? (c : Codec α) (text : String) : Option α := do
  c.read (← parse? text)

/-- The account names and symbols in a value, as text. -/
def names (c : Codec α) (a : α) : List String :=
  (c.accounts a).map Account.toString ++ (c.symbols a).map TreasurySymbol.toString

/-- What is written is read back, and names come from what is read. -/
structure Lawful (c : Codec α) : Prop where
  plain : ∀ a, (c.write a).Plain
  read_write : ∀ a, c.read (c.write a) = some a
  traces : ∀ {S : String → Prop}, (∀ s ∈ c.defaults, S s) → Traces S c.read c.names

/-- Values survive as text, and only valid names are read, from where they are written. -/
structure Sound (c : Codec α) : Prop where
  decode?_encode : ∀ a, c.decode? (c.encode a) = some a
  accounts_valid : ∀ {text a}, c.decode? text = some a →
    ∀ name ∈ c.accounts a, isAccountName name.letters = true
  symbols_valid : ∀ {text a}, c.decode? text = some a →
    ∀ symbol ∈ c.symbols a, isSymbol symbol.letters = true
  names_written : ∀ {text a}, c.decode? text = some a →
    ∃ j, parse? text = some j ∧ ∀ s ∈ c.names a, j.Mentions s ∨ s ∈ c.defaults

theorem Lawful.sound {c : Codec α} (h : c.Lawful) : c.Sound where
  decode?_encode a := by
    rw [decode?, encode, (h.plain a).parse?_compact]
    exact h.read_write a
  accounts_valid _ name _ := name.wellFormed
  symbols_valid _ symbol _ := symbol.wellFormed
  names_written {text a} decoded := by
    obtain ⟨j, parsed, read⟩ := Option.bind_eq_some_iff.1 decoded
    exact ⟨j, parsed, h.traces (fun _ => .inr) j a (fun _ => .inl) read⟩

end Codec

/-! ### Numbers -/

theorem readWord16_nat (n : UInt16) : readWord16 (.nat n.toNat) = some n := by
  rw [readWord16, readNat_nat n.toNat_lt]
  exact congrArg some UInt16.ofNat_toNat

theorem readWord32_nat (n : UInt32) : readWord32 (.nat n.toNat) = some n := by
  rw [readWord32, readNat_nat n.toNat_lt]
  exact congrArg some UInt32.ofNat_toNat

theorem readWord64_nat (n : UInt64) : readWord64 (.nat n.toNat) = some n := by
  rw [readWord64, readNat_nat n.toNat_lt]
  exact congrArg some UInt64.ofNat_toNat

end Json

open Json

@[simp] theorem Weight.plain_toJson (w : Weight) : w.toJson.Plain := .nat _

theorem Weight.ofJson?_toJson (w : Weight) : ofJson? w.toJson = some w := by
  rw [ofJson?, toJson, readNat_nat w.isLt]
  exact congrArg some (BitVec.ofNat_toNat ..)

namespace Timestamp

def codec : Codec Timestamp where
  write := toJson
  read := ofJson?

@[simp] theorem plain_toJson (t : Timestamp) : t.toJson.Plain := .nat _

theorem ofJson?_toJson (t : Timestamp) : ofJson? t.toJson = some t := by
  rw [ofJson?, toJson, readWord64_nat]
  rfl

theorem lawful_codec : codec.Lawful where
  plain := plain_toJson
  read_write := ofJson?_toJson
  traces _ := .nameless

end Timestamp

namespace BallotId

def codec : Codec BallotId where
  write := toJson
  read := ofJson?

@[simp] theorem plain_toJson (b : BallotId) : b.toJson.Plain := .nat _

theorem ofJson?_toJson (b : BallotId) : ofJson? b.toJson = some b := by
  rw [ofJson?, toJson, readWord64_nat]
  rfl

theorem lawful_codec : codec.Lawful where
  plain := plain_toJson
  read_write := ofJson?_toJson
  traces _ := .nameless

end BallotId

/-! ### Names -/

namespace Account

def codec : Codec Account where
  write := toJson
  read := ofJson?
  accounts a := [a]

@[simp] theorem plain_toJson (a : Account) : a.toJson.Plain := .str _

theorem ofJson?_toJson (a : Account) : ofJson? a.toJson = some a :=
  ofString?_toString a

theorem traces_ofJson? {S : String → Prop} : Traces S ofJson? fun a => [a.toString] :=
  traces_readString toString_of_ofString?

theorem lawful_codec : codec.Lawful where
  plain := plain_toJson
  read_write := ofJson?_toJson
  traces _ := traces_ofJson?

end Account

namespace TreasurySymbol

def codec : Codec TreasurySymbol where
  write := toJson
  read := ofJson?
  symbols s := [s]

@[simp] theorem plain_toJson (s : TreasurySymbol) : s.toJson.Plain := .str _

theorem ofJson?_toJson (s : TreasurySymbol) : ofJson? s.toJson = some s :=
  ofString?_toString s

theorem traces_ofJson? {S : String → Prop} : Traces S ofJson? fun s => [s.toString] :=
  traces_readString toString_of_ofString?

theorem lawful_codec : codec.Lawful where
  plain := plain_toJson
  read_write := ofJson?_toJson
  traces _ := traces_ofJson?

end TreasurySymbol

/-! ### Cases -/

namespace Phase

def codec : Codec Phase where
  write := toJson
  read := ofJson?

@[simp] theorem plain_toJson (p : Phase) : p.toJson.Plain := .str _

theorem ofJson?_toJson (p : Phase) : ofJson? p.toJson = some p := by
  cases p <;> rfl

theorem lawful_codec : codec.Lawful where
  plain := plain_toJson
  read_write := ofJson?_toJson
  traces _ := .nameless

end Phase

namespace TiePolicy

def codec : Codec TiePolicy where
  write := toJson
  read := ofJson?

@[simp] theorem plain_toJson (p : TiePolicy) : p.toJson.Plain := .str _

theorem ofJson?_toJson (p : TiePolicy) : ofJson? p.toJson = some p := by
  cases p <;> rfl

theorem lawful_codec : codec.Lawful where
  plain := plain_toJson
  read_write := ofJson?_toJson
  traces _ := .nameless

end TiePolicy

namespace ThresholdRule

def codec : Codec ThresholdRule where
  write := toJson
  read := ofJson?

@[simp] theorem plain_toJson (r : ThresholdRule) : r.toJson.Plain := by
  cases r with
  | simpleMajority => exact .str _
  | unanimous => exact .str _
  | atLeast count => exact .record (by simp)

theorem ofJson?_toJson (r : ThresholdRule) : ofJson? r.toJson = some r := by
  cases r with
  | simpleMajority => rfl
  | unanimous => rfl
  | atLeast count =>
    show atLeast <$> readWord32 (.nat count.toNat) = _
    rw [readWord32_nat]
    rfl

theorem lawful_codec : codec.Lawful where
  plain := plain_toJson
  read_write := ofJson?_toJson
  traces _ := .nameless

end ThresholdRule

/-! ### Records -/

namespace Config

def codec : Codec Config where
  write := toJson
  read := ofJson?
  accounts c := [c.publisher]

theorem plain_toJson (c : Config) : c.toJson.Plain := by
  have openBallot : (orNull BallotId.toJson c.openBallot).Plain := by
    cases c.openBallot with
    | none => exact .null
    | some b => exact b.plain_toJson
  exact .record (by simp [openBallot])

theorem ofJson?_toJson (c : Config) : ofJson? c.toJson = some c :=
  readRecord_record <|
    .bind (.required rfl c.publisher.ofJson?_toJson) <|
    .bind (.required rfl (readWord32_nat _)) <|
    .bind (.required rfl (readWord32_nat _)) <|
    .bind (.required rfl (readWord32_nat _)) <|
    .bind (.required rfl (readWord32_nat _)) <|
    .bind (.required rfl (readWord64_nat _)) <|
    .bind (.required rfl (readWord64_nat _)) <|
    .bind (.required rfl (readWord64_nat _)) <|
    .bind (.required rfl (readWord64_nat _)) <|
    .bind (.required rfl c.lastElectionAt.ofJson?_toJson) <|
    .bind (.required rfl c.votingOpensAt.ofJson?_toJson) <|
    .bind (.nullable rfl BallotId.ofJson?_toJson nofun) <|
    .bind (.required rfl rfl) <|
    .bind (.required rfl c.phase.ofJson?_toJson) <|
    .bind (.required rfl rfl) <|
    .bind (.required rfl (readWord64_nat _)) <| .pure _

theorem traces_ofJson? {S : String → Prop} : Traces S ofJson? fun c => [c.publisher.toString] :=
  .readRecord <|
    .bind (.required Account.traces_ofJson?) fun _ publisher =>
    .bind (.required .nameless) fun _ _ =>
    .bind (.required .nameless) fun _ _ =>
    .bind (.required .nameless) fun _ _ =>
    .bind (.required .nameless) fun _ _ =>
    .bind (.required .nameless) fun _ _ =>
    .bind (.required .nameless) fun _ _ =>
    .bind (.required .nameless) fun _ _ =>
    .bind (.required .nameless) fun _ _ =>
    .bind (.required .nameless) fun _ _ =>
    .bind (.required .nameless) fun _ _ =>
    .bind (.nullable .nameless) fun _ _ =>
    .bind (.required .nameless) fun _ _ =>
    .bind (.required .nameless) fun _ _ =>
    .bind (.required .nameless) fun _ _ =>
    .bind (.required .nameless) fun _ _ => .pure publisher

theorem lawful_codec : codec.Lawful where
  plain := plain_toJson
  read_write := ofJson?_toJson
  traces _ := traces_ofJson?

end Config

namespace Nominee

def codec : Codec Nominee where
  write := toJson
  read := ofJson?
  accounts n := [n.name, n.nominatedBy]

theorem ofJson?_toJson (n : Nominee) : ofJson? n.toJson = some n :=
  readRecord_record <|
    .bind (.required rfl n.name.ofJson?_toJson) <|
    .bind (.required rfl n.nominatedBy.ofJson?_toJson) <|
    .bind (.required rfl n.nominatedAt.ofJson?_toJson) <| .pure _

theorem traces_ofJson? {S : String → Prop} :
    Traces S ofJson? fun n => [n.name.toString, n.nominatedBy.toString] :=
  .readRecord <|
    .bind (.required Account.traces_ofJson?) fun _ name =>
    .bind (.required Account.traces_ofJson?) fun _ nominatedBy =>
    .bind (.required .nameless) fun _ _ =>
    .pure (List.forall_mem_cons.2 ⟨name _ (List.mem_singleton_self _), nominatedBy⟩)

theorem lawful_codec : codec.Lawful where
  plain n := .record (by simp)
  read_write := ofJson?_toJson
  traces _ := traces_ofJson?

end Nominee

namespace Candidate

def codec : Codec Candidate where
  write := toJson
  read := ofJson?
  accounts c := [c.name]

theorem ofJson?_toJson (c : Candidate) : ofJson? c.toJson = some c :=
  readRecord_record <|
    .bind (.required rfl c.name.ofJson?_toJson) <|
    .bind (.required rfl c.registeredAt.ofJson?_toJson) <| .pure _

theorem traces_ofJson? {S : String → Prop} : Traces S ofJson? fun c => [c.name.toString] :=
  .readRecord <|
    .bind (.required Account.traces_ofJson?) fun _ name =>
    .bind (.required .nameless) fun _ _ => .pure name

theorem lawful_codec : codec.Lawful where
  plain c := .record (by simp)
  read_write := ofJson?_toJson
  traces _ := traces_ofJson?

end Candidate

namespace Member

def codec : Codec Member where
  write := toJson
  read := ofJson?
  accounts m := [m.name]

theorem ofJson?_toJson (m : Member) : ofJson? m.toJson = some m :=
  readRecord_record <|
    .bind (.required rfl m.name.ofJson?_toJson) <|
    .bind (.required rfl m.seatedAt.ofJson?_toJson) <| .pure _

theorem traces_ofJson? {S : String → Prop} : Traces S ofJson? fun m => [m.name.toString] :=
  .readRecord <|
    .bind (.required Account.traces_ofJson?) fun _ name =>
    .bind (.required .nameless) fun _ _ => .pure name

theorem lawful_codec : codec.Lawful where
  plain m := .record (by simp)
  read_write := ofJson?_toJson
  traces _ := traces_ofJson?

end Member

namespace Tally

def codec : Codec Tally where
  write := toJson
  read := ofJson?
  accounts t := t.weights.keys

theorem plain_toJson (t : Tally) : t.toJson.Plain := by
  have weights : (record (t.weights.entries.map fun e => (e.1.toString, e.2.toJson))).Plain := by
    refine .record fun m mem => ?_
    obtain ⟨e, -, rfl⟩ := List.mem_map.1 mem
    exact e.2.plain_toJson
  exact .record (by simp [weights])

theorem ofJson?_toJson (t : Tally) : ofJson? t.toJson = some t := by
  have weights : readMembers Account.ofString? Weight.ofJson?
      (.record (t.weights.entries.map fun e => (e.1.toString, e.2.toJson))) =
        some t.weights.entries := by
    show List.mapM _ (List.map _ (List.map _ _)) = _
    rw [List.map_map, mapM_map_of_inverse]
    intro e
    simp [Account.ofString?_toString, Weight.ofJson?_toJson]
  refine readRecord_record <|
    .bind (.defaulted rfl weights) <|
    .bind (.required rfl t.totalWeight.ofJson?_toJson) <|
    .bind (.defaulted rfl (readWord32_nat _)) ?_
  rw [OrderedMap.ofList_entries]
  exact .pure _

theorem traces_ofJson? {S : String → Prop} :
    Traces S ofJson? fun t => t.weights.keys.map Account.toString := by
  refine .readRecord <|
    .bind (.defaulted (traces_readMembers Account.toString_of_ofString?) nofun) fun entries named =>
    .bind (.required .nameless) fun _ _ =>
    .bind (.defaulted .nameless nofun) fun _ _ => .pure fun s mem => ?_
  obtain ⟨option, listed, rfl⟩ := List.mem_map.1 mem
  obtain ⟨e, entry, rfl⟩ := List.mem_map.1 (OrderedMap.mem_keys_ofList.1 listed)
  exact named _ (List.mem_map_of_mem entry)

theorem lawful_codec : codec.Lawful where
  plain := plain_toJson
  read_write := ofJson?_toJson
  traces _ := by
    have names : codec.names = fun t => t.weights.keys.map Account.toString :=
      funext fun _ => List.append_nil _
    exact names ▸ traces_ofJson?

end Tally

namespace Signer

theorem plain_toJson (s : Signer) : s.toJson.Plain := .record (by simp)

theorem ofJson?_toJson (s : Signer) : ofJson? s.toJson = some s :=
  readRecord_record <|
    .bind (.required rfl s.actor.ofJson?_toJson) <|
    .bind (.required rfl rfl) <|
    .bind (.required rfl (readWord16_nat _)) <| .pure _

theorem traces_ofJson? {S : String → Prop} : Traces S ofJson? fun s => [s.actor.toString] :=
  .readRecord <|
    .bind (.required Account.traces_ofJson?) fun _ actor =>
    .bind (.required .nameless) fun _ _ =>
    .bind (.required .nameless) fun _ _ => .pure actor

end Signer

namespace Authority

def codec : Codec Authority where
  write := toJson
  read := ofJson?
  accounts := actors

theorem plain_toJson (a : Authority) : a.toJson.Plain := by
  have signers : (list Signer.toJson a.signers).Plain := by
    refine .array fun j mem => ?_
    obtain ⟨s, -, rfl⟩ := List.mem_map.1 mem
    exact s.plain_toJson
  exact .record (by simp [signers])

theorem ofJson?_toJson (a : Authority) : ofJson? a.toJson = some a :=
  readRecord_record <|
    .bind (.required rfl (readWord32_nat _)) <|
    .bind (.required rfl (readList_list Signer.ofJson?_toJson _)) <| .pure _

theorem traces_ofJson? {S : String → Prop} :
    Traces S ofJson? fun a => a.actors.map Account.toString := by
  refine .readRecord <|
    .bind (.required .nameless) fun _ _ =>
    .bind (.required Signer.traces_ofJson?.readList) fun signers named => .pure fun s mem => ?_
  obtain ⟨actor, listed, rfl⟩ := List.mem_map.1 mem
  obtain ⟨signer, signs, rfl⟩ := List.mem_map.1 listed
  exact named _ (List.mem_flatMap.2 ⟨signer, signs, List.mem_singleton_self _⟩)

theorem lawful_codec : codec.Lawful where
  plain := plain_toJson
  read_write := ofJson?_toJson
  traces _ := by
    have names : codec.names = fun a => a.actors.map Account.toString :=
      funext fun _ => List.append_nil _
    exact names ▸ traces_ofJson?

end Authority

namespace Config.Update

def codec : Codec Update where
  write := toJson
  read := ofJson?

theorem ofJson?_toJson (u : Update) : ofJson? u.toJson = some u :=
  readRecord_record <|
    .bind (.required rfl (readWord32_nat _)) <|
    .bind (.required rfl (readWord32_nat _)) <|
    .bind (.required rfl (readWord32_nat _)) <|
    .bind (.required rfl (readWord64_nat _)) <|
    .bind (.required rfl (readWord64_nat _)) <|
    .bind (.required rfl (readWord64_nat _)) <|
    .bind (.required rfl (readWord64_nat _)) <| .pure _

theorem lawful_codec : codec.Lawful where
  plain u := .record (by simp)
  read_write := ofJson?_toJson
  traces _ := .nameless

end Config.Update

namespace Settings

def codec : Codec Settings where
  write := toJson
  read := ofJson?
  accounts s := [s.governedAccount]
  symbols s := [s.treasurySymbol]
  defaults := [defaultAccount.toString, defaultSymbol.toString]

theorem ofJson?_toJson (s : Settings) : ofJson? s.toJson = some s :=
  readRecord_record <|
    .bind (.defaulted rfl rfl) <|
    .bind (.defaulted rfl s.governedAccount.ofJson?_toJson) <|
    .bind (.defaulted rfl s.treasurySymbol.ofJson?_toJson) <|
    .bind (.defaulted rfl rfl) <|
    .bind (.defaulted rfl s.tiePolicy.ofJson?_toJson) <|
    .bind (.defaulted rfl s.thresholdRule.ofJson?_toJson) <|
    .bind (.defaulted rfl (readWord32_nat _)) <|
    .bind (.defaulted rfl rfl) <|
    .bind (.defaulted rfl rfl) <|
    .bind (.defaulted rfl (readWord64_nat _)) <| .pure _

theorem traces_ofJson? {S : String → Prop} (account : S defaultAccount.toString)
    (symbol : S defaultSymbol.toString) :
    Traces S ofJson? fun s => [s.governedAccount.toString, s.treasurySymbol.toString] :=
  .readRecord <|
    .bind (.defaulted .nameless nofun) fun _ _ =>
    .bind (.defaulted Account.traces_ofJson? (by simpa using account)) fun _ governed =>
    .bind (.defaulted TreasurySymbol.traces_ofJson? (by simpa using symbol)) fun _ treasury =>
    .bind (.defaulted .nameless nofun) fun _ _ =>
    .bind (.defaulted .nameless nofun) fun _ _ =>
    .bind (.defaulted .nameless nofun) fun _ _ =>
    .bind (.defaulted .nameless nofun) fun _ _ =>
    .bind (.defaulted .nameless nofun) fun _ _ =>
    .bind (.defaulted .nameless nofun) fun _ _ =>
    .bind (.defaulted .nameless nofun) fun _ _ =>
    .pure (List.forall_mem_cons.2 ⟨governed _ (List.mem_singleton_self _), treasury⟩)

theorem lawful_codec : codec.Lawful where
  plain s := .record (by simp)
  read_write := ofJson?_toJson
  traces {S} known :=
    traces_ofJson? (known _ List.mem_cons_self) (known _ (by simp [codec]))

end Settings

/-! ### All of them -/

/-- Every exchanged value is read back from its text, and only valid names are read from a text. -/
theorem Json.exchanged_values_sound :
    Account.codec.Sound ∧ TreasurySymbol.codec.Sound ∧ BallotId.codec.Sound ∧
      Timestamp.codec.Sound ∧ Phase.codec.Sound ∧ Config.codec.Sound ∧ Nominee.codec.Sound ∧
      Candidate.codec.Sound ∧ Member.codec.Sound ∧ Tally.codec.Sound ∧ Authority.codec.Sound ∧
      ThresholdRule.codec.Sound ∧ TiePolicy.codec.Sound ∧ Config.Update.codec.Sound ∧
      Settings.codec.Sound :=
  ⟨Account.lawful_codec.sound, TreasurySymbol.lawful_codec.sound, BallotId.lawful_codec.sound,
    Timestamp.lawful_codec.sound, Phase.lawful_codec.sound, Config.lawful_codec.sound,
    Nominee.lawful_codec.sound, Candidate.lawful_codec.sound, Member.lawful_codec.sound,
    Tally.lawful_codec.sound, Authority.lawful_codec.sound, ThresholdRule.lawful_codec.sound,
    TiePolicy.lawful_codec.sound, Config.Update.lawful_codec.sound, Settings.lawful_codec.sound⟩

end TrusteeBoard
