import TrusteeBoard.Proofs.Layout.RoundTrip
import TrusteeBoard.Store.Bytes

/-!
# Stored records as a prefix code

What is stored of a record is decoded again, whatever bytes follow it. So the bytes of different
records of one kind differ, and they already differ before either of them ends
(`Layout.IsPrefixCode`). Nothing more is needed of a layout for this than that every value reads
back (`Layout.Faithful.isPrefixCode`).
-/

namespace TrusteeBoard

namespace Layout

variable {α : Type} {l : Layout α}

/-- A value is decoded from its bytes whatever follows them, different values have different bytes,
and the bytes of none begin with those of another. -/
structure IsPrefixCode (l : Layout α) : Prop where
  decode_write : ∀ a rest, ByteMaps.decode l (l.write a ++ rest) = .ok a
  write_injective : Function.Injective l.write
  eq_of_prefix : ∀ a b, l.write a <+: l.write b → a = b

theorem Restores.decode {a : α} (h : l.Restores a) (rest : List UInt8) :
    ByteMaps.decode l (l.write a ++ rest) = .ok a := by
  rw [ByteMaps.decode, decode?, h]
  rfl

theorem Faithful.isPrefixCode (h : l.Faithful) : l.IsPrefixCode := by
  have whole (a b : α) (begins : l.write a <+: l.write b) : a = b := by
    obtain ⟨rest, split⟩ := begins
    have first := (h a).decode rest
    -- the longer of the two is decoded as both values
    have second := (h b).decode []
    rw [List.append_nil, ← split, first] at second
    exact Except.ok.inj second
  exact ⟨fun a => (h a).decode, fun a b same => whole a b (same ▸ List.prefix_rfl), whole⟩

end Layout

/-- The bytes under which the store keeps the governance record, nominees, candidates and members
are a prefix code of each of the four. -/
theorem stored_records_prefixCode : Config.layout.IsPrefixCode ∧ Nominee.layout.IsPrefixCode ∧
    Candidate.layout.IsPrefixCode ∧ Member.layout.IsPrefixCode :=
  ⟨Config.faithful_layout.isPrefixCode, Nominee.faithful_layout.isPrefixCode,
    Candidate.faithful_layout.isPrefixCode, Member.faithful_layout.isPrefixCode⟩

/-- The length of the name in eight bytes, the name, and the time in eight bytes, lowest first. -/
example : Candidate.layout.write ⟨⟨['b', 'o', 'b'], rfl⟩, ⟨258⟩⟩ =
    [3, 0, 0, 0, 0, 0, 0, 0, 98, 111, 98, 2, 1, 0, 0, 0, 0, 0, 0] := by
  decide +kernel

end TrusteeBoard
