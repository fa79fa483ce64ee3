import TrusteeBoard.Account

/-!
# Names and their text

A name is read from a text exactly when it is written so.
-/

namespace TrusteeBoard

namespace Account

theorem ofString?_toString (a : Account) : ofString? a.toString = some a := by
  rw [ofString?, toString, String.toList_ofList, ofLetters?, dif_pos a.wellFormed]

theorem toString_of_ofString? {raw : String} {a : Account} (h : ofString? raw = some a) :
    a.toString = raw := by
  unfold ofString? ofLetters? at h
  split at h
  · cases h
    exact String.ofList_toList
  · cases h

end Account

namespace TreasurySymbol

theorem ofString?_toString (s : TreasurySymbol) : ofString? s.toString = some s := by
  have letters : s.toString.toList = s.letters := String.toList_ofList
  simp [ofString?, letters, s.wellFormed]

theorem toString_of_ofString? {raw : String} {s : TreasurySymbol} (h : ofString? raw = some s) :
    s.toString = raw := by
  unfold ofString? at h
  split at h
  · cases h
    exact String.ofList_toList
  · cases h

end TreasurySymbol

end TrusteeBoard
