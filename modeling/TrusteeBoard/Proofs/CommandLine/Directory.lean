import Mathlib.Data.String.Basic
import TrusteeBoard.CommandLine.Directory
import TrusteeBoard.Proofs.CommandLine.Run

/-!
# Files in a directory

A path is cut at its strokes (`Directory.parts_of_relative`) and followed name by name. So a file
that has been put into a directory is read there (`Directory.readFile_withFile`), and a store whose
file is in a directory is opened (`Directory.openStore_kept`).
-/

namespace TrusteeBoard.CommandLine

open String

/-- Cutting at the text `/` is cutting at the character. -/
theorem splitOnAux_stroke (s : String) (b i : Pos.Raw) (r : List String) :
    s.splitOnAux "/" b i 0 r = s.splitAux (· == '/') b i r := by
  induction b, i, r using String.splitAux.induct s (· == '/') with
  | case1 b i r ended =>
    rw [splitOnAux, splitAux, if_pos ended, dif_pos ended]
  | case2 b i r more _ stroke next ih =>
    have stroke' : (Pos.Raw.get s i == Pos.Raw.get "/" 0) = true := stroke
    have whole : Pos.Raw.atEnd "/" (Pos.Raw.next "/" 0) = true := by decide
    have back : (Pos.Raw.next s i).unoffsetBy (Pos.Raw.next "/" 0) = i := by
      have char : Pos.Raw.get s i = '/' := beq_iff_eq.1 stroke
      have one : (Pos.Raw.next "/" 0).byteIdx = 1 := by decide
      apply Pos.Raw.ext
      rw [Pos.Raw.byteIdx_unoffsetBy, one, Pos.Raw.next, char]
      rfl
    rw [splitOnAux, splitAux, if_neg more, dif_neg more, if_pos stroke, if_pos stroke']
    dsimp only
    rw [if_pos whole, back]
    exact ih
  | case3 b i r more _ other ih =>
    have other' : ¬(Pos.Raw.get s i == Pos.Raw.get "/" 0) = true := other
    rw [splitOnAux, splitAux, if_neg more, dif_neg more, if_neg other, if_neg other']
    exact ih

namespace Directory

theorem parts_of_relative {path : String} (relative : path.startsWith "/" = false) :
    parts path = (path.toList.splitOnP (· == '/')).map String.ofList := by
  rw [parts, if_neg (Bool.eq_false_iff.1 relative), ← splitToList_of_valid, splitOn,
    if_neg (by decide)]
  exact splitOnAux_stroke path 0 0 []

/-- A name that leads from a directory to what is in it. -/
structure Plain (name : String) : Prop where
  named : isName name = true
  nonempty : name ≠ ""
  notHere : name ≠ "."
  notAbove : name ≠ ".."

theorem follow_plain {d : Directory} {here rest : Path} {name : String} (plain : Plain name)
    (directory : d.isDirectory here = true)
    (present : d.isDirectory (here ++ [name]) = true ∨ (d.file? (here ++ [name])).isSome = true) :
    d.follow here (name :: rest) = d.follow (here ++ [name]) rest := by
  have unmoved : ¬(name = "" ∨ name = ".") := not_or.2 ⟨plain.nonempty, plain.notHere⟩
  rw [follow, directory, plain.named, if_neg (by simp), if_neg unmoved, if_neg plain.notAbove]
  dsimp only
  rw [if_pos (by simpa using present)]

variable {d d' : Directory} {dir name path : String} {bytes : List UInt8}

theorem Plain.short (plain : Plain name) : name.utf8ByteSize < pathLimit := by
  have := plain.named
  simp [isName] at this
  rw [pathLimit]
  omega

theorem follow_single (plain : Plain dir) (there : d.isDirectory [dir] = true) :
    d.follow [] [dir] = .ok [dir] := by
  rw [follow_plain plain rfl (.inl there)]
  rfl

/-! ### Reading and writing -/

theorem readFile_withFile (single : parts name = [name]) (plain : Plain name) (d : Directory)
    (bytes : List UInt8) : readFile name (d.withFile name bytes) = some bytes := by
  have held : (d.withFile name bytes).file? [name] = some bytes := by
    rw [withFile, file?, single]
    exact List.lookup_cons_self
  have leads : (d.withFile name bytes).follow [] [name] = .ok [name] := by
    rw [follow_plain plain rfl (.inr (by rw [List.nil_append, held]; rfl))]
    rfl
  rw [readFile, resolve, if_pos plain.short, single, leads]
  exact held

theorem readFile_within (two : parts path = [dir, name]) (plainDir : Plain dir)
    (plain : Plain name) (there : d.isDirectory [dir] = true)
    (held : d.file? [dir, name] = some bytes) (short : path.utf8ByteSize < pathLimit) :
    readFile path d = some bytes := by
  have leads : d.follow [] [dir, name] = .ok [dir, name] := by
    rw [follow_plain plainDir rfl (.inl there), List.nil_append,
      follow_plain plain there (.inr (by rw [List.singleton_append, held]; rfl))]
    rfl
  rw [readFile, resolve, if_pos short, two, leads]
  exact held

theorem writeFile?_within (two : parts path = [dir, name]) (plain : Plain dir)
    (there : d.isDirectory [dir] = true) (free : d.isDirectory [dir, name] = false)
    (unlocked : d.closed.any (·.isPrefixOf [dir]) = false)
    (short : placeSize + path.utf8ByteSize < pathLimit) : writeFile? path bytes d =
      some { d with files := ([dir, name], bytes) :: d.files.filter (·.1 != [dir, name]) } := by
  have room : ¬pathLimit ≤ placeSize + path.utf8ByteSize := Nat.not_le.2 short
  have leads := follow_single plain there
  rw [writeFile?, two]
  simp only [List.getLast?_cons_cons, List.getLast?_singleton, List.dropLast_cons_cons,
    List.dropLast_singleton, leads, Except.toOption, Option.bind_eq_bind, Option.bind_some,
    List.singleton_append, room, there, free, unlocked]
  simp

/-- A directory that is there counts as made. -/
theorem makeDirectory?_of_isDirectory (single : parts dir = [dir]) (plain : Plain dir)
    (there : d.isDirectory [dir] = true) : makeDirectory? dir d = some (dir, d) := by
  have taken : d.make [dir] = .error .taken := by
    have root : d.isDirectory [] = true := rfl
    simp [make, follow, root, there, plain.nonempty, plain.notHere, plain.notAbove, plain.named,
      bind, Except.bind, throw, throwThe, MonadExceptOf.throw]
  rw [makeDirectory?, if_neg (Nat.not_le.2 plain.short), single]
  simp [ancestors, components, makeAll, taken, present?, follow_single plain there, Except.toOption,
    there, written]

theorem run_attempt {α : Type} {change : Directory → Option (α × Directory)} {a : α}
    (possible : change d = some (a, d')) : (attempt change).run d = (some a, d') := by
  simp only [attempt, StateT.run_bind, StateT.run_get, pure_bind, possible]
  rfl

/-! ### A store in a directory -/

/-- A working directory with a store in it. -/
def kept (store : ByteStore) : Directory where
  files := [(["store", "data.mdb"], store.image)]

/-- The same once the store has been opened. -/
def opened (store : ByteStore) : Directory where
  files := [(["store", "lock.mdb"], ByteStore.mark), (["store", "data.mdb"], store.image)]

/-- A store whose file can be read is opened. -/
theorem openStore_kept {store : ByteStore} (sound : ByteStore.ofImage store.image = .ok store)
    (now : Timestamp) : (openStore (surroundings now) { dataDir := "store" }).run.run
      (kept store) = (.ok store, opened store) := by
  have plain : Plain "store" := ⟨by simp [isName]; decide, by decide, by decide, by decide⟩
  have plainData : Plain "data.mdb" := ⟨by simp [isName]; decide, by decide, by decide, by decide⟩
  have single : parts "store" = ["store"] := (parts_of_relative (by simp)).trans (by decide)
  have lock : parts "store/lock.mdb" = ["store", "lock.mdb"] :=
    (parts_of_relative (by simp)).trans (by decide)
  have data : parts "store/data.mdb" = ["store", "data.mdb"] :=
    (parts_of_relative (by simp)).trans (by decide)
  have made : makeDirectory? "store" (kept store) = some ("store", kept store) :=
    makeDirectory?_of_isDirectory single plain rfl
  have locks : writeFile? "store/lock.mdb" ByteStore.mark (kept store) = some (opened store) :=
    writeFile?_within lock plain rfl rfl rfl (by decide)
  have wrote : ((surroundings now).writeFile (lockFile "store") ByteStore.mark).run (kept store) =
      (true, opened store) := by
    have possible : ((), ·) <$> writeFile? "store/lock.mdb" ByteStore.mark (kept store) =
        some ((), opened store) := congrArg (((), ·) <$> ·) locks
    show (Option.isSome <$> attempt _).run _ = _
    rw [StateT.run_map, run_attempt possible]
    rfl
  have read : ((surroundings now).readFile (storeFile "store")).run (opened store) =
      (some store.image, opened store) :=
    congrArg (·, opened store) (readFile_within data plain plainData rfl rfl (by decide))
  have allowed : ¬(({ dataDir := "store" } : Settings).dataDir = "" ∨
      mapSizeLimit ≤ ({ dataDir := "store" } : Settings).mapSizeBytes.toNat) := by
    decide
  unfold openStore
  rw [if_neg allowed]
  refine (run_liftM_bind (run_attempt made)).trans ((run_liftM_bind wrote).trans ?_)
  rw [if_pos rfl]
  refine (run_liftM_bind read).trans ?_
  simp [sound]
  rfl

end Directory

end TrusteeBoard.CommandLine
