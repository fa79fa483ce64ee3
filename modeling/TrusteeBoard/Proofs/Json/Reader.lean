import Mathlib.Algebra.Group.Nat.Defs
import TrusteeBoard.Json.Reader
import TrusteeBoard.Proofs.Json.Text

/-!
# Readers of records

Two rules for each way to put readers together. A reader finds its value among the members of an
object (`Json.Finds`) when each field it asks for is the one member of that name. And whatever it
reads, the names in what it gets were written in what it read (`Json.Draws`): a reader of parts that
trace their names to the strings in them (`Json.Traces`) traces its own to the strings in the whole.
-/

namespace TrusteeBoard.Json

variable {α β : Type}

theorem mapM_map_of_inverse {f : β → Option α} {g : α → β} (back : ∀ a, f (g a) = some a)
    (l : List α) : (l.map g).mapM f = some l := by
  rw [List.mapM_map, show f ∘ g = fun a => pure (id a) from funext back, List.mapM_pure,
    List.map_id]
  rfl

theorem exists_of_mem_mapM {f : α → Option β} {l : List α} {l' : List β}
    (h : l.mapM f = some l') {b : β} (mem : b ∈ l') : ∃ a ∈ l, f a = some b := by
  induction l generalizing l' with
  | nil =>
    cases h
    cases mem
  | cons a rest ih =>
    rw [List.mapM_cons] at h
    obtain ⟨b', first, h⟩ := Option.bind_eq_some_iff.1 h
    obtain ⟨rest', others, h⟩ := Option.bind_eq_some_iff.1 h
    cases h
    rcases List.mem_cons.1 mem with rfl | mem
    · exact ⟨a, List.mem_cons_self, first⟩
    · obtain ⟨a', mem', read⟩ := ih others mem
      exact ⟨a', List.mem_cons_of_mem _ mem', read⟩

/-! ### Reading what is written -/

theorem readNat_nat {bound n : Nat} (h : n < bound) : readNat bound (.nat n) = some n := by
  have digits : (Nat.toDigits 10 n).all Char.isDigit = true :=
    List.all_eq_true.2 fun _ => isDigit_of_mem_toDigits
  simp [readNat, nat, digits, Nat.ofDigitChars_ten_toDigits, h]

theorem readList_list {read : Json → Option α} {write : α → Json}
    (back : ∀ a, read (write a) = some a) (l : List α) : readList read (.list write l) = some l :=
  mapM_map_of_inverse back l

/-- Among the members of an object the reader finds `a`. -/
def Finds (members : List (String × Json)) (reader : FieldReader α) (a : α) : Prop :=
  reader.run (.named members) = some (a, .named members)

/-- The object has one member of the name, with the value. -/
def Holds (members : List (String × Json)) (name : String) (value : Json) : Prop :=
  members.filter (fun m => m.1 == name) = [(name, value)]

section Finds

variable {members : List (String × Json)} {name : String} {value : Json} {read : Json → Option α}
  {a : α}

theorem Finds.pure (a : α) : Finds members (pure a) a := rfl

theorem Finds.bind {x : FieldReader α} {f : α → FieldReader β} {b : β}
    (first : Finds members x a) (next : Finds members (f a) b) : Finds members (x >>= f) b := by
  show (x.run (.named members) >>= _) = _
  rw [first]
  exact next

theorem Holds.finds_field? (h : Holds members name value) :
    Finds members (field? name) (some value) := by
  show field? name (.named members) = _
  rw [field?, h]

theorem Finds.required (h : Holds members name value) (back : read value = some a) :
    Finds members (Json.required name read) a :=
  h.finds_field?.bind (by simp [Finds, back])

theorem Finds.defaulted {default : α} (h : Holds members name value) (back : read value = some a) :
    Finds members (Json.defaulted name read default) a :=
  h.finds_field?.bind (by simp [Finds, back])

theorem Finds.nullable {write : α → Json} {o : Option α} (h : Holds members name (.orNull write o))
    (back : ∀ a, read (write a) = some a) (notNull : ∀ a, write a ≠ .null) :
    Finds members (Json.nullable name read) o := by
  refine h.finds_field?.bind ?_
  cases o with
  | none => rfl
  | some a =>
    have back := back a
    have notNull := notNull a
    rw [orNull]
    generalize write a = value at back notNull
    cases value with
    | null => exact absurd rfl notNull
    | _ => simp [Finds, back]

theorem readRecord_record {reader : FieldReader α} (h : Finds members reader a) :
    readRecord reader (.record members) = some a := by
  have fields : Fields.ofJson? (.record members) = some (.named members) := by
    show Fields.named <$> (members.map fun m => (some m.1, m.2)).mapM _ = _
    rw [mapM_map_of_inverse]
    · rfl
    · exact fun _ => rfl
  show (Fields.ofJson? _ >>= _) = _
  rw [fields]
  show (reader.run (.named members) >>= _) = _
  rw [h]
  rfl

end Finds

/-! ### Where names come from -/

/-- The text stands in the value, as a string or as a key. -/
inductive Mentions (s : String) : Json → Prop where
  | string : Mentions s (.string (some s))
  | item {items : List Json} {j : Json} : j ∈ items → Mentions s j → Mentions s (.array items)
  | key {members : List (Option String × Json)} {value : Json} :
    (some s, value) ∈ members → Mentions s (.object members)
  | value {members : List (Option String × Json)} {key : Option String} {value : Json} :
    (key, value) ∈ members → Mentions s value → Mentions s (.object members)

/-- Every text in the value has the property. -/
def Over (S : String → Prop) (j : Json) : Prop :=
  ∀ s, j.Mentions s → S s

/-- From a value whose texts all have the property, only such names are read. The property is any,
so that it can also hold of names that are there by default. -/
def Traces (S : String → Prop) (read : Json → Option α) (names : α → List String) : Prop :=
  ∀ j a, j.Over S → read j = some a → ∀ s ∈ names a, S s

/-- A value without names in it. -/
theorem Traces.nameless {S : String → Prop} {read : Json → Option α} :
    Traces S read fun _ => [] :=
  fun _ _ _ _ => nofun

/-- The values of the fields not read yet. -/
def Fields.values : Fields → List Json
  | .named members => members.map (·.2)
  | .positional items => items

/-- From fields whose texts all have the property `S`, the reader gets a value with the property
`p`. -/
def Draws (S : String → Prop) (reader : FieldReader α) (p : α → Prop) : Prop :=
  ∀ fields a rest, (∀ v ∈ Fields.values fields, v.Over S) →
    reader.run fields = some (a, rest) → p a ∧ ∀ v ∈ rest.values, v.Over S

section Draws

variable {S : String → Prop} {p : α → Prop} {q : β → Prop} {name : String}
  {read : Json → Option α} {names : α → List String}

theorem Draws.pure {a : α} (h : p a) : Draws S (pure a) p := by
  rintro fields _ _ within ⟨⟩
  exact ⟨h, within⟩

theorem Draws.failure : Draws S (failure : FieldReader α) p := by
  rintro _ _ _ _ ⟨⟩

theorem Draws.get : Draws S get fun _ => True := by
  rintro fields _ _ within ⟨⟩
  exact ⟨trivial, within⟩

theorem Draws.lift {o : Option α} (h : ∀ a, o = some a → p a) :
    Draws S (liftM o : FieldReader α) p := by
  intro fields a rest within read
  cases o with
  | none => cases read
  | some a =>
    cases read
    exact ⟨h a rfl, within⟩

theorem Draws.bind {x : FieldReader α} {f : α → FieldReader β} (first : Draws S x p)
    (next : ∀ a, p a → Draws S (f a) q) : Draws S (x >>= f) q := by
  intro fields b rest within read
  obtain ⟨⟨a, between⟩, readFirst, readNext⟩ := Option.bind_eq_some_iff.1 read
  obtain ⟨h, within⟩ := first fields a between within readFirst
  exact next a h between b rest within readNext

theorem draws_field? : Draws S (field? name) fun o => ∀ v ∈ o, v.Over S := by
  intro fields o rest within read
  cases fields with
  | named members =>
    change field? name (.named members) = _ at read
    rw [field?] at read
    split at read
    · cases read
      exact ⟨nofun, within⟩
    · next m found =>
      cases read
      refine ⟨fun v hv => ?_, within⟩
      cases hv
      have mem : m ∈ members.filter fun m => m.1 == name := found ▸ List.mem_singleton_self m
      exact within m.2 (List.mem_map_of_mem (List.mem_filter.1 mem).1)
    · cases read
  | positional items =>
    cases items with
    | nil =>
      cases read
      exact ⟨nofun, within⟩
    | cons item items =>
      cases read
      obtain ⟨first, others⟩ := List.forall_mem_cons.1 within
      exact ⟨fun v hv => by cases hv; exact first, others⟩

theorem Draws.required (h : Traces S read names) :
    Draws S (Json.required name read) fun a => ∀ s ∈ names a, S s := by
  refine draws_field?.bind fun o within => ?_
  cases o with
  | none => exact .failure
  | some v => exact .lift fun a => h v a (within v rfl)

theorem Draws.defaulted {default : α} (h : Traces S read names)
    (known : ∀ s ∈ names default, S s) :
    Draws S (Json.defaulted name read default) fun a => ∀ s ∈ names a, S s := by
  refine draws_field?.bind fun o within => ?_
  cases o with
  | none => exact .pure known
  | some v => exact .lift fun a => h v a (within v rfl)

theorem Draws.nullable (h : Traces S read names) :
    Draws S (Json.nullable name read) fun o => ∀ a ∈ o, ∀ s ∈ names a, S s := by
  refine draws_field?.bind fun o within => Draws.get.bind fun fields _ => ?_
  split
  · exact .pure nofun
  · next v _ =>
    rw [map_eq_pure_bind]
    refine Draws.bind (.lift fun a => h v a (within v rfl)) fun a named => .pure fun a' same => ?_
    cases same
    exact named
  · exact .pure nofun
  · exact .failure

theorem over_of_fields {j : Json} (within : j.Over S) {fields : Fields}
    (h : Fields.ofJson? j = some fields) : ∀ v ∈ fields.values, v.Over S := by
  intro v hv
  cases j with
  | object members =>
    obtain ⟨named, all, rfl⟩ := Option.map_eq_some_iff.1 h
    obtain ⟨m, mem, rfl⟩ := List.mem_map.1 hv
    obtain ⟨⟨key, value⟩, written, found⟩ := exists_of_mem_mapM all mem
    obtain ⟨name, -, rfl⟩ := Option.map_eq_some_iff.1 found
    exact fun s mentioned => within s (.value written mentioned)
  | array items =>
    cases h
    exact fun s mentioned => within s (.item hv mentioned)
  | _ => cases h

theorem Traces.readRecord {reader : FieldReader α}
    (h : Draws S reader fun a => ∀ s ∈ names a, S s) :
    Traces S (Json.readRecord reader) names := by
  intro j a within read
  obtain ⟨fields, found, read⟩ := Option.bind_eq_some_iff.1 read
  obtain ⟨⟨a', rest⟩, ran, done⟩ := Option.bind_eq_some_iff.1 read
  change (if rest.isDone then Pure.pure a' else none) = some a at done
  split at done
  · cases done
    exact (h fields _ rest (over_of_fields within found) ran).1
  · cases done

theorem Traces.readList (h : Traces S read names) :
    Traces S (Json.readList read) fun l => l.flatMap names := by
  intro j l within found s mem
  cases j with
  | array items =>
    obtain ⟨a, listed, named⟩ := List.mem_flatMap.1 mem
    obtain ⟨item, written, found⟩ := exists_of_mem_mapM found listed
    exact h item a (fun s mentioned => within s (.item written mentioned)) found s named
  | _ => cases found

theorem traces_readString {ofString? : String → Option α} {nameOf : α → String}
    (back : ∀ {raw a}, ofString? raw = some a → nameOf a = raw) :
    Traces S (fun j => readString j >>= ofString?) fun a => [nameOf a] := by
  intro j a within found s mem
  cases List.mem_singleton.1 mem
  cases j with
  | string content =>
    obtain ⟨raw, rfl, found⟩ := Option.bind_eq_some_iff.1 found
    exact within _ (back found ▸ .string)
  | _ => cases found

theorem traces_readMembers {κ : Type} {readKey : String → Option κ} {nameOf : κ → String}
    (back : ∀ {raw k}, readKey raw = some k → nameOf k = raw) :
    Traces S (readMembers readKey read) fun l => l.map fun e => nameOf e.1 := by
  intro j l within found s mem
  cases j with
  | object members =>
    obtain ⟨e, listed, rfl⟩ := List.mem_map.1 mem
    obtain ⟨⟨key, value⟩, written, found⟩ := exists_of_mem_mapM found listed
    obtain ⟨raw, rfl, rest⟩ := Option.bind_eq_some_iff.1 found
    obtain ⟨k, keyRead, rest⟩ := Option.bind_eq_some_iff.1 rest
    obtain ⟨a, -, rest⟩ := Option.bind_eq_some_iff.1 rest
    cases rest
    exact within _ (.key (back keyRead ▸ written))
  | _ => cases found

end Draws

end TrusteeBoard.Json
