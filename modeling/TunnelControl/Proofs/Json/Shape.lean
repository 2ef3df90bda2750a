import Mathlib.Data.List.Nodup
import Mathlib.Logic.Relation
import TunnelControl.Proofs.Json.Arrays

/-!
# What reading depends on

A shape says where in the JSON of a type there are records, which keys they have, and where null
stands for none. Two values of JSON differ by a variation (`Shape.Variation`) if in one place the
entries of an object are in another order, there is one more key that is not known, or null stands
for a key that is absent. A value is spoilt (`Shape.Spoilt`) if null stands where a value is needed.

A codec reads by a shape (`Codec.ReadsBy`) if it makes no difference between variations and reads
nothing that is spoilt. Codecs of records do if those of their fields do.
-/

namespace TunnelControl

/-- Where there are records. -/
inductive Shape
  /-- A value with no record in it. -/
  | plain
  /-- What is held if it is not null. -/
  | optional (s : Shape)
  | list (s : Shape)
  /-- A record with these fields, in the order of their declaration. -/
  | record (fields : List (String × Shape))

namespace Shape

def isOptional : Shape → Bool
  | optional _ => true
  | _ => false

/-- One change that makes no difference, in a record or further inside. -/
inductive Variation : Shape → Json → Json → Prop
  | permuted {fields : List (String × Shape)} {entries entries' : List (String × Json)}
      (distinct : (entries.map Prod.fst).Nodup) (perm : entries.Perm entries') :
      Variation (.record fields) (.obj entries) (.obj entries')
  | added {fields : List (String × Shape)} {entries : List (String × Json)} {key : String}
      {j : Json} (unknown : key ∉ fields.map Prod.fst) :
      Variation (.record fields) (.obj entries) (.obj ((key, j) :: entries))
  | nulled {fields : List (String × Shape)} {entries : List (String × Json)} {key : String}
      {s : Shape} (known : (key, .optional s) ∈ fields) (absent : key ∉ entries.map Prod.fst) :
      Variation (.record fields) (.obj entries) (.obj ((key, .null) :: entries))
  | field {fields : List (String × Shape)} {key : String} {s : Shape} {j j' : Json}
      (before after : List (String × Json)) (known : (key, s) ∈ fields)
      (inner : Variation s j j') :
      Variation (.record fields) (.obj (before ++ (key, j) :: after))
        (.obj (before ++ (key, j') :: after))
  /-- The same of a field of a record that is written as an array. -/
  | place {fields : List (String × Shape)} {key : String} {s : Shape} {j j' : Json}
      {before : List Json} (after : List Json) (known : fields[before.length]? = some (key, s))
      (inner : Variation s j j') :
      Variation (.record fields) (.arr (before ++ j :: after)) (.arr (before ++ j' :: after))
  | given {s : Shape} {j j' : Json} (inner : Variation s j j') : Variation (.optional s) j j'
  | item {s : Shape} {j j' : Json} (before after : List Json) (inner : Variation s j j') :
      Variation (.list s) (.arr (before ++ j :: after)) (.arr (before ++ j' :: after))

/-- Null stands where a value is needed, in a record or further inside. -/
inductive Spoilt : Shape → Json → Prop
  | null {s : Shape} (needed : s.isOptional = false) : Spoilt s .null
  | field {fields : List (String × Shape)} {entries : List (String × Json)} {key : String}
      {s : Shape} {j : Json} (known : (key, s) ∈ fields)
      (held : Json.field? key entries = some j) (inner : Spoilt s j) :
      Spoilt (.record fields) (.obj entries)
  | place {fields : List (String × Shape)} {key : String} {s : Shape} {j : Json}
      {before : List Json} (after : List Json) (known : fields[before.length]? = some (key, s))
      (inner : Spoilt s j) : Spoilt (.record fields) (.arr (before ++ j :: after))
  | given {s : Shape} {j : Json} (some_given : j ≠ .null) (inner : Spoilt s j) :
      Spoilt (.optional s) j
  | item {s : Shape} {j : Json} {js : List Json} (mem : j ∈ js) (inner : Spoilt s j) :
      Spoilt (.list s) (.arr js)

theorem Variation.ne_null {s : Shape} {j j' : Json} (varied : s.Variation j j') :
    j ≠ .null ∧ j' ≠ .null := by
  induction varied with
  | given _ ih => exact ih
  | _ => exact ⟨nofun, nofun⟩

end Shape

/-! ## Lists and optional values -/

namespace Codec

variable {α : Type} {c : Codec α} {s : Shape}

/-- Variations are read alike, and nothing is read of what is spoilt. -/
structure ReadsBy (c : Codec α) (s : Shape) : Prop where
  varied : ∀ {j j'}, s.Variation j j' → c.read j = c.read j'
  spoilt : ∀ {j}, s.Spoilt j → c.read j = none

/-- However many variations lie between two values, and whichever way round, they are read alike. -/
def DependsOn (c : Codec α) (s : Shape) : Prop :=
  (∀ j j', Relation.EqvGen s.Variation j j' → c.read j = c.read j') ∧
    ∀ j, s.Spoilt j → c.read j = none

theorem ReadsBy.dependsOn (reads : c.ReadsBy s) : c.DependsOn s :=
  ⟨fun _ _ varied => congrArg (Quot.lift c.read fun _ _ => reads.varied) (Quot.eqvGen_sound varied),
    fun _ => reads.spoilt⟩

theorem plain_readsBy (needed : c.read .null = none) : c.ReadsBy .plain where
  varied := nofun
  spoilt
    | .null _ => needed

theorem list_readsBy (reads : c.ReadsBy s) : c.list.ReadsBy (.list s) := by
  constructor
  · intro _ _ varied
    cases varied with
    | item before after inner =>
        change (before ++ _ :: after).mapM c.read = (before ++ _ :: after).mapM c.read
        rw [List.mapM_append, List.mapM_append, List.mapM_cons, List.mapM_cons,
          reads.varied inner]
  · intro _ spoilt
    cases spoilt with
    | null => rfl
    | item mem inner =>
        obtain ⟨before, after, rfl⟩ := List.append_of_mem mem
        change (before ++ _ :: after).mapM c.read = none
        simp [List.mapM_append, List.mapM_cons, reads.spoilt inner]

theorem read_nullable {j : Json} (given : j ≠ .null) :
    c.nullable.read j = (c.read j).map some := by
  cases j with
  | null => exact absurd rfl given
  | _ => rfl

theorem nullable_readsBy (reads : c.ReadsBy s) : c.nullable.ReadsBy (.optional s) := by
  constructor
  · intro j j' varied
    cases varied with
    | given inner =>
        obtain ⟨given, given'⟩ := inner.ne_null
        rw [read_nullable given, read_nullable given', reads.varied inner]
  · intro j spoilt
    cases spoilt with
    | null needed => cases needed
    | given given inner =>
        rw [read_nullable given, reads.spoilt inner]
        rfl

end Codec

/-! ## Entries of objects -/

theorem Json.field?_cons (key : String) (e : String × Json) (entries : List (String × Json)) :
    field? key (e :: entries) = if key = e.1 then some e.2 else field? key entries := by
  obtain ⟨own, j⟩ := e
  rw [field?, List.lookup_cons]
  by_cases same : key = own
  · simp [same]
  · simp [same, beq_eq_false_iff_ne.mpr same, field?]

theorem Json.field?_append (key : String) (before after : List (String × Json)) :
    field? key (before ++ after) = (field? key before).or (field? key after) := by
  rw [field?, List.lookup_append, field?, field?]

theorem Json.field?_eq_none {entries : List (String × Json)} {key : String}
    (absent : key ∉ entries.map Prod.fst) : field? key entries = none := by
  rw [field?, List.lookup_eq_none_iff]
  intro e mem
  exact bne_iff_ne.mpr fun same => absent (same ▸ List.mem_map_of_mem mem)

/-- In an object with distinct keys it does not matter where an entry stands. -/
theorem Json.field?_perm {entries entries' : List (String × Json)}
    (perm : entries.Perm entries') (distinct : (entries.map Prod.fst).Nodup) (key : String) :
    field? key entries = field? key entries' := by
  induction perm with
  | nil => rfl
  | cons e _ ih => rw [field?_cons, field?_cons, ih (List.nodup_cons.mp distinct).2]
  | swap e e' entries =>
      have ne : e'.1 ≠ e.1 := by
        intro same
        simp [same] at distinct
      rw [field?_cons, field?_cons, field?_cons, field?_cons]
      split
      · rename_i first
        rw [if_neg (first ▸ ne)]
      · rfl
  | trans first _ ih ih' =>
      exact (ih distinct).trans (ih' ((first.map Prod.fst).nodup_iff.mp distinct))

/-- What two objects hold under a key makes no difference. -/
inductive Shape.Alike (s : Shape) : Option Json → Option Json → Prop
  | same (x : Option Json) : Alike s x x
  | varied {j j' : Json} (inner : s.Variation j j') : Alike s (some j) (some j')
  | nulled (may : s.isOptional = true) : Alike s none (some .null)

theorem Shape.Alike.eq_of_plain {x y : Option Json} (alike : plain.Alike x y) : x = y := by
  cases alike with
  | same => rfl
  | varied inner => cases inner
  | nulled may => cases may

/-- A variation of an object makes no difference under any key of the record. -/
theorem Shape.Variation.alike {fields : List (String × Shape)}
    (distinct : (fields.map Prod.fst).Nodup) {entries entries' : List (String × Json)}
    (varied : (record fields).Variation (.obj entries) (.obj entries')) {key : String} {s : Shape}
    (known : (key, s) ∈ fields) :
    s.Alike (Json.field? key entries) (Json.field? key entries') := by
  have only {s' : Shape} (known' : (key, s') ∈ fields) : s' = s :=
    congrArg Prod.snd (List.inj_on_of_nodup_map distinct known' known rfl)
  cases varied with
  | permuted fresh perm =>
      rw [Json.field?_perm perm fresh]
      exact .same _
  | @added _ _ other _ unknown =>
      have ne : key ≠ other := ne_of_mem_of_not_mem (List.mem_map_of_mem known) unknown
      rw [Json.field?_cons, if_neg ne]
      exact .same _
  | @nulled _ _ other s' known' absent =>
      rw [Json.field?_cons]
      split
      · rename_i same
        cases same
        rw [Json.field?_eq_none absent]
        exact .nulled (only known' ▸ rfl)
      · exact .same _
  | @field _ other s' j j' before after known' inner =>
      rw [Json.field?_append, Json.field?_append, Json.field?_cons, Json.field?_cons]
      by_cases same : key = other
      · subst same
        rw [if_pos rfl, if_pos rfl]
        cases Json.field? key before with
        | none => exact .varied (only known' ▸ inner)
        | some first => exact .same _
      · rw [if_neg same, if_neg same]
        exact .same _

/-! ## Records -/

/-- A field is read by a shape, and null is read as if its key were absent if it stands for none. -/
structure Field.ReadsBy {β : Type} (f : Field β) (s : Shape) : Prop where
  codec : f.codec.ReadsBy s
  absent : s.isOptional = true → f.codec.read .null = f.absent

theorem Field.readFrom_of_alike {β : Type} {f : Field β} {s : Shape} (reads : f.ReadsBy s)
    {entries entries' : List (String × Json)}
    (alike : s.Alike (Json.field? f.key entries) (Json.field? f.key entries')) :
    f.readFrom entries = f.readFrom entries' := by
  unfold readFrom
  generalize Json.field? f.key entries = x, Json.field? f.key entries' = y at alike
  cases alike with
  | same => rfl
  | varied inner => exact reads.codec.varied inner
  | nulled may => exact (reads.absent may).symm

namespace Field

variable {β : Type} {c : Codec β} {s : Shape}

theorem required_readsBy (key : String) (reads : c.ReadsBy s) (needed : s.isOptional = false) :
    (required key c).ReadsBy s :=
  ⟨reads, fun may => absurd may (by simp [needed])⟩

theorem withDefault_readsBy (key : String) (value : β) (reads : c.ReadsBy s)
    (needed : s.isOptional = false) : (withDefault key c value).ReadsBy s :=
  ⟨reads, fun may => absurd may (by simp [needed])⟩

theorem unlessEmpty_readsBy (key : String) (reads : c.ReadsBy s) :
    (unlessEmpty key c).ReadsBy (.list s) :=
  ⟨Codec.list_readsBy reads, nofun⟩

theorem nullable_readsBy (key : String) (reads : c.ReadsBy s) :
    (nullable key c).ReadsBy (.optional s) :=
  ⟨Codec.nullable_readsBy reads, fun _ => rfl⟩

theorem optional_readsBy (key : String) (reads : c.ReadsBy s) :
    (optional key c).ReadsBy (.optional s) :=
  ⟨Codec.nullable_readsBy reads, fun _ => rfl⟩

end Field

namespace Fields

/-- The fields are those of the shape, one by one. -/
inductive ReadsBy : {α : Type} → Fields α → List (String × Shape) → Prop
  | nil : ReadsBy .nil []
  | cons {β γ : Type} {f : Field β} {fs : Fields γ} {s : Shape} {shapes : List (String × Shape)}
      (own : f.ReadsBy s) (others : ReadsBy fs shapes) :
      ReadsBy (.cons f fs) ((f.key, s) :: shapes)

variable {α : Type} {fs : Fields α} {shapes : List (String × Shape)}

theorem ofEntries_of_alike (reads : fs.ReadsBy shapes) {entries entries' : List (String × Json)}
    (alike : ∀ key s, (key, s) ∈ shapes →
      s.Alike (Json.field? key entries) (Json.field? key entries')) :
    fs.ofEntries entries = fs.ofEntries entries' := by
  induction reads with
  | nil => rfl
  | @cons _ _ f fs s shapes own others ih =>
      have head : f.readFrom entries = f.readFrom entries' :=
        Field.readFrom_of_alike own (alike f.key s List.mem_cons_self)
      have tail : fs.ofEntries entries = fs.ofEntries entries' :=
        ih fun key s mem => alike key s (List.mem_cons_of_mem _ mem)
      rw [ofEntries, ofEntries, head, tail]

theorem ofEntries_of_spoilt (reads : fs.ReadsBy shapes) {entries : List (String × Json)}
    {key : String} {s : Shape} (known : (key, s) ∈ shapes) {j : Json}
    (held : Json.field? key entries = some j) (spoilt : s.Spoilt j) :
    fs.ofEntries entries = none := by
  induction reads with
  | nil => cases known
  | @cons _ _ f fs s' shapes own others ih =>
      rcases List.mem_cons.mp known with same | later
      · cases same
        have none : f.readFrom entries = none := by
          rw [Field.readFrom, held]
          exact own.codec.spoilt spoilt
        rw [ofEntries, none]
        rfl
      · rw [ofEntries, ih later]
        cases f.readFrom entries <;> rfl

/-- In an array the place of an element says which field it is. -/
theorem ofElements_of_place (reads : fs.ReadsBy shapes) {before : List Json} {key : String}
    {s : Shape} (known : shapes[before.length]? = some (key, s)) (after : List Json) :
    (∀ {j j' : Json}, s.Variation j j' →
      fs.ofElements (before ++ j :: after) = fs.ofElements (before ++ j' :: after)) ∧
    ∀ {j : Json}, s.Spoilt j → fs.ofElements (before ++ j :: after) = none := by
  induction reads generalizing before with
  | nil => cases known
  | @cons _ _ f fs s' shapes own others ih =>
      cases before with
      | nil =>
          cases known
          constructor
          · intro j j' varied
            rw [List.nil_append, List.nil_append, ofElements, ofElements, own.codec.varied varied]
          · intro j spoilt
            rw [List.nil_append, ofElements, own.codec.spoilt spoilt]
            rfl
      | cons first before =>
          obtain ⟨varies, spoils⟩ := ih known
          constructor
          · intro j j' varied
            rw [List.cons_append, List.cons_append, ofElements, ofElements, varies varied]
          · intro j spoilt
            rw [List.cons_append, ofElements, spoils spoilt]
            cases f.codec.read first <;> rfl

end Fields

/-- A record is read by the shapes of its fields. -/
theorem Codec.record_readsBy {α σ : Type} {fs : Fields α} {toFields : σ → α} {ofFields : α → σ}
    {shapes : List (String × Shape)} (reads : fs.ReadsBy shapes)
    (distinct : (shapes.map Prod.fst).Nodup) :
    (record fs toFields ofFields).ReadsBy (.record shapes) := by
  have objects (entries : List (String × Json)) :
      (record fs toFields ofFields).read (.obj entries) = (fs.ofEntries entries).map ofFields := rfl
  have arrays (elems : List Json) :
      (record fs toFields ofFields).read (.arr elems) = (fs.ofElements elems).map ofFields := rfl
  have varied {entries entries' : List (String × Json)}
      (varied : (Shape.record shapes).Variation (.obj entries) (.obj entries')) :
      fs.ofEntries entries = fs.ofEntries entries' :=
    Fields.ofEntries_of_alike reads fun key s known => varied.alike distinct known
  constructor
  · intro j j' change
    have whole := change
    cases change with
    | place after known inner =>
        rw [arrays, arrays, (Fields.ofElements_of_place reads known after).1 inner]
    | _ => rw [objects, objects, varied whole]
  · intro j spoilt
    cases spoilt with
    | null => rfl
    | field known held inner =>
        rw [objects, Fields.ofEntries_of_spoilt reads known held inner]
        rfl
    | place after known inner =>
        rw [arrays, (Fields.ofElements_of_place reads known after).2 inner]
        rfl

end TunnelControl
