import Mathlib.Data.List.Nodup
import TunnelControl.Proofs.Native.Choices

/-!
# How often a node is shown

A node can be reached along the list of options, and by the reference to the group selector. The
list by itself shows no node twice. The reference shows its node without regard to the list, so a
selector that is a node of the list is shown again among the options, unless it is to be ignored:
the controller has two prompts for it, and may answer them differently. What is written follows
the slots, so no node is written more often than it is shown.
-/

namespace TunnelControl
namespace Native

/-- How often the node is among the slots. -/
def AuthForm.timesShown (f : AuthForm) (place : Place) : Nat :=
  (f.slots.all.map Slot.place).count place

/-- How often a value is written to the node. -/
def timesWritten (values : List (Slot × List UInt8)) (place : Place) : Nat :=
  (values.map fun a => a.1.place).count place

/-- The group selector is the node of the list at this place, and is not to be ignored there. -/
def AuthForm.ListsSelector (f : AuthForm) (place : Place) : Prop :=
  ∃ index node, place = .listed index ∧ f.group = .listed index ∧
    f.options[index]? = some node ∧ node.isIgnored = false

/-! ## Slots -/

section slots

variable {f : AuthForm} {place : Place}

theorem places_options (f : AuthForm) :
    f.slots.options.map Slot.place = (f.shown.map Prod.snd).map Place.listed := by
  rw [slots_options, List.map_map, List.map_map]
  rfl

theorem nodup_places_options (f : AuthForm) : (f.slots.options.map Slot.place).Nodup := by
  rw [places_options]
  exact (nodup_shown f).map fun _ _ => Place.listed.inj

theorem nodup_places_group (f : AuthForm) : (f.slots.group.toList.map Slot.place).Nodup := by
  cases f.slots.group with
  | none => exact List.nodup_nil
  | some slot => exact List.nodup_singleton _

/-- The options are the nodes of the list that are not to be ignored. -/
theorem mem_places_options :
    place ∈ f.slots.options.map Slot.place ↔
      ∃ index node, place = .listed index ∧ f.options[index]? = some node ∧
        node.isIgnored = false := by
  rw [places_options, List.map_map]
  constructor
  · intro mem
    obtain ⟨⟨node, index⟩, shown, rfl⟩ := List.mem_map.mp mem
    obtain ⟨listed, kept⟩ := List.mem_filter.mp shown
    exact ⟨index, node, rfl, List.mem_zipIdx_iff_getElem?.mp listed, by simpa using kept⟩
  · rintro ⟨index, node, rfl, listed, kept⟩
    refine List.mem_map.mpr ⟨(node, index), List.mem_filter.mpr ⟨?_, by simp [kept]⟩, rfl⟩
    exact List.mem_zipIdx_iff_getElem?.mpr listed

/-- The group has the place that is referred to, whatever the flags of the node there. -/
theorem mem_places_group {index : Nat} :
    Place.listed index ∈ f.slots.group.toList.map Slot.place ↔
      f.group = .listed index ∧ ∃ node, f.options[index]? = some node := by
  have own : f.slots.group = f.groupSlot? := rfl
  rw [own, AuthForm.groupSlot?]
  constructor
  · intro mem
    obtain ⟨slot, found, place⟩ := List.mem_map.mp mem
    rw [Option.mem_toList] at found
    cases group : f.group with
    | none => simp [group] at found
    | own node =>
        rw [group] at found
        cases found
        cases place
    | listed i =>
        rw [group] at found
        obtain ⟨node, listed, rfl⟩ := Option.map_eq_some_iff.mp found
        cases place
        exact ⟨rfl, node, listed⟩
  · rintro ⟨group, node, listed⟩
    simp [group, listed]

theorem listsSelector_iff :
    f.ListsSelector place ↔ place ∈ f.slots.group.toList.map Slot.place ∧
      place ∈ f.slots.options.map Slot.place := by
  constructor
  · rintro ⟨index, node, rfl, group, listed, kept⟩
    exact ⟨mem_places_group.mpr ⟨group, node, listed⟩,
      mem_places_options.mpr ⟨index, node, rfl, listed, kept⟩⟩
  · rintro ⟨first, second⟩
    obtain ⟨index, node, rfl, listed, kept⟩ := mem_places_options.mp second
    obtain ⟨group, -⟩ := mem_places_group.mp first
    exact ⟨index, node, rfl, group, listed, kept⟩

theorem timesShown_eq :
    f.timesShown place = (f.slots.group.toList.map Slot.place).count place +
      (f.slots.options.map Slot.place).count place := by
  rw [AuthForm.timesShown, Slots.all, List.map_append, List.count_append]

theorem timesShown_of_listsSelector (lists : f.ListsSelector place) : f.timesShown place = 2 := by
  obtain ⟨group, option⟩ := listsSelector_iff.mp lists
  rw [timesShown_eq, List.nodup_iff_count_eq_one.mp (nodup_places_group f) place group,
    List.nodup_iff_count_eq_one.mp (nodup_places_options f) place option]

theorem timesShown_le_one (apart : ¬ f.ListsSelector place) : f.timesShown place ≤ 1 := by
  rw [timesShown_eq]
  by_cases group : place ∈ f.slots.group.toList.map Slot.place
  · have other : place ∉ f.slots.options.map Slot.place :=
      fun option => apart (listsSelector_iff.mpr ⟨group, option⟩)
    rw [List.count_eq_zero_of_not_mem other]
    exact List.nodup_iff_count_le_one.mp (nodup_places_group f) place
  · rw [List.count_eq_zero_of_not_mem group, Nat.zero_add]
    exact List.nodup_iff_count_le_one.mp (nodup_places_options f) place

end slots

/-! ## What is written -/

/-- Pairs carry their slots in order, each at most once. -/
theorem carried_sublist (pairs : List (FormOption × Slot)) :
    ((carried pairs).map Prod.fst).Sublist (pairs.map Prod.snd) := by
  induction pairs with
  | nil => exact .slnil
  | cons p pairs ih =>
      obtain ⟨o, slot⟩ := p
      cases value : o.value with
      | none =>
          have skipped : carried ((o, slot) :: pairs) = carried pairs := by simp [carried, value]
          rw [skipped]
          exact .cons slot ih
      | some v =>
          have kept : carried ((o, slot) :: pairs) = (slot, v) :: carried pairs := by
            simp [carried, value]
          rw [kept]
          exact .cons_cons slot ih

theorem map_snd_zip_sublist (os : List FormOption) (slots : List Slot) :
    ((os.zip slots).map Prod.snd).Sublist slots := by
  rw [List.zip_eq_zip_take_min, List.map_snd_zip (by simp)]
  exact List.take_sublist _ _

theorem pairUp_sublist (g : Form) (slots : Slots) :
    ((pairUp g slots).map Prod.snd).Sublist slots.all := by
  rw [pairUp, List.map_append]
  exact (map_snd_zip_sublist _ _).append (map_snd_zip_sublist _ _)

section exchanges

variable {w : World Engine} {key : Nat} {s : Session Engine} {stage : Stage} {f : AuthForm}
  {r : Reply}

theorem eq_panic_or_form_of_fits {asked : Form} (fits : r.fits (.form asked) = true) :
    r = .panic ∨ ∃ g result, r = .form g result := by
  cases r <;> simp [Reply.fits] at fits ⊢

/-- Whatever the library returns, an exchange comes to its end. -/
theorem exists_exchange_of_fits (found : w.session? key = some s)
    (status : s.status = .running none) (inside : s.engine.point = .inside stage)
    (fits : r.fits (.form f.read.1) = true) (rc : Nat → Int32) :
    ∃ n values code, Exchange w key s f r ((List.range n).map rc) values code := by
  have nothing : ∀ code log, Verdict.ofReply (.form (some f)) r = .answer (some code) log →
      ∃ n values code, Exchange w key s f r ((List.range n).map rc) values code :=
    fun code _ verdict => ⟨0, [], code, exchange_of_answer found status inside fits verdict⟩
  rcases eq_panic_or_form_of_fits fits with rfl | ⟨g, result, rfl⟩
  · exact nothing _ _ rfl
  · by_cases accepted : result = .ok ∨ result = .newGroup
    · obtain ⟨n, values, code, exchange, -⟩ :=
        exists_exchange_prefix (f := f) (g := g) found status inside accepted rc
      exact ⟨n, values, code, exchange⟩
    · cases result with
      | failed => exact nothing _ _ rfl
      | cancelled => exact nothing _ _ rfl
      | ok => exact absurd (Or.inl rfl) accepted
      | newGroup => exact absurd (Or.inr rfl) accepted

/-- The nodes that are written are among the slots, in their order. -/
theorem written_sublist (found : w.session? key = some s) (status : s.status = .running none)
    (inside : s.engine.point = .inside stage) (fits : r.fits (.form f.read.1) = true)
    {codes : List Int32} {values : List (Slot × List UInt8)} {code : Int32}
    (exchange : Exchange w key s f r codes values code) :
    (values.map Prod.fst).Sublist f.slots.all := by
  rcases eq_panic_or_form_of_fits fits with rfl | ⟨g, result, rfl⟩
  · have nothing : Exchange w key s f .panic [] [] FormResult.failed.raw :=
      exchange_of_answer found status inside rfl rfl
    obtain rfl := (nothing.unique exchange status inside List.nil_prefix).1
    exact List.nil_sublist _
  · have first := (prefix_of_exchange found status inside exchange).map Prod.fst
    have same : ((carried (pairUp g f.slots)).map passed).map Prod.fst =
        (carried (pairUp g f.slots)).map Prod.fst := List.map_map
    rw [same] at first
    exact first.sublist.trans ((carried_sublist _).trans (pairUp_sublist g f.slots))

theorem timesWritten_le (found : w.session? key = some s) (status : s.status = .running none)
    (inside : s.engine.point = .inside stage) (fits : r.fits (.form f.read.1) = true)
    {codes : List Int32} {values : List (Slot × List UInt8)} {code : Int32}
    (exchange : Exchange w key s f r codes values code) (place : Place) :
    timesWritten values place ≤ f.timesShown place := by
  have places := (written_sublist found status inside fits exchange).map Slot.place
  rw [List.map_map] at places
  exact places.count_le place

end exchanges

/-- **Only a selector of the list is shown twice.** No node is twice among the slots of a form,
except for a group selector that is a node of the list and is not to be ignored: it is there as
the group, and as an option. However the controller replies and whatever the library returns, the
call with the form comes to its end, and no node has been written more often than it is shown. -/
theorem only_listed_selector_shown_twice (f : AuthForm) :
    (∀ place, ¬ f.ListsSelector place → f.timesShown place ≤ 1) ∧
    (∀ place, f.ListsSelector place → f.timesShown place = 2 ∧
      place ∈ f.slots.group.toList.map Slot.place ∧ place ∈ f.slots.options.map Slot.place) ∧
    ∀ (w : World Engine) (key : Nat) (s : Session Engine) (stage : Stage),
      w.session? key = some s → s.status = .running none → s.engine.point = .inside stage →
      ∀ r : Reply, r.fits (.form f.read.1) = true →
        (∀ rc : Nat → Int32, ∃ n values code,
          Exchange w key s f r ((List.range n).map rc) values code) ∧
        ∀ codes values code, Exchange w key s f r codes values code →
          ∀ place, timesWritten values place ≤ f.timesShown place := by
  refine ⟨fun place => timesShown_le_one, ?_, ?_⟩
  · intro place lists
    exact ⟨timesShown_of_listsSelector lists, listsSelector_iff.mp lists⟩
  · intro w key s stage found status inside r fits
    refine ⟨exists_exchange_of_fits found status inside fits, ?_⟩
    intro codes values code exchange place
    exact timesWritten_le found status inside fits exchange place

/-- A selector with two groups. -/
def realmNode : Node :=
  let named (name : String) : ChoiceNode := ⟨some (.ofBytes (Text.encodeUtf8 name)), none⟩
  { plainNode 3 "realm" 0 with
    choices := some [some (named "corp"), some (named "lab")]
    choiceCount := 2 }

/-- A form whose group selector is the second node of its list. -/
def realmForm : AuthForm :=
  ⟨none, none, none, [plainNode 1 "user" 0, realmNode], .listed 1⟩

/-- The form with one group in the place for the group, and the other one as an option. -/
def realmAnswered : Form :=
  realmForm.read.1.editAll [⟨.group, .set "corp"⟩, ⟨.option 0, .set "kim"⟩, ⟨.option 1, .set "lab"⟩]

theorem realm_exchange :
    ∃ w s values, World.run atWork (World.new [.default]) = some w ∧ w.session? 0 = some s ∧
      s.status = .running none ∧ s.engine.point = .inside .cookie ∧
      values = [(⟨.listed 1, realmNode⟩, Text.encodeUtf8 "corp"),
        (⟨.listed 0, plainNode 1 "user" 0⟩, Text.encodeUtf8 "kim"),
        (⟨.listed 1, realmNode⟩, Text.encodeUtf8 "lab")] ∧
      Exchange w 0 s realmForm (.form realmAnswered .newGroup) [0, 0, 0] values 2 := by
  obtain ⟨w, s, made, found, status, inside⟩ := run_atWork
  obtain ⟨written, -⟩ := exchange_of_accepted (f := realmForm) (g := realmAnswered) found status
    inside (Or.inr rfl)
  exact ⟨w, s, _, made, found, status, inside, rfl, written (by decide) [0, 0, 0] rfl⟩

theorem realm_shown_twice :
    realmForm.timesShown (.listed 0) ≤ 1 ∧ realmForm.timesShown (.listed 1) = 2 ∧
    ∃ w s values code, World.run atWork (World.new [.default]) = some w ∧
      w.session? 0 = some s ∧
      Exchange w 0 s realmForm (.form realmAnswered .newGroup) [0, 0, 0] values code ∧
      timesWritten values (.listed 0) = 1 ∧
      ∀ place, timesWritten values place ≤ realmForm.timesShown place := by
  obtain ⟨once, twice, written⟩ := only_listed_selector_shown_twice realmForm
  refine ⟨once _ ?_, (twice _ ⟨1, realmNode, rfl, rfl, rfl, rfl⟩).1, ?_⟩
  · rintro ⟨index, node, place, group, -⟩
    cases place
    cases group
  · obtain ⟨w, s, values, made, found, status, inside, same, exchange⟩ := realm_exchange
    refine ⟨w, s, values, 2, made, found, exchange, by rw [same]; decide, ?_⟩
    exact (written w 0 s .cookie found status inside _ rfl).2 _ _ _ exchange

/-- The selector is twice among the slots, and is written twice, with different groups. -/
theorem realm_written_twice :
    ¬ (realmForm.slots.all.map Slot.place).Nodup ∧
    ∃ w s values code, World.run atWork (World.new [.default]) = some w ∧
      w.session? 0 = some s ∧
      Exchange w 0 s realmForm (.form realmAnswered .newGroup) [0, 0, 0] values code ∧
      ¬ (values.map fun a => a.1.place).Nodup ∧
      values.filterMap (fun a => if a.1.place = .listed 1 then some a.2 else none) =
        [Text.encodeUtf8 "corp", Text.encodeUtf8 "lab"] := by
  refine ⟨by decide, ?_⟩
  obtain ⟨w, s, values, made, found, -, -, same, exchange⟩ := realm_exchange
  refine ⟨w, s, values, 2, made, found, exchange, ?_, ?_⟩
  · rw [same]
    decide
  · rw [same]
    rfl

end Native
end TunnelControl
