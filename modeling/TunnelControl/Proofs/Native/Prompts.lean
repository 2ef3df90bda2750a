import TunnelControl.Proofs.Native.Reading
import TunnelControl.Proofs.Native.WriteBack

/-!
# Reading a form

The list of nodes is gone through once, and gives the options of the form and the slots that
answers are written to. Nodes that are to be ignored are passed over. `AuthForm.ReadsAs` has
options and slots taken from the same places of the list, so that whichever nodes are ignored, the
slot and the option at one position belong to one node; answers go by position and rest on this.

Of the flags of a node only the lowest is looked at, and of those of the group selector none is
(`read_withFlags`).
-/

namespace TunnelControl

/-! ## Kinds -/

namespace OptionKind

/-- The kind has the number. A kind with a name of its own goes before one without. -/
def HasNumber (kind : OptionKind) (n : Int32) : Prop :=
  kind.raw = n ∧ (kind ∈ plain ∨ ∀ named ∈ plain, named.raw ≠ n)

theorem mem_plain_or (kind : OptionKind) : kind ∈ plain ∨ kind = other kind.raw := by
  cases kind with
  | other n => exact Or.inr rfl
  | _ => exact Or.inl (by decide)

theorem ofRaw_raw {kind : OptionKind} (named : kind ∈ plain) : ofRaw kind.raw = kind := by
  revert kind
  decide

theorem ofRaw_eq_iff {n : Int32} {kind : OptionKind} :
    ofRaw n = kind ↔ kind.HasNumber n := by
  constructor
  · rintro rfl
    refine ⟨raw_ofRaw n, ?_⟩
    by_cases named : ofRaw n ∈ plain
    · exact Or.inl named
    · right
      rintro kind mem rfl
      apply named
      rwa [ofRaw_raw mem]
  · rintro ⟨rfl, named | unnamed⟩
    · exact ofRaw_raw named
    · -- Only one kind without a name of its own has the number.
      have notPlain : ∀ k : OptionKind, k.raw = kind.raw → k = other kind.raw := by
        intro k same
        rcases mem_plain_or k with named | own
        · exact absurd same (unnamed k named)
        · rwa [same] at own
      rw [notPlain _ (raw_ofRaw _), ← notPlain kind rfl]

theorem ofRaw_eq_select_iff {n : Int32} : ofRaw n = select ↔ n = 3 := by
  rw [ofRaw_eq_iff]
  constructor
  · rintro ⟨rfl, -⟩
    rfl
  · rintro rfl
    exact ⟨rfl, Or.inl (by decide)⟩

end OptionKind

namespace Native

/-! ## Nodes -/

/-- The lowest of its flags marks a node that is to be ignored. -/
def Node.Ignored (n : Node) : Prop := n.flags.toNat.testBit 0 = true

instance (n : Node) : Decidable n.Ignored := inferInstanceAs (Decidable (_ = true))

theorem Node.isIgnored_iff {n : Node} : n.isIgnored = true ↔ n.Ignored := by
  have bit : (n.flags &&& 1).toNat = n.flags.toNat % 2 := by
    rw [UInt32.toNat_and]
    exact Nat.and_one_is_mod _
  rw [isIgnored, bne_iff_ne, ne_eq, ← UInt32.toNat_inj, bit, Ignored, Nat.testBit_zero,
    decide_eq_true_eq]
  show ¬ _ = 0 ↔ _
  omega

theorem Node.not_ignored_iff {n : Node} : ¬ n.Ignored ↔ (!n.isIgnored) = true := by
  rw [Bool.not_eq_true', ← Bool.not_eq_true, isIgnored_iff]

def ChoiceNode.ReadsAs (node : ChoiceNode) (c : Choice) : Prop :=
  ReadsOrEmpty node.name c.name ∧ ReadsOrEmpty node.label c.label

/-- The entry at this place of the choices counts, is there, and is read as the choice. -/
def Node.Offers (n : Node) (i : Nat) (e : Option ChoiceNode) (c : Choice) : Prop :=
  n.kind = 3 ∧ (i : Int) < n.choiceCount.toInt ∧ ∃ node, e = some node ∧ node.ReadsAs c

/-- The option is read from the node: it has no value, and choices only if the node is a
selection. -/
@[mk_iff]
structure Node.ReadsAs (n : Node) (o : FormOption) : Prop where
  name : ReadsOrEmpty n.name o.name
  label : ReadsOrEmpty n.label o.label
  kind : o.kind.HasNumber n.kind
  choices : ∃ places, Extract n.Offers (n.choices.getD []) places o.choices
  value : o.value = none

/-- The choice that is made of an entry. -/
def Node.choice? (n : Node) (e : Option ChoiceNode) : Option Choice :=
  if n.kind = 3 then e.map fun c => ⟨textOrEmpty c.name, textOrEmpty c.label⟩ else none

theorem Node.choice?_eq_some_iff {n : Node} {e : Option ChoiceNode} {c : Choice} :
    n.choice? e = some c ↔ n.kind = 3 ∧ ∃ node, e = some node ∧ node.ReadsAs c := by
  obtain ⟨name, label⟩ := c
  rw [choice?]
  by_cases selection : n.kind = 3
  · simp only [selection, if_true, true_and, Option.map_eq_some_iff, Choice.mk.injEq,
      textOrEmpty_eq_iff, ChoiceNode.ReadsAs]
  · simp only [selection, if_false, false_and, reduceCtorEq]

theorem Node.choices_read (n : Node) :
    n.read.choices = ((n.choices.getD []).take n.choiceCount.toInt.toNat).filterMap n.choice? := by
  show (if OptionKind.ofRaw n.kind = .select then n.countedChoices.map _ else []) = _
  by_cases selection : n.kind = 3
  · have choice : n.choice? = fun e => e.map fun c =>
        ⟨textOrEmpty c.name, textOrEmpty c.label⟩ := funext fun e => if_pos selection
    rw [if_pos (OptionKind.ofRaw_eq_select_iff.mpr selection), countedChoices,
      List.map_filterMap, choice]
    rfl
  · have choice : n.choice? = fun _ => none := funext fun e => if_neg selection
    rw [if_neg (mt OptionKind.ofRaw_eq_select_iff.mp selection), choice]
    symm
    exact List.filterMap_eq_nil_iff.mpr fun _ _ => rfl

theorem Node.choices_read_eq_iff {n : Node} {choices : List Choice} :
    n.read.choices = choices ↔
      ∃ places, Extract n.Offers (n.choices.getD []) places choices := by
  have made : ∀ (_ : Nat) e c, (n.kind = 3 ∧ ∃ node, e = some node ∧ node.ReadsAs c) ↔
      n.choice? e = some c := fun _ _ _ => choice?_eq_some_iff.symm
  rw [choices_read, Extract.filterMap_eq_iff made]
  refine exists_congr fun places => ?_
  rw [Extract.take_iff]
  have offers : (fun i e c => i < n.choiceCount.toInt.toNat ∧ n.kind = 3 ∧
      ∃ node, e = some node ∧ node.ReadsAs c) = n.Offers := by
    funext i e c
    rw [Offers, Int.lt_toNat, and_left_comm]
  rw [offers]

theorem Node.read_eq_iff {n : Node} {o : FormOption} : n.read = o ↔ n.ReadsAs o := by
  rw [readsAs_iff, ← choices_read_eq_iff, ← textOrEmpty_eq_iff, ← textOrEmpty_eq_iff,
    ← OptionKind.ofRaw_eq_iff]
  obtain ⟨name, label, kind, choices, value⟩ := o
  show FormOption.mk _ _ _ n.read.choices none = _ ↔ _
  rw [FormOption.mk.injEq, eq_comm (a := none)]
  exact Iff.rfl

/-! ## Forms -/

/-- The reference to the group selector leads to the node, in the list or outside of it. Its flags
do not matter. -/
inductive AuthForm.Selects (f : AuthForm) : Slot → Prop
  | own {node : Node} (refers : f.group = .own node) : f.Selects ⟨.selector, node⟩
  | listed {index : Nat} {node : Node} (refers : f.group = .listed index)
      (found : f.options[index]? = some node) : f.Selects ⟨.listed index, node⟩

theorem AuthForm.groupSlot?_eq_some_iff {f : AuthForm} {slot : Slot} :
    f.groupSlot? = some slot ↔ f.Selects slot := by
  rw [groupSlot?]
  constructor
  · intro found
    cases refers : f.group with
    | none =>
        rw [refers] at found
        cases found
    | own node =>
        rw [refers] at found
        cases found
        exact .own refers
    | listed index =>
        rw [refers] at found
        obtain ⟨node, listed, rfl⟩ := Option.map_eq_some_iff.mp found
        exact .listed refers listed
  · intro selects
    cases selects with
    | own refers => rw [refers]
    | listed refers found =>
        rw [refers]
        exact Option.map_eq_some_iff.mpr ⟨_, found, rfl⟩

/-- A node of the list is shown unless it is to be ignored. -/
def ShownAs (_ : Nat) (n : Node) (o : FormOption) : Prop := ¬ n.Ignored ∧ n.ReadsAs o

def ShownFrom (i : Nat) (n : Node) (slot : Slot) : Prop := ¬ n.Ignored ∧ slot = ⟨.listed i, n⟩

/-- The form and its slots are read from the form of the library. Options and slots are taken from
the same places of the list. -/
structure AuthForm.ReadsAs (f : AuthForm) (g : Form) (slots : Slots) : Prop where
  banner : Option.Rel CText.ReadsAs f.banner g.banner
  message : Option.Rel CText.ReadsAs f.message g.message
  error : Option.Rel CText.ReadsAs f.error g.error
  options : ∃ places, Extract ShownAs f.options places g.options ∧
    Extract ShownFrom f.options places slots.options
  selector : ∀ slot, slots.group = some slot ↔ f.Selects slot
  group : Option.Rel (fun slot o => slot.node.ReadsAs o) slots.group g.authGroup

theorem AuthForm.extract_options (f : AuthForm) :
    Extract ShownAs f.options (f.shown.map Prod.snd) f.read.1.options := by
  have options : f.read.1.options = f.shown.map fun p => p.1.read := by
    show f.slots.options.map _ = _
    rw [slots_options, List.map_map]
    rfl
  have shownAs : ∀ i n o, ShownAs i n o ↔ (!n.isIgnored) = true ∧ n.read = o := by
    intro i n o
    rw [ShownAs, Node.not_ignored_iff, Node.read_eq_iff]
  rw [options]
  exact Extract.of_zipIdx shownAs f.options

theorem AuthForm.extract_slots (f : AuthForm) :
    Extract ShownFrom f.options (f.shown.map Prod.snd) f.slots.options := by
  have shownFrom : ∀ i n slot, ShownFrom i n slot ↔
      (!n.isIgnored) = true ∧ (⟨.listed i, n⟩ : Slot) = slot := by
    intro i n slot
    rw [ShownFrom, Node.not_ignored_iff, eq_comm (a := slot)]
  rw [slots_options]
  exact Extract.of_zipIdx shownFrom f.options

theorem AuthForm.readsAs_read (f : AuthForm) : f.ReadsAs f.read.1 f.read.2 where
  banner := map_text_eq_iff.mp rfl
  message := map_text_eq_iff.mp rfl
  error := map_text_eq_iff.mp rfl
  options := ⟨_, f.extract_options, f.extract_slots⟩
  selector slot := groupSlot?_eq_some_iff
  group := by
    show Option.Rel _ f.groupSlot? (f.groupSlot?.map fun slot => slot.node.read)
    cases f.groupSlot? with
    | none => exact .none
    | some slot => exact .some (Node.read_eq_iff.mp rfl)

theorem Node.readsAs_unique (n : Node) {o o' : FormOption} (reads : n.ReadsAs o)
    (reads' : n.ReadsAs o') : o = o' :=
  (read_eq_iff.mpr reads).symm.trans (read_eq_iff.mpr reads')

/-- Only one form, with its slots, is read. -/
theorem AuthForm.ReadsAs.unique {f : AuthForm} {g g' : Form} {slots slots' : Slots}
    (reads : f.ReadsAs g slots) (reads' : f.ReadsAs g' slots') : (g, slots) = (g', slots') := by
  obtain ⟨banner, message, error, group, options⟩ := g
  obtain ⟨banner', message', error', group', options'⟩ := g'
  obtain ⟨selector, nodes⟩ := slots
  obtain ⟨selector', nodes'⟩ := slots'
  have text {c : Option CText} {s s' : Option String} :
      Option.Rel CText.ReadsAs c s → Option.Rel CText.ReadsAs c s' → s = s' :=
    eq_of_rel fun _ _ _ => CText.ReadsAs.unique
  obtain rfl : banner = banner' := text reads.banner reads'.banner
  obtain rfl : message = message' := text reads.message reads'.message
  obtain rfl : error = error' := text reads.error reads'.error
  obtain ⟨places, taken, takenFrom⟩ := reads.options
  obtain ⟨places', taken', takenFrom'⟩ := reads'.options
  obtain rfl : options = options' :=
    (taken.unique (fun _ _ _ _ shown shown' => Node.readsAs_unique _ shown.2 shown'.2) taken').2
  obtain rfl : nodes = nodes' :=
    (takenFrom.unique (fun _ _ _ _ shown shown' => shown.2.trans shown'.2.symm) takenFrom').2
  obtain rfl : selector = selector' :=
    Option.ext fun slot => (reads.selector slot).trans (reads'.selector slot).symm
  obtain rfl : group = group' :=
    eq_of_rel (fun slot _ _ => slot.node.readsAs_unique) reads.group reads'.group
  rfl

theorem AuthForm.read_eq_iff {f : AuthForm} {g : Form} {slots : Slots} :
    f.read = (g, slots) ↔ f.ReadsAs g slots := by
  constructor
  · intro read
    have reads := f.readsAs_read
    rwa [read] at reads
  · exact f.readsAs_read.unique

/-- The slot at the position of an option has the node that the option was read from. -/
theorem AuthForm.ReadsAs.aligned {f : AuthForm} {g : Form} {slots : Slots}
    (reads : f.ReadsAs g slots) {i : Nat} {slot : Slot} {o : FormOption}
    (slotAt : slots.options[i]? = some slot) (optionAt : g.options[i]? = some o) :
    slot.node.ReadsAs o ∧
      ∃ index, slot.place = .listed index ∧ f.options[index]? = some slot.node := by
  obtain ⟨places, options, nodes⟩ := reads.options
  obtain ⟨index, n, place, listed, -, read⟩ := options.made_at optionAt
  obtain ⟨index', n', place', listed', -, rfl⟩ := nodes.made_at slotAt
  obtain rfl := Option.some.inj (place.symm.trans place')
  obtain rfl := Option.some.inj (listed.symm.trans listed')
  exact ⟨read, index, rfl, listed⟩

theorem AuthForm.ReadsAs.length_eq {f : AuthForm} {g : Form} {slots : Slots}
    (reads : f.ReadsAs g slots) : slots.options.length = g.options.length := by
  obtain ⟨places, options, nodes⟩ := reads.options
  exact nodes.length_eq.symm.trans options.length_eq

theorem AuthForm.exists_selects {f : AuthForm} (refers : f.group ≠ .none)
    (within : ∀ index, f.group = .listed index → index < f.options.length) :
    ∃ slot, f.Selects slot := by
  cases group : f.group with
  | none => exact absurd group refers
  | own node => exact ⟨_, .own group⟩
  | listed index =>
      exact ⟨_, .listed group (List.getElem?_eq_getElem (within index group))⟩

theorem AuthForm.ReadsAs.group_eq_none_iff {f : AuthForm} {g : Form} {slots : Slots}
    (reads : f.ReadsAs g slots)
    (within : ∀ index, f.group = .listed index → index < f.options.length) :
    (g.authGroup = none ↔ f.group = .none) ∧ (slots.group = none ↔ f.group = .none) := by
  have selector : slots.group = none ↔ f.group = .none := by
    constructor
    · intro missing
      by_contra refers
      obtain ⟨slot, selects⟩ := exists_selects refers within
      rw [(reads.selector slot).mpr selects] at missing
      cases missing
    · intro none
      rw [Option.eq_none_iff_forall_ne_some]
      intro slot found
      cases (reads.selector slot).mp found with
      | own refers =>
          rw [none] at refers
          cases refers
      | listed refers _ =>
          rw [none] at refers
          cases refers
  exact ⟨(eq_none_iff_of_rel reads.group).trans selector, selector⟩

/-! ## Other flags -/

def Node.withFlags (n : Node) (flags : UInt32) : Node := { n with flags }

def Slot.withFlags (flags : Place → UInt32) (slot : Slot) : Slot :=
  ⟨slot.place, slot.node.withFlags (flags slot.place)⟩

def Slots.withFlags (flags : Place → UInt32) (slots : Slots) : Slots :=
  ⟨slots.group.map (Slot.withFlags flags), slots.options.map (Slot.withFlags flags)⟩

def GroupRef.withFlags (flags : UInt32) : GroupRef → GroupRef
  | own node => .own (node.withFlags flags)
  | group => group

/-- The form with the flags of each of its nodes set to those for its place. -/
def AuthForm.withFlags (flags : Place → UInt32) (f : AuthForm) : AuthForm :=
  { f with
    options := f.options.mapIdx fun index n => n.withFlags (flags (.listed index))
    group := f.group.withFlags (flags .selector) }

/-- With the flags the same nodes of the list are to be ignored. -/
def AuthForm.IgnoresAlike (f : AuthForm) (flags : Place → UInt32) : Prop :=
  ∀ (index : Nat) (n : Node), f.options[index]? = some n →
    ((n.withFlags (flags (.listed index))).Ignored ↔ n.Ignored)

theorem mem_listedSlots {f : AuthForm} {slot : Slot} :
    slot ∈ f.listedSlots ↔
      ∃ index, slot.place = .listed index ∧ f.options[index]? = some slot.node := by
  rw [AuthForm.listedSlots, List.mem_map]
  constructor
  · rintro ⟨⟨node, index⟩, mem, rfl⟩
    exact ⟨index, rfl, List.mem_zipIdx_iff_getElem?.mp mem⟩
  · obtain ⟨place, node⟩ := slot
    rintro ⟨index, rfl, found⟩
    exact ⟨(node, index), List.mem_zipIdx_iff_getElem?.mpr found, rfl⟩

theorem listedSlots_withFlags (flags : Place → UInt32) (f : AuthForm) :
    (f.withFlags flags).listedSlots = f.listedSlots.map (Slot.withFlags flags) := by
  apply List.ext_getElem?
  intro i
  simp [AuthForm.listedSlots, AuthForm.withFlags, Slot.withFlags, Function.comp_def]

theorem groupSlot?_withFlags (flags : Place → UInt32) (f : AuthForm) :
    (f.withFlags flags).groupSlot? = f.groupSlot?.map (Slot.withFlags flags) := by
  rw [AuthForm.groupSlot?, AuthForm.groupSlot?]
  cases group : f.group with
  | none => simp [AuthForm.withFlags, GroupRef.withFlags, group]
  | own node => simp [AuthForm.withFlags, GroupRef.withFlags, Slot.withFlags, group]
  | listed index =>
      simp [AuthForm.withFlags, GroupRef.withFlags, Slot.withFlags, group, Function.comp_def]

theorem slots_withFlags {flags : Place → UInt32} {f : AuthForm} (alike : f.IgnoresAlike flags) :
    (f.withFlags flags).slots = f.slots.withFlags flags := by
  have kept : ∀ slot ∈ f.listedSlots,
      (!(Slot.withFlags flags slot).node.isIgnored) = !slot.node.isIgnored := by
    intro slot mem
    obtain ⟨index, place, found⟩ := mem_listedSlots.mp mem
    have same := alike index slot.node found
    rw [← place, ← Node.isIgnored_iff, ← Node.isIgnored_iff] at same
    rw [Bool.not_inj_iff, Bool.eq_iff_iff]
    exact same
  rw [AuthForm.slots, groupSlot?_withFlags, listedSlots_withFlags, List.filter_map,
    AuthForm.slots, Slots.withFlags]
  congr 2
  exact List.filter_congr kept

/-- Flags other than the lowest make no difference, and for the group selector none does. -/
theorem read_withFlags {flags : Place → UInt32} {f : AuthForm} (alike : f.IgnoresAlike flags) :
    (f.withFlags flags).read = (f.read.1, f.read.2.withFlags flags) := by
  have group : (f.slots.withFlags flags).group.map (fun slot => slot.node.read) =
      f.slots.group.map fun slot => slot.node.read := Option.map_map _ _ _
  have options : (f.slots.withFlags flags).options.map (fun slot => slot.node.read) =
      f.slots.options.map fun slot => slot.node.read := List.map_map
  show (Form.mk _ _ _ ((f.withFlags flags).slots.group.map _)
    ((f.withFlags flags).slots.options.map _), (f.withFlags flags).slots) = _
  rw [slots_withFlags alike, group, options]
  rfl

/-- **A form is read node by node.** What is read is what `AuthForm.ReadsAs` says, and no other form
and no other slots are. Options and slots go together by position. The group is there if the form
of the library refers to a selector; a reference into the list leads to one of its nodes. Of the
flags of a node of the list only the lowest matters, and of those of another selector none. -/
theorem form_read_node_by_node (f : AuthForm) :
    (∀ g slots, f.read = (g, slots) ↔ f.ReadsAs g slots) ∧
    f.read.2.options.length = f.read.1.options.length ∧
    (∀ (i : Nat) (slot : Slot) (o : FormOption),
      f.read.2.options[i]? = some slot → f.read.1.options[i]? = some o →
      slot.node.ReadsAs o ∧
        ∃ index, slot.place = .listed index ∧ f.options[index]? = some slot.node) ∧
    ((∀ index, f.group = .listed index → index < f.options.length) →
      (f.read.1.authGroup = none ↔ f.group = .none) ∧
        (f.read.2.group = none ↔ f.group = .none)) ∧
    ∀ flags, f.IgnoresAlike flags →
      (f.withFlags flags).read = (f.read.1, f.read.2.withFlags flags) := by
  refine ⟨fun g slots => AuthForm.read_eq_iff, f.readsAs_read.length_eq, ?_, ?_, ?_⟩
  · intro i slot o
    exact f.readsAs_read.aligned
  · exact f.readsAs_read.group_eq_none_iff
  · intro flags
    exact read_withFlags

/-- A selection whose second choice is missing and whose third one has no name. -/
def zoneNode (choiceCount : Int32) : Node :=
  let named (name : String) : ChoiceNode := ⟨some (.ofBytes (Text.encodeUtf8 name)), none⟩
  { plainNode 3 "zone" 6 with
    choices := some [some (named "eu"), none, some ⟨none, none⟩, some (named "us")]
    choiceCount }

def ignoredZone : Node := { zoneNode 4 with flags := 7 }

/-- A node that holds a value, but has no name, and a kind without a name. -/
def unnamedNode : Node := { plainNode 42 "" 8 with name := none, value := some (.ofBytes [75]) }

/-- A form whose selector is a node of the list that is to be ignored there. -/
def zoneForm : AuthForm where
  banner := some (.ofBytes [72, 105, 255])
  message := none
  error := some (.ofBytes [])
  options := [ignoredZone, zoneNode 3, zoneNode (-1), unnamedNode]
  group := .listed 0

def zoneFlags : Place → UInt32
  | .listed 0 => 1
  | _ => 2

theorem zone_form_read :
    zoneForm.ReadsAs
      { banner := some "Hi\uFFFD", message := none, error := some ""
        authGroup := some (.selection "zone" "" [⟨"eu", ""⟩, ⟨"", ""⟩, ⟨"us", ""⟩])
        options := [.selection "zone" "" [⟨"eu", ""⟩, ⟨"", ""⟩], .selection "zone" "" [],
          .blank "" "" (.other 42)] }
      { group := some ⟨.listed 0, ignoredZone⟩
        options := [⟨.listed 1, zoneNode 3⟩, ⟨.listed 2, zoneNode (-1)⟩,
          ⟨.listed 3, unnamedNode⟩] } ∧
    (zoneForm.read.2.group = none ↔ zoneForm.group = .none) ∧
    (zoneForm.withFlags zoneFlags).read.1 = zoneForm.read.1 := by
  obtain ⟨reads, -, -, group, flags⟩ := form_read_node_by_node zoneForm
  have within : ∀ index, zoneForm.group = .listed index → index < zoneForm.options.length := by
    rintro _ ⟨⟩
    decide
  have alike : zoneForm.IgnoresAlike zoneFlags := by
    rintro (_ | _ | _ | _ | index) n found <;> cases found <;> decide
  refine ⟨(reads _ _).mp ?_, (group within).2, ?_⟩
  · exact Prod.ext (by decide) rfl
  · rw [flags zoneFlags alike]

end Native
end TunnelControl
