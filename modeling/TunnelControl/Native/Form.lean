import TunnelControl.Form
import TunnelControl.Native.CText

/-!
# Forms of the native library

The library's form is a list of option nodes and, apart from it, a reference to
the node that selects the authentication group, which may be one of the list.
`read` turns it into a form for the controller, together with the slots: for
each prompt of that form the node it was read from. Nodes that are marked to be
ignored are left out of the options.

`encode` pairs the controller's answers with the slots by position, the group
first. Unless every answer can be passed to the library, none is.
-/

namespace TunnelControl.Native

structure ChoiceNode where
  name : Option CText
  label : Option CText

/-- An option of the library's form. -/
structure Node where
  kind : Int32
  name : Option CText
  label : Option CText
  /-- A value that the library holds already; it is not read. -/
  value : Option CText
  flags : UInt32
  /-- The choices of a selection; entries may be missing. -/
  choices : Option (List (Option ChoiceNode))
  choiceCount : Int32

/-- Where a node is found. -/
inductive Place
  /-- In the list of options. -/
  | listed (index : Nat)
  /-- At the reference to the group selector, outside of the list. -/
  | selector
  deriving DecidableEq

/-- The reference to the group selector. -/
inductive GroupRef
  | none
  | own (node : Node)
  | listed (index : Nat)

structure AuthForm where
  banner : Option CText
  message : Option CText
  error : Option CText
  options : List Node
  group : GroupRef

/-- A node together with its place. -/
structure Slot where
  place : Place
  node : Node

/-- The nodes that the prompts of a form were read from. -/
structure Slots where
  group : Option Slot
  options : List Slot

namespace Node

/-- Whether the node is left out of the options. Other flags make no difference. -/
def isIgnored (n : Node) : Bool := n.flags &&& 1 != 0

/-- The choices that count: as many of the first as the node says. -/
def countedChoices (n : Node) : List ChoiceNode :=
  ((n.choices.getD []).take n.choiceCount.toInt.toNat).filterMap id

/-- The option that is shown for the node, without a value. -/
def read (n : Node) : FormOption :=
  let kind := OptionKind.ofRaw n.kind
  let choices := if kind = .select then
      n.countedChoices.map fun c => ⟨textOrEmpty c.name, textOrEmpty c.label⟩
    else []
  { FormOption.blank (textOrEmpty n.name) (textOrEmpty n.label) kind with choices }

end Node

namespace AuthForm

/-- The nodes of the list with their places. -/
def listedSlots (f : AuthForm) : List Slot :=
  f.options.zipIdx.map fun (node, index) => ⟨.listed index, node⟩

/-- The slot of the group selector. -/
def groupSlot? (f : AuthForm) : Option Slot :=
  match f.group with
  | .none => none
  | .own node => some ⟨.selector, node⟩
  | .listed index => f.options[index]?.map fun node => ⟨.listed index, node⟩

def slots (f : AuthForm) : Slots :=
  ⟨f.groupSlot?, f.listedSlots.filter fun s => !s.node.isIgnored⟩

/-- The form for the controller, and the slots its prompts were read from. -/
def read (f : AuthForm) : Form × Slots :=
  let slots := f.slots
  (⟨f.banner.map CText.text, f.message.map CText.text, f.error.map CText.text,
    slots.group.map fun s => s.node.read, slots.options.map fun s => s.node.read⟩, slots)

end AuthForm

/-! ## Writing answers back -/

/-- An answer that is ready to be written to its slot. -/
structure Answer where
  /-- The name in the controller's form. -/
  option : String
  slot : Slot
  value : CText

/-- The prompts of a form with the slots at the same positions; what is left
over on either side has no partner. -/
def pairUp (f : Form) (slots : Slots) : List (FormOption × Slot) :=
  (f.authGroup.toList.zip slots.group.toList) ++ f.options.zip slots.options

/-- The answers among paired prompts, or the first one that cannot be passed on. -/
def encodePairs : List (FormOption × Slot) → Except FormFault (List Answer)
  | [] => .ok []
  | (o, slot) :: rest =>
    match o.value with
    | none => encodePairs rest
    | some value =>
      match CText.ofText? value with
      | none => .error (.rejected o.name)
      | some value => (encodePairs rest).map (⟨o.name, slot, value⟩ :: ·)

/-- Every answer of a form with its slot. -/
def encode (f : Form) (slots : Slots) : Except FormFault (List Answer) :=
  encodePairs (pairUp f slots)

end TunnelControl.Native
