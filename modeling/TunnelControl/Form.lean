import TunnelControl.Fault
import TunnelControl.Json.Codec

/-!
# Authentication forms

While an engine obtains a session cookie it asks for credentials by means of
forms. A form lists options, each of a kind, and may have one more option that
selects the authentication group. The controller answers a form by setting the
values of its options; `Form.responses` is what it answered.

A selection takes only the name of one of its choices, any other option takes
every value.
-/

namespace TunnelControl

/-- The kinds of form option, as the engine numbers them. -/
inductive OptionKind
  | text
  | password
  | select
  | hidden
  | token
  | ssoToken
  | ssoUser
  | other (raw : Int32)
  deriving DecidableEq

namespace OptionKind

def ofRaw (n : Int32) : OptionKind :=
  if n = 1 then text
  else if n = 2 then password
  else if n = 3 then select
  else if n = 4 then hidden
  else if n = 5 then token
  else if n = 6 then ssoToken
  else if n = 7 then ssoUser
  else other n

def raw : OptionKind → Int32
  | text => 1
  | password => 2
  | select => 3
  | hidden => 4
  | token => 5
  | ssoToken => 6
  | ssoUser => 7
  | other n => n

/-- The kinds that have a name of their own. -/
def plain : List OptionKind := [text, password, select, hidden, token, ssoToken, ssoUser]

def name : OptionKind → String
  | text => "text"
  | password => "password"
  | select => "select"
  | hidden => "hidden"
  | token => "token"
  | ssoToken => "sso_token"
  | ssoUser => "sso_user"
  | other _ => "other"

/-- The kind in diagnostics. -/
def describe : OptionKind → String
  | text => "Text"
  | password => "Password"
  | select => "Select"
  | hidden => "Hidden"
  | token => "Token"
  | ssoToken => "SsoToken"
  | ssoUser => "SsoUser"
  | other n => "Other(" ++ toString n.toInt ++ ")"

/-- A kind without a name of its own is written as an object with its number. -/
def codec : Codec OptionKind where
  write
    | other n => .obj [("other", Codec.int32.write n)]
    | kind => (Codec.named name plain).write kind
  read
    | .obj [("other", j)] => (Codec.int32.read j).map other
    | j => (Codec.named name plain).read j

theorem raw_ofRaw (n : Int32) : (ofRaw n).raw = n := by
  unfold ofRaw
  repeat' split
  all_goals simp_all [raw]

end OptionKind

/-- The outcome of processing a form. -/
inductive FormResult
  | failed
  | ok
  | cancelled
  /-- Another group was selected; the engine asks again. -/
  | newGroup
  deriving DecidableEq

namespace FormResult

def all : List FormResult := [failed, ok, cancelled, newGroup]

def raw : FormResult → Int32
  | failed => -1
  | ok => 0
  | cancelled => 1
  | newGroup => 2

/-- A code that stands for no outcome is a failure. -/
def ofRaw (n : Int32) : FormResult :=
  if n = 0 then ok else if n = 1 then cancelled else if n = 2 then newGroup else failed

def name : FormResult → String
  | failed => "err"
  | ok => "ok"
  | cancelled => "cancelled"
  | newGroup => "new_group"

def codec : Codec FormResult := .named name all

theorem ofRaw_raw (r : FormResult) : ofRaw r.raw = r := by cases r <;> decide

end FormResult

/-- One choice of a selection. -/
structure Choice where
  name : String
  label : String
  deriving DecidableEq

/-- One option of a form and the controller's answer to it, if any. -/
structure FormOption where
  name : String
  label : String
  kind : OptionKind
  choices : List Choice
  value : Option String
  deriving DecidableEq

namespace FormOption

/-- An option without choices and without a value. -/
def blank (name label : String) (kind : OptionKind) : FormOption := ⟨name, label, kind, [], none⟩

def selection (name label : String) (choices : List Choice) : FormOption :=
  ⟨name, label, .select, choices, none⟩

/-- Whether the option takes the value. -/
def admits (o : FormOption) (value : String) : Bool :=
  o.kind ≠ .select || o.choices.any fun c => c.name == value

/-- Answers the option. A refused value leaves the option as it was. -/
def setValue (o : FormOption) (value : String) : Except FormFault FormOption :=
  if o.admits value then .ok { o with value := some value }
  else .error (.invalidChoice o.name value)

def clearValue (o : FormOption) : FormOption := { o with value := none }

/-- The answer with the name it is given for. -/
def response? (o : FormOption) : Option (String × String) := o.value.map fun v => (o.name, v)

end FormOption

/-- The credential prompts of one request. -/
structure Form where
  banner : Option String
  message : Option String
  error : Option String
  authGroup : Option FormOption
  options : List FormOption
  deriving DecidableEq

namespace Form

def empty : Form := ⟨none, none, none, none, []⟩

/-- The authentication group, if any, and then the options. -/
def prompts (f : Form) : List FormOption := f.authGroup.toList ++ f.options

/-- Name and value of every prompt that has been answered. -/
def responses (f : Form) : List (String × String) := f.prompts.filterMap FormOption.response?

/-- The first option of that name. -/
def option? (f : Form) (name : String) : Option FormOption :=
  f.options.find? fun o => o.name == name

end Form

/-- Changes the first element for which `found` holds; none if there is none. -/
def replaceFirst {α ε : Type} (found : α → Bool) (change : α → Except ε α) :
    List α → Option (Except ε (List α))
  | [] => none
  | a :: as =>
    if found a then some ((change a).map (· :: as))
    else (replaceFirst found change as).map fun r => r.map (a :: ·)

namespace Form

/-- Changes the first option of that name; none if there is none. -/
def updateOption? (f : Form) (name : String) (change : FormOption → Except FormFault FormOption) :
    Option (Except FormFault Form) :=
  (replaceFirst (fun o => o.name == name) change f.options).map fun r =>
    r.map fun options => { f with options }

/-- Changes the authentication group; none if there is none. -/
def updateGroup? (f : Form) (change : FormOption → Except FormFault FormOption) :
    Option (Except FormFault Form) :=
  f.authGroup.map fun g => (change g).map fun group => { f with authGroup := some group }

end Form

/-! ## Written form -/

def Choice.fields : Fields (String × String × Unit) :=
  .cons (.required "name" .text) (.cons (.required "label" .text) .nil)

def Choice.codec : Codec Choice :=
  .record Choice.fields (fun c => (c.name, c.label, ())) fun (name, label, _) => ⟨name, label⟩

def FormOption.fields :
    Fields (String × String × OptionKind × List Choice × Option String × Unit) :=
  .cons (.required "name" .text) <| .cons (.required "label" .text) <|
  .cons (.required "kind" OptionKind.codec) <| .cons (.unlessEmpty "choices" Choice.codec) <|
  .cons (.optional "value" .text) .nil

def FormOption.codec : Codec FormOption :=
  .record FormOption.fields (fun o => (o.name, o.label, o.kind, o.choices, o.value, ()))
    fun (name, label, kind, choices, value, _) => ⟨name, label, kind, choices, value⟩

def Form.fields :
    Fields (Option String × Option String × Option String × Option FormOption ×
      List FormOption × Unit) :=
  .cons (.optional "banner" .text) <| .cons (.optional "message" .text) <|
  .cons (.optional "error" .text) <| .cons (.optional "auth_group" FormOption.codec) <|
  .cons (.withDefault "options" FormOption.codec.list []) .nil

def Form.codec : Codec Form :=
  .record Form.fields (fun f => (f.banner, f.message, f.error, f.authGroup, f.options, ()))
    fun (banner, message, error, authGroup, options, _) =>
      ⟨banner, message, error, authGroup, options⟩

/-! ## Diagnostic text -/

def Choice.describe (c : Choice) : String :=
  Text.fieldsText "FormChoice" [("name", Text.quoted c.name), ("label", Text.quoted c.label)]

def FormOption.describe (o : FormOption) : String :=
  Text.fieldsText "FormOption"
    [("name", Text.quoted o.name), ("label", Text.quoted o.label), ("kind", o.kind.describe),
     ("choices", Text.listText (o.choices.map Choice.describe)),
     ("value", Text.quotedOption o.value)]

def Form.describe (f : Form) : String :=
  let group := match f.authGroup with
    | none => "None"
    | some g => "Some(" ++ g.describe ++ ")"
  Text.fieldsText "AuthForm"
    [("banner", Text.quotedOption f.banner), ("message", Text.quotedOption f.message),
     ("error", Text.quotedOption f.error), ("auth_group", group),
     ("options", Text.listText (f.options.map FormOption.describe))]

end TunnelControl
