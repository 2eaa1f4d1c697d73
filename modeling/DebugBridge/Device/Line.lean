import DebugBridge.Device.Basic
import DebugBridge.Text.Blank
import DebugBridge.Text.Number

/-!
# Lines of the device list

A device list has one device in a line: the serial, the token of the state, then attributes of
the form `key:value` and free text in any order. The token `no permissions` has a blank of its
own, all other tokens end at a blank. Free text is kept as the remark of a device that is not
online. Blank lines and the line that heads a list stand for no device.
-/

namespace DebugBridge.Device

/-- The first words of the line that heads a list. -/
def heading : List Char := "List of devices".toList

/-- An attribute in a line. -/
inductive Attribute where
  | product | model | codename | features | usb | transportId
  deriving DecidableEq, Repr

/-- The key of an attribute. -/
def Attribute.key : Attribute → String
  | .product => "product"
  | .model => "model"
  | .codename => "device"
  | .features => "features"
  | .usb => "usb"
  | .transportId => "transport_id"

/-- The attribute of a key. -/
def Attribute.ofKey? (key : List Char) : Option Attribute :=
  [product, model, codename, features, usb, transportId].find? (·.key.toList = key)

/-- The attribute and the value of a word of the form `key:value`. -/
def attribute? (word : List Char) : Option (Attribute × List Char) := do
  let (key, value) ← Text.splitFirst? ':' word
  let name ← Attribute.ofKey? key
  some (name, value)

/-- The features between commas. -/
def featuresOf (value : List Char) : Features :=
  .ofList (((Text.fields ',' value).filter (!·.isEmpty)).map String.ofList)

/-- The device with an attribute set; an empty value sets nothing. -/
def set (d : Device) (name : Attribute) (value : List Char) : Device :=
  if value.isEmpty then d
  else match name with
    | .product => { d with product := some (String.ofList value) }
    | .model => { d with model := some (String.ofList value) }
    | .codename => { d with codename := some (String.ofList value) }
    | .usb => { d with usb := some (String.ofList value) }
    | .transportId => { d with transportId := Text.word32? value }
    | .features => { d with features := featuresOf value }

/-- Takes one word after the state: an attribute is set, any other word joins the free text. -/
def takeWord (d : Device) (free : List (List Char)) (word : List Char) :
    Device × List (List Char) :=
  match attribute? word with
  | some (name, value) => (d.set name value, free)
  | none => (d, free ++ [word])

/-- Takes the words after the state. -/
def takeWords (d : Device) (free : List (List Char)) : List (List Char) → Device
  | [] =>
    if free.isEmpty || d.isOnline then d
    else { d with remark := some (String.ofList ([' '].intercalate free)) }
  | word :: rest => let (d, free) := d.takeWord free word; takeWords d free rest

/-- The state in front of a text, and the text after its token. -/
def stateOf (cs : List Char) : DeviceState × List Char :=
  match Text.stripStart? DeviceState.noPermissions.token.toList cs with
  | some rest => (.noPermissions, rest)
  | none =>
    match Text.splitBlank? cs with
    | some (token, rest) => (.ofToken (String.ofList token), rest)
    | none => (.ofToken (String.ofList cs), [])

/-- Reads a line. -/
def parseLine? (line : List Char) : Option Device :=
  let line := Text.trim line
  if line.isEmpty || heading.isPrefixOf line then none
  else
    let (serial, rest) := (Text.splitBlank? line).getD (line, [])
    let (state, rest) := stateOf (Text.trimLeft rest)
    some (takeWords { serial := String.ofList serial, state } [] (Text.words rest))

/-- Reads a list. -/
def parseList (body : String) : List Device := (Text.lines body.toList).filterMap parseLine?

end DebugBridge.Device
