import Bacchus.Text.Hex
import Mathlib.Data.Countable.Basic
import Mathlib.Logic.Equiv.List
import Mathlib.Tactic.DeriveCountable

/-!
# Struct documents in JSON

`encoding/json` on structs: members written in the order of the fields, read by name, unknown ones
ignored and absent ones zero. How a document is spelt in bytes is a parameter.
-/

namespace Bacchus.Json

open List

/-- A member's value. `other` is any value no field here can hold. -/
inductive Value where
  | null
  | bool (flag : Bool)
  | number (value : Int)
  | text (content : String)
  | texts (items : List String)
  | other

/-- The members of a document, in their order. -/
abbrev Object := List (String × Value)

/-- The spelling of documents and times. -/
structure Codec where
  render : Object → Bytes
  read : Bytes → Option Object
  /-- `Time.MarshalJSON`, which refuses some years. -/
  formatTime : Int → Option String
  parseTime : String → Option Int
  render_ne_nil : ∀ object, render object ≠ []
  read_render : ∀ object, read (render object) = some object
  parseTime_of_formatTime : ∀ {time text}, formatTime time = some text → parseTime text = some time

/-- A slice of strings; one that was never filled is `null`. -/
def Value.ofTexts (items : List String) : Value := if items = [] then .null else .texts items

/-- A string under `omitempty`. -/
def omitText (name content : String) : Object :=
  if content = "" then [] else [(name, .text content)]

/-- A flag under `omitempty`. -/
def omitBool (name : String) (flag : Bool) : Object := if flag then [(name, .bool true)] else []

/-- An optional text has its name. -/
theorem name_of_mem_omitText {name content : String} {entry : String × Value}
    (member : entry ∈ omitText name content) : entry.1 = name := by
  unfold omitText at member
  split at member
  · cases member
  · exact congrArg Prod.fst (mem_singleton.mp member)

/-- An optional flag has its name. -/
theorem name_of_mem_omitBool {name : String} {flag : Bool} {entry : String × Value}
    (member : entry ∈ omitBool name flag) : entry.1 = name := by
  unfold omitBool at member
  split at member
  · exact congrArg Prod.fst (mem_singleton.mp member)
  · cases member

/-! ## Reading

A reader takes what the field holds already, which `null` leaves alone. -/

def readInt (held : Int) : Value → Option Int
  | .null => some held
  | .number value => if -2 ^ 63 ≤ value ∧ value < 2 ^ 63 then some value else none
  | _ => none

/-- A number is read as it is. -/
theorem eq_of_readInt_number {held value found : Int}
    (read : readInt held (.number value) = some found) : found = value := by
  simp only [readInt] at read
  split at read
  · exact (Option.some.inj read).symm
  · cases read

def readText (held : String) : Value → Option String
  | .null => some held
  | .text content => some content
  | _ => none

def readBool (held : Bool) : Value → Option Bool
  | .null => some held
  | .bool flag => some flag
  | _ => none

def readTexts (_held : List String) : Value → Option (List String)
  | .null => some []
  | .texts items => some items
  | _ => none

def Codec.readTime (codec : Codec) (held : Int) : Value → Option Int
  | .null => some held
  | .text content => codec.parseTime content
  | _ => none

/-- The zero `time.Time`, the start of year one, in nanoseconds. -/
def zeroTime : Int := -62135596800 * 10 ^ 9

/-- Members are matched without regard to the case of ASCII letters. -/
def sameName (key name : String) : Bool :=
  key.toList.map Char.toLower = name.toList.map Char.toLower

section

variable {α : Type} (name : String) (read : α → Value → Option α)

/-- One field of a struct, from every member that names it. -/
def member (held : α) (object : Object) : Option α :=
  object.foldlM (fun held entry => if sameName entry.1 name then read held entry.2 else some held)
    held

@[simp] theorem member_nil (held : α) : member name read held [] = some held := rfl

/-- Members are read in order, later ones over earlier. -/
@[simp] theorem member_cons (held : α) (entry : String × Value) (object : Object) :
    member name read held (entry :: object) =
      if sameName entry.1 name then (read held entry.2).bind (member name read · object)
      else member name read held object := by
  unfold member
  rw [foldlM_cons]
  split <;> rfl

/-- Members under other names do not matter. -/
theorem member_append_of_foreign {held : α} {object others : Object}
    (foreign : ∀ entry ∈ others, sameName entry.1 name = false) :
    member name read held (object ++ others) = member name read held object := by
  have ignored : ∀ held, member name read held others = some held := by
    intro held
    induction others with
    | nil => rfl
    | cons entry rest ih =>
      rw [member_cons, foreign entry (.head _)]
      exact ih fun entry member => foreign entry (.tail _ member)
  unfold member
  rw [foldlM_append]
  change (member name read held object).bind (member name read · others) = _
  cases found : member name read held object with
  | none => exact found.symm
  | some value => exact (ignored value).trans found.symm

end

/-! ## Codecs exist

There are countably many documents, so some spelling keeps them apart. -/

instance countableChar : Countable Char :=
  Function.Injective.countable (f := Char.toNat) fun _ _ same => Char.toNat_inj.mp same

instance countableString : Countable String :=
  Function.Injective.countable (f := String.toList) fun _ _ same => String.toList_inj.mp same

deriving instance Countable for Value

/-- There is a codec for every time. -/
theorem exists_codec : ∃ codec : Codec, ∀ time, (codec.formatTime time).isSome := by
  obtain ⟨number, apart⟩ := exists_injective_nat Object
  obtain ⟨moment, distinct⟩ := exists_injective_nat Int
  refine ⟨{
    render := fun object => replicate (number object + 1) 0
    read := fun bytes => some (Function.invFun number (bytes.length - 1))
    formatTime := fun time => some (String.ofList (replicate (moment time) '0'))
    parseTime := fun text => some (Function.invFun moment text.length)
    render_ne_nil := ?_
    read_render := ?_
    parseTime_of_formatTime := ?_ }, fun _ => rfl⟩
  · intro object
    exact cons_ne_nil _ _
  · intro object
    rw [length_replicate, Nat.add_sub_cancel, Function.leftInverse_invFun apart object]
  · rintro time _ ⟨⟩
    rw [String.length_ofList, length_replicate, Function.leftInverse_invFun distinct time]

end Bacchus.Json
