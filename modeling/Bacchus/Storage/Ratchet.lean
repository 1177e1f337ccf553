import Bacchus.Text.Hex
import Mathlib.Order.Lattice

/-!
# A state file that ratchets

A verified document is kept on disk with the highest floor ever accepted. What a restart reads
back is verified again. Reads and writes may fail.
-/

namespace Bacchus.Ratchet

/-- The record in the file; no bytes stand for no bundle. -/
structure Record (Floor : Type) where
  version : Int
  floor : Floor
  bundle : Bytes
deriving DecidableEq

/-- What is at the path of the file. -/
inductive Disk (Floor : Type) where
  | missing
  | garbage
  | record (record : Record Floor)

def recordVersion : Int := 1

variable {Floor Document : Type} (bottom : Floor)

/-- `peek`: the floor on disk, the lowest one where it cannot be read. -/
def peek (reads : Bool) : Disk Floor → Floor
  | .record record => if reads then record.floor else bottom
  | _ => bottom

/-- `Store`: the higher of the two floors, and the bundle. -/
def store [LinearOrder Floor] (disk : Disk Floor) (bundle : Bytes) (floor : Floor)
    (reads writes : Bool) : Disk Floor :=
  if writes then .record ⟨recordVersion, max (peek bottom reads disk) floor, bundle⟩ else disk

/-- `Load`: the floor, and the document if the bundle verifies at it. -/
def load (verify : Bytes → Floor → Option Document) (reads : Bool) :
    Disk Floor → Floor × Option Document
  | .record record =>
    if reads = false then (bottom, none)
    else if record.version ≠ recordVersion ∨ record.bundle = [] then (record.floor, none)
    else (record.floor, verify record.bundle record.floor)
  | _ => (bottom, none)

variable {bottom}

/-- A document is restored from a record whose bundle verifies at its floor. -/
theorem record_of_load {verify : Bytes → Floor → Option Document} {reads : Bool} {disk : Disk Floor}
    {floor : Floor} {document : Document}
    (loaded : load bottom verify reads disk = (floor, some document)) :
    ∃ record, disk = .record record ∧ record.floor = floor ∧
      verify record.bundle floor = some document := by
  cases disk with
  | missing | garbage => cases loaded
  | record record =>
    simp only [load] at loaded
    split_ifs at loaded with unread unusable
    · simp at loaded
    · simp at loaded
    · obtain ⟨rfl, verified⟩ := Prod.mk.inj loaded
      exact ⟨record, rfl, rfl, verified⟩

end Bacchus.Ratchet
