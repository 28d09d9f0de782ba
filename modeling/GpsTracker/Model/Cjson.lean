/-
`build_envelope` (hologram.c) node by node, over cJSON as it is documented.

The library is a machine of which only its documented behaviour is known:
a create makes one node or none, an add moves its item into the container
or leaves both as they were, and a delete frees a node with all that hangs
below it. `Forest` is what that says of the nodes a caller made, and
`Documented` that a library behaves so.
-/
import GpsTracker.Lib.Safe
import GpsTracker.Model.Cloud

namespace GpsTracker

open Proc

namespace Cjson

-- ==================================================================== items

/-- `cJSON_Object`, `cJSON_Array`, or `cJSON_String` with its value. -/
inductive Kind | object | array | string (s : Text)
deriving DecidableEq, Repr

/-- A node at its address, with the items below it and their names. -/
inductive Item | node (p : Nat) (kind : Kind) (kids : List (Text × Item))

mutual

/-- The addresses of a node and of all below it. -/
def Item.addresses : Item → List Nat
  | .node p _ kids => p :: addressesOf kids

def addressesOf : List (Text × Item) → List Nat
  | [] => []
  | (_, i) :: kids => i.addresses ++ addressesOf kids

end

mutual

/-- The unformatted text of a node. -/
def Item.print : Item → Text
  | .node _ (.string s) _ => '"' :: (Hologram.escape s ++ ['"'])
  | .node _ .array kids => '[' :: (printOf false kids ++ [']'])
  | .node _ .object kids => '\x7b' :: (printOf true kids ++ ['\x7d'])

/-- The texts of items with commas between them, with their names or
without. -/
def printOf (named : Bool) : List (Text × Item) → Text
  | [] => []
  | (name, i) :: kids =>
      (if named then '"' :: (Hologram.escape name ++ ['"', ':']) else [])
        ++ i.print
        ++ (if kids.isEmpty then [] else ',' :: printOf named kids)

end

-- ==================================================================== calls

/-- The functions that `build_envelope` calls. -/
inductive Op
  | createObject
  | createArray
  | createString (s : Text)
  | addStringToObject (object : Nat) (name s : Text)
  | addItemToArray (array item : Option Nat)
  | addItemToObject (object : Nat) (name : Text) (item : Option Nat)
  | printPreallocated (item len : Nat)
  | delete (item : Option Nat)

/-- What each call answers; a pointer that is NULL is `none`. -/
@[reducible] def Op.Ret : Op → Type
  | .createObject | .createArray | .createString _ => Option Nat
  | .addStringToObject .. => Option Nat
  | .addItemToArray .. | .addItemToObject .. => Bool
  | .printPreallocated .. => Option Text
  | .delete _ => Unit

@[reducible] def Functions : Sig := ⟨Op, Op.Ret⟩

-- =================================================================== forests

/-- The nodes a caller made: the items it holds, by the address it holds
them by, and the addresses made and freed. -/
structure Forest where
  held : Nat → Option Item := fun _ => none
  made : List Nat := []
  freed : List Nat := []

namespace Forest

/-- `p` holds `i`, or no longer anything. -/
def hold (F : Forest) (p : Nat) (i : Option Item) : Forest :=
  { F with held := fun q => if q = p then i else F.held q }

/-- A new node, held by the caller. -/
def create (F : Forest) (p : Nat) (kind : Kind) : Forest :=
  { F.hold p (some (.node p kind [])) with made := F.made ++ [p] }

/-- One more item below a node that the caller holds. -/
def attach (F : Forest) (p : Nat) (name : Text) (i : Item) : Forest :=
  match F.held p with
  | none => F
  | some (.node q kind kids) =>
      F.hold p (some (.node q kind (kids ++ [(name, i)])))

/-- An item that the caller held goes below another. -/
def move (F : Forest) (p : Nat) (name : Text) (q : Nat) : Forest :=
  match F.held q with
  | none => F
  | some i => (F.hold q none).attach p name i

/-- An item goes, with all below it. -/
def delete (F : Forest) (p : Nat) : Forest :=
  match F.held p with
  | none => F
  | some i => { F.hold p none with freed := i.addresses ++ F.freed }

/-- No node lives at `p`: all that were made there were freed. -/
def Vacant (F : Forest) (p : Nat) : Prop := F.freed.count p = F.made.count p

/-- Every node made was freed, once. -/
def Balanced (F : Forest) : Prop := ∀ p, F.Vacant p

end Forest

/-- The answers that are documented: a new node is where none lives, a NULL
item cannot be added, and what is printed is the item. -/
def allows : (o : Op) → o.Ret → Forest → Prop
  | .createObject, r, F | .createArray, r, F | .createString _, r, F
  | .addStringToObject .., r, F => ∀ p, r = some p → F.Vacant p
  | .addItemToArray array item, r, _ =>
      r = true → array.isSome = true ∧ item.isSome = true
  | .addItemToObject _ _ item, r, _ => r = true → item.isSome = true
  | .printPreallocated item _, r, F =>
      ∀ text, r = some text → (F.held item).map Item.print = some text
  | .delete _, _, _ => True

/-- What an answered call does. -/
def step : (o : Op) → o.Ret → Forest → Forest
  | .createObject, some p, F => F.create p .object
  | .createArray, some p, F => F.create p .array
  | .createString s, some p, F => F.create p (.string s)
  | .addStringToObject object name s, some p, F =>
      { F.attach object name (.node p (.string s) []) with
        made := F.made ++ [p] }
  | .addItemToArray (some array) (some item), true, F => F.move array [] item
  | .addItemToObject object name (some item), true, F =>
      F.move object name item
  | .delete (some item), _, F => F.delete item
  | _, _, F => F

/-- A library that behaves as documented: `view` is what its heap is to
the caller. -/
structure Documented {δ : Type} (M : Machine δ Empty Functions)
    (view : δ → Forest) : Prop where
  answers : ∀ o r h, M.ok o r h = true → allows o r (view h)
  effects : ∀ o r h, M.ok o r h = true →
    view (M.effect o r h) = step o r (view h)

-- ============================================================ build_envelope

/-- A call of the library. -/
def call (o : Op) : Prog Unit Functions o.Ret := Prog.op (S := Functions) o

/-- `cJSON_Delete(topics); cJSON_Delete(root); return -ENOMEM`. -/
def giveUp (root : Nat) (topics : Option Nat) :
    Prog Unit Functions (Except Int Text) := do
  call (.delete topics)
  call (.delete (some root))
  pure (.error (-ENOMEM))

/-- `build_envelope`, from the print on. -/
def printEnvelope (root : Nat) : Prog Unit Functions (Except Int Text) := do
  let printed ← call (.printPreallocated root (Hologram.ENVELOPE_MAX - 3))
  call (.delete (some root))
  match printed with
  | none => pure (.error (-ENOMEM))
  | some text => pure (.ok (text ++ "\n\n".toList))

/-- `build_envelope`, from its two strings on. -/
def addTopics (cfg : Config) (root topics : Nat) :
    Prog Unit Functions (Except Int Text) := do
  let item ← call (.createString cfg.hologramTopic)
  let _ ← call (.addItemToArray (some topics) item)
  let _ ← call (.addItemToObject root "t".toList (some topics))
  printEnvelope root

/-- `build_envelope`. -/
def buildEnvelope (cfg : Config) (innerJson : Text) :
    Prog Unit Functions (Except Int Text) := do
  match ← call .createObject with
  | none => pure (.error (-ENOMEM))
  | some root =>
      match ← call .createArray with
      | none => giveUp root none
      | some topics =>
          match ← call (.addStringToObject root "k".toList
              cfg.hologramDeviceKey) with
          | none => giveUp root (some topics)
          | some _ =>
              match ← call (.addStringToObject root "d".toList innerJson) with
              | none => giveUp root (some topics)
              | some _ => addTopics cfg root topics

end Cjson

end GpsTracker
