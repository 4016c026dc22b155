import UsbMaker.Run.Probing
import UsbMaker.Run.Program

/-!
# The map from device ids to hubs

Before `GetDevices` looks at the disk devices it goes over the USB hubs. It keeps the path of each
hub in a `StrArray`, and the index of the path in a hash table under the ids of the children of the
hub. Later it looks up the ids of the storage devices in the table. The path with index zero is
empty, and stands for no hub.

An id is the `char`s before the zero that ends it. Memory is asked for in many places, and in each
of them there may be none; this is an answer like those of Windows. `HubState` keeps in mind whether
a request has failed.

## Main definitions

* `Devices.StrArray`, `Devices.strArrayAdd`: `StrArrayCreate` and `StrArrayAdd`.
* `Devices.Htab`, `Devices.htabCreate`, `Devices.htabHash`.
* `Devices.Memory`, `Devices.Hub`, `Devices.Key`: the answers.
* `Devices.mapHubs`: the loop over the hubs.
* `Devices.lookup`: the path that is found for an id.
-/

namespace UsbMaker.Devices

open Program

/-! ### Memory -/

/-- An array of strings. -/
structure StrArray where
  /-- The strings that were added, `none` for a null pointer. -/
  string : Option (List (List UInt8)) := none
  /-- The current array size. -/
  index : Nat := 0
  /-- The maximum array size. -/
  max : Nat := 0

/-- An entry of the hash table. -/
structure Entry where
  used : Nat := 0
  str : Option (List UInt8) := none
  /-- The index that is kept as a pointer. -/
  data : Nat := 0

/-- `htab_table`; it begins as `HTAB_EMPTY`. -/
structure Htab where
  table : Option (Nat → Entry) := none
  size : Nat := 0
  filled : Nat := 0

/-- What `GetDevices` knows of the hubs, and whether a request for memory has failed. -/
structure HubState where
  devIfPath : StrArray := {}
  htabDevid : Htab := {}
  failed : Bool := false

/-- A request for memory, and its answer. -/
def allocate (ok : Bool) : StateM HubState Bool := do
  modify fun s => { s with failed := s.failed || !ok }
  return ok

/-- A request for another size of memory, which fails when there is no size. -/
def reallocate (ok : Bool) (size : Nat) : StateM HubState Bool := allocate (ok && size ≠ 0)

/-! ### The array of strings -/

/-- `StrArrayCreate`. -/
def strArrayCreate (ok : Bool) (initialSize : Nat) : StateM HubState Unit := do
  let ok ← allocate ok
  modify fun s => { s with devIfPath := ⟨if ok then some [] else none, 0, initialSize⟩ }

/-- The last part of `StrArrayAdd`, in an array with room. -/
def strArrayStore (copies : Bool) (strings : List (List UInt8)) (str : List UInt8) :
    StateM HubState Int := do
  if ← allocate copies then
    let s ← get
    let arr := s.devIfPath
    set { s with devIfPath := { arr with
      string := some (strings ++ [str]), index := (arr.index + 1) % 2 ^ 32 } }
    return (arr.index : Int).bmod (2 ^ 32)
  else return -1

/-- `StrArrayAdd`, when the array can be made larger or not, and the string copied or not. -/
def strArrayAdd (grows copies : Bool) (str : List UInt8) : StateM HubState Int := do
  let arr := (← get).devIfPath
  match arr.string with
  | none => return -1
  | some strings =>
    if arr.index = arr.max then
      let max := arr.max * 2 % 2 ^ 32
      let ok ← reallocate grows max
      modify fun s => { s with devIfPath := { arr with
        string := if ok then some strings else none, max := max } }
      if ok then strArrayStore copies strings str
      else return -1
    else strArrayStore copies strings str

/-! ### The hash table -/

/-- The loop of `isprime`, for an odd number; `turns` turns are enough when it has that many. -/
def isprimeFrom (number : Nat) : Nat → Nat → Bool
  | 0, divider => number % divider ≠ 0
  | turns + 1, divider =>
    if divider * divider < number ∧ number % divider ≠ 0 then
      isprimeFrom number turns (divider + 2)
    else number % divider ≠ 0

/-- `isprime`. -/
def isprime (number : Nat) : Bool := isprimeFrom number number 3

/-- The loop of `htab_create` that looks for a prime. -/
def nextPrime : Nat → Nat → Nat
  | 0, nel => nel
  | turns + 1, nel => if isprime nel then nel else nextPrime turns (nel + 2)

/-- `htab_create`, for a table that is null. -/
def htabCreate (ok : Bool) (nel : Nat) : StateM HubState Bool := do
  let nel := nel ||| 1
  let size := nextPrime nel nel
  let ok ← allocate ok
  modify fun s => { s with htabDevid := ⟨if ok then some fun _ => {} else none, size, 0⟩ }
  return ok

/-- A `char` as an `int`. -/
def charToInt (c : UInt8) : UInt32 := c.toInt8.toInt32.toUInt32

/-- The loop that computes the main hash value. -/
def sdbm : List UInt8 → UInt32 → UInt32
  | [], r => r
  | c :: sz, r => sdbm sz (charToInt c + (r <<< 6) + (r <<< 16) - r)

/-- The table hash, `hval`. -/
def tableHash (size : Nat) (str : List UInt8) : Nat :=
  let r := sdbm str 0
  let r := if r = 0 then r + 1 else r
  let hval := r.toNat % size
  if hval = 0 then hval + 1 else hval

/-- What `safe_strcmp` takes for a null pointer. -/
def nullText : List UInt8 := "<NULL>".toUTF8.toList

/-- The test that finds an entry. -/
def Entry.holds (entry : Entry) (hval : Nat) (str : List UInt8) : Bool :=
  entry.used == hval && str == entry.str.getD nullText

/-- How the search of `htab_hash` ends: at an existing entry, or at the place for a new one. -/
inductive Search
  | found (idx : Nat)
  | stopped (idx : Nat)
  deriving DecidableEq, Repr

/-- The loop of `htab_hash`. It comes back to `hval` within as many turns as the table has
places. -/
def probe (table : Nat → Entry) (size hval hval2 : Nat) (str : List UInt8) : Nat → Nat → Search
  | 0, idx => .stopped idx
  | turns + 1, idx =>
    let idx := if idx ≤ hval2 then size + idx - hval2 else idx - hval2
    -- all entries have been visited
    if idx = hval then .stopped idx
    else if (table idx).holds hval str then .found idx
    else if (table idx).used ≠ 0 then probe table size hval hval2 str turns idx
    else .stopped idx

/-- The search of `htab_hash`. -/
def search (table : Nat → Entry) (size : Nat) (str : List UInt8) : Search :=
  let hval := tableHash size str
  if (table hval).used ≠ 0 then
    if (table hval).holds hval str then .found hval
    else probe table size hval (1 + hval % (size - 2)) str size hval
  else .stopped hval

/-- The new entry of `htab_hash`. -/
def newEntry (ok : Bool) (table : Nat → Entry) (str : List UInt8) (idx : Nat) :
    StateM HubState Nat := do
  let htab := (← get).htabDevid
  if htab.size ≤ htab.filled then return 0
  else
    let ok ← allocate ok
    let entry := { table idx with
      used := tableHash htab.size str, str := if ok then some str else none }
    modify fun s => { s with htabDevid := { htab with
      table := some (Function.update table idx entry)
      filled := if ok then (htab.filled + 1) % 2 ^ 32 else htab.filled } }
    return if ok then idx else 0

/-- `htab_hash`, when there is memory for a copy of the string or not. -/
def htabHash (ok : Bool) (str : List UInt8) : StateM HubState Nat := do
  let htab := (← get).htabDevid
  match htab.table with
  | none => return 0
  | some table =>
    match search table htab.size str with
    | .found idx => return idx
    | .stopped idx => newEntry ok table str idx

/-- An access to `table[k].data`, `none` when the pointer is null or the index is not below the
number of entries that were allocated. -/
def Htab.data (htab : Htab) (k : Nat) : Option Nat :=
  match htab.table with
  | none => none
  | some table => if k < htab.size + 1 then some (table k).data else none

/-- An assignment to `table[k].data`. -/
def Htab.setData (htab : Htab) (k s : Nat) : Htab :=
  { htab with table := htab.table.map fun table =>
      Function.update table k { table k with data := s } }

/-- An access to `String[k]`, `none` when the pointer is null or the index is not below the number
of pointers that were allocated. A pointer that no string was stored for is not looked into. -/
def StrArray.get (arr : StrArray) (k : Nat) : Option (List UInt8) :=
  match arr.string with
  | none => none
  | some strings => if k < arr.max then some (strings.getD k []) else none

/-! ### The loop over the hubs -/

/-- `toupper`. -/
def toupper (c : UInt8) : UInt8 := if 97 ≤ c ∧ c ≤ 122 then c - 32 else c

/-- `ToUpper`. -/
def toUpper (str : List UInt8) : List UInt8 := str.map toupper

/-- An id for `htab_hash`, and whether there is memory for a copy of it. -/
structure Key where
  id : List UInt8
  memory : Bool

/-- The answers about a hub. -/
structure Hub where
  /-- Whether it has an interface, whose details need a buffer. -/
  interface : Bool
  /-- Whether there is memory for the buffer. -/
  details : Bool
  /-- The device path of the interface, `none` when the query fails. -/
  devicePath : Option (List UInt8)
  /-- Whether the array of paths can be made larger. -/
  grows : Bool
  /-- Whether there is memory for a copy of the path. -/
  copies : Bool
  /-- `CM_Get_Device_ID` for the child and its siblings, each `none` when it fails; none at all when
  there is no child. -/
  children : List (Option Key)

/-- An id of a child is put in the table. -/
def register (s : Int) (deviceId : Key) : StateM HubState Unit := do
  let k ← htabHash deviceId.memory (toUpper deviceId.id)
  if k ≠ 0 then modify fun t => { t with htabDevid := t.htabDevid.setData k s.toNat }

/-- The ids of the children that are put in the table: those of the siblings are asked for only when
that of the first child is known. -/
def Hub.childIds (hub : Hub) : List Key :=
  match hub.children with
  | some first :: siblings => first :: siblings.filterMap id
  | _ => []

/-- The turn of the loop for a hub. -/
def mapHub (hub : Hub) : StateM HubState Unit := do
  if hub.interface then
    if ← allocate hub.details then
      match hub.devicePath with
      | none => return
      | some path =>
        if hub.children = [] then return
        else
          let s ← strArrayAdd hub.grows hub.copies path
          if 0 ≤ s then
            hub.childIds.forM (register s)

/-- `DEVID_HTAB_SIZE`. -/
def devidHtabSize : Nat := 257

/-- Whether there is memory for what is needed before the loop. -/
structure Memory where
  /-- `StrArrayCreate`. -/
  strings : Bool
  /-- The copy of the empty path. -/
  dummy : Bool
  /-- `device_id`. -/
  deviceId : Bool
  /-- `htab_create`. -/
  table : Bool

/-- The part of `GetDevices` about the hubs, `none` as a list of hubs when they cannot be
enumerated. It returns false when `GetDevices` ends here. The array has room for the empty path. -/
def mapHubs (memory : Memory) (hubs : Option (List Hub)) : StateM HubState Bool := do
  strArrayCreate memory.strings 128
  let _ ← strArrayAdd true memory.dummy []
  if ← allocate memory.deviceId then
    match hubs with
    | none => return true
    | some hubs =>
      if ← htabCreate memory.table devidHtabSize then
        hubs.forM mapHub
      return true
  else return false

/-! ### Looking up a device -/

/-- The access to the path of the hub of an id, `none` when an access is not to an element of an
array. -/
def lookup (deviceId : Key) : StateM HubState (Option (List UInt8)) := do
  let j ← htabHash deviceId.memory (toUpper deviceId.id)
  let s ← get
  return (s.htabDevid.data j).bind s.devIfPath.get

end UsbMaker.Devices
