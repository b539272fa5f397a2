/-
Local files.

A disk is what the program sees of the local file system: folders and
files below one root, the folder that relative paths start from, the
folder where temporary files are staged, and perhaps a limit to what can
still be staged.

An item is found under its place, the names on the way from the root.
The root itself is always a folder.  Setting an item replaces the one at
its place and leaves every other place alone.
-/
import RemoteProvision.Text.Utf8

namespace RemoteProvision

-- =========================================================== types

/-- The names on the way from the root to an item. -/
abbrev Place := List String

/-- What is found at a place. -/
inductive Item where
  | folder
  /-- A file, and whether it may be started as a program. -/
  | file (bytes : Text.Bytes) (runnable : Bool)
  /-- A program that comes with the system, by name. -/
  | tool (name : String)
deriving DecidableEq

/-- The local file system. -/
structure Disk where
  items : List (Place × Item)
  /-- Where relative paths start. -/
  home : Place
  /-- The folder of temporary files, as a path. -/
  staging : String
  /-- How many bytes can still be staged; `none` for no limit. -/
  spare : Option Nat

namespace Disk

-- ========================================================== places

/-- The item at a place. -/
def item? (disk : Disk) (place : Place) : Option Item :=
  if place = [] then some .folder else disk.items.lookup place

/-- Items with one more, or with one replaced. -/
def setItem (place : Place) (item : Item) :
    List (Place × Item) → List (Place × Item)
  | [] => [(place, item)]
  | (p, i) :: rest =>
    if p = place then (place, item) :: rest
    else (p, i) :: setItem place item rest

/-- Puts an item at a place. -/
def put (disk : Disk) (place : Place) (item : Item) : Disk :=
  { disk with items := setItem place item disk.items }

/-- Takes away the item at a place and all items below it. -/
def erase (disk : Disk) (place : Place) : Disk :=
  { disk with
    items := disk.items.filter fun p => !place.isPrefixOf p.1 }

/-- Takes away the item at a place only. -/
def drop (disk : Disk) (place : Place) : Disk :=
  { disk with items := disk.items.filter fun p => p.1 != place }

-- ========================================================== lemmas

theorem lookup_setItem_self (place : Place) (item : Item)
    (items : List (Place × Item)) :
    (setItem place item items).lookup place = some item := by
  induction items with
  | nil => simp [setItem]
  | cons x rest ih =>
    obtain ⟨p, i⟩ := x
    by_cases h : p = place
    · simp [setItem, h]
    · have hb : (place == p) = false := by
        simpa using fun e => h e.symm
      simp [setItem, h, List.lookup_cons, hb, ih]

theorem lookup_setItem_other {place other : Place}
    (h : other ≠ place) (item : Item)
    (items : List (Place × Item)) :
    (setItem place item items).lookup other = items.lookup other := by
  induction items with
  | nil =>
    have hb : (other == place) = false := by simpa using h
    simp [setItem, List.lookup_cons, hb]
  | cons x rest ih =>
    obtain ⟨p, i⟩ := x
    by_cases hp : p = place
    · subst hp
      have hb : (other == p) = false := by simpa using h
      simp [setItem, List.lookup_cons, hb]
    · rw [setItem, if_neg hp]
      rw [List.lookup_cons, List.lookup_cons]
      split
      · rfl
      · exact ih

theorem lookup_filter_self (place : Place)
    (items : List (Place × Item)) :
    (items.filter fun p => p.1 != place).lookup place = none := by
  induction items with
  | nil => rfl
  | cons x rest ih =>
    obtain ⟨p, i⟩ := x
    by_cases hp : p = place
    · simp [hp, ih]
    · have hb : (place == p) = false := by
        simpa using fun e => hp e.symm
      simp [hp, List.lookup_cons, hb, ih]

theorem lookup_filter_other {place other : Place} (h : other ≠ place)
    (items : List (Place × Item)) :
    (items.filter fun p => p.1 != place).lookup other
      = items.lookup other := by
  induction items with
  | nil => rfl
  | cons x rest ih =>
    obtain ⟨p, i⟩ := x
    by_cases hp : p = place
    · subst hp
      have hb : (other == p) = false := by simpa using h
      simp [List.lookup_cons, hb, ih]
    · simp [hp, List.lookup_cons, ih]

/-- A place holds what was put there. -/
theorem item?_put_self {disk : Disk} {place : Place}
    (h : place ≠ []) (item : Item) :
    (disk.put place item).item? place = some item := by
  simp [item?, put, h, lookup_setItem_self]

/-- Every other place holds what it held. -/
theorem item?_put_other {disk : Disk} {place other : Place}
    (h : other ≠ place) (item : Item) :
    (disk.put place item).item? other = disk.item? other := by
  simp [item?, put, lookup_setItem_other h]

/-- A place from which the item was taken holds nothing. -/
theorem item?_drop_self {disk : Disk} {place : Place}
    (h : place ≠ []) : (disk.drop place).item? place = none := by
  rw [item?, if_neg h]
  exact lookup_filter_self place disk.items

/-- Every other place holds what it held. -/
theorem item?_drop_other {disk : Disk} {place other : Place}
    (h : other ≠ place) :
    (disk.drop place).item? other = disk.item? other := by
  rw [item?, item?, drop, lookup_filter_other h]

end Disk

end RemoteProvision
