import GoAddress.Number.Binary64
import GoAddress.Text.Quoted

/-!
# Settings as data

Settings files and environment variables are read into plain values first. Layers are merged by
key: tables are merged with tables, anything else is replaced by the later layer.
-/

namespace GoAddress

/-- A value of a settings layer. -/
inductive SettingValue where
  | bool (b : Bool)
  /-- A whole number; `signed` tells whether the layer reads it as one that may be negative. -/
  | integer (signed : Bool) (n : Int)
  | float (x : Binary64)
  | string (s : String)
  | array (items : List SettingValue)
  | table (entries : List (String × SettingValue))

namespace SettingValue

/-- How a message describes a value. -/
def description : SettingValue → String
  | bool b => if b then "bool true" else "bool false"
  | integer true n => s!"signed int `{n}`"
  | integer false n => s!"unsigned int `{n}`"
  | float x => "float `" ++ x.text ++ "`"
  | string s => "string " ++ Text.quoted s
  | array _ => "sequence"
  | table _ => "map"

/-- The entries with one key set; a new key goes to the end. -/
def setEntry {α : Type} (key : String) (value : α) : List (String × α) → List (String × α)
  | [] => [(key, value)]
  | (k, v) :: rest => if k = key then (k, value) :: rest else (k, v) :: setEntry key value rest

/-- Looking up the key that was set gives its value. -/
theorem lookup_setEntry {α : Type} (key : String) (value : α) (entries : List (String × α)) :
    (setEntry key value entries).lookup key = some value := by
  induction entries with
  | nil => simp [setEntry]
  | cons entry rest ih =>
    obtain ⟨k, v⟩ := entry
    rw [setEntry]
    split
    · next h => simp [h]
    · next h =>
      have hne : (key == k) = false := by simpa using fun h' => h h'.symm
      simp [List.lookup_cons, hne, ih]

mutual

/-- A layer over another. -/
def merge (lower : SettingValue) : (upper : SettingValue) → SettingValue
  | table entries =>
    match lower with
    | table base => table (mergeEntries base entries)
    | _ => table entries
  | upper => upper

/-- The entries of a layer over those of another. -/
def mergeEntries (base : List (String × SettingValue)) :
    List (String × SettingValue) → List (String × SettingValue)
  | [] => base
  | (key, value) :: rest =>
    let merged := match base.lookup key with
      | some under => merge under value
      | none => value
    mergeEntries (setEntry key merged base) rest

end

end SettingValue

end GoAddress
