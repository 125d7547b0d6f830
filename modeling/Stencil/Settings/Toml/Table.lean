import Stencil.Settings.Fields

/-!
# Tables

A table is filled by keys and headers, both of which may have several parts.
No name is given two values, and no table is opened twice: a table that a
header opened is not extended by dotted keys, one that dotted keys made is not
opened by a header, and values never become tables.
-/

namespace Stencil.Toml

/-- How a table came to be. -/
inductive Making where
  | opened
  | implied
  | dotted
deriving DecidableEq

/-- What a name stands for: a value, a table or the last of several tables. -/
inductive Item where
  | value (written : Written)
  | table (making : Making) (entries : List (String × Item))
  | tables (entries : List (String × Item))

namespace Item

/-- What an item is as the value of a field. -/
def written : Item → Written
  | .value written => written
  | _ => {}

end Item

/-- The named items of a table. -/
abbrev Entries := List (String × Item)

namespace Entries

/-- Give a name its first value. -/
def add (entries : Entries) (name : String) (item : Item) : Option Entries :=
  if (entries.lookup name).isSome then none else some (entries ++ [(name, item)])

/--
Give a value to a dotted key, below a table made in a known way.  All tables on
the way have to be implied or dotted, and the last one dotted.
-/
def assign (making : Making) (item : Item) : List String → Entries → Option Entries
  | [], _ => none
  | [name], entries => if making = .implied then none else entries.add name item
  | name :: rest, entries =>
    match entries.lookup name with
    | none =>
      (assign .dotted item rest []).map fun below =>
        entries ++ [(name, .table .dotted below)]
    | some (.table .opened _) | some (.tables _) | some (.value _) => none
    | some (.table inner held) =>
      (assign inner item rest held).map fun below =>
        Members.put name (.table inner below) entries

/-- Open the table of a header: one that does not exist yet or is only implied. -/
def openTable : List String → Entries → Option Entries
  | [], _ => none
  | [name], entries =>
    match entries.lookup name with
    | none => some (entries ++ [(name, .table .opened [])])
    | some (.table .implied held) => some (Members.put name (.table .opened held) entries)
    | some _ => none
  | name :: rest, entries =>
    match entries.lookup name with
    | none =>
      (openTable rest []).map fun below => entries ++ [(name, .table .implied below)]
    | some (.table making held) =>
      (openTable rest held).map fun below => Members.put name (.table making below) entries
    | some (.tables held) =>
      (openTable rest held).map fun below => Members.put name (.tables below) entries
    | some (.value _) => none

/-- Open one more of the tables of a header with double brackets. -/
def openNext : List String → Entries → Option Entries
  | [], _ => none
  | [name], entries =>
    match entries.lookup name with
    | none => some (entries ++ [(name, .tables [])])
    | some (.tables _) => some (Members.put name (.tables []) entries)
    | some _ => none
  | name :: rest, entries =>
    match entries.lookup name with
    | none =>
      (openNext rest []).map fun below => entries ++ [(name, .table .implied below)]
    | some (.table making held) =>
      (openNext rest held).map fun below => Members.put name (.table making below) entries
    | some (.tables held) =>
      (openNext rest held).map fun below => Members.put name (.tables below) entries
    | some (.value _) => none

/-- Give a value to a dotted key in the table that a header opened last. -/
def assignBelow (key : List String) (item : Item) : List String → Entries → Option Entries
  | [], entries => assign .opened item key entries
  | name :: rest, entries =>
    match entries.lookup name with
    | some (.table making held) =>
      (assignBelow key item rest held).map fun below =>
        Members.put name (.table making below) entries
    | some (.tables held) =>
      (assignBelow key item rest held).map fun below =>
        Members.put name (.tables below) entries
    | _ => none

end Entries

end Stencil.Toml
