import ApprovalWatch.Tree

/-!
# Assembly of tables

Tables are put together from pairs of keys and values and from headers. A table is written out once:
under a header, or by keys that lead through it. A table that headers only led through may still get
a header of its own.
-/

namespace ApprovalWatch.Toml

/-- How a table came about: under its own header or braces, because headers lead through it, or
because keys of pairs do. -/
inductive Origin where
  | explicit
  | implied
  | dotted
  deriving DecidableEq, Repr

/-- What stands under a key while a file is read. The tables of an array have the latest first. -/
inductive Node where
  | value (tree : Tree)
  | table (origin : Origin) (entries : List (String × Node))
  | tables (items : List (List (String × Node)))

namespace Node

/-- The entries of a table. -/
abbrev Entries := List (String × Node)

mutual

/-- The tree of a node. -/
def toTree : Node → Tree
  | value t => t
  | table _ es => .table (entriesToTree es)
  | tables items => .array (itemsToTrees items).reverse

/-- The trees of the entries of a table. -/
def entriesToTree : List (String × Node) → List (String × Tree)
  | [] => []
  | (k, n) :: es => (k, toTree n) :: entriesToTree es

/-- The trees of the tables of an array. -/
def itemsToTrees : List (List (String × Node)) → List Tree
  | [] => []
  | es :: rest => .table (entriesToTree es) :: itemsToTrees rest

end

/-- The entries changed by `change` in the table that a path leads to; `made` is the origin of the
tables that are made on the way. The path goes on in the last table of an array. Keys of pairs lead
through no table that has its own header. -/
def descend (made : Origin) (change : Origin → Entries → Option Entries) :
    List String → Origin → Entries → Option Entries
  | [], origin, es => change origin es
  | k :: path, _, es =>
    match Assoc.get? k es with
    | none =>
      (descend made change path made []).map fun inner => Assoc.set k (.table made inner) es
    | some (.table origin inner) =>
      if made = .dotted ∧ origin = .explicit then none
      else
        (descend made change path origin inner).map fun inner =>
          Assoc.set k (.table origin inner) es
    | some (.tables (last :: rest)) =>
      (descend made change path .explicit last).map fun last =>
        Assoc.set k (.tables (last :: rest)) es
    | some _ => none

/-- The entries with a value under a new key, in the table that a path leads to. A pair with a path
goes only into a table that came about by such pairs. -/
def assign (path : List String) (k : String) (n : Node) (es : Entries) : Option Entries :=
  descend .dotted
    (fun origin inner =>
      if (path = [] ∨ origin = .dotted) ∧ (Assoc.get? k inner).isNone then
        some (Assoc.set k n inner)
      else none)
    path .explicit es

end Node

/-! ## Sections -/

/-- A file under way: the tables that are complete, and the table that pairs go to now, with the
path to it and whether it is one of an array. The table without a header has no path. -/
structure Draft where
  root : Node.Entries := []
  path : Option (List String × String) := none
  inArray : Bool := false
  entries : Node.Entries := []

namespace Draft

/-- The file with the table at hand complete. -/
def finish (d : Draft) : Option Node.Entries :=
  match d.path with
  | none => some d.entries
  | some (path, k) =>
    Node.descend .implied
      (fun _ es =>
        if d.inArray then
          match Assoc.get? k es with
          | none => some (Assoc.set k (.tables [d.entries]) es)
          | some (.tables items) => some (Assoc.set k (.tables (d.entries :: items)) es)
          | some _ => none
        else some (Assoc.set k (.table .explicit d.entries) es))
      path .explicit d.root

/-- The entry under a key of the table that a path leads to; a table that is not there has none. -/
def find (path : List String) (k : String) (es : Node.Entries) : Option Node :=
  match path with
  | [] => Assoc.get? k es
  | p :: path =>
    match Assoc.get? p es with
    | some (.table _ inner) => find path k inner
    | some (.tables (last :: _)) => find path k last
    | _ => none

/-- The file after the header of a table. -/
def openTable (d : Draft) (path : List String) (k : String) : Option Draft := do
  let root ← d.finish
  -- the path has to lead somewhere
  let _ ← Node.descend .implied (fun _ es => some es) path .explicit root
  match find path k root with
  | none => return ⟨root, some (path, k), false, []⟩
  | some (.table .implied es) => return ⟨root, some (path, k), false, es⟩
  | some _ => none

/-- The file after the header of a table of an array. -/
def openItem (d : Draft) (path : List String) (k : String) : Option Draft := do
  let root ← d.finish
  let _ ← Node.descend .implied (fun _ es => some es) path .explicit root
  match find path k root with
  | none | some (.tables _) => return ⟨root, some (path, k), true, []⟩
  | some _ => none

/-- The file after a pair. -/
def addPair (d : Draft) (path : List String) (k : String) (t : Tree) : Option Draft := do
  return { d with entries := ← Node.assign path k (.value t) d.entries }

end Draft

end ApprovalWatch.Toml
