import ApprovalWatch.Toml.Value

/-!
# Settings files

A file is a sequence of lines: pairs, headers of tables and of tables of arrays, and lines without
content.
-/

namespace ApprovalWatch.Toml

/-- The file after a line, and the lines after it. -/
def line? (d : Draft) (cs : List Char) : Option (Draft × List Char) :=
  match dropBlank cs with
  | '[' :: '[' :: r =>
    match key? r with
    | some ((path, k), ']' :: ']' :: r) => do return (← d.openItem path k, ← endLine? r)
    | _ => none
  | '[' :: r =>
    match key? r with
    | some ((path, k), ']' :: r) => do return (← d.openTable path k, ← endLine? r)
    | _ => none
  | cs =>
    match endLine? cs with
    | some r => some (d, r)
    | none => do
      let (((path, k), t), r) ← pair? (value? (maxDepth + 1)) cs
      return (← d.addPair path k t, ← endLine? r)

/-- The file after all lines. -/
def lines? (d : Draft) (cs : List Char) : Option Draft :=
  match cs with
  | [] => some d
  | c :: r =>
    match line? d (c :: r) with
    | none => none
    | some (d, rest) => if rest.length < (c :: r).length then lines? d rest else none
termination_by cs.length
decreasing_by assumption

/-- The table that a file spells out (`from_str` in `parse_config`). A byte order mark in front is
passed over. -/
def parse? (cs : List Char) : Option Tree := do
  let cs := match cs with
    | '\uFEFF' :: r => r
    | _ => cs
  let d ← lines? {} cs
  return .table (Node.entriesToTree (← d.finish))

end ApprovalWatch.Toml
